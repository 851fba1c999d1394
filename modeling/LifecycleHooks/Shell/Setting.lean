/-!
What can be switched on and off in a shell, and the options that switch it.
-/

namespace LifecycleHooks.Shell

inductive Setting
  | stopOnFailure
  | keepPatterns
  | ignoreEnd
  | interactive
  | jobControl
  /-- Programs are read and not run. -/
  | checkOnly
  | fromInput
  | trace
  | verbose
  | vi
  | emacs
  /-- Files that are there may not be opened anew for writing. -/
  | keepFiles
  | exportAll
  | notify
  | refuseUnset
  | privileged
  | noLog
  | debug
  deriving DecidableEq

namespace Setting

def all : List Setting :=
  [stopOnFailure, keepPatterns, ignoreEnd, interactive, jobControl, checkOnly, fromInput, trace,
    verbose, vi, emacs, keepFiles, exportAll, notify, refuseUnset, privileged, noLog, debug]

def name : Setting → String
  | stopOnFailure => "errexit"
  | keepPatterns => "noglob"
  | ignoreEnd => "ignoreeof"
  | interactive => "interactive"
  | jobControl => "monitor"
  | checkOnly => "noexec"
  | fromInput => "stdin"
  | trace => "xtrace"
  | verbose => "verbose"
  | vi => "vi"
  | emacs => "emacs"
  | keepFiles => "noclobber"
  | exportAll => "allexport"
  | notify => "notify"
  | refuseUnset => "nounset"
  | privileged => "privileged"
  | noLog => "nolog"
  | debug => "debug"

def letter? : Setting → Option Char
  | stopOnFailure => some 'e'
  | keepPatterns => some 'f'
  | ignoreEnd => some 'I'
  | interactive => some 'i'
  | jobControl => some 'm'
  | checkOnly => some 'n'
  | fromInput => some 's'
  | trace => some 'x'
  | verbose => some 'v'
  | vi => some 'V'
  | emacs => some 'E'
  | keepFiles => some 'C'
  | exportAll => some 'a'
  | notify => some 'b'
  | refuseUnset => some 'u'
  | privileged => some 'p'
  | noLog => none
  | debug => none

def ofName? (text : String) : Option Setting := all.find? fun setting => setting.name == text

def ofLetter? (c : Char) : Option Setting := all.find? fun setting => setting.letter? == some c

end Setting

structure Options where
  settings : List Setting

namespace Options

def none : Options := ⟨[]⟩

def has (options : Options) (setting : Setting) : Bool := options.settings.contains setting

def put (options : Options) (setting : Setting) (value : Bool) : Options :=
  let others := options.settings.filter (· != setting)
  ⟨if value then setting :: others else others⟩

/-- Switches what a letter stands for; of the two ways to edit lines, one is on at most. -/
def putLetter? (options : Options) (c : Char) (value : Bool) : Option Options :=
  (Setting.ofLetter? c).map fun setting =>
    let options := match setting with
      | .vi => if value then options.put .emacs false else options
      | .emacs => if value then options.put .vi false else options
      | _ => options
    options.put setting value

def letters (options : Options) : String :=
  String.ofList ((Setting.all.reverse.filter options.has).filterMap Setting.letter?)

def table (options : Options) : String :=
  "Current option settings\n" ++ String.join (Setting.all.map fun setting =>
    setting.name ++ String.ofList (List.replicate (16 - setting.name.length) ' ') ++
      (if options.has setting then "on" else "off") ++ "\n")

def commands (options : Options) : String :=
  String.join (Setting.all.map fun setting =>
    "set " ++ (if options.has setting then "-o " else "+o ") ++ setting.name ++ "\n")

structure Reading where
  options : Options
  /-- Whether a shell that begins is to run the first of the arguments that are left. -/
  givenProgram : Bool
  /-- Text to be shown. -/
  shown : String
  /-- The arguments that are left, if there are any or a mark ends the options. -/
  rest : Option (List String)
  /-- The option that is not known, where reading stopped. -/
  unknown : Option String

/-- Reads the letters of one argument; `o` takes the name of a setting from the next argument. -/
def readLetters (begins value : Bool) : List Char → List String → Reading → Reading × List String
  | [], after, reading => (reading, after)
  | c :: letters, after, reading =>
      if begins && c == 'c' then
        readLetters begins value letters after { reading with givenProgram := true }
      else if begins && c == 'l' then readLetters begins value letters after reading
      else if c == 'o' then
        match after with
        | [] =>
            let text := if value then reading.options.table else reading.options.commands
            readLetters begins value letters [] { reading with shown := reading.shown ++ text }
        | name :: after =>
            match Setting.ofName? name with
            | some setting =>
                readLetters begins value letters after
                  { reading with options := reading.options.put setting value }
            | .none => ({ reading with unknown := some ("-o " ++ name) }, after)
      else
        match reading.options.putLetter? c value with
        | some options => readLetters begins value letters after { reading with options := options }
        | .none => ({ reading with unknown := some ("-" ++ String.singleton c) }, after)

theorem length_readLetters (begins value : Bool) (letters : List Char) (after : List String)
    (reading : Reading) : (readLetters begins value letters after reading).2.length ≤ after.length := by
  fun_induction readLetters begins value letters after reading with
  | case1 after reading => exact Nat.le_refl _
  | case5 c letters reading _ _ _ name after setting _ ih => exact Nat.le_succ_of_le ih
  | case6 c letters reading _ _ _ name after _ => exact Nat.le_succ _
  | case8 c letters after reading _ _ _ _ => exact Nat.le_refl _
  | _ => assumption

def read (begins : Bool) (args : List String) (reading : Reading) : Reading :=
  match args with
  | [] => reading
  | arg :: after =>
      match arg.toList with
      | ['-'] =>
          if begins then { reading with rest := some after }
          else
            { reading with
              options := (reading.options.put .trace false).put .verbose false
              rest := if after.isEmpty then .none else some after }
      | ['-', '-'] => { reading with rest := some after }
      | '-' :: letters =>
          let step := readLetters begins true letters after reading
          if step.1.unknown.isSome then step.1 else read begins step.2 step.1
      | '+' :: letters =>
          let step := readLetters begins false letters after reading
          if step.1.unknown.isSome then step.1 else read begins step.2 step.1
      | _ => { reading with rest := some args }
  termination_by args.length
  decreasing_by
    all_goals
      simp only [List.length_cons]
      exact Nat.lt_succ_of_le (length_readLetters _ _ _ _ _)

end Options

end LifecycleHooks.Shell
