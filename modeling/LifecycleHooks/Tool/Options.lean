/-!
Options among the arguments of a program: letters behind one dash and names behind two. A name may
be cut short as long as it is clear which one is meant.
-/

namespace LifecycleHooks.Tool

inductive Demand
  | nothing
  | value
  | perhaps
  deriving DecidableEq

/-- The options that a program knows. A letter that takes a value is followed by a colon, and by two
if it may go without. A name ends in an equals sign if it takes a value, and in an equals sign and a
question mark if it may go without. -/
structure Grammar where
  short : String
  long : List (String × Char)

structure Options where
  given : List (Char × String)
  operands : List String

namespace Options

def none : Options := ⟨[], []⟩

def has (options : Options) (flag : Char) : Bool := options.given.any fun entry => entry.1 == flag

def values (options : Options) (name : Char) : List String :=
  (options.given.filter fun entry => entry.1 == name).map Prod.snd

def value? (options : Options) (name : Char) : Option String := (options.values name).getLast?

def last? (options : Options) (names : List Char) : Option Char :=
  ((options.given.map Prod.fst).filter names.contains).getLast?

end Options

namespace Grammar

def demand? (grammar : Grammar) (c : Char) : Option Demand :=
  match if c == ':' then [] else grammar.short.toList.dropWhile (· != c) with
  | _ :: ':' :: ':' :: _ => some .perhaps
  | _ :: ':' :: _ => some .value
  | _ :: _ => some .nothing
  | [] => Option.none

def nameOf (entry : String × Char) : List Char × Char × Demand :=
  match entry.1.toList.reverse with
  | '?' :: '=' :: name => (name.reverse, entry.2, .perhaps)
  | '=' :: name => (name.reverse, entry.2, .value)
  | name => (name.reverse, entry.2, .nothing)

/-- The option that a name, perhaps cut short, stands for. -/
def named (grammar : Grammar) (name : List Char) (shown : String) :
    Except String (List Char × Char × Demand) :=
  let names := grammar.long.map nameOf
  match names.find? fun entry => entry.1 == name with
  | some entry => .ok entry
  | Option.none =>
      match names.filter fun entry => name.isPrefixOf entry.1 with
      | [] => .error ("unrecognized option '--" ++ shown ++ "'")
      | first :: others =>
          if others.all fun entry => entry.2 == first.2 then .ok first
          else
            .error ("option '--" ++ shown ++ "' is ambiguous; possibilities:" ++
              String.join ((first :: others).map fun entry =>
                " '--" ++ String.ofList entry.1 ++ "'"))

def readName (grammar : Grammar) (text : List Char) (args : List String) :
    Except String ((Char × String) × List String) := do
  let name := text.takeWhile (· != '=')
  let value := if name.length = text.length then Option.none
    else some (String.ofList (text.drop (name.length + 1)))
  let (full, letter, demand) ← grammar.named name (String.ofList text)
  let shown := "option '--" ++ String.ofList full ++ "'"
  match demand, value with
  | .nothing, some _ => throw (shown ++ " doesn't allow an argument")
  | .value, Option.none =>
      match args with
      | next :: args => return ((letter, next), args)
      | [] => throw (shown ++ " requires an argument")
  | _, value => return ((letter, value.getD ""), args)

/-- A group of letters behind a dash; the value of an option is what follows it, or the next
argument. -/
def readLetters (grammar : Grammar) (args : List String) :
    List Char → Except String (List (Char × String) × List String)
  | [] => .ok ([], args)
  | c :: rest =>
      match grammar.demand? c with
      | Option.none => .error ("invalid option -- '" ++ String.singleton c ++ "'")
      | some .nothing =>
          (readLetters grammar args rest).map fun (given, args) => ((c, "") :: given, args)
      | some .perhaps => .ok ([(c, String.ofList rest)], args)
      | some .value =>
          if !rest.isEmpty then .ok ([(c, String.ofList rest)], args)
          else
            match args with
            | value :: args => .ok ([(c, value)], args)
            | [] => .error ("option requires an argument -- '" ++ String.singleton c ++ "'")

/-- Reads arguments; where they are `mixed`, operands may stand before options. `fuel` bounds the
number of arguments. -/
def readArgs (grammar : Grammar) (mixed : Bool) : Nat → List String → Except String Options
  | 0, _ => .ok .none
  | _, [] => .ok .none
  | fuel + 1, arg :: args =>
      let goOn (given : List (Char × String)) (args : List String) : Except String Options :=
        (readArgs grammar mixed fuel args).map fun options =>
          { options with given := given ++ options.given }
      match arg.toList with
      | ['-', '-'] => .ok ⟨[], args⟩
      | '-' :: '-' :: text =>
          match grammar.readName text args with
          | .ok (option, args) => goOn [option] args
          | .error problem => .error problem
      | '-' :: c :: letters =>
          match grammar.readLetters args (c :: letters) with
          | .ok (given, args) => goOn given args
          | .error problem => .error problem
      | _ =>
          if mixed then
            (readArgs grammar mixed fuel args).map fun options =>
              { options with operands := arg :: options.operands }
          else .ok ⟨[], arg :: args⟩

def read (grammar : Grammar) (mixed : Bool) (args : List String) : Except String Options :=
  grammar.readArgs mixed (args.length + 1) args

end Grammar

end LifecycleHooks.Tool
