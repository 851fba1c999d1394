import LifecycleHooks.Shell.Grammar

/-!
Reading commands. A program is read one complete line of commands at a time, so that what comes
before a mistake is still run.
-/

namespace LifecycleHooks.Shell.Reader

/-- An alias whose text is being read: how much of the input lies behind that text, and whether the
word behind it may be an alias too. -/
structure Replaced where
  name : String
  behind : Nat
  continues : Bool

/-- The rest of the text, the line that it begins in, how many lines of documents are left out
behind the next line end, and the aliases. -/
structure Input where
  rest : List Char
  line : Nat
  leftOut : Nat
  aliases : List (String × String)
  replaced : List Replaced

def Input.ofText (text : String) (line : Nat) : Input := ⟨text.toList, line, 0, [], []⟩

abbrev Read (α : Type) := Input → Except SyntaxError (α × Input)

def fail {α : Type} (problem : String) : Read α := fun input => .error ⟨input.line, problem⟩

def Input.drop (input : Input) (count : Nat) : Input :=
  let ends := ((input.rest.take count).filter (· == '\n')).length
  if ends = 0 then { input with rest := input.rest.drop count }
  else
    { input with
      rest := input.rest.drop count, line := input.line + ends + input.leftOut, leftOut := 0 }

def Input.inner (input : Input) (text : List Char) : Input :=
  { input with rest := text, leftOut := 0, replaced := [] }

def isBlankChar (c : Char) : Bool := c == ' ' || c == '\t'

def skipBlanks : Nat → Input → Input
  | 0, input => input
  | fuel + 1, input =>
      match input.rest with
      | '\\' :: '\n' :: _ => skipBlanks fuel (input.drop 2)
      | '#' :: rest => skipBlanks fuel (input.drop (1 + (rest.takeWhile (· != '\n')).length))
      | c :: _ => if isBlankChar c then skipBlanks fuel (input.drop 1) else input
      | [] => input

def blanks (input : Input) : Input := skipBlanks (input.rest.length + 1) input

def skipLines : Nat → Input → Input
  | 0, input => input
  | fuel + 1, input =>
      let input := blanks input
      match input.rest with
      | '\n' :: _ => skipLines fuel (input.drop 1)
      | _ => input

def gaps (input : Input) : Input := skipLines (input.rest.length + 1) input

def operators : List String := ["&&", "||", ";;", ";", "&", "|", "(", ")", "\n"]

def startsWith (text : String) (chars : List Char) : Bool := text.toList.isPrefixOf chars

def operator? (chars : List Char) : Option String :=
  operators.find? fun operator => startsWith operator chars

def descriptorIn : List Char → List Char
  | c :: _ => if c.isDigit then [c] else []
  | [] => []

def isRedirection (chars : List Char) : Bool :=
  match chars.drop (descriptorIn chars).length with
  | '<' :: _ => true
  | '>' :: _ => true
  | _ => false

def endsWord (c : Char) : Bool :=
  isBlankChar c || c == '\n' || c == ';' || c == '&' || c == '|' || c == '(' || c == ')' ||
    c == '<' || c == '>'

def reserved : List String :=
  ["if", "then", "else", "elif", "fi", "while", "until", "do", "done", "for", "in", "case", "esac",
    "\x7b", "\x7d", "!"]

def reserved? (chars : List Char) : Option String :=
  let word := String.ofList (chars.takeWhile fun c => !endsWord c)
  if reserved.contains word then some word else none

/-- Puts texts in the place of the word in front as long as it is an alias that is not being
replaced already. -/
def replaceAliases : Nat → Input → Input
  | 0, input => input
  | fuel + 1, input =>
      let input := blanks input
      let word := String.ofList (input.rest.takeWhile fun c => !endsWord c)
      let isReplaced := input.replaced.any fun r => r.name == word && r.behind < input.rest.length
      if reserved.contains word || isReplaced then input
      else
        match input.aliases.find? fun entry => entry.1 == word with
        | none => input
        | some (_, text) =>
            let after := input.drop word.length
            let last := text.toList.getLast?
            let replaced : Replaced :=
              ⟨word, after.rest.length, last == some ' ' || last == some '\t'⟩
            replaceAliases fuel
              { after with rest := text.toList ++ after.rest, replaced := replaced :: after.replaced }

def unaliased (input : Input) : Input :=
  if input.aliases.isEmpty then input
  else replaceAliases (input.rest.length + input.aliases.length + 1) input

/-- The next word, which is looked up as an alias if one ends in front of it that asks for that. -/
def nextWord (mayBeAlias : Bool) (input : Input) : Input :=
  let next := blanks input
  let continues := input.replaced.any fun r =>
    r.continues && r.behind < input.rest.length && next.rest.length ≤ r.behind
  if mayBeAlias || continues then unaliased next else next

def tokenName (reservedCount : Bool) (input : Input) : String :=
  match input.rest with
  | [] => "end of file"
  | '\n' :: _ => "newline"
  | chars =>
      if isRedirection chars then "redirection"
      else
        match operator? chars with
        | some operator => "\"" ++ operator ++ "\""
        | none =>
            match reserved? chars with
            | some word => if reservedCount then "\"" ++ word ++ "\"" else "word"
            | none => "word"

def isNameStart (c : Char) : Bool := c.isAlpha || c == '_'

def isNameChar (c : Char) : Bool := c.isAlphanum || c == '_'

def nameIn (chars : List Char) : List Char :=
  match chars with
  | c :: _ => if isNameStart c then chars.takeWhile isNameChar else []
  | [] => []

def parameterIn (braced : Bool) (chars : List Char) : List Char :=
  match chars with
  | [] => []
  | c :: rest =>
      if isNameStart c then chars.takeWhile isNameChar
      else if c.isDigit then c :: (if braced then rest.takeWhile Char.isDigit else [])
      else if ['@', '*', '#', '?', '-', '$', '!'].contains c then [c]
      else []

def treatmentIn : List Char → Option ((Treatment × Bool) × Nat)
  | ':' :: '-' :: _ => some ((.useDefault, true), 2)
  | ':' :: '=' :: _ => some ((.assignDefault, true), 2)
  | ':' :: '?' :: _ => some ((.complain, true), 2)
  | ':' :: '+' :: _ => some ((.useAlternative, true), 2)
  | '-' :: _ => some ((.useDefault, false), 1)
  | '=' :: _ => some ((.assignDefault, false), 1)
  | '?' :: _ => some ((.complain, false), 1)
  | '+' :: _ => some ((.useAlternative, false), 1)
  | '%' :: '%' :: _ => some ((.cutLongestEnd, false), 2)
  | '%' :: _ => some ((.cutShortestEnd, false), 1)
  | '#' :: '#' :: _ => some ((.cutLongestStart, false), 2)
  | '#' :: _ => some ((.cutShortestStart, false), 1)
  | _ => none

/-- Whether a treatment's word is a pattern; in one, quotes count as outside of quotes. -/
def cuts : Treatment → Bool
  | .cutShortestEnd => true
  | .cutLongestEnd => true
  | .cutShortestStart => true
  | .cutLongestStart => true
  | _ => false

inductive Until
  /-- At the first character that ends an unquoted word. -/
  | word
  /-- There, too, but without expansions: a word that ends a document. -/
  | delimiter
  /-- At the closing quote; expansions mean nothing in a `literal` text. -/
  | quote (literal : Bool)
  /-- At the closing brace; inside a document, all quotes around it have ended. -/
  | brace (inDocument : Bool)
  /-- At two closing parentheses, counting those that open in between. -/
  | parentheses (depth : Nat)
  /-- At the end of the text, as in documents. -/
  | text
  deriving DecidableEq

/-- Whether a character is the one at which a run of parts ends, and belongs to what is around it. -/
def Until.closesAt (stop : Until) (c : Char) : Bool :=
  match stop with
  | .quote _ => c == '"'
  | .brace _ => c == '\x7d'
  | _ => false

def Until.isWord : Until → Bool
  | .word => true
  | .delimiter => true
  | _ => false

def Until.isLiteral : Until → Bool
  | .delimiter => true
  | .quote literal => literal
  | _ => false

/-- Whether a backslash inside of quotes takes the meaning of a character away. -/
def Until.escapes (stop : Until) (c : Char) : Bool :=
  match c with
  | '$' => true
  | '\x60' => true
  | '\\' => true
  | '"' => stop != .text
  | '\x7d' => match stop with
      | .brace _ => true
      | _ => false
  | _ => false

def Until.countsQuotes : Until → Bool
  | .text => false
  | .parentheses _ => false
  | _ => true

def Until.inDocument : Until → Bool
  | .text => true
  | .brace inDocument => inDocument
  | _ => false

def singleQuoted (input : Input) : Except SyntaxError (List Char × Input) :=
  let body := input.rest.takeWhile (· != '\'')
  if body.length = input.rest.length then
    fail "Unterminated quoted string" (input.drop body.length)
  else .ok (body, input.drop (body.length + 1))

def backquoted : Nat → Input → Except SyntaxError (List Char × Input)
  | 0, input => fail "EOF in backquote substitution" input
  | fuel + 1, input =>
      match input.rest with
      | [] => fail "EOF in backquote substitution" input
      | '\x60' :: _ => .ok ([], input.drop 1)
      | '\\' :: c :: _ => do
          let (rest, after) ← backquoted fuel (input.drop 2)
          return (if c == '\x60' || c == '\\' || c == '$' then c :: rest else '\\' :: c :: rest,
            after)
      | c :: _ => do
          let (rest, after) ← backquoted fuel (input.drop 1)
          return (c :: rest, after)

def assignmentIn (word : Word) : Option (String × Word) :=
  match word with
  | .plain text :: rest =>
      let name := nameIn text
      match text.drop name.length with
      | '=' :: value =>
          if name.isEmpty then none
          else some (String.ofList name, if value.isEmpty then rest else .plain value :: rest)
      | _ => none
  | _ => none

/-- Commands whose names cannot be given to functions: those whose failures end the shell. -/
def special : List String :=
  [".", ":", "break", "continue", "eval", "exec", "exit", "export", "local", "readonly", "return",
    "set", "shift", "times", "trap", "unset"]

def plainText? : Word → Option String
  | [.plain text] => some (String.ofList text)
  | _ => none

def consChar (quoted : Bool) (c : Char) : Word → Word
  | .plain text :: rest =>
      if quoted then .quoted [c] :: .plain text :: rest else .plain (c :: text) :: rest
  | .quoted text :: rest =>
      if quoted then .quoted (c :: text) :: rest else .plain [c] :: .quoted text :: rest
  | rest => if quoted then .quoted [c] :: rest else .plain [c] :: rest

def documentLines (delimiter : List Char) (strip : Bool) : Nat → Input → List Char × Input
  | 0, input => ([], input)
  | fuel + 1, input =>
      match input.rest with
      | [] => ([], input)
      | _ =>
          let line := input.rest.takeWhile (· != '\n')
          let shown := if strip then line.dropWhile (· == '\t') else line
          let next := input.drop (line.length + 1)
          if shown = delimiter then ([], next)
          else
            let (rest, after) := documentLines delimiter strip fuel next
            (if line.length = input.rest.length then shown ++ rest else shown ++ '\n' :: rest, after)

def delimiterOf (word : Word) : List Char × Bool :=
  word.foldl (fun (text, quoted) part =>
    match part with
    | .plain more => (text ++ more, quoted)
    | .quoted more => (text ++ more, true)
    | _ => (text, quoted)) ([], false)

mutual

def parts : Nat → Until → Bool → Read Word
  | 0, _, _ => fail "program too long"
  | fuel + 1, stop, quoted => fun input =>
      match input.rest with
      | [] =>
          match stop with
          | .word => .ok ([], input)
          | .delimiter => .ok ([], input)
          | .text => .ok ([], input)
          | .quote _ => fail "Unterminated quoted string" input
          | .brace inDocument =>
              fail (if quoted && !inDocument then "Unterminated quoted string"
                else "Missing '\x7d'") input
          | .parentheses _ => fail "Missing '))'" input
      | c :: rest =>
          if stop.isWord && endsWord c then .ok ([], input)
          else if stop.closesAt c then .ok ([], input.drop 1)
          else if c == '\\' then
            match rest with
            | '\n' :: _ => parts fuel stop quoted (input.drop 2)
            | d :: _ =>
                if quoted && !stop.escapes d then do
                  let (others, after) ← parts fuel stop quoted (input.drop 1)
                  return (consChar true '\\' others, after)
                else do
                  let (others, after) ← parts fuel stop quoted (input.drop 2)
                  return (consChar true d others, after)
            | [] => do
                let (others, after) ← parts fuel stop quoted (input.drop 1)
                return (consChar true '\\' others, after)
          else if c == '\'' && !quoted then do
            let (text, after) ← singleQuoted (input.drop 1)
            let (others, after) ← parts fuel stop quoted after
            return (.quoted text :: others, after)
          else if c == '"' && stop.countsQuotes then do
            let (inner, after) ← parts fuel (.quote stop.isLiteral) true (input.drop 1)
            let (others, after) ← parts fuel stop quoted after
            return ((if inner.isEmpty then [.quoted []] else inner) ++ others, after)
          else if stop.isLiteral && (c == '$' || c == '\x60') then do
            let (others, after) ← parts fuel stop quoted (input.drop 1)
            return (consChar quoted c others, after)
          else if c == '$' then do
            let (part, after) ← dollar fuel quoted stop.inDocument (input.drop 1)
            let (others, after) ← parts fuel stop quoted after
            return (match part with
              | some part => (part :: others, after)
              | none => (consChar quoted '$' others, after))
          else if c == '\x60' then do
            let (text, after) ← backquoted (input.rest.length + 1) (input.drop 1)
            let (body, _) ← commands fuel true { input.inner text with line := 1 }
            let (others, after) ← parts fuel stop quoted after
            return (.substitution body quoted :: others, after)
          else
            match stop with
            | .parentheses depth =>
                if c == '(' then do
                  let (others, after) ← parts fuel (.parentheses (depth + 1)) quoted (input.drop 1)
                  return (consChar quoted c others, after)
                else if c == ')' then
                  if depth = 0 then
                    match rest with
                    | ')' :: _ => .ok ([], input.drop 2)
                    | _ => do
                        let (others, after) ← parts fuel stop quoted (input.drop 1)
                        return (consChar quoted c others, after)
                  else do
                    let (others, after) ←
                      parts fuel (.parentheses (depth - 1)) quoted (input.drop 1)
                    return (consChar quoted c others, after)
                else do
                  let (others, after) ← parts fuel stop quoted (input.drop 1)
                  return (consChar quoted c others, after)
            | _ => do
                let (others, after) ← parts fuel stop quoted (input.drop 1)
                return (consChar quoted c others, after)

def complaint : Nat → Bool → String → Input → SyntaxError
  | 0, _, _, input => ⟨input.line, "program too long"⟩
  | fuel + 1, reservedCount, expected, input =>
      let about (line : Nat) : SyntaxError :=
        ⟨line, tokenName reservedCount input ++ " unexpected" ++ expected⟩
      match input.rest with
      | [] => about input.line
      | '\n' :: _ => about (input.drop 1).line
      | c :: _ =>
          if endsWord c || isRedirection input.rest then about input.line
          else
            match parts fuel .word false input with
            | .error e => e
            | .ok (_, after) => about after.line

def take : Nat → String → Read Unit
  | 0, _ => fail "program too long"
  | fuel + 1, token => fun input =>
      let input := blanks input
      let found := match operator? input.rest with
        | some operator => operator == token
        | none => reserved? input.rest == some token
      if found then .ok ((), input.drop token.length)
      else .error (complaint fuel true (" (expecting \"" ++ token ++ "\")") input)

/-- An expansion, read behind its dollar sign; nothing if the sign stands for itself. -/
def dollar : Nat → Bool → Bool → Read (Option Part)
  | 0, _, _ => fail "program too long"
  | fuel + 1, quoted, inDocument => fun input =>
      match input.rest with
      | '(' :: '(' :: _ => do
          let (inner, after) ← parts fuel (.parentheses 0) true (input.drop 2)
          return (some (.arithmetic inner quoted), after)
      | '(' :: _ => do
          let (body, after) ← commands fuel true (input.drop 1)
          let ((), after) ← take fuel ")" after
          return (some (.substitution body quoted), after)
      | '\x7b' :: '#' :: rest =>
          let name := parameterIn true rest
          if name.isEmpty || (rest.drop name.length).head? != some '\x7d' then
            braced fuel quoted inDocument (input.drop 1)
          else .ok (some (.length (String.ofList name) quoted), input.drop (name.length + 3))
      | '\x7b' :: _ => braced fuel quoted inDocument (input.drop 1)
      | chars =>
          let name := parameterIn false chars
          if name.isEmpty then .ok (none, input)
          else .ok (some (.parameter (String.ofList name) none [] quoted), input.drop name.length)

def braced : Nat → Bool → Bool → Read (Option Part)
  | 0, _, _ => fail "program too long"
  | fuel + 1, quoted, inDocument => fun input =>
      let name := parameterIn true input.rest
      let input := input.drop name.length
      let broken (used : Nat) : Except SyntaxError (Option Part × Input) := do
        let (word, after) ← parts fuel (.brace inDocument) quoted (input.drop used)
        return (some (.parameter (String.ofList name) (some (.unknown, false)) word quoted), after)
      if name.isEmpty then broken (if input.rest.head? == some '\x7d' then 0 else 1)
      else
        match input.rest with
        | '\x7d' :: _ =>
            .ok (some (.parameter (String.ofList name) none [] quoted), input.drop 1)
        | chars =>
            match treatmentIn chars with
            | none => broken (if chars.head? == some ':' then 2 else 1)
            | some (treatment, used) => do
                let (word, after) ←
                  parts fuel (.brace inDocument) (quoted && !cuts treatment.1) (input.drop used)
                return (some (.parameter (String.ofList name) (some treatment) word quoted), after)

def redirect : Nat → Read Redirect
  | 0 => fail "program too long"
  | fuel + 1 => fun input =>
      let digits := descriptorIn input.rest
      let given := digits.foldl (fun n c => n * 10 + (c.toNat - 48)) 0
      let input := input.drop digits.length
      let (direction, usual, used) : Direction × Nat × Nat :=
        match input.rest with
        | '<' :: '<' :: '-' :: _ => (.document, 0, 3)
        | '<' :: '<' :: _ => (.document, 0, 2)
        | '<' :: '&' :: _ => (.duplicate, 0, 2)
        | '<' :: '>' :: _ => (.both, 0, 2)
        | '<' :: _ => (.input, 0, 1)
        | '>' :: '>' :: _ => (.append, 1, 2)
        | '>' :: '&' :: _ => (.duplicate, 1, 2)
        | '>' :: '|' :: _ => (.overwrite, 1, 2)
        | _ => (.output, 1, 1)
      let descriptor := if digits.isEmpty then usual else given
      let input := blanks (input.drop used)
      match input.rest with
      | [] => .error (complaint fuel true "" input)
      | c :: _ =>
          if endsWord c || isRedirection input.rest then .error (complaint fuel true "" input)
          else do
            let stop := if direction = .document then .delimiter else .word
            let (word, after) ← parts fuel stop false input
            if direction = .document then
              let (delimiter, literal) := delimiterOf word
              let line := after.rest.takeWhile (· != '\n')
              let below := { after.inner (after.rest.drop (line.length + 1)) with line := 0 }
              let (text, rest) :=
                documentLines delimiter (used == 3) (below.rest.length + 1) below
              let ended := line.length != after.rest.length
              let begun := after.line + 1 + after.leftOut
              let after :=
                { after with
                  rest := if ended then line ++ '\n' :: rest.rest else line
                  leftOut := after.leftOut + rest.line }
              if literal then return (.mk descriptor .document [.quoted text], after)
              else
                let (word, _) ← parts fuel .text true { after.inner text with line := begun }
                return (.mk descriptor .document word, after)
            else return (.mk descriptor direction word, after)

def redirects : Nat → Read (List Redirect)
  | 0 => fail "program too long"
  | fuel + 1 => fun input =>
      let input := blanks input
      if isRedirection input.rest then do
        let (first, after) ← redirect fuel input
        let (others, after) ← redirects fuel after
        return (first :: others, after)
      else .ok ([], input)

/-- The words and redirections of a simple command; the next word may be an alias if only
assignments are in front of it. -/
def simpleItems : Nat → Bool → Read (List Word × List Redirect)
  | 0, _ => fail "program too long"
  | fuel + 1, mayBeAlias => fun input =>
      let input := nextWord mayBeAlias input
      if isRedirection input.rest then do
        let (first, after) ← redirect fuel input
        let ((words, others), after) ← simpleItems fuel mayBeAlias after
        return ((words, first :: others), after)
      else
        match input.rest with
        | [] => .ok (([], []), input)
        | c :: _ =>
            if endsWord c then .ok (([], []), input)
            else do
              let (word, after) ← parts fuel .word false input
              let ((words, others), after) ←
                simpleItems fuel (mayBeAlias && (assignmentIn word).isSome) after
              return ((word :: words, others), after)

def wordList : Nat → Read (List Word)
  | 0 => fail "program too long"
  | fuel + 1 => fun input =>
      let input := blanks input
      match input.rest with
      | [] => .ok ([], input)
      | c :: _ =>
          if endsWord c || isRedirection input.rest then .ok ([], input)
          else do
            let (word, after) ← parts fuel .word false input
            let (others, after) ← wordList fuel after
            return (word :: others, after)

/-- The patterns of a branch, up to the closing parenthesis. What stands in the place of a pattern is
taken for one, whatever it is; `last` is the word in front. -/
def patterns : Nat → Word → Read (List Word)
  | 0, _ => fail "program too long"
  | fuel + 1, last => fun input => do
      let input := blanks input
      let (word, after) ← parts fuel .word false input
      let (word, after) : Word × Input :=
        if word.isEmpty then
          (last, input.drop (((operator? input.rest).map String.length).getD 0))
        else (word, after)
      let after := blanks after
      match after.rest with
      | '|' :: _ =>
          let (others, after) ← patterns fuel word (after.drop 1)
          return (word :: others, after)
      | ')' :: _ => return ([word], after.drop 1)
      | _ => .error (complaint fuel false " (expecting \")\")" after)

def branches : Nat → Read (List (List Word × Command))
  | 0 => fail "program too long"
  | fuel + 1 => fun input =>
      let input := gaps input
      if reserved? input.rest == some "esac" then .ok ([], input.drop 4)
      else do
        let input := match input.rest with
          | '(' :: _ => input.drop 1
          | _ => input
        let (matching, after) ← patterns fuel [] input
        let (body, after) ← commands fuel true after
        let after := gaps after
        if startsWith ";;" after.rest then
          let (others, after) ← branches fuel (after.drop 2)
          return ((matching, body) :: others, after)
        else if reserved? after.rest == some "esac" then
          return ([(matching, body)], after.drop 4)
        else .error (complaint fuel true " (expecting \";;\")" after)

def otherwise : Nat → Read Command
  | 0 => fail "program too long"
  | fuel + 1 => fun input =>
      let input := gaps input
      match reserved? input.rest with
      | some "elif" => do
          let (condition, after) ← commands fuel false (input.drop 4)
          let ((), after) ← take fuel "then" (gaps after)
          let (body, after) ← commands fuel false after
          let (rest, after) ← otherwise fuel after
          return (.branch condition body rest [], after)
      | some "else" => do
          let (body, after) ← commands fuel false (input.drop 4)
          let ((), after) ← take fuel "fi" (gaps after)
          return (body, after)
      | some "fi" => .ok (.nothing, input.drop 2)
      | _ => .error (complaint fuel true " (expecting \"fi\")" input)

def body : Nat → Read Command
  | 0 => fail "program too long"
  | fuel + 1 => fun input => do
      let ((), after) ← take fuel "do" (gaps input)
      let (inner, after) ← commands fuel false after
      let ((), after) ← take fuel "done" (gaps after)
      return (inner, after)

def compound : Nat → String → Read Command
  | 0, _ => fail "program too long"
  | fuel + 1, word => fun input =>
      let behind := input.drop word.length
      match word with
      | "if" => do
          let (condition, after) ← commands fuel false behind
          let ((), after) ← take fuel "then" (gaps after)
          let (body, after) ← commands fuel false after
          let (rest, after) ← otherwise fuel after
          let (redirections, after) ← redirects fuel after
          return (.branch condition body rest redirections, after)
      | "\x7b" => do
          let (inner, after) ← commands fuel false behind
          let ((), after) ← take fuel "\x7d" (gaps after)
          let (redirections, after) ← redirects fuel after
          return (.group inner redirections, after)
      | "for" => do
          let input := blanks behind
          let (word, after) ← parts fuel .word false input
          let name := ((plainText? word).getD "").toList
          if name.isEmpty || nameIn name != name || isRedirection input.rest then
            fail "Bad for loop variable" after
          else
            let after := gaps after
            if reserved? after.rest == some "in" then
              let (words, after) ← wordList fuel (after.drop 2)
              let after := blanks after
              if startsWith ";" after.rest && !startsWith ";;" after.rest ||
                  startsWith "\n" after.rest then
                let (inner, after) ← body fuel (after.drop 1)
                let (redirections, after) ← redirects fuel after
                return (.forEach (String.ofList name) (some words) inner redirections, after)
              else .error (complaint fuel true "" after)
            else
              let after := if startsWith ";" after.rest then after.drop 1 else after
              let (inner, after) ← body fuel after
              let (redirections, after) ← redirects fuel after
              return (.forEach (String.ofList name) none inner redirections, after)
      | "case" => do
          let start := blanks behind
          let (word, after) ← parts fuel .word false start
          if word.isEmpty || isRedirection start.rest then
            .error (complaint fuel true " (expecting word)" start)
          else
            let ((), after) ← take fuel "in" (gaps after)
            let (found, after) ← branches fuel after
            let (redirections, after) ← redirects fuel after
            return (.select word found redirections, after)
      | _ =>
          if word == "while" || word == "until" then do
            let (condition, after) ← commands fuel false behind
            let (inner, after) ← body fuel after
            let (redirections, after) ← redirects fuel after
            return (.loop (word == "until") condition inner redirections, after)
          else .error (complaint fuel true "" input)

def command : Nat → Read Command
  | 0 => fail "program too long"
  | fuel + 1 => fun input =>
      let input := nextWord true input
      match input.rest with
      | [] => .error (complaint fuel true "" input)
      | '(' :: _ => do
          let (inner, after) ← commands fuel false (input.drop 1)
          let ((), after) ← take fuel ")" (gaps after)
          let (redirections, after) ← redirects fuel after
          return (.located input.line (.subshell inner redirections), after)
      | c :: _ =>
          if endsWord c && !isRedirection input.rest then
            .error (complaint fuel true "" input)
          else
            match reserved? input.rest with
            | some word =>
                (compound fuel word input).map fun (found, after) =>
                  (.located input.line found, after)
            | none => simple fuel input

def definition : Nat → Word → Read Command
  | 0, _ => fail "program too long"
  | fuel + 1, word => fun input =>
      let inner := blanks (input.drop 1)
      match inner.rest with
      | ')' :: _ =>
          match plainText? word with
          | some name =>
              if (nameIn name.toList).length = name.length && !special.contains name then do
                let (body, after) ← command fuel (gaps (inner.drop 1))
                return (.define name body, after)
              else fail "Bad function name" inner
          | none => fail "Bad function name" inner
      | _ => .error (complaint fuel false " (expecting \")\")" inner)

/-- A simple command; it is found in the line that its first word ends in. -/
def simple : Nat → Read Command
  | 0 => fail "program too long"
  | fuel + 1 => fun input => do
      let (first, begun) ←
        if isRedirection input.rest then Except.ok ([], input)
        else (parts fuel .word false input).map fun (word, after) => ([word], after)
      let ((others, redirections), after) ←
        simpleItems fuel (first.all fun word => (assignmentIn word).isSome) begun
      let words := first ++ others
      let given := words.takeWhile fun word => (assignmentIn word).isSome
      let rest := words.drop given.length
      match after.rest, given, rest, redirections with
      | '(' :: _, [], [word], [] => definition fuel word after
      | _, _, _, _ =>
          return (.simple begun.line (given.filterMap assignmentIn) rest redirections, after)

def pipeTail : Nat → Read (List Command)
  | 0 => fail "program too long"
  | fuel + 1 => fun input => do
      let (first, after) ← command fuel input
      let after := blanks after
      if startsWith "|" after.rest && !startsWith "||" after.rest then
        let (others, after) ← pipeTail fuel (gaps (after.drop 1))
        return (first :: others, after)
      else return ([first], after)

def pipeline : Nat → Read Command
  | 0 => fail "program too long"
  | fuel + 1 => fun input => do
      let input := blanks input
      let negated := reserved? input.rest == some "!"
      let (found, after) ← pipeTail fuel (if negated then blanks (input.drop 1) else input)
      match found, negated with
      | [one], false => return (one, after)
      | _, _ => return (.pipeline negated found, after)

def andOrTail : Nat → Command → Read Command
  | 0, _ => fail "program too long"
  | fuel + 1, first => fun input =>
      let input := blanks input
      if startsWith "&&" input.rest then do
        let (second, after) ← pipeline fuel (gaps (input.drop 2))
        andOrTail fuel (.both first second) after
      else if startsWith "||" input.rest then do
        let (second, after) ← pipeline fuel (gaps (input.drop 2))
        andOrTail fuel (.either first second) after
      else .ok (first, input)

def endsList (input : Input) : Bool :=
  match input.rest with
  | [] => true
  | ')' :: _ => true
  | ';' :: ';' :: _ => true
  | chars =>
      match reserved? chars with
      | some word => ["then", "else", "elif", "fi", "do", "done", "esac", "\x7d"].contains word
      | none => false

/-- Commands over any number of lines, up to what cannot continue them. Some lists may be empty. -/
def commands : Nat → Bool → Read Command
  | 0, _ => fail "program too long"
  | fuel + 1, mayBeEmpty => fun input =>
      let input := gaps input
      if input.rest.isEmpty || (mayBeEmpty && endsList input) then .ok (.nothing, input)
      else do
        let (first, after) ← pipeline fuel input
        let (first, after) ← andOrTail fuel first after
        let after := blanks after
        match after.rest with
        | ';' :: ';' :: _ => return (first, after)
        | ';' :: _ =>
            let (rest, after) ← commands fuel true (after.drop 1)
            return (.sequence first rest, after)
        | '&' :: _ =>
            let (rest, after) ← commands fuel true (after.drop 1)
            return (.sequence (.background first) rest, after)
        | '\n' :: _ =>
            let (rest, after) ← commands fuel true (after.drop 1)
            return (.sequence first rest, after)
        | _ => return (first, after)

end

/-- The commands of one line; more lines where something is open. -/
def lineTail : Nat → Nat → Command → Read Command
  | 0, _, _ => fail "program too long"
  | fuel + 1, depth, first => fun input =>
      let input := blanks input
      match input.rest with
      | [] => .ok (first, input)
      | '\n' :: _ => .ok (first, input.drop 1)
      | ';' :: ';' :: _ => .error (complaint fuel true "" input)
      | ';' :: _ => next fuel depth first (input.drop 1)
      | '&' :: _ => next fuel depth (.background first) (input.drop 1)
      | _ => .error (complaint depth true "" input)
where
  next (fuel depth : Nat) (first : Command) (input : Input) :
      Except SyntaxError (Command × Input) :=
    let input := blanks input
    match input.rest with
    | [] => .ok (first, input)
    | '\n' :: _ => .ok (first, input.drop 1)
    | _ => do
        let (second, after) ← pipeline depth input
        let (second, after) ← andOrTail depth second after
        let (rest, after) ← lineTail fuel depth second after
        return (.sequence first rest, after)

def line (input : Input) : Except SyntaxError (Option Command × Input) :=
  let input := gaps input
  match input.rest with
  | [] => .ok (none, input)
  | _ => do
      let depth := 20 * (input.rest.length + 10)
      let (first, after) ← pipeline depth input
      let (first, after) ← andOrTail depth first after
      let (all, after) ← lineTail depth depth first after
      return (some all, after)

end LifecycleHooks.Shell.Reader
