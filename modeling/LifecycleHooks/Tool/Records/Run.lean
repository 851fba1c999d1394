import LifecycleHooks.Tool.Records.Reader
import LifecycleHooks.Tool.Records.State

/-!
Running programs for records.
-/

namespace LifecycleHooks.Tool.Records

open Process Text

inductive Spot
  | variable (name : String)
  | element (table : Nat) (key : Run.Key)
  | field (number : Nat)

def Spot.read : Spot → Run Value
  | .variable name => Run.valueOf name
  | .element table key => Run.element table key
  | .field number => Run.field number

def Spot.write (value : Value) : Spot → Run Unit
  | .variable name => Run.setVariable name value
  | .element table key => Run.putElement table key value
  | .field number => Run.setField number value

/-- What is left when one number is taken from another as often as it goes; it has the sign of the first. -/
def leftOver (x y : Float) : Float :=
  match Double.ofFloat? x, Double.ofFloat? y with
  | some a, some b =>
      if b.isZero then 0.0 / 0.0
      else
        let (n, d) := a.ratio
        let (m, e) := b.ratio
        match Double.nearest a.negative (n * e % (m * d)) (d * e) with
        | some rest => rest.toFloat
        | none => x
  | some _, none => if y.isNaN then y else x
  | none, _ => 0.0 / 0.0

def Operator.apply : Operator → Float → Float → Float
  | .add, x, y => x + y
  | .subtract, x, y => x - y
  | .multiply, x, y => x * y
  | .divide, x, y => x / y
  | .remainder, x, y => leftOver x y
  | .power, x, y => Float.pow x y

def withoutFraction (x : Float) : Float := if x < 0 then x.ceil else x.floor

namespace Run

def pause : Run Unit := working (Work.look fun _ => ())

def round (body : Run Unit) : Run Bool :=
  tryCatch (do
    pause
    body
    return true)
    fun
      | .leaveLoop => return false
      | .nextRound => return true
      | other => throw other

def asTable? (name : String) : Run (Option Nat) := do
  match ← slot? name with
  | some (.table n) => return some n
  | some (.either n) => return if (← items n).isEmpty then none else some n
  | _ => return none

/-- What is handed to a function for a plain name: a table, if it is one or may become one. -/
def argument (name : String) : Run Slot := do
  if name == "NF" then return .value (← valueOf name)
  else
    match ← slot? name with
    | some (.value .unset) | none =>
        let n ← newTable
        setSlot name (.either n)
        return .either n
    | some slot => return slot

def countRecord (alsoOfFile : Bool) : Run Unit := do
  let step (name : String) : Run Unit := do
    setSlot name (.value (.number ((← valueOf name).toNumber + 1)))
  step "NR"
  if alsoOfFile then step "FNR"

def assignment? (text : String) : Option (String × String) :=
  let name := text.toList.takeWhile isNameRest
  match name, text.toList.drop name.length with
  | c :: _, '=' :: value =>
      if isNameStart c then some (String.ofList name, String.ofList value) else none
  | _, _ => none

/-- Opens the next of the files that arguments name, and follows the assignments among them. Without a
file, the input is read. `fuel` bounds the number of arguments. -/
def openNext : Nat → Run Bool
  | 0 => return false
  | fuel + 1 => do
      let state ← get
      let count := (truncated (← valueOf "ARGC").toNumber).toNat
      if state.argument < count then
        modify fun state => { state with argument := state.argument + 1 }
        let table ← tableOf "ARGV"
        let arg ← match Table.find? (← items table) (toString state.argument) with
          | some item => textOf item.value
          | none => pure ""
        if arg.isEmpty then openNext fuel
        else
          match assignment? arg with
          | some (name, value) =>
              setVariable name (.input (unescaped value))
              openNext fuel
          | none =>
              setSlot "FILENAME" (.value (.text arg))
              setSlot "FNR" (.value (.number 0))
              if arg == "-" || arg == "/dev/stdin" then
                modify fun state => { state with main := some ⟨0, [], false⟩, opened := true }
              else
                match ← working (Work.openRoute state.frame.pid state.frame.cwd ⟨arg⟩ .reading) with
                | .ok descriptor =>
                    modify fun state => { state with main := some ⟨descriptor, [], false⟩, opened := true }
                | .error e => fail ("cannot open \"" ++ arg ++ "\" (" ++ describe e ++ ")")
              return true
      else if state.opened then return false
      else
        set { state with main := some ⟨0, [], false⟩, opened := true }
        return true

def closeMain : Run Unit := do
  let state ← get
  match state.main with
  | some stream => if 2 < stream.descriptor then working (Work.close state.frame.pid stream.descriptor)
  | none => pure ()
  modify fun state => { state with main := none }

def nextMain : Nat → Run (Option String)
  | 0 => return none
  | fuel + 1 => do
      match (← get).main with
      | none => if ← openNext 10000 then nextMain fuel else return none
      | some stream =>
          let (record, stream) ← Run.nextRecord stream
          modify fun state => { state with main := some stream }
          match record with
          | some record =>
              countRecord true
              return some record
          | none =>
              closeMain
              nextMain fuel

def deliver (spot : Option Spot) (record : String) : Run Value := do
  match spot with
  | none => setRecord record
  | some spot => spot.write (.input record)
  return .number 1

def substituteIn (all : Bool) (expression : Expression) (given : String) (spot : Spot) : Run Value := do
  let text ← textOf (← spot.read)
  let (changed, count) :=
    substitute all expression given.toList (text.length + 2) false (.ofChars text.toList)
  if count ≠ 0 then spot.write (.text (String.ofList changed))
  return .number (Float.ofNat count)

/-- Values written by a format. What can be written is handed on even if not all can. -/
def formatValues (name : String) (hand : Bytes → Run Unit) (values : List Value) : Run Unit := do
  match values with
  | [] => pure ()
  | first :: rest =>
      let text ← textOf first
      let (bytes, problem) := formatted (← format) (text.length + 1) 1 text.toList rest
      hand bytes
      match problem with
      | none => pure ()
      | some .tooFew => failHere ("not enough arguments passed to " ++ name ++ "(\"" ++ text ++ "\")")
      | some (.improper n) =>
          failHere ("improper conversion(number " ++ toString n ++ ") in " ++ name ++ "(\"" ++ text ++ "\")")

def plain (function : Function) (values : List Value) : Run Value := do
  let first := values.headD .unset
  let second := values.getD 1 .unset
  let x := first.toNumber
  match function with
  | .length => return .number (Float.ofNat (← textOf first).length)
  | .substring =>
      return .text (substring (← textOf first) second.toNumber (values[2]?.map Value.toNumber))
  | .index =>
      let found := (Expression.ofText (← textOf second).toList).find? false (.ofChars (← textOf first).toList)
      match found with
      | some (start, _) => return .number (Float.ofNat ((← textOf first).length - start.left + 1))
      | none => return .number 0
  | .format =>
      let state ← get
      set { state with buffered := [] }
      formatValues "sprintf" (fun bytes => modify fun state => { state with buffered := bytes }) values
      let bytes := (← get).buffered
      modify fun now => { now with buffered := state.buffered }
      return .text (Text.ofOctets bytes)
  | .sine => return .number x.sin
  | .cosine => return .number x.cos
  | .arcTangent => return .number (Float.atan2 x second.toNumber)
  | .exponential => return .number x.exp
  | .logarithm => return .number x.log
  | .squareRoot => return .number x.sqrt
  | .truncate => return .number (withoutFraction x)
  | .random => return .number 0.5
  | .seed => return .number 0
  | .lower => return .text ((← textOf first).map Char.toLower)
  | .upper => return .text ((← textOf first).map Char.toUpper)
  | .system => return .number (Float.ofNat (← runCommand (← textOf first)))
  | .close =>
      let code ← close (← textOf first)
      return .number (Float.ofInt code)
  | .flush =>
      flush
      return .number 0
  | .time =>
      let now ← working (Work.look World.now)
      return .number (Float.ofInt (now / 1000000))
  | _ => return .unset

def wholeRecord : Spot := .field 0

mutual

def evaluate : Nat → Term → Run Value
  | 0, _ => working Work.hang
  | fuel + 1, term => do
      match term with
      | .number value => return .number value
      | .text value => return .text value
      | .pattern expression =>
          return .ofBool (expression.find? false (.ofChars (← get).record.toList)).isSome
      | .place place => (← spotOf fuel place).read
      | .assign place none value =>
          let value ← evaluate fuel value
          (← spotOf fuel place).write value
          return value
      | .assign place (some operator) value =>
          let spot ← spotOf fuel place
          let right := (← evaluate fuel value).toNumber
          let result := Value.number (operator.apply (← spot.read).toNumber right)
          spot.write result
          return result
      | .step place amount after =>
          let spot ← spotOf fuel place
          let before := (← spot.read).toNumber
          spot.write (.number (before + amount))
          return .number (if after then before else before + amount)
      | .negate inner => return .number (-(← evaluate fuel inner).toNumber)
      | .plus inner => return .number (← evaluate fuel inner).toNumber
      | .not inner => return .ofBool (!(← evaluate fuel inner).isTrue)
      | .calculate operator left right =>
          let x := (← evaluate fuel left).toNumber
          return .number (operator.apply x (← evaluate fuel right).toNumber)
      | .join left right =>
          let front ← textOf (← evaluate fuel left)
          return .text (front ++ (← textOf (← evaluate fuel right)))
      | .compare comparison left right =>
          let a ← evaluate fuel left
          let b ← evaluate fuel right
          return .ofBool (Value.compare (← format) comparison a b)
      | .suits negated text pattern =>
          let text ← textOf (← evaluate fuel text)
          let expression ← expressionOf fuel pattern
          return .ofBool ((expression.find? false (.ofChars text.toList)).isSome != negated)
      | .member indices array =>
          let key ← keyAt fuel indices
          let table ← tableOf array
          let content := seen key (← items table)
          setItems table content
          return .ofBool (Table.find? content key.text).isSome
      | .both left right =>
          if (← evaluate fuel left).isTrue then return .ofBool (← evaluate fuel right).isTrue
          else return .ofBool false
      | .either left right =>
          if (← evaluate fuel left).isTrue then return .ofBool true
          else return .ofBool (← evaluate fuel right).isTrue
      | .choose condition yes no =>
          if (← evaluate fuel condition).isTrue then evaluate fuel yes else evaluate fuel no
      | .apply function args => applyFunction fuel function args
      | .call name args => call fuel name args
      | .readNext into =>
          let spot ← spotOf? fuel into
          match ← nextMain 10000 with
          | some record => deliver spot record
          | none => return .number 0
      | .readFile file into =>
          let name ← textOf (← evaluate fuel file)
          let spot ← spotOf? fuel into
          match ← fileStream name with
          | none => return .number (-1)
          | some stream =>
              let (record, stream) ← Run.nextRecord stream
              modify fun state =>
                { state with
                  readers := state.readers.map fun entry =>
                    if entry.1 == name then (name, stream) else entry }
              match record with
              | some record => deliver spot record
              | none => return .number 0
      | .readCommand command into =>
          let name ← textOf (← evaluate fuel command)
          let spot ← spotOf? fuel into
          let (record, stream) ← Run.nextRecord (← commandStream name)
          modify fun state =>
            { state with
              commands := state.commands.map fun entry =>
                if entry.1 == name then (name, stream, entry.2.2) else entry }
          match record with
          | some record =>
              countRecord false
              deliver spot record
          | none => return .number 0

def keyAt : Nat → List Term → Run Key
  | 0, _ => working Work.hang
  | fuel + 1, indices => do
      match indices with
      | [index] => keyOf (← evaluate fuel index)
      | several =>
          let texts ← several.mapM fun index => do textOf (← evaluate fuel index)
          return ⟨(← textVariable "SUBSEP").intercalate texts, false⟩

def spotOf : Nat → Place → Run Spot
  | 0, _ => working Work.hang
  | fuel + 1, place => do
      match place with
      | .variable name => return .variable name
      | .element array indices =>
          let key ← keyAt fuel indices
          return .element (← tableOf array) key
      | .field number => return .field (← fieldNumber (← evaluate fuel number).toNumber)

def spotOf? : Nat → Option Place → Run (Option Spot)
  | 0, _ => working Work.hang
  | fuel + 1, place => do
      match place with
      | some place => return some (← spotOf fuel place)
      | none => return none

def expressionOf : Nat → Term → Run Expression
  | 0, _ => working Work.hang
  | fuel + 1, term => do
      match term with
      | .pattern expression => return expression
      | other =>
          match readPattern (← textOf (← evaluate fuel other)) with
          | .ok expression => return expression
          | .error problem => fail problem

def applyFunction : Nat → Function → List Term → Run Value
  | 0, _, _ => working Work.hang
  | fuel + 1, function, args => do
      match function, args with
      | .length, [] => return .number (Float.ofNat (← get).record.length)
      | .length, [.place (.variable name)] =>
          match ← asTable? name with
          | some table => return .number (Float.ofNat (← items table).length)
          | none => plain .length [← valueOf name]
      | .split, text :: .place (.variable array) :: rest =>
          let text ← textOf (← evaluate fuel text)
          let separator ← match rest with
            | [] => Run.separator
            | .pattern expression :: _ => pure (.pattern expression)
            | other :: _ =>
                match Separator.ofText (← textOf (← evaluate fuel other)) with
                | .ok separator => pure separator
                | .error problem => fail problem
          let found := fieldsOf separator text
          fill (← tableOf array) found
          return .number (Float.ofNat found.length)
      | .substituteFirst, pattern :: given :: rest => substituteBy fuel false pattern given rest
      | .substituteAll, pattern :: given :: rest => substituteBy fuel true pattern given rest
      | .matchPlace, [text, pattern] =>
          let text ← textOf (← evaluate fuel text)
          let expression ← expressionOf fuel pattern
          let (start, length) : Nat × Int :=
            match expression.find? false (.ofChars text.toList) with
            | some (start, stop) => (text.length - start.left + 1, start.left - stop.left)
            | none => (0, -1)
          setVariable "RSTART" (.number (Float.ofNat start))
          setVariable "RLENGTH" (.number (Float.ofInt length))
          return .number (Float.ofNat start)
      | function, args =>
          let values ← args.mapM (evaluate fuel)
          plain function values

def substituteBy : Nat → Bool → Term → Term → List Term → Run Value
  | 0, _, _, _, _ => working Work.hang
  | fuel + 1, all, pattern, given, rest => do
      let expression ← expressionOf fuel pattern
      let given ← textOf (← evaluate fuel given)
      match rest with
      | .place place :: _ => substituteIn all expression given (← spotOf fuel place)
      | [] => substituteIn all expression given wholeRecord
      | other :: _ =>
          let text ← textOf (← evaluate fuel other)
          let (_, count) := substitute all expression given.toList (text.length + 2) false (.ofChars text.toList)
          return .number (Float.ofNat count)

def call : Nat → String → List Term → Run Value
  | 0, _, _ => working Work.hang
  | fuel + 1, name, args => do
      match (← get).definitions.find? fun definition => definition.name == name with
      | none => return .unset
      | some definition =>
          pause
          let slots ← args.mapM fun arg => do
            match arg with
            | .place (.variable name) => argument name
            | other => return .value (← evaluate fuel other)
          let slots := slots ++ List.replicate (definition.parameters.length - slots.length) (.value .unset)
          let before := (← get).locals
          modify fun state =>
            { state with
              locals := (definition.parameters.zip slots).foldl
                (fun locals entry => Fields.insert entry.1 entry.2 locals) [] }
          let leave : Run Unit := modify fun state => { state with locals := before }
          let result ← tryCatch (do
              executeAll fuel definition.body
              return Value.unset)
            fun
              | .giveBack value => return value
              | other => do
                  leave
                  throw other
          leave
          return result

def execute : Nat → Statement → Run Unit
  | 0, _ => working Work.hang
  | fuel + 1, statement => do
      match statement with
      | .evaluate term => let _ ← evaluate fuel term
      | .print items target =>
          let texts ← if items.isEmpty then pure [(← get).record]
            else items.mapM fun item => do printed (← evaluate fuel item)
          let text := (← textVariable "OFS").intercalate texts ++ (← textVariable "ORS")
          output fuel target (Text.octets text)
      | .printFormat items target =>
          let values ← items.mapM (evaluate fuel)
          formatValues "printf" (output fuel target) values
      | .block statements => executeAll fuel statements
      | .choose condition yes no =>
          if (← evaluate fuel condition).isTrue then execute fuel yes else execute fuel no
      | .repeatWhile condition body =>
          if (← evaluate fuel condition).isTrue then
            if ← round (execute fuel body) then execute fuel (.repeatWhile condition body)
      | .repeatUntil body condition =>
          if ← round (execute fuel body) then
            if (← evaluate fuel condition).isTrue then execute fuel (.repeatUntil body condition)
      | .repeatFor start condition step body =>
          execute fuel start
          let goesOn ← match condition with
            | some condition => pure (← evaluate fuel condition).isTrue
            | none => pure true
          if goesOn then
            if ← round (execute fuel body) then execute fuel (.repeatFor step condition step body)
      | .repeatIn name array body =>
          repeatOver fuel name body (← keys (← tableOf array))
      | .leaveLoop => throw .leaveLoop
      | .nextRound => throw .nextRound
      | .nextRecord => throw .nextRecord
      | .nextFile => throw .nextFile
      | .finish code =>
          match code with
          | some term =>
              let code := truncated (← evaluate fuel term).toNumber
              modify fun state => { state with code := (code % 256).toNat }
          | none => pure ()
          throw .finish
      | .giveBack value =>
          match value with
          | some term => throw (.giveBack (← evaluate fuel term))
          | none => throw (.giveBack .unset)
      | .delete array none => setItems (← tableOf array) []
      | .delete array (some indices) =>
          let key ← keyAt fuel indices
          let table ← tableOf array
          setItems table (Table.erase (seen key (← items table)) key.text)

def executeAll : Nat → List Statement → Run Unit
  | 0, _ => working Work.hang
  | _ + 1, [] => pure ()
  | fuel + 1, statement :: rest => do
      execute fuel statement
      executeAll fuel rest

def repeatOver : Nat → String → Statement → List String → Run Unit
  | 0, _, _, _ => working Work.hang
  | _ + 1, _, _, [] => pure ()
  | fuel + 1, name, body, key :: rest => do
      setVariable name (.text key)
      if ← round (execute fuel body) then repeatOver fuel name body rest

def output : Nat → Option (Target × Term) → Bytes → Run Unit
  | 0, _, _ => working Work.hang
  | fuel + 1, target, bytes => do
      match target with
      | none => put bytes
      | some (kind, term) =>
          let name ← textOf (← evaluate fuel term)
          if kind = .command then putCommand name bytes else putInto kind name bytes

end

def depth : Nat := 1000000

def isMet (number : Nat) (condition : Condition) : Run Bool := do
  match condition with
  | .atStart => return false
  | .atEnd => return false
  | .always => return true
  | .suits term => return (← evaluate depth term).isTrue
  | .between first last =>
      let begins ← if (← get).begun.contains number then pure true
        else pure (← evaluate depth first).isTrue
      if !begins then return false
      else
        let ends := (← evaluate depth last).isTrue
        modify fun state =>
          let others := state.begun.filter (· != number)
          { state with begun := if ends then others else number :: others }
        return true

def follow (number : Nat) (rule : Rule) : Run Unit := do
  if ← isMet number rule.condition then
    match rule.action with
    | some statements => executeAll depth statements
    | none => execute depth (.print [] none)

def records (rules : List (Rule × Nat)) : Nat → Run Unit
  | 0 => working Work.hang
  | fuel + 1 => do
      pause
      match ← nextMain 10000 with
      | none => pure ()
      | some record =>
          setRecord record
          tryCatch (for (rule, number) in rules do follow number rule)
            fun
              | .nextRecord => pure ()
              | .nextFile => closeMain
              | other => throw other
          records rules fuel

def followAll (isKind : Condition → Bool) (rules : List Rule) : Run Unit := do
  for rule in rules do
    if isKind rule.condition then executeAll depth (rule.action.getD [])

def part (run : Run Unit) : Run Bool :=
  tryCatch (do
    run
    return true)
    fun
      | .fail => return false
      | _ => return true

def through (run : Run Unit) : Run Bool :=
  tryCatch (do
    run
    return true)
    fun
      | .fail => throw .fail
      | _ => return false

def program (found : Program) : Run Unit := do
  let isStart (condition : Condition) : Bool := condition matches .atStart
  let isEnd (condition : Condition) : Bool := condition matches .atEnd
  let _ ← part do
    let goesOn ← through (followAll isStart found.rules)
    if found.rules.any fun rule => !isStart rule.condition then
      if goesOn then
        let _ ← through (records found.rules.zipIdx blockLimit)
      let _ ← through (followAll isEnd found.rules)
  let _ ← part closePipes
  let _ ← part flush

end Run

end LifecycleHooks.Tool.Records
