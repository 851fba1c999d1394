import LifecycleHooks.Tool.Places
import LifecycleHooks.Tool.Versions

/-!
Programs that show what is known of files: their names, sizes, permissions and times.
-/

namespace LifecycleHooks.Tool

open Process Text

structure Listed where
  name : String
  node : Node
  number : Nat
  links : Nat

def kindLetter (node : Node) : Char :=
  match node.content with
  | .directory => 'd'
  | .link _ => 'l'
  | .device _ => 'c'
  | .pipe _ _ => 'p'
  | _ => '-'

def permissions (node : Node) : String := String.singleton (kindLetter node) ++ Mode.letters node.mode

/-- How many names a node has; a directory has one in each of its directories too. -/
def linkCount (tree : FileTree) (place : Location) (number : Nat) (node : Node) : Nat :=
  if node.isDirectory then
    2 + ((tree.children place).filter fun name => tree.isDirectory (place ++ [name])).length
  else tree.links number

def listed (tree : FileTree) (name : String) (place : Location) (node : Node) : Listed :=
  let number := (tree.number? place).getD 0
  ⟨name, node, number, linkCount tree place number node⟩

def blocks (node : Node) : Nat :=
  match node.content with
  | .file bytes => (bytes.length + 4095) / 4096 * 4
  | .directory => 4
  | _ => 0

def roundedSize (n : Nat) : String :=
  if n < 1024 then toString n
  else
    let units := ['K', 'M', 'G', 'T', 'P', 'E']
    let power := (List.range 6).foldl (fun power i => if Nat.pow 1024 (i + 1) ≤ n then i + 1 else power) 1
    let unit := Nat.pow 1024 power
    let tenths := (n * 10 + unit - 1) / unit
    let whole := (n + unit - 1) / unit
    (if tenths < 100 then toString (tenths / 10) ++ "." ++ toString (tenths % 10) else toString whole) ++
      String.singleton (units.getD (power - 1) 'E')

def indicator (options : Options) (node : Node) : String :=
  if node.isDirectory && (options.has 'F' || options.has 'p') then "/"
  else if !options.has 'F' then ""
  else
    match node.content with
    | .link _ => "@"
    | .pipe _ _ => "|"
    | .device _ => ""
    | _ => if node.isExecutable then "*" else ""

def doubleQuoted (name : String) : String :=
  "\"" ++ String.join (name.toList.map fun c =>
    if c == '"' || c == '\\' then "\\" ++ String.singleton c
    else String.ofList ((escape? c).getD [c])) ++ "\""

def shownName (options : Options) (name : String) : String :=
  if options.has 'Q' then doubleQuoted name
  else if options.has 'q' then
    String.ofList (name.toList.map fun c => if (escape? c).isSome then '?' else c)
  else if options.has 'b' then
    String.join (name.toList.map fun c =>
      if c == ' ' then "\\ " else if c == '\\' then "\\\\" else String.ofList ((escape? c).getD [c]))
  else name

def shownTime (style : String) (now micros : Int) : String :=
  let recent := now - 15778476000000 < micros && micros ≤ now
  match style with
  | "full-iso" => Dates.format "%Y-%m-%d %H:%M:%S.%N %z" micros
  | "long-iso" => Dates.format "%Y-%m-%d %H:%M" micros
  | "iso" => Dates.format (if recent then "%m-%d %H:%M" else "%Y-%m-%d ") micros
  | _ =>
      match style.toList with
      | '+' :: form => Dates.format (String.ofList form) micros
      | _ => Dates.format (if recent then "%b %e %H:%M" else "%b %e  %Y") micros

def padLeft (width : Nat) (text : String) : String :=
  String.ofList (List.replicate (width - text.length) ' ') ++ text

def padRight (width : Nat) (text : String) : String :=
  text ++ String.ofList (List.replicate (width - text.length) ' ')

def listingLines (options : Options) (now : Int) (files : List Listed) : List String :=
  let size (file : Listed) : String :=
    if options.has 'h' then roundedSize file.node.size else toString file.node.size
  let widest (text : Listed → String) : Nat :=
    files.foldl (fun width file => max width (text file).length) 0
  let owner := if options.has 'n' then "0" else "root"
  let long := ['l', 'n', 'g', 'o', '!'].any options.has
  let style := if options.has '!' then "full-iso" else (options.value? '^').getD "locale"
  let ofBlocks (file : Listed) : String :=
    if options.has 'h' then (if blocks file.node = 0 then "0" else roundedSize (blocks file.node * 1024))
    else toString (blocks file.node)
  let ofNumber (file : Listed) : String := toString (file.number + 1000)
  let ofLinks (file : Listed) : String := toString file.links
  let sizeWidth := widest size
  let linksWidth := widest ofLinks
  let blocksWidth := widest ofBlocks
  let numberWidth := widest ofNumber
  files.map fun file =>
    let name := shownName options file.name
    (if options.has 'i' then padLeft numberWidth (ofNumber file) ++ " " else "") ++
      (if options.has 's' then padLeft blocksWidth (ofBlocks file) ++ " " else "") ++
      (if !long then name ++ indicator options file.node
        else
          permissions file.node ++ " " ++ padLeft linksWidth (ofLinks file) ++ " " ++
            (if options.has 'g' then "" else owner ++ " ") ++
            (if options.has 'o' || options.has 'G' then "" else owner ++ " ") ++
            padLeft sizeWidth (size file) ++ " " ++ shownTime style now file.node.modified ++ " " ++ name ++
            match file.node.content with
            | .link target => " -> " ++ shownName options target
            | _ => indicator options file.node)

def sortListed (options : Options) (files : List Listed) : List Listed :=
  let named (a b : Listed) : Bool := a.name ≤ b.name
  let sorted := match options.last? ['t', 'S', 'v', 'X', 'U', 'f'] with
    | some 't' =>
        files.mergeSort fun a b =>
          b.node.modified < a.node.modified || (a.node.modified == b.node.modified && named a b)
    | some 'S' =>
        files.mergeSort fun a b =>
          b.node.size < a.node.size || (a.node.size == b.node.size && named a b)
    | some 'v' =>
        files.mergeSort fun a b => Versions.compare (Text.octets a.name) (Text.octets b.name) != .gt
    | some 'X' =>
        let ending (file : Listed) : String :=
          if file.name.toList.contains '.' then (file.name.splitOn ".").getLast?.getD "" else ""
        files.mergeSort fun a b => ending a < ending b || (ending a == ending b && named a b)
    | some _ => files
    | none => files.mergeSort named
  if options.has 'r' then sorted.reverse else sorted

def page (options : Options) (lines : List String) : String :=
  let long := ['l', 'n', 'g', 'o', '!', '1'].any options.has
  if lines.isEmpty then ""
  else if options.has 'm' && !long then ", ".intercalate lines ++ "\n"
  else if (options.has 'x' || options.has 'C') && !long then
    let width := lines.foldl (fun (width : Nat) line => max width line.length) 0
    let total := lines.foldl (fun (total : Nat) line => total + line.length + 2) 0
    if total ≤ 80 then "  ".intercalate lines ++ "\n"
    else
      let perRow := max 1 (80 / (width + 2))
      let rows := (lines.length + perRow - 1) / perRow
      let perRow := if options.has 'x' then perRow else (lines.length + rows - 1) / rows
      let cell? (row column : Nat) : Option String :=
        lines[if options.has 'x' then row * perRow + column else column * rows + row]?
      String.join ((List.range rows).map fun row =>
        let cells := (List.range perRow).filterMap (cell? row)
        "".intercalate (cells.dropLast.map (padRight (width + 2)) ++ cells.getLast?.toList) ++ "\n")
  else String.join (lines.map (· ++ "\n"))

def inDirectory (tree : FileTree) (options : Options) (place : Location) (self : Node) : List Listed :=
  let all := options.has 'a' || options.has 'f'
  let names := (tree.children place).filter fun name =>
    all || options.has 'A' || name.toList.head? != some '.'
  let files := names.filterMap fun name =>
    (tree.find? (place ++ [name])).map fun node => listed tree name (place ++ [name]) node
  let above := (tree.find? place.dropLast).getD self
  (if all then [listed tree "." place self, listed tree ".." place.dropLast above] else []) ++ files

/-- Shows directories, with those in them when that is asked for. `first` tells whether nothing was
shown before. `fuel` bounds how deep they lie. -/
def showDirectories (frame : Frame) (options : Options) (named : Bool) :
    Nat → Bool → List (String × Location × Node) → Work Unit
  | 0, _, _ => pure ()
  | _, _, [] => pure ()
  | fuel + 1, first, (name, place, node) :: rest => do
      let tree ← frame.view
      let now ← Work.look World.now
      let files := sortListed options (inDirectory tree options place node)
      let long := ['l', 'n', 'g', 'o', '!'].any options.has
      if named then frame.say ((if first then "" else "\n") ++ shownName options name ++ ":\n")
      if long || options.has 's' then
        let total := files.foldl (fun total file => total + blocks file.node) 0
        frame.say ("total " ++ (if options.has 'h' then roundedSize (total * 1024) else toString total) ++
          "\n")
      frame.say (page options (listingLines options now files))
      let inner := if !options.has 'R' then []
        else files.filterMap fun file =>
          if file.node.isDirectory && file.name != "." && file.name != ".." then
            some (below name file.name, place ++ [file.name], file.node)
          else none
      showDirectories frame options named fuel false (inner ++ rest)

def ls (frame : Frame) : Work Ending :=
  withOptions frame "1aAdlRtSrFpishngoGQqmxCbcuUfvXLHNkTw:I:"
      [("all", 'a'), ("almost-all", 'A'), ("directory", 'd'), ("recursive", 'R'), ("reverse", 'r'),
        ("classify=?", 'F'), ("size", 's'), ("inode", 'i'), ("human-readable", 'h'),
        ("numeric-uid-gid", 'n'), ("no-group", 'G'), ("quote-name", 'Q'), ("escape", 'b'),
        ("literal", 'N'), ("time-style=", '^'), ("full-time", '!'), ("color=?", '%'),
        ("dereference", 'L'), ("ignore=", 'I'), ("width=", 'w'), ("hide-control-chars", 'q'),
        ("show-control-chars", 'N'), ("group-directories-first", '&'), ("quoting-style=", '"')]
      fun options => do
    let operands := if options.operands.isEmpty then ["."] else options.operands
    let tree ← frame.view
    let now ← Work.look World.now
    let long := ['l', 'n', 'g', 'o', '!'].any options.has
    let mut worst := 0
    let mut files : List Listed := []
    let mut directories : List (Listed × Location) := []
    for operand in operands do
      let followed := tree.stat frame.cwd ⟨operand⟩
      let self := tree.statSelf frame.cwd ⟨operand⟩
      let leadsToDirectory := match followed with
        | .ok (_, node) => node.isDirectory
        | .error _ => false
      let found := if options.has 'L' || (leadsToDirectory && !long && !options.has 'd') then followed
        else self
      match found with
      | .ok (place, node) =>
          let file := listed tree operand place node
          if node.isDirectory && !options.has 'd' then directories := directories ++ [(file, place)]
          else files := files ++ [file]
      | .error e =>
          frame.complain ("cannot access " ++ quote operand ++ ": " ++ describe e)
          worst := 2
    frame.say (page options (listingLines options now (sortListed options files)))
    let sorted := sortListed options (directories.map Prod.fst)
    let ordered := sorted.filterMap fun file =>
      (directories.find? fun entry => entry.1.name == file.name).map fun entry =>
        (file.name, entry.2, file.node)
    showDirectories frame options (1 < operands.length || options.has 'R') depthLimit files.isEmpty ordered
    return .exited worst

def statField (file : Listed) (name : String) (c : Char) : String :=
  let time (form : String) : String := Dates.format form file.node.modified
  let full := "%Y-%m-%d %H:%M:%S.%N %z"
  match c with
  | 'n' => name
  | 'N' =>
      match file.node.content with
      | .link target => quote name ++ " -> " ++ quote target
      | _ => quote name
  | 's' => toString file.node.size
  | 'a' => Mode.octalText file.node.mode
  | 'A' => permissions file.node
  | 'f' =>
      let kind := match kindLetter file.node with
        | 'd' => 16384
        | 'l' => 40960
        | 'c' => 8192
        | 'p' => 4096
        | _ => 32768
      String.ofList (Nat.toDigits 16 (kind + file.node.mode))
  | 'F' => kindOf file.node
  | 'h' => toString file.links
  | 'i' => toString (file.number + 1000)
  | 'u' => "0"
  | 'g' => "0"
  | 'U' => "root"
  | 'G' => "root"
  | 'b' => toString (blocks file.node * 2)
  | 'B' => "512"
  | 'o' => "4096"
  | 'd' => "48"
  | 'D' => "30"
  | 't' => "0"
  | 'T' => "0"
  | 'm' => "/"
  | 'w' => "-"
  | 'W' => "0"
  | 'x' => time full
  | 'y' => time full
  | 'z' => time full
  | 'X' => time "%s"
  | 'Y' => time "%s"
  | 'Z' => time "%s"
  | '%' => "%"
  | _ => "?"

def formatEscape (c : Char) : String :=
  match c with
  | 'n' => "\n"
  | 't' => "\t"
  | 'a' => "\x07"
  | '\\' => "\\"
  | '"' => "\""
  | '0' => "\x00"
  | c => "\\" ++ String.singleton c

/-- What is known of a file as a format says; escapes count if `escapes` is set. `fuel` is more than
the length of the format. -/
def statFormat (file : Listed) (escapes : Bool) : Nat → List Char → String
  | 0, _ => ""
  | _, [] => ""
  | fuel + 1, '%' :: rest =>
      let digits := rest.takeWhile fun d => d.isDigit || d == '-'
      match rest.drop digits.length with
      | letter :: after =>
          let text := statField file file.name letter
          let width := (natural? (String.ofList (digits.filter Char.isDigit))).getD 0
          (if digits.head? == some '-' then padRight width text else padLeft width text) ++
            statFormat file escapes fuel after
      | [] => "%"
  | fuel + 1, '\\' :: c :: rest =>
      (if escapes then formatEscape c else "\\" ++ String.singleton c) ++
        statFormat file escapes fuel rest
  | fuel + 1, c :: rest => String.singleton c ++ statFormat file escapes fuel rest

def statUsual (file : Listed) : String :=
  let field (c : Char) : String := statField file file.name c
  let digits := field 'a'
  "  File: " ++ (match file.node.content with
    | .link target => file.name ++ " -> " ++ target
    | _ => file.name) ++ "\n  Size: " ++ padRight 10 (field 's') ++ "\tBlocks: " ++
    padRight 10 (field 'b') ++ " IO Block: " ++ padRight 6 (field 'o') ++ " " ++ field 'F' ++
    "\nDevice: 0,48\tInode: " ++ padRight 11 (field 'i') ++ " Links: " ++ field 'h' ++
    "\nAccess: (" ++ String.ofList (List.replicate (4 - digits.length) '0') ++ digits ++ "/" ++
    field 'A' ++ ")  Uid: (    0/    root)   Gid: (    0/    root)\nAccess: " ++ field 'x' ++
    "\nModify: " ++ field 'y' ++ "\nChange: " ++ field 'z' ++ "\n Birth: -\n"

def stat (frame : Frame) : Work Ending :=
  withOptions frame "Lftc:"
      [("dereference", 'L'), ("file-system", 'f'), ("terse", 't'), ("format=", 'c'), ("printf=", 'p')]
      fun options => do
    if options.operands.isEmpty then frame.misused "missing operand"
    else
      let tree ← frame.view
      forEach options.operands fun operand => do
        let found := if options.has 'L' then tree.stat frame.cwd ⟨operand⟩
          else tree.statSelf frame.cwd ⟨operand⟩
        match found with
        | .error e =>
            frame.complain ("cannot statx " ++ quote operand ++ ": " ++ describe e)
            return false
        | .ok (place, node) =>
            let file := listed tree operand place node
            match options.value? 'c', options.value? 'p' with
            | _, some text => frame.say (statFormat file true (text.length + 1) text.toList)
            | some text, none => frame.say (statFormat file false (text.length + 1) text.toList ++ "\n")
            | none, none => frame.say (statUsual file)
            return true

/-- How many blocks everything at a place takes, with what is shown of that. `fuel` bounds how deep
directories lie. -/
def usage (tree : FileTree) (all : Bool) : Nat → String → Location → Nat × List (Nat × String × Nat)
  | 0, _, _ => (0, [])
  | fuel + 1, name, place =>
      match tree.find? place with
      | none => (0, [])
      | some node =>
          let inner := (sortNames (tree.children place)).map fun child =>
            usage tree all fuel (below name child) (place ++ [child])
          let total := inner.foldl (fun total found => total + found.1) (blocks node)
          let lines := inner.flatMap fun found =>
            found.2.map fun (depth, name, size) => (depth + 1, name, size)
          (total, lines ++ (if node.isDirectory || all then [(0, name, total)] else []))

def du (frame : Frame) : Work Ending :=
  withOptions frame "ascbhkd:L"
      [("all", 'a'), ("summarize", 's'), ("total", 'c'), ("bytes", 'b'), ("human-readable", 'h'),
        ("max-depth=", 'd')] fun options => do
    let tree ← frame.view
    let text (n : Nat) : String :=
      if options.has 'h' then (if n = 0 then "0" else roundedSize (n * 1024)) else toString n
    let most := if options.has 's' then 0 else ((options.value? 'd').bind natural?).getD depthLimit
    forEach (if options.operands.isEmpty then ["."] else options.operands) fun operand => do
      match tree.statSelf frame.cwd ⟨operand⟩ with
      | .error e =>
          frame.complain ("cannot access " ++ quote operand ++ ": " ++ describe e)
          return false
      | .ok (place, _) =>
          let (total, lines) := usage tree (options.has 'a') depthLimit operand place
          let lines := lines.filter fun line => line.1 ≤ most
          let lines := if lines.any fun line => line.1 == 0 then lines else lines ++ [(0, operand, total)]
          for (_, name, size) in lines do frame.say (text size ++ "\t" ++ name ++ "\n")
          return true

end LifecycleHooks.Tool
