import LifecycleHooks.Tool.Contents
import LifecycleHooks.Tool.Dates
import LifecycleHooks.Tool.Mode

/-!
Programs that make, remove and change what is in the tree of files.
-/

namespace LifecycleHooks.Tool

open Process Text

def forEachPlace (frame : Frame) (operands : List String) (complaint : String → String)
    (change : String → World → Except SystemError World) : Work Ending :=
  forEach operands fun operand => do
    match ← attempt (change operand) with
    | none => return true
    | some e =>
        frame.complain (complaint operand ++ ": " ++ describe e)
        return false

def insertName (name : String) : List String → List String
  | [] => [name]
  | other :: rest => if name ≤ other then name :: other :: rest else other :: insertName name rest

def sortNames (names : List String) : List String := names.foldr insertName []

def below (operand name : String) : String := (Route.join ⟨operand⟩ ⟨name⟩).text

/-- A place with everything below it, the place first, with what it is called. `fuel` bounds how deep
directories lie. -/
def placesBelow (tree : FileTree) : Nat → String → Location → List (String × Location)
  | 0, name, place => [(name, place)]
  | fuel + 1, name, place =>
      (name, place) :: (sortNames (tree.children place)).flatMap fun child =>
        placesBelow tree fuel (below name child) (place ++ [child])

def depthLimit : Nat := 2048

def changeNode (world : World) (location : Location) (f : Node → Node) : World :=
  match world.tree.number? location with
  | some number => { world with tree := world.tree.change number f }
  | none => world

def touchTime (frame : Frame) (options : Options) : Work (Except String Int) := do
  let now ← Work.look World.now
  match options.last? ['d', 't', 'r'] with
  | some 'd' =>
      let text := (options.value? 'd').getD ""
      return ((Dates.parse? now text).map Except.ok).getD (.error ("invalid date format " ++ cited text))
  | some 't' =>
      let text := (options.value? 't').getD ""
      return ((Dates.parseDigits? now text).map Except.ok).getD
        (.error ("invalid date format " ++ cited text))
  | some _ =>
      let path := (options.value? 'r').getD ""
      let tree ← frame.view
      match tree.stat frame.cwd ⟨path⟩ with
      | .ok (_, node) => return .ok node.modified
      | .error e => return .error ("failed to get attributes of " ++ quote path ++ ": " ++ describe e)
  | none => return .ok now

def touch (frame : Frame) : Work Ending :=
  withOptions frame "acmfhd:t:r:"
      [("no-create", 'c'), ("date=", 'd'), ("reference=", 'r'), ("no-dereference", 'h'), ("time=", 'T')]
      fun options => do
    match ← touchTime frame options with
    | .error problem =>
        frame.complain problem
        return failed
    | .ok time =>
        if options.operands.isEmpty then frame.misused "missing file operand"
        else
          forEach options.operands fun operand => do
            let route : Route := ⟨operand⟩
            let found ← Work.change fun world =>
              match (world.view frame.pid).locate frame.cwd route with
              | .error e => (some e, world)
              | .ok location =>
                  match world.tree.find? location with
                  | some _ =>
                      (none, changeNode world location fun node => { node with modified := time })
                  | none =>
                      if options.has 'c' || (location.take 2 == ["proc", "self"]) then (none, world)
                      else if route.endsWithSlash then (some .noSuchFile, world)
                      else
                        let world := world.make frame.pid location
                        (none, changeNode world location fun node => { node with modified := time })
            match found with
            | none => return true
            | some e =>
                if options.has 'c' && e = .noSuchFile then return true
                frame.complain ((if route.endsWithSlash then "setting times of " else "cannot touch ") ++
                  quote operand ++ ": " ++ describe e)
                return false

/-- Whether a complaint is about the last directory that is to be made, and not about one above it. -/
def blockedBy (tree : FileTree) (cwd : Location) (steps : List String) (base : String) :
    Option (String × SystemError) :=
  steps.zipIdx.findSome? fun (_, i) =>
    let path := base ++ "/".intercalate (steps.take (i + 1))
    match tree.stat cwd ⟨path⟩ with
    | .ok (_, node) =>
        if node.isDirectory then none
        else some (path, if i + 1 = steps.length then .fileExists else .notADirectory)
    | .error e => if e = .noSuchFile then none else some (path, e)

def makeDeep (frame : Frame) (mode : Option Mode) (operand : String) :
    Work (Except (String × SystemError) (List String)) :=
  Work.change fun world =>
    let route : Route := ⟨operand⟩
    let steps := route.steps.filter (· != ".")
    let base := if route.isAbsolute then "/" else ""
    if operand.isEmpty then (.error (operand, .noSuchFile), world)
    else
      match blockedBy world.tree frame.cwd steps base with
      | some problem => (.error problem, world)
      | none =>
          let (made, world) := steps.zipIdx.foldl (fun (made, world) (_, i) =>
            let path := base ++ "/".intercalate (steps.take (i + 1))
            match world.tree.locate frame.cwd ⟨path⟩ with
            | .ok location =>
                if (world.tree.find? location).isSome then (made, world)
                else
                  let bits := if i + 1 = steps.length then
                      (mode.map fun mode => mode.apply 0 true 511)
                    else none
                  let world := world.put frame.pid location .directory 511
                  (made ++ [path], match bits with
                    | some bits => changeNode world location fun node => { node with mode := bits }
                    | none => world)
            | .error _ => (made, world)) (([] : List String), world)
          (.ok made, world)

def mkdir (frame : Frame) : Work Ending :=
  withOptions frame "pvm:Z" [("parents", 'p'), ("verbose", 'v'), ("mode=", 'm')] fun options => do
    if options.operands.isEmpty then frame.misused "missing operand"
    else
      let mode := (options.value? 'm').bind Mode.parse?
      if (options.value? 'm').isSome && mode.isNone then
        frame.complain ("invalid mode " ++ cited ((options.value? 'm').getD ""))
        return failed
      let refuse (path : String) (e : SystemError) : Work Bool := do
        frame.complain ("cannot create directory " ++ cited path ++ ": " ++ describe e)
        return false
      let announce (path : String) : Work Unit :=
        if options.has 'v' then frame.say (frame.program ++ ": created directory " ++ quote path ++ "\n")
        else pure ()
      forEach options.operands fun operand => do
        if options.has 'p' then
          match ← makeDeep frame mode operand with
          | .error (path, e) => refuse path e
          | .ok made =>
              for path in made do announce path
              return true
        else
          match ← attempt (fun world => do
              let location ← world.tree.locateSelf frame.cwd ⟨operand⟩
              if (world.tree.find? location).isSome then throw SystemError.fileExists
              let world := world.put frame.pid location .directory 511
              match mode with
              | some mode =>
                  return changeNode world location fun node => { node with mode := mode.apply 0 true 511 }
              | none => return world) with
          | some e => refuse operand e
          | none =>
              announce operand
              return true

def removeEmpty (cwd : Location) (operand : String) (world : World) : Except SystemError World := do
  let (location, node) ← world.tree.statSelf cwd ⟨operand⟩
  if !node.isDirectory then throw SystemError.notADirectory
  if ((Text.splitOnChar '/' operand.toList).filter (· != [])).getLast? == some ['.'] then
    throw SystemError.invalidArgument
  if !(world.tree.children location).isEmpty then throw SystemError.notEmpty
  return { world with tree := world.tree.remove location }

/-- A path and those of the directories above it, as far as it names them. -/
def upwards : Nat → String → List String
  | 0, path => [path]
  | fuel + 1, path =>
      let chars := path.toList.reverse.dropWhile (· == '/')
      let above := (chars.dropWhile (· != '/')).dropWhile (· == '/')
      path :: (if above.isEmpty then [] else upwards fuel (String.ofList above.reverse))

def rmdir (frame : Frame) : Work Ending :=
  withOptions frame "pv" [("parents", 'p'), ("verbose", 'v'), ("ignore-fail-on-non-empty", 'i')]
      fun options =>
    if options.operands.isEmpty then frame.misused "missing operand"
    else
      forEach options.operands fun operand => do
        let paths := if options.has 'p' then upwards operand.length operand else [operand]
        let mut fine := true
        for (path, i) in paths.zipIdx do
          if fine then
            if options.has 'v' then
              frame.say (frame.program ++ ": removing directory, " ++ quote path ++ "\n")
            match ← attempt (removeEmpty frame.cwd path) with
            | none => pure ()
            | some e =>
                if !(options.has 'i' && e = .notEmpty) then
                  frame.complain ((if i = 0 then "failed to remove " else "failed to remove directory ") ++
                    quote path ++ ": " ++ describe e)
                fine := false
        return fine

def confirm (frame : Frame) (question : String) : Work Bool := do
  Work.writeText frame.pid 2 (frame.name ++ ": " ++ question)
  match ← Work.readLine frame.pid 0 with
  | .ok (byte :: _) => return byte == 121 || byte == 89
  | _ => return false

def kindOf (node : Node) : String :=
  match node.content with
  | .file [] => "regular empty file"
  | .file _ => "regular file"
  | .program _ => "regular file"
  | .directory => "directory"
  | .link _ => "symbolic link"
  | .device _ => "character special file"
  | .pipe _ _ => "fifo"

def lastName (operand : String) : String :=
  String.ofList (((Text.splitOnChar '/' operand.toList).filter (· != [])).getLast?.getD [])

def removePlace (frame : Frame) (options : Options) (operand : String) : Work Bool := do
  let recursive := options.has 'r' || options.has 'R'
  let force := options.last? ['f', 'i', 'I'] == some 'f'
  let refuse (problem : String) : Work Bool := do
    frame.complain problem
    return false
  match (← frame.view).statSelf frame.cwd ⟨operand⟩ with
  | .error e =>
      if force && (e == .noSuchFile || e == .notADirectory) then return true
      else refuse ("cannot remove " ++ quote operand ++ ": " ++ describe e)
  | .ok (location, node) =>
      let name := lastName operand
      if node.isDirectory && recursive && (name == "." || name == "..") then
        refuse ("refusing to remove '.' or '..' directory: skipping " ++ quote operand)
      else if location.isEmpty then
        if recursive then
          refuse ("it is dangerous to operate recursively on " ++ quote operand ++ "\n" ++ frame.name ++
            ": use --no-preserve-root to override this failsafe")
        else refuse ("cannot remove " ++ quote operand ++ ": " ++ describe .isADirectory)
      else if node.isDirectory && !recursive &&
          !(options.has 'd' && ((← frame.view).children location).isEmpty) then
        let e : SystemError := if options.has 'd' then .notEmpty else .isADirectory
        refuse ("cannot remove " ++ quote operand ++ ": " ++ describe e)
      else
        let agreed ← if options.last? ['f', 'i'] == some 'i' then
            confirm frame ("remove " ++ kindOf node ++ " " ++ quote operand ++ "? ")
          else pure true
        if !agreed then return true
        let tree ← Work.look World.tree
        Work.modify fun world => { world with tree := world.tree.remove location }
        if options.has 'v' then
          for (path, place) in (placesBelow tree depthLimit operand location).reverse do
            let start := if tree.isDirectory place then "removed directory " else "removed "
            frame.say (start ++ quote path ++ "\n")
        return true

def rm (frame : Frame) : Work Ending :=
  withOptions frame "frRdviI"
      [("force", 'f'), ("recursive", 'r'), ("dir", 'd'), ("verbose", 'v'), ("interactive=?", 'i'),
        ("preserve-root=?", 'P'), ("no-preserve-root", 'N'), ("one-file-system", 'O')] fun options =>
    if options.operands.isEmpty then
      if options.has 'f' then pure ok else frame.misused "missing operand"
    else forEach options.operands (removePlace frame options)

def unlink (frame : Frame) : Work Ending :=
  withOptions frame "" [] fun options =>
    match options.operands with
    | [] => frame.misused "missing operand"
    | [operand] =>
        forEachPlace frame [operand] (fun operand => "cannot unlink " ++ quote operand)
          fun operand world => do
            let (location, node) ← world.tree.statSelf frame.cwd ⟨operand⟩
            if node.isDirectory then throw SystemError.isADirectory
            return { world with tree := world.tree.remove location }
    | _ :: extra :: _ => frame.misused ("extra operand " ++ cited extra)

def giveName (cwd : Location) (source target : String) (world : World) : Except SystemError World := do
  let (origin, node) ← world.tree.statSelf cwd ⟨source⟩
  if node.isDirectory then throw SystemError.notPermitted
  let place ← world.tree.locateSelf cwd ⟨target⟩
  if (world.tree.find? place).isSome then throw SystemError.fileExists
  match world.tree.number? origin with
  | some number => return { world with tree := world.tree.enter place number }
  | none => throw SystemError.noSuchFile

def link (frame : Frame) : Work Ending :=
  withOptions frame "" [] fun options => do
    match options.operands with
    | [] => frame.misused "missing operand"
    | [one] => frame.misused ("missing operand after " ++ cited one)
    | [source, target] =>
        match ← attempt (giveName frame.cwd source target) with
        | none => return ok
        | some e =>
            frame.complain ("cannot create link " ++ quote target ++ " to " ++ quote source ++ ": " ++
              describe e)
            return failed
    | _ :: _ :: extra :: _ => frame.misused ("extra operand " ++ cited extra)

def relativePath (base target : Location) : String :=
  let shared := ((base.zip target).takeWhile fun pair => pair.1 == pair.2).length
  let steps := List.replicate (base.length - shared) ".." ++ target.drop shared
  if steps.isEmpty then "." else "/".intercalate steps

def linkOne (frame : Frame) (options : Options) (source target : String) : Work Bool := do
  let symbolic := options.has 's'
  let tree ← frame.view
  let refuse (problem : String) : Work Bool := do
    frame.complain problem
    return false
  let kind := if symbolic then "symbolic" else "hard"
  let found := tree.statSelf frame.cwd ⟨source⟩
  match symbolic, found with
  | false, .error e => refuse ("failed to access " ++ quote source ++ ": " ++ describe e)
  | _, _ =>
      let isDirectory := match found with
        | .ok (_, node) => node.isDirectory
        | .error _ => false
      if !symbolic && isDirectory then
        refuse (source ++ ": hard link not allowed for directory")
      else
        let text := if symbolic && options.has 'r' then
            match tree.locate frame.cwd ⟨source⟩, tree.locateSelf frame.cwd ⟨target⟩ with
            | .ok origin, .ok place => relativePath place.dropLast origin
            | _, _ => source
          else source
        let outcome ← attempt fun world => do
          let place ← world.tree.locateSelf frame.cwd ⟨target⟩
          let world ← match world.tree.find? place with
            | none => pure world
            | some node =>
                if options.has 'f' && !node.isDirectory then
                  pure { world with tree := world.tree.remove place }
                else throw SystemError.fileExists
          if symbolic then
            return { world with tree := world.tree.put place ⟨.link text, 511, world.now⟩ }
          else giveName frame.cwd source target world
        match outcome with
        | none =>
            if options.has 'v' then
              frame.say (quote target ++ (if symbolic then " -> " else " => ") ++ quote text ++ "\n")
            return true
        | some e =>
            refuse ("failed to create " ++ kind ++ " link " ++ quote target ++ ": " ++ describe e)

def ln (frame : Frame) : Work Ending :=
  withOptions frame "sfnTt:vribLPS:"
      [("symbolic", 's'), ("force", 'f'), ("no-dereference", 'n'), ("no-target-directory", 'T'),
        ("target-directory=", 't'), ("verbose", 'v'), ("relative", 'r'), ("interactive", 'i'),
        ("logical", 'L'), ("physical", 'P')] fun options => do
    let tree ← frame.view
    let isDirectory (path : String) : Bool :=
      tree.isDirectoryAt frame.cwd ⟨path⟩ &&
        !(options.has 'n' && match tree.statSelf frame.cwd ⟨path⟩ with
          | .ok (_, node) => !node.isDirectory
          | .error _ => false)
    let into (directory : String) (sources : List String) : Work Ending :=
      forEach sources fun source =>
        linkOne frame options source (below directory (lastName source))
    match options.value? 't', options.operands with
    | _, [] => frame.misused "missing file operand"
    | some directory, sources =>
        if tree.isDirectoryAt frame.cwd ⟨directory⟩ then into directory sources
        else
          frame.complain ("target directory " ++ quote directory ++ ": " ++ describe .noSuchFile)
          return failed
    | none, [one] =>
        if options.has 'T' then frame.misused ("missing destination file operand after " ++ quote one)
        else return ofBool (← linkOne frame options one ("./" ++ lastName one))
    | none, [source, target] =>
        if !options.has 'T' && isDirectory target then into target [source]
        else return ofBool (← linkOne frame options source target)
    | none, operands =>
        let directory := operands.getLast?.getD ""
        if options.has 'T' then frame.misused ("extra operand " ++ quote (operands.getD 2 ""))
        else if tree.isDirectoryAt frame.cwd ⟨directory⟩ then into directory operands.dropLast
        else
          let e : SystemError :=
            if tree.pathExists frame.cwd ⟨directory⟩ then .notADirectory else .noSuchFile
          frame.complain ("target " ++ quote directory ++ ": " ++ describe e)
          return failed

inductive Existence
  | whole
  | above
  | nothing

def canonical (tree : FileTree) (cwd : Location) (existence : Existence) (path : String) :
    Except SystemError String :=
  let text (place : Location) : String := (Route.ofLocation place).text
  match existence with
  | .whole => (tree.stat cwd ⟨path⟩).map fun found => text found.1
  | .above => (tree.locate cwd ⟨String.ofList (path.toList.reverse.dropWhile (· == '/')).reverse⟩).map text
      |> fun found => if path.toList.all (· == '/') then (tree.locate cwd ⟨path⟩).map text else found
  | .nothing =>
      let steps := Route.steps ⟨path⟩
      let base : Location := if Route.isAbsolute ⟨path⟩ then [] else cwd
      .ok (text (steps.foldl (fun place step =>
        if step == "." then place else if step == ".." then place.dropLast
        else
          match tree.walk true FileTree.longestChain place [step] with
          | .ok next => next
          | .error _ => place ++ [step]) base))

def readlink (frame : Frame) : Work Ending :=
  withOptions frame "femnqsvz"
      [("canonicalize", 'f'), ("canonicalize-existing", 'e'), ("canonicalize-missing", 'm'),
        ("no-newline", 'n'), ("quiet", 'q'), ("silent", 's'), ("verbose", 'v'), ("zero", 'z')]
      fun options => do
    if options.operands.isEmpty then frame.misused "missing operand"
    else
      let tree ← frame.view
      let lineEnd := if options.has 'n' && options.operands.length = 1 then ""
        else if options.has 'z' then "\x00" else "\n"
      forEach options.operands fun operand => do
        let found : Except SystemError String := match options.last? ['f', 'e', 'm'] with
          | some 'f' => canonical tree frame.cwd .above operand
          | some 'e' => canonical tree frame.cwd .whole operand
          | some _ => canonical tree frame.cwd .nothing operand
          | none =>
              match tree.statSelf frame.cwd ⟨operand⟩ with
              | .ok (_, node) =>
                  match node.content with
                  | .link target => .ok target
                  | _ => .error .invalidArgument
              | .error e => .error e
        match found with
        | .ok text =>
            frame.say (text ++ lineEnd)
            return true
        | .error e =>
            if options.has 'v' then frame.complain (about operand e)
            return false

def realpath (frame : Frame) : Work Ending :=
  withOptions frame "emLPqsz"
      [("canonicalize-existing", 'e'), ("canonicalize-missing", 'm'), ("quiet", 'q'), ("strip", 's'),
        ("no-symlinks", 's'), ("zero", 'z'), ("relative-to=", 't'), ("relative-base=", 'b'),
        ("logical", 'L'), ("physical", 'P')] fun options => do
    if options.operands.isEmpty then frame.misused "missing operand"
    else
      let tree ← frame.view
      let find (operand : String) : Except SystemError String :=
        if options.has 's' then .ok (Route.ofLocation (Route.location frame.cwd ⟨operand⟩)).text
        else
          canonical tree frame.cwd
            (match options.last? ['e', 'm'] with
              | some 'e' => .whole
              | some _ => .nothing
              | none => .above) operand
      forEach options.operands fun operand => do
        match find operand with
        | .ok text =>
            let text := match (options.value? 't').map find with
              | some (.ok base) => relativePath (Route.steps ⟨base⟩) (Route.steps ⟨text⟩)
              | _ => text
            frame.say (text ++ (if options.has 'z' then "\x00" else "\n"))
            return true
        | .error e =>
            if !options.has 'q' then frame.complain (about operand e)
            return false

def freshLetters (seed : Nat) : Nat → List Char
  | 0 => []
  | n + 1 =>
      let letters := "abcdefghijklmnopqrstuvwxyzABCDEFGHIJKLMNOPQRSTUVWXYZ0123456789".toList
      letters.getD (seed % 62) 'a' :: freshLetters (seed * 7 / 3 + 11) n

def mktemp (frame : Frame) : Work Ending :=
  withOptions frame "duqp:t"
      [("directory", 'd'), ("dry-run", 'u'), ("quiet", 'q'), ("tmpdir=?", 'p'), ("suffix=", 's')]
      fun options => do
    match options.operands with
    | _ :: _ :: _ => frame.misused "too many templates"
    | operands =>
        let template := operands.headD "tmp.XXXXXXXXXX"
        let template := template ++ (options.value? 's').getD ""
        let back := template.toList.reverse.dropWhile (· != 'X')
        let marks := (back.takeWhile (· == 'X')).length
        let suffix := (template.toList.reverse.takeWhile (· != 'X')).reverse
        if marks < 3 then
          frame.complain ("too few X's in template " ++ cited template)
          return failed
        else
          let place := ((frame.environment.find? fun entry => entry.1 == "TMPDIR").map Prod.snd).getD ""
          let usual := if place.isEmpty then "/tmp" else place
          let directory := match options.value? 'p' with
            | some "" => usual
            | some directory => directory
            | none => if operands.isEmpty || options.has 't' then usual else ""
          let outcome ← Work.change fun world =>
            let seed := world.fresh * 7919 + world.tree.fresh * 104729 + world.clock
            let name := String.ofList ((back.drop marks).reverse ++ freshLetters seed marks ++ suffix)
            let path := if directory.isEmpty then name else below directory name
            let world := { world with fresh := world.fresh + 1 }
            match world.tree.locateSelf frame.cwd ⟨path⟩ with
            | .error e => (Except.error e, world)
            | .ok location =>
                if options.has 'u' then (.ok path, world)
                else if options.has 'd' then (.ok path, world.put frame.pid location .directory 448)
                else (.ok path, world.put frame.pid location (.file []) 384)
          match outcome with
          | .ok path =>
              frame.say (path ++ "\n")
              return ok
          | .error e =>
              let shown := if directory.isEmpty then template else below directory template
              frame.complain ("failed to create " ++ (if options.has 'd' then "directory" else "file") ++
                " via template " ++ cited shown ++ ": " ++ describe e)
              return failed

def mkfifo (frame : Frame) : Work Ending :=
  withOptions frame "m:" [("mode=", 'm')] fun options =>
    if options.operands.isEmpty then frame.misused "missing operand"
    else
      forEachPlace frame options.operands (fun operand => "cannot create fifo " ++ quote operand)
        fun operand world => do
          let location ← world.tree.locateSelf frame.cwd ⟨operand⟩
          if (world.tree.find? location).isSome then throw SystemError.fileExists
          let (pipe, world) := world.makePipe []
          return world.put frame.pid location (.pipe pipe true) 438

def newSize? (text : String) (size : Nat) : Option Nat :=
  match text.toList with
  | '+' :: rest => (Amount.parse? (String.ofList rest)).map (size + ·)
  | '-' :: rest => (Amount.parse? (String.ofList rest)).map (size - ·)
  | '<' :: rest => (Amount.parse? (String.ofList rest)).map (min size)
  | '>' :: rest => (Amount.parse? (String.ofList rest)).map (max size)
  | '/' :: rest => (Amount.parse? (String.ofList rest)).map fun n => size / n * n
  | '%' :: rest => (Amount.parse? (String.ofList rest)).map fun n => (size + n - 1) / n * n
  | _ => Amount.parse? text

def truncate (frame : Frame) : Work Ending :=
  withOptions frame "cor:s:" [("no-create", 'c'), ("io-blocks", 'o'), ("reference=", 'r'), ("size=", 's')]
      fun options => do
    let given := options.value? 's'
    let reference := options.value? 'r'
    if given.isNone && reference.isNone then
      frame.misused "you must specify either '--size' or '--reference'"
    else if given.any fun text => (newSize? text 0).isNone then
      frame.complain ("Invalid number: " ++ cited (given.getD ""))
      return failed
    else if options.operands.isEmpty then frame.misused "missing file operand"
    else
      forEachPlace frame options.operands (fun operand => "cannot open " ++ quote operand ++ " for writing")
        fun operand world => do
          let location ← world.tree.locate frame.cwd ⟨operand⟩
          let world ← match world.tree.find? location with
            | some node => if node.isDirectory then throw SystemError.isADirectory else pure world
            | none => if options.has 'c' then pure world else pure (world.make frame.pid location)
          let base := match reference with
            | some path => (world.tree.node frame.cwd ⟨path⟩).toOption.map Node.size
            | none => none
          match world.tree.number? location with
          | none => return world
          | some number =>
              let content := world.fileContent number
              let size := base.getD content.length
              let size := match given with
                | some text => (newSize? text size).getD size
                | none => size
              return world.setBytes number
                (content.take size ++ List.replicate (size - content.length) 0)

def modeArguments : List String → List String × List String
  | [] => ([], [])
  | "--" :: rest => ([], "--" :: rest)
  | arg :: rest =>
      let (modes, others) := modeArguments rest
      match arg.toList with
      | '-' :: c :: _ =>
          if "rwxXstugoa,+=01234567".toList.contains c then (arg :: modes, others)
          else (modes, arg :: others)
      | _ => (modes, arg :: others)

def changeMode (frame : Frame) (options : Options) (mode : Mode) (name : String) (place : Location) :
    Work Unit := do
  let change ← Work.change fun world =>
    match world.tree.find? place with
    | some node =>
        let bits := mode.apply (world.mask frame.pid) node.isDirectory node.mode
        ((node.mode, bits), changeNode world place fun node => { node with mode := bits })
    | none => ((0, 0), world)
  let text (bits : Nat) : String :=
    let digits := Mode.octalText bits
    String.ofList (List.replicate (4 - digits.length) '0') ++ digits ++ " (" ++ Mode.letters bits ++ ")"
  if options.has 'v' || (options.has 'c' && change.1 != change.2) then
    frame.say ("mode of " ++ quote name ++
      (if change.1 == change.2 then " retained as " ++ text change.1
        else " changed from " ++ text change.1 ++ " to " ++ text change.2) ++ "\n")

def chmod (frame : Frame) : Work Ending :=
  let (modes, args) := modeArguments frame.args
  withOptions { frame with args := args } "cfvR"
      [("changes", 'c'), ("silent", 'f'), ("quiet", 'f'), ("verbose", 'v'), ("recursive", 'R'),
        ("reference=", 'r')] fun options => do
    let tree ← frame.view
    let reference := options.value? 'r'
    let (text, operands) := match modes, reference, options.operands with
      | [], none, text :: operands => (text, operands)
      | [], _, operands => ("", operands)
      | _, _, operands => (",".intercalate modes, operands)
    let mode? : Option Mode := match reference with
      | some path => (tree.node frame.cwd ⟨path⟩).toOption.map fun node => .absolute node.mode
      | none => Mode.parse? text
    if modes.isEmpty && reference.isNone && options.operands.isEmpty then
      frame.misused "missing operand"
    else if operands.isEmpty then frame.misused ("missing operand after " ++ cited text)
    else
      match mode? with
      | none =>
          match reference with
          | some path =>
              frame.complain ("failed to get attributes of " ++ quote path ++ ": " ++ describe .noSuchFile)
              return failed
          | none => frame.misused ("invalid mode: " ++ cited text)
      | some mode =>
          forEach operands fun operand => do
            match tree.stat frame.cwd ⟨operand⟩ with
            | .ok (location, _) =>
                let places := if options.has 'R' then placesBelow tree depthLimit operand location
                  else [(operand, location)]
                for (name, place) in places do changeMode frame options mode name place
                return true
            | .error e =>
                if !options.has 'f' then
                  frame.complain ("cannot access " ++ quote operand ++ ": " ++ describe e)
                return false

def sync (frame : Frame) : Work Ending :=
  withOptions frame "df" [("data", 'd'), ("file-system", 'f')] fun options =>
    forEachPlace frame options.operands (fun operand => "error opening " ++ quote operand)
      fun operand world => do
        let _ ← world.tree.stat frame.cwd ⟨operand⟩
        return world

end LifecycleHooks.Tool
