import LifecycleHooks.Tool.Places

/-!
Moving and copying. The last operand says where to: to a place itself, or into a directory under the
names that things have already.
-/

namespace LifecycleHooks.Tool

open Process Text

structure Journey where
  source : String
  target : String

def journeys (tree : FileTree) (cwd : Location) (options : Options) :
    Except (String × Bool) (List Journey) :=
  let into (directory : String) (sources : List String) : List Journey :=
    sources.map fun source => ⟨source, below directory (lastName source)⟩
  let problem (path : String) : SystemError :=
    match tree.stat cwd ⟨path⟩ with
    | .ok _ => .notADirectory
    | .error e => e
  match options.value? 't', options.operands with
  | _, [] => .error ("missing file operand", true)
  | some directory, sources =>
      if tree.isDirectoryAt cwd ⟨directory⟩ then .ok (into directory sources)
      else .error ("target directory " ++ quote directory ++ ": " ++ describe (problem directory), false)
  | none, [one] => .error ("missing destination file operand after " ++ quote one, true)
  | none, [source, target] =>
      if !options.has 'T' && tree.isDirectoryAt cwd ⟨target⟩ then .ok (into target [source])
      else .ok [⟨source, target⟩]
  | none, operands =>
      let directory := operands.getLast?.getD ""
      if options.has 'T' then .error ("extra operand " ++ quote (operands.getD 2 ""), true)
      else if tree.isDirectoryAt cwd ⟨directory⟩ then .ok (into directory operands.dropLast)
      else .error ("target " ++ quote directory ++ ": " ++ describe (problem directory), false)

inductive Verdict
  | goOn
  | skip
  | refuse (problem : String)

def collision (frame : Frame) (options : Options) (journey : Journey) (node other : Node) : Work Verdict := do
  if node.isDirectory && !other.isDirectory then
    return .refuse ("cannot overwrite non-directory " ++ quote journey.target ++ " with directory " ++
      quote journey.source)
  else if other.isDirectory && !node.isDirectory then
    return .refuse ("cannot overwrite directory " ++ quote journey.target ++ " with non-directory")
  else if options.has 'u' && options.value? 'u' != some "all" && node.modified ≤ other.modified then
    return .skip
  else
    match options.last? ['f', 'i', 'n'] with
    | some 'n' => return .skip
    | some 'i' =>
        if node.isDirectory then return .goOn
        else
          return if ← confirm frame ("overwrite " ++ quote journey.target ++ "? ") then .goOn else .skip
    | _ => return .goOn

def announce (frame : Frame) (options : Options) (start : String) (journey : Journey) : Work Unit :=
  if options.has 'v' then
    frame.say (start ++ quote journey.source ++ " -> " ++ quote journey.target ++ "\n")
  else pure ()

def moveOne (frame : Frame) (options : Options) (journey : Journey) : Work Bool := do
  let refuse (problem : String) : Work Bool := do
    frame.complain problem
    return false
  let tree ← Work.look World.tree
  let cannot (e : SystemError) : Work Bool :=
    refuse ("cannot move " ++ quote journey.source ++ " to " ++ quote journey.target ++ ": " ++ describe e)
  match tree.statSelf frame.cwd ⟨journey.source⟩ with
  | .error e => refuse ("cannot stat " ++ quote journey.source ++ ": " ++ describe e)
  | .ok (origin, node) =>
      match tree.locateSelf frame.cwd ⟨journey.target⟩ with
      | .error e => cannot e
      | .ok place =>
          let last := lastName journey.source
          if last == "." || last == ".." then cannot .busy
          else if Route.endsWithSlash ⟨journey.target⟩ && !node.isDirectory &&
              (tree.find? place).isNone then cannot .notADirectory
          else if origin.isPrefixOf place && origin != place && node.isDirectory then
            refuse ("cannot move " ++ quote journey.source ++ " to a subdirectory of itself, " ++
              quote journey.target)
          else
            let perform : Work Bool := do
              Work.modify fun world => { world with tree := world.tree.move origin place }
              announce frame options "renamed " journey
              return true
            match tree.find? place with
            | none => perform
            | some other =>
                if tree.number? place == tree.number? origin then
                  if place == origin || !(node.content matches .link _) then
                    refuse (quote journey.source ++ " and " ++ quote journey.target ++ " are the same file")
                  else perform
                else
                  match ← collision frame options journey node other with
                  | .skip =>
                      if options.last? ['f', 'i', 'n'] == some 'n' then
                        refuse ("not replacing " ++ quote journey.target)
                      else return true
                  | .refuse problem => refuse problem
                  | .goOn =>
                      if other.isDirectory && !(tree.children place).isEmpty then
                        refuse ("cannot overwrite " ++ quote journey.target ++ ": " ++ describe .notEmpty)
                      else perform

def mv (frame : Frame) : Work Ending :=
  withOptions frame "finuvTt:bZS:"
      [("force", 'f'), ("interactive", 'i'), ("no-clobber", 'n'), ("update=?", 'u'), ("verbose", 'v'),
        ("no-target-directory", 'T'), ("target-directory=", 't'), ("strip-trailing-slashes", 's')]
      fun options => do
    match journeys (← frame.view) frame.cwd options with
    | .error (problem, true) => frame.misused problem
    | .error (problem, false) =>
        frame.complain problem
        return failed
    | .ok found =>
        let mut fine := true
        for journey in found do
          if !(← moveOne frame options journey) then fine := false
        return ofBool fine

structure CopyManner where
  recursive : Bool
  /-- Whether links that operands name are followed. -/
  followsOperands : Bool
  /-- Whether links in directories are followed. -/
  followsAll : Bool
  /-- Whether modes and times stay as they are. -/
  preserves : Bool

def CopyManner.ofOptions (options : Options) : CopyManner :=
  let recursive := ['r', 'R', 'a'].any options.has
  let links := options.last? ['L', 'P', 'H', 'd', 'a']
  { recursive := recursive
    followsOperands := match links with
      | some 'L' => true
      | some 'H' => true
      | some _ => false
      | none => !recursive
    followsAll := links == some 'L'
    preserves := options.has 'p' || options.has 'a' || (options.value? 'x').isSome }

/-- Copies the contents of a file into one that may be there already. -/
def copyFile (frame : Frame) (manner : CopyManner) (options : Options) (journey : Journey)
    (node : Node) : Work (Option String) := do
  let before ← frame.view
  let isNew := !before.pathExists frame.cwd ⟨journey.target⟩
  match ← withSource frame (if journey.source == "-" then "./-" else journey.source) fun descriptor =>
      Work.readAll frame.pid descriptor with
  | .error e => return some ("cannot open " ++ quote journey.source ++ " for reading: " ++ describe e)
  | .ok bytes =>
      let bytes := match node.content with
        | .program name => Text.octets name
        | _ => bytes
      if isNew && Route.endsWithSlash ⟨journey.target⟩ then
        return some ("cannot create regular file " ++ quote journey.target ++ ": " ++ describe .notADirectory)
      match ← Work.openRoute frame.pid frame.cwd ⟨journey.target⟩ .writing with
      | .error e =>
          return some ("cannot create regular file " ++ quote journey.target ++ ": " ++ describe e)
      | .ok descriptor =>
          let problem ← Work.write frame.pid descriptor bytes
          Work.modify fun world =>
            match world.number? frame.pid descriptor with
            | none => world
            | some number =>
                { world with tree := world.tree.change number fun target =>
                    { target with
                      content := match node.content with
                        | .program name => .program name
                        | _ => target.content
                      mode := if manner.preserves then node.mode
                        else if isNew then world.masked frame.pid (node.mode % 512) else target.mode
                      modified := if manner.preserves then node.modified else target.modified } }
          Work.close frame.pid descriptor
          match problem with
          | some e => return some ("error writing " ++ quote journey.target ++ ": " ++ describe e)
          | none =>
              announce frame options "" journey
              return none

def copySpecial (frame : Frame) (options : Options) (journey : Journey) (node : Node) :
    Work (Option String) := do
  match ← attempt (fun world => do
      let place ← world.tree.locateSelf frame.cwd ⟨journey.target⟩
      return { world with tree := world.tree.put place node }) with
  | none =>
      announce frame options "" journey
      return none
  | some e =>
      return some ("cannot create symbolic link " ++ quote journey.target ++ ": " ++ describe e)

/-- Copies one thing, with everything below it when that is asked for. `fuel` bounds how deep
directories lie. -/
def copyOne (frame : Frame) (manner : CopyManner) (options : Options) :
    Nat → Bool → Journey → Work Bool
  | 0, _, _ => return false
  | fuel + 1, isOperand, journey => do
      let refuse (problem : String) : Work Bool := do
        frame.complain problem
        return false
      let tree ← frame.view
      let follows := if isOperand then manner.followsOperands else manner.followsAll
      let found := if follows then tree.stat frame.cwd ⟨journey.source⟩
        else tree.statSelf frame.cwd ⟨journey.source⟩
      match found with
      | .error e => refuse ("cannot stat " ++ quote journey.source ++ ": " ++ describe e)
      | .ok (origin, node) =>
          let target := tree.stat frame.cwd ⟨journey.target⟩
          let place? := (tree.locate frame.cwd ⟨journey.target⟩).toOption
          let finish (problem : Option String) : Work Bool :=
            match problem with
            | none => return true
            | some problem => refuse problem
          if node.isDirectory && !manner.recursive then
            refuse ("-r not specified; omitting directory " ++ quote journey.source)
          else if node.isDirectory && place?.any fun place => origin.isPrefixOf place then
            refuse ("cannot copy a directory, " ++ quote journey.source ++ ", into itself, " ++
              quote (if place? == some origin then below journey.target (lastName journey.source)
                else journey.target))
          else
            let verdict ← match target with
              | .ok (place, other) =>
                  if !node.isDirectory && tree.number? place == tree.number? origin then
                    if options.has 'l' then pure Verdict.skip
                    else
                      pure (Verdict.refuse
                        (quote journey.source ++ " and " ++ quote journey.target ++ " are the same file"))
                  else collision frame options journey node other
              | .error _ => pure .goOn
            match verdict with
            | .skip => return true
            | .refuse problem => refuse problem
            | .goOn =>
                match node.content with
                | .directory =>
                    let made ← attempt fun world => do
                      let place ← world.tree.locate frame.cwd ⟨journey.target⟩
                      if (world.tree.find? place).isSome then return world
                      else
                        let world := world.put frame.pid place .directory (node.mode % 512)
                        return if manner.preserves then
                          changeNode world place fun _ => node else world
                    match made with
                    | some e =>
                        refuse ("cannot create directory " ++ quote journey.target ++ ": " ++ describe e)
                    | none =>
                        announce frame options "" journey
                        let mut fine := true
                        for child in sortNames (tree.children origin) do
                          let next : Journey := ⟨below journey.source child, below journey.target child⟩
                          if !(← copyOne frame manner options fuel false next) then fine := false
                        return fine
                | .link _ =>
                    finish (← copySpecial frame options journey node)
                | _ =>
                    if options.has 's' || options.has 'l' then
                      let outcome ← attempt fun world => do
                        let place ← world.tree.locateSelf frame.cwd ⟨journey.target⟩
                        if (world.tree.find? place).isSome && !options.has 'f' then
                          throw SystemError.fileExists
                        if options.has 's' then
                          return { world with
                            tree := world.tree.put place ⟨.link journey.source, 511, world.now⟩ }
                        else giveName frame.cwd journey.source journey.target world
                      match outcome with
                      | none => return true
                      | some e =>
                          refuse ("cannot create " ++ (if options.has 's' then "symbolic" else "hard") ++
                            " link " ++ quote journey.target ++ ": " ++ describe e)
                    else finish (← copyFile frame manner options journey node)

def cp (frame : Frame) : Work Ending :=
  withOptions frame "abdfiHlLnPprRst:TuvxS:Z"
      [("archive", 'a'), ("force", 'f'), ("interactive", 'i'), ("link", 'l'), ("dereference", 'L'),
        ("no-clobber", 'n'), ("no-dereference", 'P'), ("preserve=?", 'x'), ("recursive", 'R'),
        ("symbolic-link", 's'), ("target-directory=", 't'), ("no-target-directory", 'T'),
        ("update=?", 'u'), ("verbose", 'v'), ("parents", 'X'), ("remove-destination", 'D')]
      fun options => do
    match journeys (← frame.view) frame.cwd options with
    | .error (problem, true) => frame.misused problem
    | .error (problem, false) =>
        frame.complain problem
        return failed
    | .ok found =>
        let manner := CopyManner.ofOptions options
        let mut fine := true
        for journey in found do
          if !(← copyOne frame manner options depthLimit true journey) then fine := false
        return ofBool fine

def install (frame : Frame) : Work Ending :=
  withOptions frame "bcCdDg:m:o:pst:TvZS:"
      [("directory", 'd'), ("mode=", 'm'), ("group=", 'g'), ("owner=", 'o'), ("target-directory=", 't'),
        ("no-target-directory", 'T'), ("verbose", 'v'), ("preserve-timestamps", 'p'), ("strip", 's'),
        ("compare", 'C')] fun options => do
    let mode := (options.value? 'm').map fun text => (text, Mode.parse? text)
    match mode with
    | some (text, none) =>
        frame.complain ("invalid mode " ++ quote text)
        return failed
    | _ =>
        let bits := match mode with
          | some (_, some mode) => mode.apply 0 (options.has 'd') 0
          | _ => 493
        if options.has 'd' then
          if options.operands.isEmpty then frame.misused "missing file operand"
          else
            forEach options.operands fun operand => do
              match ← makeDeep frame (some (.absolute bits)) operand with
              | .ok _ => return true
              | .error (path, e) =>
                  frame.complain ("cannot create directory " ++ quote path ++ ": " ++ describe e)
                  return false
        else
          if options.has 'D' then
            let target := options.operands.getLast?.getD ""
            let above := (upwards 1 target).getD 1 ""
            if !above.isEmpty then
              let _ ← makeDeep frame none above
          match journeys (← frame.view) frame.cwd options with
          | .error (problem, true) => frame.misused problem
          | .error (problem, false) =>
              frame.complain problem
              return failed
          | .ok found =>
              let manner : CopyManner := ⟨false, true, true, options.has 'p'⟩
              let plain : Options :=
                { options with given := options.given.filter fun entry => entry.1 == 'v' }
              let mut fine := true
              for journey in found do
                if ← copyOne frame manner plain 1 true journey then
                  Work.modify fun world =>
                    match world.tree.locate frame.cwd ⟨journey.target⟩ with
                    | .ok place => changeNode world place fun node => { node with mode := bits }
                    | .error _ => world
                else fine := false
              return ofBool fine

end LifecycleHooks.Tool
