import LifecycleHooks.Launch
import LifecycleHooks.Proofs.FileTree.Leading
import LifecycleHooks.Proofs.Text.Octets

/-!
Which directory and which file the start of a script leads to. The script's path is put below the
workspace before the process enters its directory, and is followed from that directory afterwards; so
a workspace that is given by an absolute path is the one in which the script is found.
-/

namespace LifecycleHooks

open FileTree (Leads Reaches follows_step_iff locate_eq_ok_iff locate_join_iff reaches_absolute
  reaches_of_join reaches_of_locate stat_eq_ok_iff toList_join)
open Process (Image)

namespace Path

theorem isAbsolute_route (path : Path) : path.route.isAbsolute = path.isAbsolute := by
  have same : path.isAbsolute = (path.text.toList.head? == some '/') :=
    Route.isAbsolute_eq ⟨path.text⟩
  rw [same, Route.isAbsolute_eq, Bool.eq_iff_iff, beq_iff_eq, beq_iff_eq]
  exact Text.head?_toOctets_eq_slash_iff path.text

theorem endsWithSlash_route (path : Path) :
    path.route.endsWithSlash = true ↔ path.text.toList.getLast? = some '/' := by
  rw [Route.endsWithSlash, beq_iff_eq]
  exact Text.getLast?_toOctets_eq_slash_iff path.text

theorem route_text_eq_empty_iff (path : Path) : path.route.text = "" ↔ path.isEmpty = true := by
  rw [isEmpty, String.isEmpty_iff]
  exact Text.toOctets_eq_empty_iff path.text

theorem route_text_ne_empty {path : Path} (given : path.isEmpty = false) : path.route.text ≠ "" := by
  rw [ne_eq, route_text_eq_empty_iff, given]
  exact Bool.false_ne_true

theorem route_of_small (path : Path) (small : Text.isSmall path.text = true) :
    path.route = ⟨path.text⟩ :=
  congrArg Route.mk (Text.toOctets_of_small small)

theorem route_join (base path : Path) : (base.join path).route = base.route.join path.route := by
  have empty : base.route.text.isEmpty = base.text.isEmpty := by
    rw [Bool.eq_iff_iff, String.isEmpty_iff]
    exact base.route_text_eq_empty_iff
  simp only [join, Route.join, isAbsolute_route, empty, endsWithSlash_route]
  split
  · rfl
  split
  · exact congrArg Route.mk (Text.toOctets_append _ _)
  · refine congrArg Route.mk ?_
    rw [Text.toOctets_append, Text.toOctets_append]
    exact congrArg (fun slash => base.route.text ++ slash ++ path.route.text)
      (Text.toOctets_of_small (by decide))

end Path

namespace Launch

variable {tree : FileTree} {base directory : Location}

def Startable (tree : FileTree) (file : Location) : Prop :=
  ∃ node, tree.find? file = some node ∧
    ((∃ name, node.content = .program name) ∨
      ∃ bytes, node.content = .file bytes ∧ node.isExecutable = true)

/-- From where the outer path leads, the inner one leads to a place. -/
def Below (tree : FileTree) (base : Location) (outer inner : Path) (target : Location) : Prop :=
  ∃ place, Reaches tree base outer.route place ∧ Reaches tree place inner.route target

/-- The directory that is configured, below the workspace if its path is relative, or else the
workspace. -/
def Enters (tree : FileTree) (base : Location) (workspace : Path) (configured : Option Path)
    (directory : Location) : Prop :=
  match configured with
  | none => Reaches tree base workspace.route directory
  | some path =>
      if path.isAbsolute then Reaches tree base path.route directory
      else Below tree base workspace path directory

theorem Below.unique {outer inner : Path} {first second : Location}
    (one : Below tree base outer inner first) (other : Below tree base outer inner second) :
    first = second := by
  obtain ⟨place, toPlace, onward⟩ := one
  obtain ⟨placeToo, toPlaceToo, onwardToo⟩ := other
  obtain rfl := toPlace.unique toPlaceToo
  exact onward.unique onwardToo

theorem below_absolute {outer inner : Path} {other target : Location}
    (absolute : outer.isAbsolute = true) :
    Below tree base outer inner target ↔ Below tree other outer inner target := by
  have anywhere (place : Location) :
      Reaches tree base outer.route place ↔ Reaches tree other outer.route place :=
    reaches_absolute (outer.isAbsolute_route.trans absolute)
  simp only [Below, anywhere]

theorem below_of_join {outer inner : Path} {target : Location} (given : outer.isEmpty = false)
    (relative : inner.isAbsolute = false)
    (reaches : Reaches tree base (outer.join inner).route target) :
    Below tree base outer inner target := by
  rw [Path.route_join] at reaches
  exact reaches_of_join (Path.route_text_ne_empty given) (inner.isAbsolute_route.trans relative)
    reaches

theorem of_directory {launch : Launch} {path : Route} (configured : launch.cwd = some path)
    (entered : launch.directory tree base = .ok directory) :
    Reaches tree base path directory ∧ tree.isDirectory directory = true := by
  simp only [Launch.directory, configured] at entered
  split at entered
  · rename_i place node found
    split at entered
    · rename_i isDirectory
      obtain rfl := Except.ok.inj entered
      obtain ⟨located, there⟩ := stat_eq_ok_iff.mp found
      refine ⟨reaches_of_locate located, ?_⟩
      rw [FileTree.isDirectory, there]
      exact isDirectory
    · contradiction
  · contradiction

theorem startable_of_ofFile {depth : Nat} {path : Route} {args : List String} {image : Image}
    (found : Image.ofFile tree base depth path args = .ok image) :
    ∃ file, tree.locate base path = .ok file ∧ Startable tree file := by
  cases depth with
  | zero => contradiction
  | succ depth =>
      rw [Image.ofFile] at found
      split at found
      · contradiction
      · rename_i file node there
        obtain ⟨located, present⟩ := stat_eq_ok_iff.mp there
        refine ⟨file, located, node, present, ?_⟩
        split at found
        · rename_i name program
          exact .inl ⟨name, program⟩
        · rename_i bytes content
          split at found
          · rename_i executable
            exact .inr ⟨bytes, content, executable⟩
          · contradiction
        · contradiction

theorem find_of_slash {program search : String} {args : List String}
    (slash : program.toList.contains '/' = true) :
    Image.find tree base none search program args =
      Image.ofFile tree base Image.interpreterDepth ⟨program⟩ args := by
  rw [Image.find, if_pos slash]
  intro name _ named
  contradiction

theorem of_resolve {launch : Launch} {image : Image}
    (slash : launch.program.toList.contains '/' = true)
    (resolved : launch.resolve tree base = .ok (directory, image)) :
    launch.directory tree base = .ok directory ∧
    ∃ file, tree.locate directory ⟨launch.program⟩ = .ok file ∧ Startable tree file := by
  have noShell : launch.scriptShell? = none := by
    simp only [scriptShell?, slash, Bool.not_true, Bool.and_false, Bool.false_eq_true, ↓reduceIte]
  unfold resolve at resolved
  split at resolved
  · contradiction
  split at resolved
  · contradiction
  · rename_i cwd entered
    split at resolved
    · contradiction
    · rename_i started found
      split at resolved
      · contradiction
      · obtain ⟨rfl, rfl⟩ := Prod.mk.inj (Except.ok.inj resolved)
        refine ⟨entered, ?_⟩
        rw [noShell, find_of_slash slash] at found
        exact startable_of_ofFile found

/-! Scripts. -/

variable {hook : Hook} {context : Context} {workspace : Path}

theorem contains_slash_join (outer inner : Path) (given : outer.isEmpty = false)
    (relative : inner.isAbsolute = false) :
    (outer.join inner).route.text.toList.contains '/' = true := by
  rw [Path.route_join, List.contains_iff_mem]
  rcases toList_join (Path.route_text_ne_empty given) (inner.isAbsolute_route.trans relative) with
    ⟨-, joined⟩ | ⟨-, front, -, joined⟩
  · rw [joined]
    exact List.mem_append_right _ List.mem_cons_self
  · rw [joined]
    exact List.mem_append_right _ List.mem_cons_self

theorem enters_of_directory {launch : Launch} (given : workspace.isEmpty = false)
    (configured : launch.cwd =
      (Invocation.directory (some workspace) hook.workingDirectory).map Path.route)
    (entered : launch.directory tree base = .ok directory) :
    Enters tree base workspace hook.workingDirectory directory ∧
      tree.isDirectory directory = true := by
  cases chosen : hook.workingDirectory with
  | none =>
      rw [chosen] at configured
      exact of_directory configured entered
  | some path =>
      rw [chosen] at configured
      obtain ⟨reaches, isDirectory⟩ := of_directory configured entered
      refine ⟨?_, isDirectory⟩
      simp only [Invocation.resolve, Path.isRelative] at reaches
      cases absolute : path.isAbsolute with
      | true =>
          simp only [absolute, Bool.not_true, Bool.false_eq_true, ↓reduceIte] at reaches
          simpa only [Enters, absolute, ↓reduceIte] using reaches
      | false =>
          simp only [absolute, Bool.not_false, ↓reduceIte] at reaches
          simpa only [Enters, absolute, Bool.false_eq_true, ↓reduceIte] using
            below_of_join given absolute reaches

section

variable {host : Environment} {timestamp : String} {script : Path}
  (runs : hook.action = .script script) (relative : script.isRelative = true)
  (named : script.isEmpty = false) (inside : context.workspace = some workspace)
  (given : workspace.isEmpty = false)

include runs relative inside

theorem program_eq :
    (⟨(ofInvocation host timestamp (Invocation.ofHook hook context)).program⟩ : Route) =
      (workspace.join script).route := by
  simp only [ofInvocation, Invocation.ofHook, runs, inside, Invocation.resolvedProgram,
    Invocation.resolve, relative, ↓reduceIte, commandLine]
  rfl

include named given

/-- A script is found where the workspace and the script lead from the directory of the process. -/
theorem locate_program_iff {file : Location} :
    tree.locate directory ⟨(ofInvocation host timestamp (Invocation.ofHook hook context)).program⟩ =
        .ok file ↔
      FileTree.Admitted (workspace.join script).route ∧
        ∃ place first second, first + second ≤ FileTree.longestChain ∧
          Leads tree directory workspace.route first place ∧
          Leads tree place script.route second file := by
  have notAbsolute : script.isAbsolute = false := by
    rwa [Path.isRelative, Bool.not_eq_true'] at relative
  rw [program_eq runs relative inside, Path.route_join]
  exact locate_join_iff (Path.route_text_ne_empty given) (Path.route_text_ne_empty named)
    (script.isAbsolute_route.trans notAbsolute)

/-- A hook with a relative script enters the directory that its workspace and its configuration name.
The file that is started is where the workspace and the script lead from that directory, which is the
script below the workspace if the workspace is absolute. -/
theorem script_started {image : Image}
    (resolved : (ofInvocation host timestamp (Invocation.ofHook hook context)).resolve tree base =
      .ok (directory, image)) :
    (Enters tree base workspace hook.workingDirectory directory ∧
      tree.isDirectory directory = true) ∧
    ∃ file,
      tree.locate directory ⟨(ofInvocation host timestamp (Invocation.ofHook hook context)).program⟩ =
        .ok file ∧
      Startable tree file ∧
      (∀ other, Below tree directory workspace script other ↔ other = file) ∧
      (workspace.isAbsolute = true →
        ∀ other, Below tree base workspace script other ↔ other = file) := by
  have notAbsolute : script.isAbsolute = false := by
    rwa [Path.isRelative, Bool.not_eq_true'] at relative
  have slash := contains_slash_join _ _ given notAbsolute
  rw [← program_eq runs relative inside] at slash
  obtain ⟨entered, file, located, startable⟩ := of_resolve slash resolved
  obtain ⟨-, place, first, second, -, toPlace, onward⟩ :=
    (locate_program_iff runs relative named inside given).mp located
  have below : Below tree directory workspace script file := ⟨place, ⟨first, toPlace⟩, second, onward⟩
  have only (other : Location) : Below tree directory workspace script other ↔ other = file :=
    ⟨fun too => too.unique below, fun same => same ▸ below⟩
  refine ⟨enters_of_directory given ?_ entered, file, located, startable, only, ?_⟩
  · rw [← inside]
    rfl
  · exact fun absolute other => (below_absolute absolute).trans (only other)

end

def yard : FileTree :=
  (FileTree.empty.putDeep ["bin", "sh"] ⟨.program "sh", Node.executableMode, 0⟩).putDeep
    ["work", "repo", "hook.sh"] (Node.ofFile (Text.octets "#!/bin/sh\n") true 0)

def yardInvocation (workspace : Path) : Invocation :=
  Invocation.ofHook ⟨.script ⟨"hook.sh"⟩, 5000, false, false, none, []⟩
    ((Context.bare .preCommit).withWorkspace workspace)

def yardLaunch (workspace : Path) : Launch := ofInvocation [] "" (yardInvocation workspace)

def yardText : String :=
  "\x7b\"eventType\":\"pre-commit\",\"workspace\":\"/work/repo\",\"data\":null\x7d"

theorem environmentOf_yard :
    environmentOf [] "" (yardInvocation ⟨"/work/repo"⟩) =
      [(contextName, yardText), (eventTypeName, "pre-commit"), (workspaceName, "/work/repo"),
        (timestampName, "")] := by
  have order : (¬ eventTypeName < contextName ∧ eventTypeName ≠ contextName) ∧
      (¬ timestampName < contextName ∧ timestampName ≠ contextName) ∧
      (¬ timestampName < eventTypeName ∧ timestampName ≠ eventTypeName) ∧
      (¬ workspaceName < contextName ∧ workspaceName ≠ contextName) ∧
      (¬ workspaceName < eventTypeName ∧ workspaceName ≠ eventTypeName) ∧
      workspaceName < timestampName := by decide
  simp only [environmentOf, describe, setOptional, Environment.set, Environment.setAll,
    yardInvocation, Invocation.ofHook, Context.withWorkspace, Context.bare, Fields.insert, order,
    List.foldl_nil, ↓reduceIte]
  rfl

theorem yardLaunch_eq :
    yardLaunch ⟨"/work/repo"⟩ =
      { program := "/work/repo/hook.sh"
        args := [yardText]
        cwd := some ⟨"/work/repo"⟩
        environment := [(contextName, yardText), (eventTypeName, "pre-commit"),
          (workspaceName, "/work/repo"), (timestampName, "")]
        input := Text.encode yardText
        ownSearch := false } := by
  have small : ∀ text ∈ ["/work/repo/hook.sh", "/work/repo", yardText, "pre-commit", "",
      contextName, eventTypeName, workspaceName, timestampName], Text.isSmall text = true := by
    decide
  have same := fun text member => Text.toOctets_of_small (small text member)
  simp only [List.forall_mem_cons] at same
  rw [yardLaunch, ofInvocation, environmentOf_yard]
  change Launch.mk (Text.toOctets "/work/repo/hook.sh") [Text.toOctets yardText]
    (some ⟨Text.toOctets "/work/repo"⟩) _ (Text.encode yardText) false = _
  simp only [same, List.map_cons, List.map_nil]

theorem resolve_yard :
    ∃ image, (yardLaunch ⟨"/work/repo"⟩).resolve yard ["work"] = .ok (["work", "repo"], image) := by
  have workspace : yard.locate ["work"] ⟨"/work/repo"⟩ = .ok ["work", "repo"] :=
    locate_eq_ok_iff.mpr ⟨by decide, 0, by decide, .step rfl rfl (.step rfl rfl (.here _))⟩
  have script : yard.locate ["work", "repo"] ⟨"/work/repo/hook.sh"⟩ =
      .ok ["work", "repo", "hook.sh"] :=
    locate_eq_ok_iff.mpr
      ⟨by decide, 0, by decide, .step rfl rfl (.step rfl rfl (.step rfl rfl (.here _)))⟩
  have shell : yard.locate ["work", "repo"] ⟨"/bin/sh"⟩ = .ok ["bin", "sh"] :=
    locate_eq_ok_iff.mpr ⟨by decide, 0, by decide, .step rfl rfl (.step rfl rfl (.here _))⟩
  have interpreter : Image.interpreter? (Text.octets "#!/bin/sh\n") = some ("/bin/sh", none) := by
    decide
  have entered : (yardLaunch ⟨"/work/repo"⟩).directory yard ["work"] = .ok ["work", "repo"] := by
    rw [yardLaunch_eq, Launch.directory]
    simp only [stat_eq_ok_iff.mpr ⟨workspace, rfl⟩]
    rfl
  have found (search : String) (args : List String) :
      Image.find yard ["work", "repo"] none search "/work/repo/hook.sh" args =
        .ok ⟨"sh", "/bin/sh" :: "/work/repo/hook.sh" :: args.drop 1⟩ := by
    have runs : (Node.ofFile (Text.octets "#!/bin/sh\n") true 0).isExecutable = true := rfl
    rw [find_of_slash rfl, Image.interpreterDepth, Image.ofFile]
    simp only [stat_eq_ok_iff.mpr ⟨script, rfl⟩, runs]
    simp only [Node.ofFile, interpreter, ↓reduceIte]
    rw [Image.ofFile]
    simp only [stat_eq_ok_iff.mpr ⟨shell, rfl⟩]
    rfl
  have noNul : (yardLaunch ⟨"/work/repo"⟩).texts.any holdsNul = false := by
    rw [yardLaunch_eq]
    decide
  have short : (yardLaunch ⟨"/work/repo"⟩).isTooLong = false := by
    rw [yardLaunch_eq]
    decide
  refine ⟨⟨"sh", ["/bin/sh", "/work/repo/hook.sh", yardText]⟩, ?_⟩
  simp only [resolve, noNul, entered, short, Bool.false_eq_true, ↓reduceIte]
  simp only [yardLaunch_eq, scriptShell?, Bool.false_and, Bool.false_eq_true, ↓reduceIte, found]
  rfl

theorem script_started_yard :
    ∃ directory image, (yardLaunch ⟨"/work/repo"⟩).resolve yard ["work"] = .ok (directory, image) ∧
      ∃ file, Startable yard file ∧
        ∀ other, Below yard ["work"] ⟨"/work/repo"⟩ ⟨"hook.sh"⟩ other ↔ other = file := by
  obtain ⟨image, resolved⟩ := resolve_yard
  obtain ⟨-, file, -, startable, -, meant⟩ := script_started rfl rfl rfl rfl rfl resolved
  exact ⟨_, image, resolved, file, startable, meant rfl⟩

/-- A relative workspace leads to its script, but the script is looked for below itself. -/
theorem script_missed_below_itself :
    (∃ file, Below yard ["work"] ⟨"repo"⟩ ⟨"hook.sh"⟩ file ∧ Startable yard file) ∧
      ∀ started, (yardLaunch ⟨"repo"⟩).resolve yard ["work"] ≠ .ok started := by
  have workspace : Path.route ⟨"repo"⟩ = ⟨"repo"⟩ := Path.route_of_small _ (by decide)
  have script : Path.route ⟨"hook.sh"⟩ = ⟨"hook.sh"⟩ := Path.route_of_small _ (by decide)
  have program : (⟨(yardLaunch ⟨"repo"⟩).program⟩ : Route) = ⟨"repo/hook.sh"⟩ :=
    Path.route_of_small ⟨"repo/hook.sh"⟩ (by decide)
  have toWorkspace : Reaches yard ["work"] (Path.route ⟨"repo"⟩) ["work", "repo"] :=
    workspace ▸ ⟨0, .step rfl rfl (.here _)⟩
  have toScript : Reaches yard ["work", "repo"] (Path.route ⟨"hook.sh"⟩)
      ["work", "repo", "hook.sh"] := script ▸ ⟨0, .step rfl rfl (.here _)⟩
  refine ⟨⟨_, ⟨_, toWorkspace, toScript⟩, ⟨_, rfl, .inr ⟨_, rfl, rfl⟩⟩⟩, ?_⟩
  rintro ⟨directory, image⟩ resolved
  obtain ⟨entered, file, located, -⟩ :=
    of_resolve (contains_slash_join ⟨"repo"⟩ ⟨"hook.sh"⟩ rfl rfl) resolved
  have configured : (yardLaunch ⟨"repo"⟩).cwd = some (Path.route ⟨"repo"⟩) := rfl
  obtain ⟨reaches, -⟩ := of_directory configured entered
  obtain rfl := reaches.unique toWorkspace
  rw [program] at located
  obtain ⟨links, leads⟩ := reaches_of_locate located
  -- There is no `repo` in the repository, so the second step cannot be taken.
  have inside : FileTree.Follows yard ["work", "repo", "repo"] ["hook.sh"] links file :=
    (follows_step_iff rfl rfl).mp leads
  obtain ⟨next, advanced⟩ := inside.advanced
  contradiction

end Launch

end LifecycleHooks
