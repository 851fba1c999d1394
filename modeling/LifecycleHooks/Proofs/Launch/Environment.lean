import LifecycleHooks.Proofs.Environment
import LifecycleHooks.Proofs.Hook.RoundTrip
import LifecycleHooks.Proofs.Launch

/-!
What a started hook finds in its environment. What its configuration sets counts first, then what
describes its context, then what the host has. A context without a file, or without a workspace,
leaves its name alone, so there the hook finds what the host has. A configured name with an equals
sign in it is no name for the hook: it adds a value to the name in front of the sign.
-/

namespace LifecycleHooks.Launch

open Environment (IsName entryOf strays valuesFor)

def entries (launch : Launch) : List String := launch.environment.map entryOf

def descriptions (timestamp : String) (invocation : Invocation) : Environment :=
  [(contextName, invocation.contextText), (eventTypeName, invocation.eventType.name),
      (timestampName, timestamp)] ++
    (invocation.workspace.map fun path => (workspaceName, path.text)).toList ++
    (invocation.file.map fun path => (fileName, path.text)).toList

def LeavesAlone (hook : Hook) (name : String) : Prop :=
  ∀ entry ∈ hook.environment, entry.1 ≠ name

/-- A process finds one value under a name, or none, and behind it only what the configuration of
the hook adds to the name. -/
def Finds (launch : Launch) (hook : Hook) (name : String) (own : Option String) : Prop :=
  valuesFor (Text.toOctets name) launch.entries =
    (own.toList ++ strays name hook.environment).map Text.toOctets

/-- What the environment of a hook is made of: under each name a value of the configuration, else of
the context, else of the entries that the host was started with. -/
structure Describes (hostEntries : List String) (hook : Hook) (context : Context)
    (launch : Launch) : Prop where
  configured : ∀ name value, (name, value) ∈ hook.environment → IsName name →
    Finds launch hook name (some value)
  contextText : LeavesAlone hook contextName → Finds launch hook contextName (some context.text)
  eventType : LeavesAlone hook eventTypeName →
    Finds launch hook eventTypeName (some context.eventType.name)
  workspace : ∀ path, context.workspace = some path → LeavesAlone hook workspaceName →
    Finds launch hook workspaceName (some path.text)
  file : ∀ path, context.file = some path → LeavesAlone hook fileName →
    Finds launch hook fileName (some path.text)
  inherited : ∀ name, IsName name → LeavesAlone hook name →
    name ∉ [contextName, eventTypeName, timestampName] →
    (name = workspaceName → context.workspace = none) → (name = fileName → context.file = none) →
    Finds launch hook name (valuesFor name hostEntries).getLast?
  plain : (∀ entry ∈ hook.environment, '=' ∉ entry.1.toList) → ∀ name own,
    Finds launch hook name own →
      valuesFor (Text.toOctets name) launch.entries = own.toList.map Text.toOctets

variable {hostEntries : List String} {timestamp : String} {hook : Hook} {context : Context}

/-! Layer by layer. -/

theorem describe_eq (host : Environment) (timestamp : String) (invocation : Invocation) :
    describe host timestamp invocation = host.setAll (descriptions timestamp invocation) := by
  obtain ⟨eventType, program, cwd, env, timeout, contextText, workspace, file⟩ := invocation
  cases workspace with
  | none =>
      cases file with
      | none => rfl
      | some file => rfl
  | some workspace =>
      cases file with
      | none => rfl
      | some file => rfl

theorem names_descriptions (timestamp : String) (invocation : Invocation) :
    ((descriptions timestamp invocation).map Prod.fst).Sublist
      [contextName, eventTypeName, timestampName, workspaceName, fileName] := by
  obtain ⟨eventType, program, cwd, env, timeout, contextText, workspace, file⟩ := invocation
  cases workspace <;> cases file <;> simp [descriptions]

theorem distinct_descriptions (timestamp : String) (invocation : Invocation) :
    (descriptions timestamp invocation).Pairwise fun a b => a.1 ≠ b.1 := by
  have whole : [contextName, eventTypeName, timestampName, workspaceName, fileName].Nodup := by
    decide
  exact List.pairwise_map.mp (whole.sublist (names_descriptions timestamp invocation))

theorem isName_of_mem_descriptions {invocation : Invocation} {field : String × String}
    (member : field ∈ descriptions timestamp invocation) : IsName field.1 := by
  have names : ∀ name ∈ [contextName, eventTypeName, timestampName, workspaceName, fileName],
      IsName name := by
    simp only [List.forall_mem_cons, IsName]
    decide
  exact names field.1 ((names_descriptions timestamp invocation).mem (List.mem_map_of_mem member))

theorem distinct_of_ascending {fields : Environment}
    (ascending : fields.Pairwise fun a b => a.1 < b.1) : fields.Pairwise fun a b => a.1 ≠ b.1 :=
  ascending.imp fun less => ne_of_lt less

theorem find?_setAll (environment : Environment) {given : Environment}
    (distinct : given.Pairwise fun a b => a.1 ≠ b.1) (name : String) :
    Fields.find? name (environment.setAll given) =
      (Fields.find? name given).or (Fields.find? name environment) :=
  Fields.find?_foldl_insert name distinct environment

theorem find?_environmentOf (host : Environment) {invocation : Invocation}
    (distinct : invocation.env.Pairwise fun a b => a.1 ≠ b.1) (name : String) :
    Fields.find? name (environmentOf host timestamp invocation) =
      (Fields.find? name invocation.env).or
        ((Fields.find? name (descriptions timestamp invocation)).or (Fields.find? name host)) := by
  rw [environmentOf, find?_setAll _ distinct, describe_eq, find?_setAll _ (distinct_descriptions _ _)]

theorem ascending_environmentOf (timestamp : String) (invocation : Invocation) {host : Environment}
    (ascending : host.Pairwise fun a b => a.1 < b.1) :
    (environmentOf host timestamp invocation).Pairwise fun a b => a.1 < b.1 := by
  rw [environmentOf, describe_eq]
  exact Fields.ascending_foldl_insert _ (Fields.ascending_foldl_insert _ ascending)

/-- Names with an equals sign in them come from the configuration only. -/
theorem strays_environmentOf {name : String} (isName : IsName name) {invocation : Invocation}
    (ascending : invocation.env.Pairwise fun a b => a.1 < b.1) :
    strays name (environmentOf (.ofEntries hostEntries) timestamp invocation) =
      strays name invocation.env := by
  have whole := ascending_environmentOf timestamp invocation
    (Environment.ascending_ofEntries hostEntries)
  refine Environment.strays_congr whole ascending ?_
  rintro ⟨key, value⟩ stray
  have noDescription : Fields.find? key (descriptions timestamp invocation) = none := by
    refine Fields.find?_eq_none ?_
    rintro field member rfl
    rw [Environment.valueFor?_eq_none (isName_of_mem_descriptions member).2] at stray
    contradiction
  have notHosted : Fields.find? key (Environment.ofEntries hostEntries) = none := by
    refine Fields.find?_eq_none ?_
    rintro field member rfl
    rw [Environment.valueFor?_of_mem_ofEntries isName member] at stray
    contradiction
  rw [Fields.mem_iff_find? (distinct_of_ascending whole),
    Fields.mem_iff_find? (distinct_of_ascending ascending),
    find?_environmentOf _ (distinct_of_ascending ascending), noDescription, notHosted,
    Option.or_none, Option.or_none]

theorem entries_ofInvocation (host : Environment) (invocation : Invocation) :
    (ofInvocation host timestamp invocation).entries =
      ((environmentOf host timestamp invocation).map entryOf).map Text.toOctets := by
  rw [entries, ofInvocation, List.map_map, List.map_map]
  exact List.map_congr_left fun field _ => Environment.entryOf_toOctets field

/-- What a process finds under a name is the first of three look-ups. -/
theorem valuesFor_ofInvocation {name : String} (isName : IsName name) {invocation : Invocation}
    (ascending : invocation.env.Pairwise fun a b => a.1 < b.1) :
    valuesFor (Text.toOctets name)
        (ofInvocation (.ofEntries hostEntries) timestamp invocation).entries =
      (((Fields.find? name invocation.env).or
        ((Fields.find? name (descriptions timestamp invocation)).or
          (valuesFor name hostEntries).getLast?)).toList ++ strays name invocation.env).map
            Text.toOctets := by
  rw [entries_ofInvocation, Environment.valuesFor_map_toOctets,
    Environment.valuesFor_map_entryOf isName.2
      (ascending_environmentOf timestamp invocation (Environment.ascending_ofEntries hostEntries)),
    find?_environmentOf _ (distinct_of_ascending ascending), strays_environmentOf isName ascending,
    Environment.find?_ofEntries isName]

/-! Hooks. -/

def ofHook (hostEntries : List String) (timestamp : String) (hook : Hook) (context : Context) :
    Launch :=
  ofInvocation (.ofEntries hostEntries) timestamp (Invocation.ofHook hook context)

theorem finds_of_configured (obtainable : hook.Obtainable) {name value : String}
    (isName : IsName name) (member : (name, value) ∈ hook.environment) :
    Finds (ofHook hostEntries timestamp hook context) hook name (some value) := by
  have ascending := obtainable.sound.ascending
  have found : Fields.find? name (Invocation.ofHook hook context).env = some value :=
    Fields.find?_of_mem (distinct_of_ascending ascending) member
  rw [Finds, ofHook, valuesFor_ofInvocation isName ascending, found]
  rfl

theorem finds_of_leavesAlone (hostEntries : List String) (timestamp : String) (context : Context)
    (obtainable : hook.Obtainable) {name : String} (isName : IsName name)
    (alone : LeavesAlone hook name) :
    Finds (ofHook hostEntries timestamp hook context) hook name
      ((Fields.find? name (descriptions timestamp (Invocation.ofHook hook context))).or
        (valuesFor name hostEntries).getLast?) := by
  have absent : Fields.find? name (Invocation.ofHook hook context).env = none :=
    Fields.find?_eq_none alone
  rw [Finds, ofHook, valuesFor_ofInvocation isName obtainable.sound.ascending, absent,
    Option.none_or]
  rfl

theorem finds_of_described (obtainable : hook.Obtainable) {name value : String}
    (alone : LeavesAlone hook name)
    (member : (name, value) ∈ descriptions timestamp (Invocation.ofHook hook context)) :
    Finds (ofHook hostEntries timestamp hook context) hook name (some value) := by
  have found := finds_of_leavesAlone hostEntries timestamp context obtainable
    (isName_of_mem_descriptions member) alone
  rwa [Fields.find?_of_mem (distinct_descriptions _ _) member] at found

/-- What a name says that describes nothing of the context is what the host says. -/
theorem finds_of_inherited (obtainable : hook.Obtainable) {name : String} (isName : IsName name)
    (alone : LeavesAlone hook name) (other : name ∉ [contextName, eventTypeName, timestampName])
    (noWorkspace : name = workspaceName → context.workspace = none)
    (noFile : name = fileName → context.file = none) :
    Finds (ofHook hostEntries timestamp hook context) hook name
      (valuesFor name hostEntries).getLast? := by
  have absent : Fields.find? name (descriptions timestamp (Invocation.ofHook hook context)) =
      none := by
    apply Fields.find?_eq_none
    rintro entry member rfl
    simp only [descriptions, Invocation.ofHook, List.mem_append, Option.mem_toList,
      Option.map_eq_some_iff] at member
    rcases member with (first | ⟨path, given, rfl⟩) | ⟨path, given, rfl⟩
    · exact other (List.mem_map_of_mem first)
    · rw [noWorkspace rfl] at given
      contradiction
    · rw [noFile rfl] at given
      contradiction
  have found := finds_of_leavesAlone hostEntries timestamp context obtainable isName alone
  rwa [absent, Option.none_or] at found

theorem valuesFor_of_finds {launch : Launch} {name : String} {own : Option String}
    (plain : ∀ entry ∈ hook.environment, '=' ∉ entry.1.toList)
    (finds : Finds launch hook name own) :
    valuesFor (Text.toOctets name) launch.entries = own.toList.map Text.toOctets := by
  rw [finds, Environment.strays_eq_nil plain, List.append_nil]

/-- A started hook finds its configuration, its context and the environment of the host. Where the
context has no file, or no workspace, the name is not removed from what the host has; and a name that
is configured with an equals sign in it adds a value to another one. -/
theorem describes_ofHook (hostEntries : List String) (timestamp : String) (context : Context)
    (obtainable : hook.Obtainable) :
    Describes hostEntries hook context (ofHook hostEntries timestamp hook context) where
  configured _ _ member isName := finds_of_configured obtainable isName member
  contextText alone := finds_of_described obtainable alone (by simp [descriptions, Invocation.ofHook])
  eventType alone := finds_of_described obtainable alone (by simp [descriptions, Invocation.ofHook])
  workspace path given alone :=
    finds_of_described obtainable alone (by simp [descriptions, Invocation.ofHook, given])
  file path given alone :=
    finds_of_described obtainable alone (by simp [descriptions, Invocation.ofHook, given])
  inherited _ := finds_of_inherited obtainable
  plain noEquals _ _ := valuesFor_of_finds noEquals

def build : Hook := ⟨.command "build" [], Hook.defaultTimeout, false, false, none, []⟩

theorem obtainable_build : build.Obtainable :=
  .command (rfl : Hook.command "build" [] = .ok build)

/-- A command with two variables, of which one has an equals sign in its name. -/
def buildWith : Hook := (build.withEnvironment "CI" "1").withEnvironment "HOOK_FILE=x" "y"

def saving : Context := (Context.bare .fileSave).withFile ⟨"saved.txt"⟩

theorem describes_ofHook_saving :
    let launch := ofHook ["CI=0", "HOOK_FILE=outer.txt"] "" buildWith saving
    buildWith.Obtainable ∧ Describes ["CI=0", "HOOK_FILE=outer.txt"] buildWith saving launch ∧
      valuesFor fileName launch.entries = ["saved.txt", "x=y"] := by
  intro launch
  have obtainable : buildWith.Obtainable :=
    (obtainable_build.withEnvironment "CI" "1").withEnvironment "HOOK_FILE=x" "y"
  have describes : Describes ["CI=0", "HOOK_FILE=outer.txt"] buildWith saving launch :=
    describes_ofHook _ "" saving obtainable
  refine ⟨obtainable, describes, ?_⟩
  have alone : LeavesAlone buildWith fileName := by
    unfold LeavesAlone
    decide
  have found := describes.file ⟨"saved.txt"⟩ rfl alone
  have stray : strays fileName buildWith.environment = ["x=y"] := by decide
  rw [Finds, stray, @Text.toOctets_of_small fileName (by decide)] at found
  have small : ∀ text ∈ ["saved.txt", "x=y"], Text.isSmall text = true := by decide
  rw [found]
  exact (List.map_congr_left fun text member => Text.toOctets_of_small (small text member)).trans
    (List.map_id _)

/-- A hook whose context has no file may find the file of another hook, whose environment it
inherits. -/
theorem file_of_outer_hook :
    ¬ ∀ (hostEntries : List String) (timestamp : String) (hook : Hook) (context : Context),
      hook.Obtainable → context.file = none → LeavesAlone hook fileName →
      valuesFor (Text.toOctets fileName) (ofHook hostEntries timestamp hook context).entries = [] := by
  intro unset
  have alone : LeavesAlone build fileName := List.forall_mem_nil _
  -- The entries that the outer hook is started with are those that the inner hook inherits.
  let outer := ofHook [] "" build saving
  have given : valuesFor (Text.toOctets fileName) outer.entries = [Text.toOctets "saved.txt"] :=
    finds_of_described obtainable_build alone
      (by simp [descriptions, Invocation.ofHook, saving, Context.withFile])
  have found : Finds (ofHook outer.entries "" build (Context.bare .preCommit)) build fileName
      (valuesFor fileName outer.entries).getLast? :=
    finds_of_inherited obtainable_build ⟨by decide, by decide⟩ alone (by decide) (fun _ => rfl)
      (fun _ => rfl)
  rw [@Text.toOctets_of_small fileName (by decide)] at given
  rw [Finds, unset outer.entries "" build (Context.bare .preCommit) obtainable_build rfl alone,
    given] at found
  contradiction

end LifecycleHooks.Launch
