import LifecycleHooks.Proofs.Launch
import LifecycleHooks.Settings.File
import Mathlib.Data.List.Chain

/-!
The settings that a settings file keeps between look-ups. The time of the last change is looked at
before the file is read, so what is kept may be newer than the time that it is kept under; it never
belongs to another version that a later look-up finds.
-/

namespace LifecycleHooks

structure Version where
  modified : Int
  reading : Except SystemError String

namespace Version

def settings? (version : Version) : Option Settings :=
  match version.reading with
  | .ok text => (Settings.ofText text).toOption
  | .error _ => none

def answer? (version : Option Version) (key : String) : Option Json :=
  (version.bind settings?).bind (·.get? key)

def time? (version : Option Version) : Option Int := version.map modified

def complaints (path : Path) (version : Option Version) : List Warning :=
  match Settings.ofReading path (version.map reading) with
  | .ok _ => []
  | .error cause => [.badSettings cause.message]

theorem length_complaints (path : Path) (version : Option Version) :
    (complaints path version).length ≤ 1 := by
  unfold complaints
  split
  · exact Nat.zero_le 1
  · exact Nat.le_refl 1

def Broken (version : Option Version) : Prop := ∃ here, version = some here ∧ here.settings? = none

theorem complaints_ne_nil_iff (path : Path) (version : Option Version) :
    complaints path version ≠ [] ↔ Broken version := by
  cases version with
  | none => simp [complaints, Broken, Settings.ofReading]
  | some here =>
      cases read : here.reading with
      | error cause => simp [complaints, Broken, Settings.ofReading, settings?, read]
      | ok text =>
          cases parsed : Settings.ofText text <;>
            simp [complaints, Broken, Settings.ofReading, settings?, read, parsed, Except.toOption]

end Version

namespace FileTree

def version? (tree : FileTree) (base : Location) (route : Route) : Option Version :=
  (tree.modified? base route).map fun modified => ⟨modified, tree.readText base route⟩

theorem time?_version? (tree : FileTree) (base : Location) (route : Route) :
    Version.time? (tree.version? base route) = tree.modified? base route := by
  simp only [Version.time?, version?, Option.map_map]
  exact Option.map_id'

end FileTree

namespace Settings

theorem load_eq_ofReading (tree : FileTree) (base : Location) (path : Path) :
    load tree base path = ofReading path ((tree.version? base path.route).map Version.reading) := by
  unfold load FileTree.version? FileTree.modified? FileTree.pathExists
  cases tree.stat base path.route <;> rfl

theorem keyParts_ne_nil (key : String) : keyParts key ≠ [] := by
  have pieces := Text.splitOnChar_ne_nil '.' key.toList
  exact fun noParts => pieces (List.map_eq_nil_iff.mp noParts)

theorem get?_of_values_nil (key : String) (path : Option Path) : get? ⟨[], path⟩ key = none := by
  have unwritten : Fields.find? key ([] : Fields Json) = none := rfl
  simp only [get?, unwritten]
  cases parts : keyParts key with
  | nil => exact absurd parts (keyParts_ne_nil key)
  | cons part rest => rfl

theorem get?_congr {first second : Settings} (same : first.values = second.values) (key : String) :
    first.get? key = second.get? key := by
  simp only [get?, same]

theorem get?_ofReading (path : Path) (version : Option Version) (key : String) :
    (ofReading path (version.map Version.reading)).toOption.bind (·.get? key) =
      Version.answer? version key := by
  cases version with
  | none => exact get?_of_values_nil key (some path)
  | some here =>
      simp only [Option.map_some, Version.answer?, Option.bind_some, Version.settings?]
      cases here.reading with
      | error cause => rfl
      | ok text =>
          simp only [ofReading]
          cases ofText text with
          | error cause => rfl
          | ok settings => exact get?_congr rfl key

end Settings

namespace SettingsFile

open Version (answer? time? complaints Broken)

variable {file : SettingsFile} {modified : Option Int}
  {loading : Except Settings.LoadError Settings} {path : Path}

theorem refresh_of_fresh (fresh : file.isStale modified = false) :
    file.refresh modified loading = (file, []) := by
  simp only [refresh, fresh, Bool.false_eq_true, ↓reduceIte]

theorem path_refresh : (file.refresh modified loading).1.path = file.path := by
  unfold refresh
  split
  · cases loading <;> rfl
  · rfl

theorem isStale_eq_false_iff :
    file.isStale modified = false ↔ file.loaded = true ∧ file.modified = modified := by
  simp [isStale]

theorem isStale_refresh : (file.refresh modified loading).1.isStale modified = false := by
  by_cases stale : file.isStale modified = true
  · simp only [refresh, stale, ↓reduceIte]
    cases loading <;> simp [isStale]
  · have fresh : file.isStale modified = false := Bool.eq_false_iff.mpr stale
    rw [refresh_of_fresh fresh]
    exact fresh

/-- What is kept after a look-up that finds one version of the file and reads another, if it reads. -/
def kept (file : SettingsFile) (found left : Option Version) : SettingsFile :=
  (file.refresh (time? found) (Settings.ofReading file.path (left.map Version.reading))).1

variable {found left : Option Version}

theorem path_kept : (file.kept found left).path = file.path := path_refresh

theorem isStale_kept : (file.kept found left).isStale (time? found) = false := isStale_refresh

theorem modified_kept : (file.kept found left).modified = time? found :=
  (isStale_eq_false_iff.mp isStale_kept).2

theorem loaded_kept : (file.kept found left).loaded = true :=
  (isStale_eq_false_iff.mp isStale_kept).1

theorem get?_kept (stale : file.isStale (time? found) = true) (key : String) :
    (file.kept found left).settings.get? key = answer? left key := by
  rw [← Settings.get?_ofReading file.path]
  simp only [kept, refresh, stale, ↓reduceIte]
  cases Settings.ofReading file.path (left.map Version.reading) with
  | ok settings => rfl
  | error cause => exact Settings.get?_of_values_nil key none

theorem warnings_refresh :
    (file.refresh modified (Settings.ofReading path (left.map Version.reading))).2 =
      if file.isStale modified then complaints path left else [] := by
  unfold refresh complaints
  split
  · cases Settings.ofReading path (left.map Version.reading) <;> rfl
  · rfl

/-! Runs of look-ups in a tree that changes. -/

inductive Event
  /-- The tree is changed between look-ups. -/
  | change (next : FileTree)
  /-- A key is looked up, and the tree is changed before the file is read, if it is. -/
  | lookup (key : String) (meanwhile : FileTree)

/-- What a look-up did: the versions of the file before and after it, whether the file was read, and
what came of it. -/
structure Lookup where
  key : String
  found : Option Version
  left : Option Version
  reads : Bool
  answer : Option Json
  warnings : List Warning

def Lookup.time? (lookup : Lookup) : Option Int := Version.time? lookup.found

/-- The look-ups of a run, each with what the ones before it have left behind. -/
def lookups (base : Location) (file : SettingsFile) (tree : FileTree) : List Event → List Lookup
  | [] => []
  | .change next :: events => lookups base file next events
  | .lookup key meanwhile :: events =>
      let done := file.lookupAcross tree meanwhile base key
      { key := key
        found := tree.version? base file.path.route
        left := meanwhile.version? base file.path.route
        reads := file.isStale (tree.modified? base file.path.route)
        answer := done.1
        warnings := done.2.2 } :: lookups base done.2.1 meanwhile events

/-- How a file may change: a version that is written has a time that none had so far. -/
inductive Becomes (used : List Int) (now : Option Version) : Option Version → Prop
  | same : Becomes used now now
  | removed : Becomes used now none
  | written (version : Version) (new : version.modified ∉ used) : Becomes used now (some version)

def use (version : Option Version) (used : List Int) : List Int := (time? version).toList ++ used

/-- A run in which every version that is written has a time of its own, and in which a look-up finds
a file if and only if it leaves one. -/
def Orderly (base : Location) (route : Route) : List Int → FileTree → List Event → Prop
  | _, _, [] => True
  | used, tree, .change next :: events =>
      Becomes used (tree.version? base route) (next.version? base route) ∧
      Orderly base route (use (next.version? base route) used) next events
  | used, tree, .lookup _ meanwhile :: events =>
      Becomes used (tree.version? base route) (meanwhile.version? base route) ∧
      ((tree.version? base route).isSome ↔ (meanwhile.version? base route).isSome) ∧
      Orderly base route (use (meanwhile.version? base route) used) meanwhile events

/-- What is kept of a file goes with the version that is there, if the times say that it does. -/
structure Sound (used : List Int) (now : Option Version) (file : SettingsFile) : Prop where
  shown : ∀ version, now = some version → version.modified ∈ used
  seen : ∀ modified, file.modified = some modified → modified ∈ used
  missing : file.loaded = true → file.modified = none → ∀ key, file.settings.get? key = none
  present : file.loaded = true → ∀ version, now = some version →
    file.modified = some version.modified → ∀ key, file.settings.get? key = answer? now key

variable {used : List Int} {now next : Option Version}

theorem mem_use {version : Version} : version.modified ∈ use (some version) used :=
  List.mem_cons_self

theorem subset_use {modified : Int} (member : modified ∈ used) : modified ∈ use now used :=
  List.mem_append_right _ member

theorem Sound.new (path : Path) : Sound (use now []) now (.new path) where
  shown := by
    rintro version rfl
    exact mem_use
  seen := nofun
  missing := nofun
  present := nofun

theorem Sound.becomes (sound : Sound used now file) (becomes : Becomes used now next) :
    Sound (use next used) next file where
  shown := by
    rintro version rfl
    exact mem_use
  seen := fun modified kept => subset_use (sound.seen modified kept)
  missing := sound.missing
  present := by
    intro loaded version there stamped
    -- Nothing is kept under the time of a version that is written only now.
    cases becomes with
    | same => exact sound.present loaded version there stamped
    | removed => contradiction
    | written written new =>
        obtain rfl := Option.some.inj there
        exact absurd (sound.seen _ stamped) new

theorem Sound.answers (sound : Sound used now file) (fresh : file.isStale (time? now) = false)
    (key : String) : file.settings.get? key = answer? now key := by
  obtain ⟨loaded, stamped⟩ := isStale_eq_false_iff.mp fresh
  cases now with
  | none => exact sound.missing loaded stamped key
  | some version => exact sound.present loaded version rfl stamped key

theorem Sound.kept (sound : Sound used found file) (becomes : Becomes used found left)
    (both : found.isSome ↔ left.isSome) : Sound (use left used) left (file.kept found left) := by
  by_cases fresh : file.isStale (time? found) = false
  · rw [SettingsFile.kept, refresh_of_fresh fresh]
    exact sound.becomes becomes
  have stale : file.isStale (time? found) = true := Bool.not_eq_false _ ▸ fresh
  -- What is kept now is the version that is left, though under the time of the one that was found.
  refine ⟨?_, ?_, ?_, ?_⟩
  · rintro version rfl
    exact mem_use
  · intro modified kept
    rw [modified_kept] at kept
    obtain ⟨version, there, rfl⟩ := Option.map_eq_some_iff.mp kept
    exact subset_use (sound.shown version there)
  · intro _ absent key
    rw [modified_kept] at absent
    have nowMissing : found = none := Option.map_eq_none_iff.mp absent
    have stillMissing : left = none := by
      cases left with
      | none => rfl
      | some version => simp [nowMissing] at both
    rw [get?_kept stale key, stillMissing]
    rfl
  · intro _ _ _ _ key
    exact get?_kept stale key

variable {base : Location} {tree meanwhile : FileTree} {key : String}
  {events : List Event}

theorem lookupAcross_eq (file : SettingsFile) (tree meanwhile : FileTree) (base : Location)
    (key : String) :
    let found := tree.version? base file.path.route
    let left := meanwhile.version? base file.path.route
    file.lookupAcross tree meanwhile base key =
      ((file.kept found left).settings.get? key, file.kept found left,
        if file.isStale (time? found) then complaints file.path left else []) := by
  intro found left
  rw [← warnings_refresh]
  simp only [lookupAcross, Settings.load_eq_ofReading, ← FileTree.time?_version?]
  rfl

theorem lookups_nil : lookups base file tree [] = [] := rfl

theorem lookups_change (next : FileTree) :
    lookups base file tree (.change next :: events) = lookups base file next events := rfl

theorem lookups_lookup (base : Location) (file : SettingsFile) (tree meanwhile : FileTree)
    (key : String) (events : List Event) :
    let found := tree.version? base file.path.route
    let left := meanwhile.version? base file.path.route
    lookups base file tree (.lookup key meanwhile :: events) =
      { key := key
        found := found
        left := left
        reads := file.isStale (time? found)
        answer := (file.kept found left).settings.get? key
        warnings := if file.isStale (time? found) then complaints file.path left else [] } ::
        lookups base (file.kept found left) meanwhile events := by
  intro found left
  rw [lookups, lookupAcross_eq, ← FileTree.time?_version?]

theorem warnings_of_mem {lookup : Lookup} (member : lookup ∈ lookups base file tree events) :
    lookup.warnings = if lookup.reads then complaints file.path lookup.left else [] := by
  induction events generalizing file tree with
  | nil => contradiction
  | cons event events ih =>
      cases event with
      | change next => exact ih member
      | lookup key meanwhile =>
          rw [lookups_lookup] at member
          cases member with
          | head => rfl
          | tail _ later =>
              have complained := ih later
              rwa [path_kept] at complained

theorem answer_of_mem (samePath : file.path = path)
    (sound : Sound used (tree.version? base path.route) file)
    (orderly : Orderly base path.route used tree events) {lookup : Lookup}
    (member : lookup ∈ lookups base file tree events) (still : lookup.found = lookup.left) :
    lookup.answer = answer? lookup.left lookup.key := by
  induction events generalizing file tree used with
  | nil => contradiction
  | cons event events ih =>
      subst samePath
      cases event with
      | change next =>
          obtain ⟨becomes, orderly⟩ := orderly
          exact ih rfl (sound.becomes becomes) orderly member
      | lookup key meanwhile =>
          obtain ⟨becomes, both, orderly⟩ := orderly
          have after := sound.kept becomes both
          rw [lookups_lookup] at member
          cases member with
          | head =>
              have here : tree.version? base file.path.route =
                  meanwhile.version? base file.path.route := still
              rw [here] at after ⊢
              exact after.answers isStale_kept key
          | tail _ later => exact ih path_kept after orderly later

/-! Rows of look-ups that find the same time. -/

def Rests (one next : Lookup) : Prop := next.time? = one.time? → next.reads = false

theorem reads_of_head {lookup : Lookup} (first : (lookups base file tree events).head? = some lookup) :
    lookup.reads = file.isStale lookup.time? := by
  induction events generalizing tree with
  | nil => contradiction
  | cons event events ih =>
      cases event with
      | change next => exact ih first
      | lookup key meanwhile =>
          rw [lookups_lookup] at first
          obtain rfl := Option.some.inj first
          rfl

theorem isChain_lookups : List.IsChain Rests (lookups base file tree events) := by
  induction events generalizing file tree with
  | nil => exact .nil
  | cons event events ih =>
      cases event with
      | change next => exact ih
      | lookup key meanwhile =>
          rw [lookups_lookup]
          refine List.isChain_cons.mpr ⟨?_, ih⟩
          intro next first sameTime
          rw [reads_of_head first, sameTime]
          exact isStale_kept

theorem unread_behind {first : Lookup} {row : List Lookup}
    (chain : List.IsChain Rests (first :: row))
    (sameTime : ∀ lookup ∈ row, lookup.time? = first.time?) : ∀ lookup ∈ row, lookup.reads = false := by
  induction row generalizing first with
  | nil => nofun
  | cons second row ih =>
      obtain ⟨rests, chain⟩ := List.isChain_cons_cons.mp chain
      have secondTime := sameTime second List.mem_cons_self
      refine List.forall_mem_cons.mpr ⟨rests secondTime, ih chain fun lookup member => ?_⟩
      rw [secondTime]
      exact sameTime lookup (List.mem_cons_of_mem second member)

/-- In any run in which every version that is written has a time of its own, a look-up during which
the file stays as it is answers what the file then says, and nothing for a missing or a broken file.
Only a broken version that is read is complained about, and of the look-ups in a row that find the
same time at most one reads the file. -/
theorem lookups_transparent (base : Location) (path : Path) (tree : FileTree) (events : List Event)
    (orderly : Orderly base path.route (use (tree.version? base path.route) []) tree events) :
    let run := lookups base (.new path) tree events
    (∀ lookup ∈ run, lookup.found = lookup.left →
      lookup.answer = answer? lookup.left lookup.key) ∧
    (∀ lookup ∈ run, lookup.warnings ≠ [] ↔ lookup.reads = true ∧ Broken lookup.left) ∧
    ∀ row, row <:+: run → (∀ one ∈ row, ∀ other ∈ row, one.time? = other.time?) →
      (row.filter Lookup.reads).length ≤ 1 ∧ (row.flatMap Lookup.warnings).length ≤ 1 := by
  intro run
  have warned : ∀ lookup ∈ run, lookup.warnings =
      if lookup.reads then complaints path lookup.left else [] :=
    fun lookup member => warnings_of_mem member
  refine ⟨?_, ?_, ?_⟩
  · intro lookup member still
    exact answer_of_mem rfl (Sound.new path) orderly member still
  · intro lookup member
    rw [warned lookup member, ← Version.complaints_ne_nil_iff path]
    cases lookup.reads <;> simp
  intro row inside sameTime
  have chain : List.IsChain Rests row := isChain_lookups.infix inside
  cases row with
  | nil => exact ⟨Nat.zero_le 1, Nat.zero_le 1⟩
  | cons first row =>
      have unread : ∀ lookup ∈ row, lookup.reads = false :=
        unread_behind chain fun lookup member =>
          sameTime lookup (List.mem_cons_of_mem first member) first List.mem_cons_self
      have silent : ∀ lookup ∈ row, lookup.warnings = [] := by
        intro lookup member
        rw [warned lookup (inside.subset (List.mem_cons_of_mem first member)), unread lookup member]
        rfl
      have noReads : row.filter Lookup.reads = [] :=
        List.filter_eq_nil_iff.mpr fun lookup member => by simp [unread lookup member]
      have noWarnings : row.flatMap Lookup.warnings = [] := List.flatMap_eq_nil_iff.mpr silent
      constructor
      · rw [List.filter_cons, noReads]
        split
        · exact Nat.le_refl 1
        · exact Nat.zero_le 1
      · rw [List.flatMap_cons, noWarnings, List.append_nil,
          warned first (inside.subset List.mem_cons_self)]
        split
        · exact Version.length_complaints path first.left
        · exact Nat.zero_le 1

def settingsTree (text : String) (modified : Int) : FileTree :=
  FileTree.empty.put ["settings.json"] (Node.ofFile (Text.octets text) false modified)

/-- The file is broken while its first version is looked up, then removed and written again. -/
def troubledRun : List Event :=
  [.lookup "hooks.preCommit" (settingsTree "\x7b broken" 2),
    .lookup "hooks.preCommit" (settingsTree "\x7b broken" 2),
    .lookup "hooks.preCommit" (settingsTree "\x7b broken" 2),
    .change FileTree.empty,
    .lookup "hooks.preCommit" FileTree.empty,
    .change (settingsTree "\x7b \"hooks.preCommit\": 1 \x7d" 3),
    .lookup "hooks.preCommit" (settingsTree "\x7b \"hooks.preCommit\": 1 \x7d" 3)]

theorem locate_settings (tree : FileTree) (noLink : tree.linkAt? ["settings.json"] = none) :
    tree.locate [] (Path.route ⟨"/settings.json"⟩) = .ok ["settings.json"] := by
  rw [Path.route_of_small _ (by decide)]
  exact FileTree.locate_eq_ok_iff.mpr ⟨by decide, 0, by decide, .step rfl noLink (.here _)⟩

theorem version?_settingsTree (text : String) (modified : Int) :
    ∃ reading, (settingsTree text modified).version? [] (Path.route ⟨"/settings.json"⟩) =
      some ⟨modified, reading⟩ := by
  have here := locate_settings (settingsTree text modified) rfl
  rw [FileTree.version?, FileTree.modified?, FileTree.stat_eq_ok_iff.mpr ⟨here, rfl⟩]
  exact ⟨_, rfl⟩

theorem version?_empty : FileTree.empty.version? [] (Path.route ⟨"/settings.json"⟩) = none := by
  rw [FileTree.version?, FileTree.modified?, FileTree.stat, locate_settings FileTree.empty rfl]
  rfl

theorem lookups_transparent_troubled :
    let path : Path := ⟨"/settings.json"⟩
    let tree := settingsTree "\x7b \"hooks.preCommit\": 0 \x7d" 1
    let run := lookups [] (.new path) tree troubledRun
    Orderly [] path.route (use (tree.version? [] path.route) []) tree troubledRun ∧
    run.map Lookup.time? = [some 1, some 2, some 2, none, some 3] ∧
    run.map Lookup.reads = [true, true, false, true, true] ∧
    (∀ lookup ∈ run, lookup.found = lookup.left →
      lookup.answer = answer? lookup.left lookup.key) ∧
    (∀ lookup ∈ run, lookup.warnings ≠ [] ↔ lookup.reads = true ∧ Broken lookup.left) ∧
    ∀ row, row <:+: run → (∀ one ∈ row, ∀ other ∈ row, one.time? = other.time?) →
      (row.filter Lookup.reads).length ≤ 1 ∧ (row.flatMap Lookup.warnings).length ≤ 1 := by
  intro path tree run
  obtain ⟨first, firstThere⟩ := version?_settingsTree "\x7b \"hooks.preCommit\": 0 \x7d" 1
  obtain ⟨broken, brokenThere⟩ := version?_settingsTree "\x7b broken" 2
  obtain ⟨last, lastThere⟩ := version?_settingsTree "\x7b \"hooks.preCommit\": 1 \x7d" 3
  have orderly : Orderly [] path.route (use (tree.version? [] path.route) []) tree troubledRun := by
    simp only [path, tree, troubledRun, Orderly, firstThere, brokenThere, lastThere, version?_empty]
    exact ⟨.written _ (by simp [use, time?]), by simp, .same, by simp, .same, by simp, .removed, .same,
      by simp, .written _ (by simp [use, time?]), .same, by simp, trivial⟩
  refine ⟨orderly, ?_, ?_, lookups_transparent [] path tree troubledRun orderly⟩
  · simp only [run, path, tree, troubledRun, lookups_lookup, lookups_change, lookups_nil, path_kept,
      new, List.map_cons, List.map_nil, Lookup.time?, firstThere, brokenThere, lastThere,
      version?_empty]
    rfl
  · simp only [run, path, tree, troubledRun, lookups_lookup, lookups_change, lookups_nil, path_kept,
      new, List.map_cons, List.map_nil, firstThere, brokenThere, lastThere, version?_empty, isStale,
      loaded_kept, modified_kept]
    rfl

end SettingsFile

end LifecycleHooks
