import LifecycleHooks.Proofs.Path.Spelling
import LifecycleHooks.Proofs.Watch.Relevance

/-!
Which changes concern files that are watched by absolute paths: those of the files and of the
directories above them, and no others, however the paths are spelled.
-/

namespace LifecycleHooks.Watch

/-- Neither a target nor above it: below it, or parted from it, where two different entries of one
directory lead to the one and to the other. A neighbour of the target is such an entry itself. -/
inductive Elsewhere (path target : Path) : Prop
  | below (above : Path) (higher : Path.IsAbove above path) (same : above.same target = true)
  | parted (entry other directory otherDirectory : Path)
      (leads : entry = path ∨ Path.IsAbove entry path)
      (leadsOther : other = target ∨ Path.IsAbove other target)
      (parent : entry.parent? = some directory) (otherParent : other.parent? = some otherDirectory)
      (together : directory.same otherDirectory = true) (different : entry.same other = false)

/-- The same paths, in whatever order, however often, and however they are spelled. -/
def SamePaths (paths others : List Path) : Prop :=
  (∀ path ∈ paths, ∃ other ∈ others, Path.Respelled path other) ∧
    ∀ other ∈ others, ∃ path ∈ paths, Path.Respelled path other

theorem meets_iff_starts {changed target : Path} (absolute : target.isAbsolute = true) :
    Meets changed target ↔ changed.components <+: target.components := by
  simp [Meets, absolute]

theorem not_starts_of_elsewhere {path target : Path} (reported : path.isAbsolute = true)
    (absolute : target.isAbsolute = true) (elsewhere : Elsewhere path target) :
    ¬ path.components <+: target.components := by
  intro starts
  cases elsewhere with
  | below above higher same =>
      rw [Path.same_iff] at same
      obtain ⟨-, below, more, parts⟩ := Path.isAbove_components higher reported
      rw [parts, same] at starts
      have shorter := starts.length_le
      have longer := List.length_pos_of_ne_nil more
      rw [List.length_append] at shorter
      omega
  | parted entry other directory otherDirectory leads leadsOther parent otherParent together
      different =>
      obtain ⟨entryRooted, entryStarts⟩ := Path.prefix_of_leads leads reported
      obtain ⟨otherRooted, otherStarts⟩ := Path.prefix_of_leads leadsOther absolute
      -- Both lead to the target, and both are one component below the directory.
      obtain ⟨-, last, parts⟩ := Path.components_of_parent? entryRooted parent
      obtain ⟨-, otherLast, otherParts⟩ := Path.components_of_parent? otherRooted otherParent
      have level : entry.components.length = other.components.length := by
        rw [parts, otherParts, (Path.same_iff _ _).mp together]
        simp
      have shared : entry.components <+: other.components :=
        List.prefix_of_prefix_length_le (entryStarts.trans starts) otherStarts (Nat.le_of_eq level)
      have same : entry.same other = true :=
        (Path.same_iff entry other).mpr (shared.eq_of_length level)
      rw [different] at same
      contradiction

theorem exists_fork {Part : Type} {first second : List Part} (noPrefix : ¬ first <+: second)
    (noOther : ¬ second <+: first) :
    ∃ shared a b rest others, a ≠ b ∧ first = shared ++ a :: rest ∧
      second = shared ++ b :: others := by
  induction first generalizing second with
  | nil => exact absurd List.nil_prefix noPrefix
  | cons a rest ih =>
      cases second with
      | nil => exact absurd List.nil_prefix noOther
      | cons b others =>
          by_cases same : a = b
          · subst same
            obtain ⟨shared, c, d, more, most, different, rfl, rfl⟩ :=
              ih (by simpa using noPrefix) (by simpa using noOther)
            exact ⟨a :: shared, c, d, more, most, different, rfl, rfl⟩
          · exact ⟨[], a, b, rest, others, same, rfl, rfl⟩

theorem elsewhere_of_not_starts {path target : Path} (reported : path.isAbsolute = true)
    (absolute : target.isAbsolute = true) (noPrefix : ¬ path.components <+: target.components) :
    Elsewhere path target := by
  by_cases inside : target.components <+: path.components
  · rcases (Path.prefix_iff reported absolute).mp inside with same | ⟨above, higher, same⟩
    · rw [(Path.same_iff target path).mp same] at noPrefix
      exact absurd (List.prefix_refl _) noPrefix
    · exact .below above higher ((Path.same_iff above target).mpr
        ((Path.same_iff target above).mp same).symm)
  · obtain ⟨shared, a, b, rest, others, different, parts, otherParts⟩ := exists_fork noPrefix inside
    have given : shared ≠ [] := by
      rintro rfl
      rw [Path.components_of_absolute reported] at parts
      rw [Path.components_of_absolute absolute] at otherParts
      exact different ((List.cons.inj parts).1.symm.trans (List.cons.inj otherParts).1)
    have starts : shared ++ [a] <+: path.components := ⟨rest, by simp [parts]⟩
    have otherStarts : shared ++ [b] <+: target.components := ⟨others, by simp [otherParts]⟩
    obtain ⟨entry, leads, entryParts⟩ := Path.exists_leads reported (by simp) starts
    obtain ⟨other, leadsOther, otherEntryParts⟩ := Path.exists_leads absolute (by simp) otherStarts
    obtain ⟨directory, parent, shares⟩ :=
      Path.exists_parent (Path.prefix_of_leads leads reported).1 entryParts given
    obtain ⟨otherDirectory, otherParent, otherShares⟩ :=
      Path.exists_parent (Path.prefix_of_leads leadsOther absolute).1 otherEntryParts given
    refine .parted entry other directory otherDirectory leads leadsOther parent otherParent
      ((Path.same_iff _ _).mpr (shares.trans otherShares.symm)) ?_
    simpa [Path.same, entryParts, otherEntryParts] using different

theorem elsewhere_iff {path target : Path} (reported : path.isAbsolute = true)
    (absolute : target.isAbsolute = true) : Elsewhere path target ↔ ¬ Meets path target := by
  rw [meets_iff_starts absolute]
  exact ⟨not_starts_of_elsewhere reported absolute, elsewhere_of_not_starts reported absolute⟩

theorem meets_of_respelled {path path' target target' : Path} (reported : path.isAbsolute = true)
    (absolute : target.isAbsolute = true) (respelled : Path.Respelled path path')
    (respelledTarget : Path.Respelled target target') :
    Meets path' target' ↔ Meets path target := by
  rw [meets_iff_starts absolute, meets_iff_starts (respelledTarget.isAbsolute.trans absolute),
    respelled.components reported, respelledTarget.components absolute]

theorem SamePaths.isAbsolute {paths others : List Path} (listed : SamePaths paths others)
    (absolute : ∀ path ∈ paths, path.isAbsolute = true) :
    ∀ other ∈ others, other.isAbsolute = true := by
  intro other member
  obtain ⟨path, given, respelled⟩ := listed.2 other member
  exact respelled.isAbsolute.trans (absolute path given)

theorem SamePaths.symm {paths others : List Path} (listed : SamePaths paths others) :
    SamePaths others paths := by
  refine ⟨fun other member => ?_, fun path member => ?_⟩
  · obtain ⟨path, given, respelled⟩ := listed.2 other member
    exact ⟨path, given, respelled.symm⟩
  · obtain ⟨other, given, respelled⟩ := listed.1 path member
    exact ⟨other, given, respelled.symm⟩

theorem exists_meets_of_samePaths {paths paths' targets targets' : List Path}
    (absolute : ∀ target ∈ targets, target.isAbsolute = true)
    (reported : ∀ path ∈ paths, path.isAbsolute = true)
    (samePaths : SamePaths paths paths') (sameTargets : SamePaths targets targets')
    (meeting : ∃ path ∈ paths, ∃ target ∈ targets, Meets path target) :
    ∃ path ∈ paths', ∃ target ∈ targets', Meets path target := by
  obtain ⟨path, member, target, listed, meets⟩ := meeting
  obtain ⟨path', member', respelled⟩ := samePaths.1 path member
  obtain ⟨target', listed', respelledTarget⟩ := sameTargets.1 target listed
  exact ⟨path', member', target', listed', (meets_of_respelled (reported path member)
    (absolute target listed) respelled respelledTarget).mpr meets⟩

theorem exists_meets_congr {paths paths' targets targets' : List Path}
    (absolute : ∀ target ∈ targets, target.isAbsolute = true)
    (reported : ∀ path ∈ paths, path.isAbsolute = true)
    (samePaths : SamePaths paths paths') (sameTargets : SamePaths targets targets') :
    (∃ path ∈ paths', ∃ target ∈ targets', Meets path target) ↔
      ∃ path ∈ paths, ∃ target ∈ targets, Meets path target :=
  ⟨exists_meets_of_samePaths (sameTargets.isAbsolute absolute) (samePaths.isAbsolute reported)
      samePaths.symm sameTargets.symm,
    exists_meets_of_samePaths absolute reported samePaths sameTargets⟩

/-- Files that are watched by absolute paths are concerned by changes of themselves and of the
directories above them, and by no others: not by those of their neighbours, nor of what is below
them or elsewhere. Neither the order of paths and targets counts, nor how often they are given, nor
how they are spelled. -/
theorem absolute_targets_exact (targets : List Path) (change : Change)
    (absolute : ∀ target ∈ targets, target.isAbsolute = true)
    (reported : ∀ path ∈ change.paths, path.isAbsolute = true) :
    (isRelevant change targets = true ↔
      change.kind ≠ .access ∧ ∃ path ∈ change.paths, ∃ target ∈ targets,
        path.same target = true ∨
          ∃ above, Path.IsAbove above target ∧ path.same above = true) ∧
    (isRelevant change targets = false ↔
      change.kind = .access ∨ ∀ path ∈ change.paths, ∀ target ∈ targets, Elsewhere path target) ∧
    ∀ (other : Change) (otherTargets : List Path),
      (other.kind = .access ↔ change.kind = .access) → SamePaths change.paths other.paths →
      SamePaths targets otherTargets →
      isRelevant other otherTargets = isRelevant change targets := by
  refine ⟨?_, ?_, ?_⟩
  · rw [isRelevant_iff_meets targets reported]
    refine and_congr_right' (exists_congr fun path => and_congr_right fun member =>
      exists_congr fun target => and_congr_right fun listed => ?_)
    rw [meets_iff_starts (absolute target listed)]
    exact Path.prefix_iff (absolute target listed) (reported path member)
  · have parted : ∀ path ∈ change.paths, ∀ target ∈ targets,
        (Elsewhere path target ↔ ¬ Meets path target) := fun path member target listed =>
      elsewhere_iff (reported path member) (absolute target listed)
    rw [← Bool.not_eq_true, isRelevant_iff_meets targets reported, not_and_or, not_not]
    simp only [not_exists, not_and]
    refine or_congr_right (forall₂_congr fun path member => forall₂_congr fun target listed => ?_)
    exact (parted path member target listed).symm
  · intro other otherTargets sameKind samePaths sameTargets
    rw [Bool.eq_iff_iff, isRelevant_iff_meets otherTargets (samePaths.isAbsolute reported),
      isRelevant_iff_meets targets reported, ne_eq, ne_eq, sameKind,
      exists_meets_congr absolute reported samePaths sameTargets]

theorem absolute_targets_exact_neighbours :
    let target : Path := ⟨"/w/.vscode/hooks.json"⟩
    let elsewhere : Change := ⟨.modify,
      [⟨"/w/.vscode/hooks.json.bak"⟩, ⟨"/w/.vscode//hooks.json/part"⟩, ⟨"/w/src/main.rs"⟩]⟩
    let above : Change := ⟨.create, [⟨"/w//./.vscode/"⟩, ⟨"/w/src"⟩]⟩
    (∀ path ∈ [target], path.isAbsolute = true) ∧
      (∀ path ∈ elsewhere.paths ++ above.paths, path.isAbsolute = true) ∧
      isRelevant elsewhere [target] = false ∧ isRelevant above [target] = true := by
  intro target elsewhere above
  have absolute : ∀ path ∈ [target], path.isAbsolute = true := by decide
  have reported : ∀ path ∈ elsewhere.paths ++ above.paths, path.isAbsolute = true := by decide
  have directory : target.parent? = some ⟨"/w/.vscode"⟩ := by decide
  have neighbour : Elsewhere ⟨"/w/.vscode/hooks.json.bak"⟩ target :=
    .parted _ _ ⟨"/w/.vscode"⟩ _ (.inl rfl) (.inl rfl) (by decide) directory (by decide) (by decide)
  have inside : Elsewhere ⟨"/w/.vscode//hooks.json/part"⟩ target :=
    .below ⟨"/w/.vscode//hooks.json"⟩ (.parent (by decide)) (by decide)
  have unrelated : Elsewhere ⟨"/w/src/main.rs"⟩ target :=
    .parted ⟨"/w/src"⟩ ⟨"/w/.vscode"⟩ ⟨"/w"⟩ ⟨"/w"⟩ (.inr (.parent (by decide)))
      (.inr (.parent directory)) (by decide) (by decide) (by decide) (by decide)
  obtain ⟨-, unnoticed, -⟩ := absolute_targets_exact [target] elsewhere absolute
    fun path member => reported path (List.mem_append_left _ member)
  obtain ⟨exactly, -, -⟩ := absolute_targets_exact [target] above absolute
    fun path member => reported path (List.mem_append_right _ member)
  refine ⟨absolute, reported, unnoticed.mpr (.inr ?_), exactly.mpr ⟨by decide, ?_⟩⟩
  · simpa [elsewhere] using ⟨neighbour, inside, unrelated⟩
  · exact ⟨_, List.mem_cons_self, target, List.mem_cons_self,
      .inr ⟨⟨"/w/.vscode"⟩, .parent directory, by decide⟩⟩

end LifecycleHooks.Watch
