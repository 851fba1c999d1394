import LifecycleHooks.Proofs.Path
import LifecycleHooks.Watch.Relevance

/-!
Which changes concern a watched file, where changes are reported by absolute paths. A file that is
watched by an absolute path is concerned by its own changes and by those of the directories above it.
One that is watched by a relative path is concerned by what ends with that path, which the
directories above it do not.
-/

namespace LifecycleHooks.Watch

def Meets (changed target : Path) : Prop :=
  (target.isAbsolute = true ∧ changed.components <+: target.components) ∨
    (target.isAbsolute = false ∧ target.components <:+ changed.components)

/-- The path of a target below a directory, or of a directory on the way to it, from the former on. -/
def OnTheWay (host target path : Path) : Prop :=
  host.components <+: path.components ∧ path.components <+: (host.join target).components

theorem eq_of_suffix {changed target : Path} (reported : changed.isAbsolute = true)
    (absolute : target.isAbsolute = true) (ends : target.components <:+ changed.components) :
    target.components = changed.components := by
  obtain ⟨rest, -, parts⟩ := Path.components_of_isAbsolute reported
  have rooted : .root ∈ target.components := (Path.root_mem_components_iff target).mpr absolute
  rw [parts, List.suffix_cons_iff] at ends
  rcases ends with whole | inside
  · rw [whole, parts]
  · exact absurd (inside.subset rooted) (Path.root_notMem_pieces rest)

theorem concerns_iff_meets {changed : Path} (target : Path) (reported : changed.isAbsolute = true) :
    concerns changed target = true ↔ Meets changed target := by
  have rooted : .root ∈ changed.components := (Path.root_mem_components_iff changed).mpr reported
  simp only [concerns, Bool.or_eq_true, Path.startsWith_iff, Path.endsWith_iff, Meets]
  cases absolute : target.isAbsolute with
  | true =>
      constructor
      · rintro (ends | starts)
        · have same := eq_of_suffix reported absolute ends
          exact .inl ⟨rfl, same ▸ List.prefix_refl _⟩
        · exact .inl ⟨rfl, starts⟩
      · rintro (⟨-, starts⟩ | ⟨relative, -⟩)
        · exact .inr starts
        · contradiction
  | false =>
      constructor
      · rintro (ends | starts)
        · exact .inr ⟨rfl, ends⟩
        · have inside := (Path.root_mem_components_iff target).mp (starts.subset rooted)
          rw [absolute] at inside
          contradiction
      · rintro (⟨absolutely, -⟩ | ⟨-, ends⟩)
        · contradiction
        · exact .inl ends

theorem isRelevant_iff_meets {change : Change} (targets : List Path)
    (reported : ∀ path ∈ change.paths, path.isAbsolute = true) :
    isRelevant change targets = true ↔
      change.kind ≠ .access ∧ ∃ path ∈ change.paths, ∃ target ∈ targets, Meets path target := by
  simp only [isRelevant, Bool.and_eq_true, bne_iff_ne, List.any_eq_true]
  constructor
  · rintro ⟨changes, path, member, target, listed, concerned⟩
    exact ⟨changes, path, member, target, listed,
      (concerns_iff_meets target (reported path member)).mp concerned⟩
  · rintro ⟨changes, path, member, target, listed, meets⟩
    exact ⟨changes, path, member, target, listed,
      (concerns_iff_meets target (reported path member)).mpr meets⟩

theorem meets_of_same {host target path : Path} (absolute : host.isAbsolute = true)
    (plain : target.IsPlain) (same : path.components = (host.join target).components) :
    Meets path target := by
  refine .inr ⟨plain.isRelative, ?_⟩
  rw [same, Path.components_join absolute plain]
  exact List.suffix_append _ _

theorem not_meets_of_getLast?_ne {target path : Path} (plain : target.IsPlain)
    (named : target.components ≠ [])
    (other : path.components.getLast? ≠ target.components.getLast?) : ¬ Meets path target := by
  rintro (⟨absolute, -⟩ | ⟨-, ends⟩)
  · rw [plain.isRelative] at absolute
    contradiction
  · obtain ⟨front, split⟩ := ends
    rw [← split, List.getLast?_append_of_ne_nil _ named] at other
    contradiction

/-- A file that is watched by a relative path is noticed when it changes itself. Of all changes those
are noticed that meet some target; where the targets are relative, changes of directories with other
names than theirs are not, whether or not a target is inside. -/
theorem relative_target_noticed (host target : Path) (targets : List Path) (change : Change)
    (absolute : host.isAbsolute = true) (plain : target.IsPlain) (listed : target ∈ targets)
    (changes : change.kind ≠ .access)
    (reported : ∀ path ∈ change.paths, path.isAbsolute = true) :
    ((∃ path ∈ change.paths, path.components = (host.join target).components) →
      isRelevant change targets = true) ∧
    (isRelevant change targets = true ↔
      ∃ path ∈ change.paths, ∃ other ∈ targets, Meets path other) ∧
    ((∀ other ∈ targets, other.IsPlain ∧ other.components ≠ []) →
      (∀ path ∈ change.paths, ∀ other ∈ targets,
        path.components.getLast? ≠ other.components.getLast?) →
      isRelevant change targets = false) := by
  have exactly : isRelevant change targets = true ↔
      ∃ path ∈ change.paths, ∃ other ∈ targets, Meets path other := by
    rw [isRelevant_iff_meets targets reported]
    exact and_iff_right changes
  refine ⟨?_, exactly, ?_⟩
  · rintro ⟨path, member, same⟩
    exact exactly.mpr ⟨path, member, target, listed, meets_of_same absolute plain same⟩
  · intro allPlain otherNames
    by_contra noticed
    obtain ⟨path, member, other, otherListed, meets⟩ := exactly.mp (by simpa using noticed)
    obtain ⟨otherPlain, named⟩ := allPlain other otherListed
    exact not_meets_of_getLast?_ne otherPlain named (otherNames path member other otherListed) meets

theorem isPlain_hooksFile : Path.IsPlain ⟨"repo/.vscode/hooks.json"⟩ := by
  have parts : Path.components ⟨"repo/.vscode/hooks.json"⟩ =
      [.name "repo", .name ".vscode", .name "hooks.json"] := rfl
  intro component member
  rw [parts] at member
  simp only [List.mem_cons, List.not_mem_nil, or_false] at member
  rcases member with rfl | rfl | rfl <;> exact ⟨_, rfl⟩

theorem relative_target_noticed_saved :
    let host : Path := ⟨"/home/me/"⟩
    let target : Path := ⟨"repo/.vscode/hooks.json"⟩
    let change : Change := ⟨.modify, [⟨"/home/me/repo"⟩, ⟨"/home/me//repo/.vscode/./hooks.json"⟩]⟩
    host.isAbsolute = true ∧ target.IsPlain ∧ change.kind ≠ .access ∧
      (∀ path ∈ change.paths, path.isAbsolute = true) ∧
      isRelevant change [⟨"/etc/settings.json"⟩, target] = true := by
  intro host target change
  have absolute : host.isAbsolute = true := by decide
  have changes : change.kind ≠ .access := by decide
  have reported : ∀ path ∈ change.paths, path.isAbsolute = true := by decide
  have listed : target ∈ [⟨"/etc/settings.json"⟩, target] := by simp
  obtain ⟨noticed, -, -⟩ :=
    relative_target_noticed host target _ change absolute isPlain_hooksFile listed changes reported
  exact ⟨absolute, isPlain_hooksFile, changes, reported,
    noticed ⟨_, List.mem_cons_of_mem _ List.mem_cons_self, by decide⟩⟩

/-- The directory that a file waited for is made, and that is not noticed. -/
theorem directory_of_relative_target_missed :
    ¬ ∀ (host target : Path) (targets : List Path) (change : Change),
      host.isAbsolute = true → target.IsPlain → target ∈ targets → change.kind ≠ .access →
      (∀ path ∈ change.paths, path.isAbsolute = true) →
      (∃ path ∈ change.paths, OnTheWay host target path) → isRelevant change targets = true := by
  intro noticed
  let host : Path := ⟨"/home/me"⟩
  let target : Path := ⟨"repo/.vscode/hooks.json"⟩
  let change : Change := ⟨.create, [⟨"/home/me/repo/.vscode"⟩]⟩
  have onTheWay : OnTheWay host target ⟨"/home/me/repo/.vscode"⟩ := by
    simp only [OnTheWay, ← List.isPrefixOf_iff_prefix]
    decide
  have missed : isRelevant change [target] = false := by decide
  have found : isRelevant change [target] = true :=
    noticed host target [target] change (by decide) isPlain_hooksFile List.mem_cons_self
      (by decide) (by decide) ⟨_, List.mem_cons_self, onTheWay⟩
  rw [missed] at found
  contradiction

end LifecycleHooks.Watch
