import Mathlib.Data.List.Basic
import LifecycleHooks.Decision

/-!
What decides: the first failure for a gating event, the last output for a modifying one. Failures
are looked for from the front, so what comes behind one of them does not matter.
-/

namespace LifecycleHooks

def Result.untimed (result : Result) : Result := { result with executionTimeMs := 0 }

namespace Decision

theorem ofResults_of_first_failure {event : EventType} {results : List Result} {failed : Result}
    (gating : event.isGating = true)
    (found : results.find? (fun result => !result.success) = some failed) :
    ofResults event results = .block (reason event failed) := by
  simp [ofResults, gating, found]

theorem ofResults_of_not_gating {event : EventType} (results : List Result)
    (ungated : event.isGating = false) : ofResults event results = .allow := by
  have keeping : event.isModifying = false := by
    by_contra modifying
    have gating := EventType.isGating_of_isModifying event (by simpa using modifying)
    simp [ungated] at gating
  simp [ofResults, ungated, keeping]

theorem find?_failure_eq_none_iff (results : List Result) :
    results.find? (fun result => !result.success) = none ↔
      ∀ result ∈ results, result.success = true := by
  simp [List.find?_eq_none]

/-- A gating event goes on exactly when no result is a failure. -/
theorem isAllowed_ofResults_iff {event : EventType} (results : List Result)
    (gating : event.isGating = true) :
    (ofResults event results).isAllowed = true ↔ ∀ result ∈ results, result.success = true := by
  rw [← find?_failure_eq_none_iff]
  cases found : results.find? (fun result => !result.success) with
  | some failed => simp [ofResults_of_first_failure gating found, isAllowed]
  | none =>
      simp only [ofResults, gating, found, ↓reduceIte, iff_true]
      split <;> rfl

theorem ofResults_append_of_failure {event : EventType} {earlier : List Result}
    (later : List Result) (failure : ∃ result ∈ earlier, result.success = false) :
    ofResults event (earlier ++ later) = ofResults event earlier := by
  cases gating : event.isGating with
  | false => rw [ofResults_of_not_gating _ gating, ofResults_of_not_gating _ gating]
  | true =>
      cases found : earlier.find? (fun result => !result.success) with
      | some failed =>
          have foundFirst :
              (earlier ++ later).find? (fun result => !result.success) = some failed := by
            rw [List.find?_append, found, Option.some_or]
          rw [ofResults_of_first_failure gating foundFirst, ofResults_of_first_failure gating found]
      | none =>
          obtain ⟨result, member, failed⟩ := failure
          have passed := (find?_failure_eq_none_iff earlier).mp found result member
          simp [failed] at passed

theorem ofResults_map_untimed (event : EventType) (results : List Result) :
    ofResults event (results.map Result.untimed) = ofResults event results := by
  have sameOutputs : (results.map Result.untimed).reverse.findSome? output? =
      results.reverse.findSome? output? := by
    rw [← List.map_reverse, List.findSome?_map]
    rfl
  have sameFailures : (results.map Result.untimed).find? (fun result => !result.success) =
      (results.find? (fun result => !result.success)).map Result.untimed := by
    rw [List.find?_map]
    rfl
  cases gating : event.isGating with
  | false => rw [ofResults_of_not_gating _ gating, ofResults_of_not_gating _ gating]
  | true =>
      cases found : results.find? (fun result => !result.success) with
      | some failed =>
          rw [found, Option.map_some] at sameFailures
          rw [ofResults_of_first_failure gating sameFailures,
            ofResults_of_first_failure gating found]
          rfl
      | none =>
          rw [found, Option.map_none] at sameFailures
          simp only [ofResults, gating, found, sameFailures, sameOutputs]

end Decision

end LifecycleHooks
