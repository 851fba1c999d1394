import LifecycleHooks.Proofs.Decision

/-!
Decisions one after the other. What the results of some hooks and then of others decide can be told
from the two decisions alone: a block is final, and otherwise the later decision counts, unless it
only lets the action be.
-/

namespace LifecycleHooks.Decision

def followedBy : Decision → Decision → Decision
  | block reason, _ => block reason
  | earlier, allow => earlier
  | _, later => later

@[simp] theorem block_followedBy (reason : String) (later : Decision) :
    (block reason).followedBy later = block reason := rfl

@[simp] theorem followedBy_allow (earlier : Decision) : earlier.followedBy allow = earlier := by
  cases earlier <;> rfl

@[simp] theorem allow_followedBy (later : Decision) : allow.followedBy later = later := by
  cases later <;> rfl

theorem followedBy_block {earlier : Decision} (reason : String)
    (allowed : earlier.isAllowed = true) :
    earlier.followedBy (block reason) = block reason := by
  cases earlier with
  | block _ => simp [isAllowed] at allowed
  | allow => rfl
  | modify _ => rfl

theorem followedBy_assoc (first second third : Decision) :
    (first.followedBy second).followedBy third = first.followedBy (second.followedBy third) := by
  cases first with
  | allow => rw [allow_followedBy, allow_followedBy]
  | block reason => rfl
  | modify payload =>
      cases second with
      | allow => rw [followedBy_allow, allow_followedBy]
      | block reason => rfl
      | modify newer => cases third <;> rfl

/-! Results of two runs of hooks. -/

theorem ofResults_of_passed {event : EventType} {results : List Result}
    (passed : results.find? (fun result => !result.success) = none) :
    ofResults event results =
      match if event.isModifying then results.reverse.findSome? output? else none with
      | some output => .modify (payload output)
      | none => .allow := by
  rw [ofResults, passed]
  cases event.isGating <;> rfl

/-- What one result decides by itself. -/
def ofResult (event : EventType) (result : Result) : Decision :=
  if event.isGating && !result.success then block (reason event result)
  else if event.isModifying then (output? result).elim allow fun output => modify (payload output)
  else allow

theorem ofResults_singleton (event : EventType) (result : Result) :
    ofResults event [result] = ofResult event result := by
  cases passed : result.success with
  | true =>
      rw [ofResults_of_passed (by simp [passed])]
      simp only [ofResult, passed, Bool.not_true, Bool.and_false, Bool.false_eq_true, ↓reduceIte,
        List.reverse_singleton, List.findSome?_singleton]
      cases event.isModifying with
      | false => rfl
      | true => cases output? result <;> rfl
  | false =>
      cases gating : event.isGating with
      | true =>
          have found : [result].find? (fun result => !result.success) = some result := by
            simp [passed]
          rw [ofResults_of_first_failure gating found]
          simp [ofResult, gating, passed]
      | false =>
          have noOutput : output? result = none := by simp [output?, passed]
          rw [ofResults_of_not_gating _ gating]
          simp [ofResult, gating, noOutput]

theorem ofResults_nil (event : EventType) : ofResults event [] = allow := by
  rw [ofResults_of_passed rfl]
  cases event.isModifying <;> rfl

theorem ofResults_append_of_passed (event : EventType) {earlier later : List Result}
    (earlierPassed : earlier.find? (fun result => !result.success) = none)
    (laterPassed : later.find? (fun result => !result.success) = none) :
    ofResults event (earlier ++ later) =
      (ofResults event earlier).followedBy (ofResults event later) := by
  have allPassed : (earlier ++ later).find? (fun result => !result.success) = none := by
    rw [List.find?_append, earlierPassed, laterPassed, Option.none_or]
  rw [ofResults_of_passed allPassed, ofResults_of_passed earlierPassed,
    ofResults_of_passed laterPassed]
  cases event.isModifying with
  | false => rfl
  | true =>
      simp only [↓reduceIte, List.reverse_append, List.findSome?_append]
      cases later.reverse.findSome? output? with
      | none => rw [Option.none_or, followedBy_allow]
      | some output => cases earlier.reverse.findSome? output? <;> rfl

theorem ofResults_append (event : EventType) (earlier later : List Result) :
    ofResults event (earlier ++ later) =
      (ofResults event earlier).followedBy (ofResults event later) := by
  cases gating : event.isGating with
  | false => simp only [ofResults_of_not_gating _ gating, followedBy_allow]
  | true =>
      cases found : earlier.find? (fun result => !result.success) with
      | some failed =>
          have failure : ∃ result ∈ earlier, result.success = false :=
            ⟨failed, List.mem_of_find?_eq_some found, by simpa using List.find?_some found⟩
          rw [ofResults_append_of_failure later failure, ofResults_of_first_failure gating found,
            block_followedBy]
      | none =>
          cases foundLater : later.find? (fun result => !result.success) with
          | none => exact ofResults_append_of_passed event found foundLater
          | some failed =>
              -- The first failure of all is the first one of the later results.
              have foundFirst :
                  (earlier ++ later).find? (fun result => !result.success) = some failed := by
                rw [List.find?_append, found, Option.none_or, foundLater]
              have allowed : (ofResults event earlier).isAllowed = true :=
                (isAllowed_ofResults_iff earlier gating).mpr
                  ((find?_failure_eq_none_iff earlier).mp found)
              rw [ofResults_of_first_failure gating foundFirst,
                ofResults_of_first_failure gating foundLater, followedBy_block _ allowed]

/-- Decisions are put together in the order of the results that they come from; how the results are
divided makes no difference, no results decide nothing, and single ones decide by themselves. -/
theorem ofResults_composes (event : EventType) :
    (∀ earlier later, ofResults event (earlier ++ later) =
      (ofResults event earlier).followedBy (ofResults event later)) ∧
    (∀ first second third : Decision,
      (first.followedBy second).followedBy third = first.followedBy (second.followedBy third)) ∧
    (ofResults event [] = allow ∧
      ∀ decision : Decision, allow.followedBy decision = decision ∧
        decision.followedBy allow = decision) ∧
    (∀ result, ofResults event [result] = ofResult event result) ∧
    ∀ results, ofResults event results =
      (results.map fun result => ofResults event [result]).foldr followedBy allow := by
  refine ⟨ofResults_append event, followedBy_assoc, ⟨ofResults_nil event, ?_⟩,
    ofResults_singleton event, ?_⟩
  · intro decision
    exact ⟨allow_followedBy decision, followedBy_allow decision⟩
  · intro results
    induction results with
    | nil => exact ofResults_nil event
    | cons result rest ih =>
        rw [← List.singleton_append, ofResults_append, ih]
        rfl

end LifecycleHooks.Decision
