import LifecycleHooks.Json.Reader

/-!
What holds of every value that is read. A property that every item and every field keeps when it is
added, and that the numbers among the tokens have, holds of the value when its last token is read.
-/

namespace LifecycleHooks.Json

/-- A property that values keep while they are built. -/
structure Kept (holds : Json → Prop) : Prop where
  null : holds .null
  bool : ∀ value, holds (.bool value)
  string : ∀ value, holds (.string value)
  noItems : holds (.array [])
  item : ∀ {items item}, holds (.array items) → holds item → holds (.array (item :: items))
  reverse : ∀ {items}, holds (.array items) → holds (.array items.reverse)
  noFields : holds (.object [])
  field : ∀ {fields key value}, holds (.object fields) → holds value →
    holds (.object (Fields.insert key value fields))

def Token.Has (holds : Json → Prop) : Token → Prop
  | .number (some value) => holds (.number value)
  | _ => True

def Place.Has (holds : Json → Prop) : Place → Prop
  | .value | .firstItem | .firstField => True
  | .nextItem done => holds (.array done)
  | .nextField done | .colon done _ => holds (.object done)
  | .closed read => holds read

def Frame.Has (holds : Json → Prop) : Frame → Prop
  | .items done => holds (.array done)
  | .fields done _ => holds (.object done)

def State.Has (holds : Json → Prop) (state : State) : Prop :=
  state.1.Has holds ∧ ∀ frame ∈ state.2, frame.Has holds

def Dialect.Has (holds : Json → Prop) (dialect : Dialect) : Prop :=
  ∀ name value, dialect.literal? name = some value → holds value

variable {holds : Json → Prop} {dialect : Dialect}

theorem has_open (kept : Kept holds) (literals : dialect.Has holds) {frames : List Frame}
    (around : ∀ frame ∈ frames, frame.Has holds) {token : Token} (number : token.Has holds)
    {next : State} (opened : dialect.open frames token = .ok next) : next.Has holds := by
  cases token with
  | openArray =>
      simp only [Dialect.open] at opened
      split at opened
      · rw [← Except.ok.inj opened]
        exact ⟨trivial, around⟩
      · contradiction
  | openObject =>
      simp only [Dialect.open] at opened
      split at opened
      · rw [← Except.ok.inj opened]
        exact ⟨trivial, around⟩
      · contradiction
  | text value =>
      rw [← Except.ok.inj opened]
      exact ⟨kept.string value, around⟩
  | number value =>
      cases value with
      | some value =>
          rw [← Except.ok.inj opened]
          exact ⟨number, around⟩
      | none =>
          rw [← Except.ok.inj opened]
          exact ⟨kept.null, around⟩
  | word name escaped =>
      cases escaped with
      | true => simp [Dialect.open] at opened
      | false =>
          simp only [Dialect.open] at opened
          split at opened
          · rename_i value found
            rw [← Except.ok.inj opened]
            exact ⟨literals name value found, around⟩
          · contradiction
  | _ => simp [Dialect.open] at opened

theorem has_name {done : Fields Json} {frames : List Frame} (before : holds (.object done))
    (around : ∀ frame ∈ frames, frame.Has holds) {token : Token} {next : State}
    (named : dialect.name done frames token = .ok next) : next.Has holds := by
  cases token with
  | text key =>
      rw [← Except.ok.inj named]
      exact ⟨before, around⟩
  | word key escaped =>
      simp only [Dialect.name] at named
      split at named
      · rw [← Except.ok.inj named]
        exact ⟨before, around⟩
      · contradiction
  | _ => simp [Dialect.name] at named

/-- One token keeps the property: what is closed had it before, and so had what it is added to. -/
theorem has_step (kept : Kept holds) (literals : dialect.Has holds) {state next : State}
    (before : state.Has holds) {token : Token} (number : token.Has holds)
    (stepped : dialect.step state token = .ok next) : next.Has holds := by
  obtain ⟨place, frames⟩ := state
  obtain ⟨here, around⟩ := before
  have pushed : ∀ frame : Frame, frame.Has holds → ∀ other ∈ frame :: frames, other.Has holds :=
    fun frame inside => List.forall_mem_cons.mpr ⟨inside, around⟩
  cases place with
  | value => exact has_open kept literals around number stepped
  | firstItem =>
      by_cases closes : token = .closeArray
      · subst closes
        rw [← Except.ok.inj stepped]
        exact ⟨kept.noItems, around⟩
      · rw [Dialect.step] at stepped
        · exact has_open kept literals (pushed (.items []) kept.noItems) number stepped
        · exact closes
  | nextItem done =>
      by_cases closes : token = .closeArray
      · subst closes
        simp only [Dialect.step] at stepped
        split at stepped
        · rw [← Except.ok.inj stepped]
          exact ⟨kept.reverse here, around⟩
        · contradiction
      · rw [Dialect.step] at stepped
        · exact has_open kept literals (pushed (.items done) here) number stepped
        · exact closes
  | firstField =>
      by_cases closes : token = .closeObject
      · subst closes
        rw [← Except.ok.inj stepped]
        exact ⟨kept.noFields, around⟩
      · rw [Dialect.step] at stepped
        · exact has_name kept.noFields around stepped
        · exact closes
  | nextField done =>
      by_cases closes : token = .closeObject
      · subst closes
        simp only [Dialect.step] at stepped
        split at stepped
        · rw [← Except.ok.inj stepped]
          exact ⟨here, around⟩
        · contradiction
      · rw [Dialect.step] at stepped
        · exact has_name here around stepped
        · exact closes
  | colon done key =>
      cases token with
      | colon =>
          rw [← Except.ok.inj stepped]
          exact ⟨trivial, pushed (.fields done key) here⟩
      | _ => simp [Dialect.step] at stepped
  | closed read =>
      cases frames with
      | nil => simp [Dialect.step] at stepped
      | cons frame outer =>
          obtain ⟨inside, outerHas⟩ := List.forall_mem_cons.mp around
          cases frame with
          | items done =>
              have longer : holds (.array (read :: done)) := kept.item inside here
              cases token with
              | comma =>
                  rw [← Except.ok.inj stepped]
                  exact ⟨longer, outerHas⟩
              | closeArray =>
                  rw [← Except.ok.inj stepped]
                  exact ⟨kept.reverse longer, outerHas⟩
              | _ => simp [Dialect.step] at stepped
          | fields done key =>
              have longer : holds (.object (Fields.insert key read done)) := kept.field inside here
              cases token with
              | comma =>
                  rw [← Except.ok.inj stepped]
                  exact ⟨longer, outerHas⟩
              | closeObject =>
                  rw [← Except.ok.inj stepped]
                  exact ⟨longer, outerHas⟩
              | _ => simp [Dialect.step] at stepped

theorem has_foldlM (kept : Kept holds) (literals : dialect.Has holds) (tokens : List Token)
    (numbers : ∀ token ∈ tokens, token.Has holds) (state last : State) (before : state.Has holds)
    (run : tokens.foldlM dialect.step state = .ok last) : last.Has holds := by
  induction tokens generalizing state with
  | nil =>
      obtain rfl := Except.ok.inj run
      exact before
  | cons token rest ih =>
      obtain ⟨number, restNumbers⟩ := List.forall_mem_cons.mp numbers
      rw [List.foldlM_cons] at run
      cases stepped : dialect.step state token with
      | error fault => simp [stepped, bind, Except.bind] at run
      | ok next =>
          rw [stepped] at run
          exact ih restNumbers next (has_step kept literals before number stepped) run

theorem has_read (kept : Kept holds) (literals : dialect.Has holds) {tokens : List Token}
    (numbers : ∀ token ∈ tokens, token.Has holds) {value : Json}
    (read : dialect.read tokens = .ok value) : holds value := by
  simp only [Dialect.read] at read
  split at read
  · contradiction
  · rename_i last run
    have built :=
      has_foldlM kept literals tokens numbers start last ⟨trivial, by simp [start]⟩ run
    simp only [finish] at read
    split at read
    · obtain rfl := Except.ok.inj read
      exact built.1
    · contradiction

theorem Kept.strict (kept : Kept holds) : Json.strict.Has holds := by
  intro name value found
  simp only [Json.strict, strictLiteral?] at found
  split at found
  · obtain rfl := Option.some.inj found
    exact kept.null
  · obtain rfl := Option.some.inj found
    exact kept.bool true
  · obtain rfl := Option.some.inj found
    exact kept.bool false
  · contradiction

end LifecycleHooks.Json
