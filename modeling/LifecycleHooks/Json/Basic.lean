import LifecycleHooks.Number.Double

/-!
JSON values. A number is a whole number of 64 bits or a double, and the fields of an object are kept
in the order of their keys, each key once.
-/

namespace LifecycleHooks

inductive Number
  | whole (value : Int)
  | double (value : Double)
  deriving DecidableEq, Repr

inductive Json
  | null
  | bool (value : Bool)
  | number (value : Number)
  | string (value : String)
  | array (items : List Json)
  | object (fields : List (String × Json))
  deriving Repr

/-- Whether two numbers have the same value; a whole number never equals a double. -/
def Number.equals : Number → Number → Bool
  | whole a, whole b => a == b
  | double a, double b => a == b || (a.isZero && b.isZero)
  | _, _ => false

namespace Json

mutual

/-- Equality by values, for which the two zeros among the doubles are one. -/
def equals : Json → Json → Bool
  | null, null => true
  | bool a, bool b => a == b
  | number a, number b => a.equals b
  | string a, string b => a == b
  | array a, array b => equalItems a b
  | object a, object b => equalFields a b
  | _, _ => false

def equalItems : List Json → List Json → Bool
  | [], [] => true
  | a :: as, b :: bs => equals a b && equalItems as bs
  | _, _ => false

def equalFields : List (String × Json) → List (String × Json) → Bool
  | [], [] => true
  | (k, a) :: as, (l, b) :: bs => k == l && equals a b && equalFields as bs
  | _, _ => false

end

mutual

/-- Equality to the last bit. -/
def same : Json → Json → Bool
  | null, null => true
  | bool a, bool b => a == b
  | number a, number b => decide (a = b)
  | string a, string b => a == b
  | array a, array b => sameItems a b
  | object a, object b => sameFields a b
  | _, _ => false

def sameItems : List Json → List Json → Bool
  | [], [] => true
  | a :: as, b :: bs => same a b && sameItems as bs
  | _, _ => false

def sameFields : List (String × Json) → List (String × Json) → Bool
  | [], [] => true
  | (k, a) :: as, (l, b) :: bs => k == l && same a b && sameFields as bs
  | _, _ => false

end

mutual

theorem same_iff : ∀ a b : Json, same a b = true ↔ a = b
  | null, b => by cases b <;> simp [same]
  | bool a, b => by cases b <;> simp [same]
  | number a, b => by cases b <;> simp [same]
  | string a, b => by cases b <;> simp [same]
  | array a, b => by cases b <;> simp [same, sameItems_iff a]
  | object a, b => by cases b <;> simp [same, sameFields_iff a]

theorem sameItems_iff : ∀ as bs : List Json, sameItems as bs = true ↔ as = bs
  | [], bs => by cases bs <;> simp [sameItems]
  | a :: as, bs => by cases bs <;> simp [sameItems, same_iff a, sameItems_iff as]

theorem sameFields_iff : ∀ as bs : List (String × Json), sameFields as bs = true ↔ as = bs
  | [], bs => by cases bs <;> simp [sameFields]
  | (k, a) :: as, bs => by
      cases bs <;> simp [sameFields, same_iff a, sameFields_iff as, Prod.ext_iff, and_assoc]

end

instance : DecidableEq Json := fun a b => decidable_of_iff _ (same_iff a b)

instance : Inhabited Json := ⟨null⟩

def ofNat (n : Nat) : Json := number (.whole n)

def ofInt (n : Int) : Json := number (.whole n)

def ofOption {α : Type} (f : α → Json) : Option α → Json
  | none => null
  | some a => f a

end Json

abbrev Fields (α : Type) := List (String × α)

namespace Fields

def insert {α : Type} (key : String) (value : α) : Fields α → Fields α
  | [] => [(key, value)]
  | (k, v) :: rest =>
      if key < k then (key, value) :: (k, v) :: rest
      else if key = k then (key, value) :: rest
      else (k, v) :: insert key value rest

/-- The last of the values given for a key counts. -/
def ofList {α : Type} (pairs : List (String × α)) : Fields α :=
  pairs.foldl (fun fields pair => insert pair.1 pair.2 fields) []

def find? {α : Type} (key : String) : Fields α → Option α
  | [] => none
  | (k, v) :: rest => if k = key then some v else find? key rest

theorem find?_insert {α : Type} (key : String) (value : α) (fields : Fields α) (other : String) :
    find? other (insert key value fields) =
      if key = other then some value else find? other fields := by
  induction fields with
  | nil => simp [insert, find?]
  | cons field rest ih =>
      obtain ⟨k, v⟩ := field
      simp only [insert]
      split
      · simp [find?]
      · split
        · rename_i same
          subst same
          simp only [find?]
          split <;> simp_all
        · rename_i different
          simp only [find?, ih]
          by_cases here : k = other
          · subst here
            simp [different]
          · simp [here]

end Fields

namespace Json

def objectOf (pairs : List (String × Json)) : Json := object (Fields.ofList pairs)

def field? (key : String) : Json → Option Json
  | object fields => Fields.find? key fields
  | _ => none

end Json

end LifecycleHooks
