/-!
Texts as sequences of lines. A line ends with a line feed; a carriage return right before the line
feed belongs to the line end, one at the end of the text does not.
-/

namespace LifecycleHooks.Text

def splitOnChar (separator : Char) : List Char → List (List Char)
  | [] => [[]]
  | c :: rest =>
      if c = separator then [] :: splitOnChar separator rest
      else
        match splitOnChar separator rest with
        | [] => [[c]]
        | piece :: pieces => (c :: piece) :: pieces

def dropReturn (line : List Char) : List Char :=
  match line.getLast? with
  | some '\r' => line.dropLast
  | _ => line

/-- Every piece but the last was ended by a line feed. -/
def linesOfPieces : List (List Char) → List (List Char)
  | [] => []
  | [last] => if last.isEmpty then [] else [last]
  | piece :: pieces => dropReturn piece :: linesOfPieces pieces

def lines (text : String) : List String :=
  (linesOfPieces (splitOnChar '\n' text.toList)).map String.ofList

theorem splitOnChar_ne_nil (separator : Char) (chars : List Char) :
    splitOnChar separator chars ≠ [] := by
  cases chars with
  | nil => simp [splitOnChar]
  | cons c rest =>
      simp only [splitOnChar]
      split
      · simp
      · split <;> simp

theorem splitOnChar_append (separator : Char) (front back : List Char) :
    splitOnChar separator (front ++ separator :: back) =
      splitOnChar separator front ++ splitOnChar separator back := by
  induction front with
  | nil => simp [splitOnChar]
  | cons c rest ih =>
      simp only [List.cons_append, splitOnChar, ih]
      split
      · rfl
      · cases pieces : splitOnChar separator rest with
        | nil => exact absurd pieces (splitOnChar_ne_nil separator rest)
        | cons piece others => rfl

theorem splitOnChar_of_notMem {separator : Char} {chars : List Char}
    (absent : separator ∉ chars) : splitOnChar separator chars = [chars] := by
  induction chars with
  | nil => rfl
  | cons c rest ih =>
      rw [List.mem_cons, not_or] at absent
      rw [splitOnChar, if_neg (Ne.symm absent.1), ih absent.2]

end LifecycleHooks.Text
