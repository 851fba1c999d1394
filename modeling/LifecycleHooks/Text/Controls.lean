/-!
Texts that are safe to show on a terminal. Characters that a terminal may take for the beginning of
a command are shown by their code points.
-/

namespace LifecycleHooks.Text

/-- What is shown for a character: two digits behind a backslash for the old controls that move the
cursor or begin a command, braces around the digits for the controls beyond ASCII. -/
def harmless (c : Char) : List Char :=
  match c.toNat with
  | 7 => ['\\', 'x', '0', '7']
  | 8 => ['\\', 'x', '0', '8']
  | 12 => ['\\', 'x', '0', 'c']
  | 27 => ['\\', 'x', '1', 'b']
  | 127 => ['\\', 'x', '7', 'f']
  | n =>
      if 128 ≤ n && n ≤ 159 then ['\\', 'u', '\x7b'] ++ Nat.toDigits 16 n ++ ['\x7d'] else [c]

def withoutControls (text : String) : String := String.ofList (text.toList.flatMap harmless)

end LifecycleHooks.Text
