import Uncomment.Text.Shown

/-!
# Quoted texts

A quoted text stands between double quotes on one line. A backslash marks what is not shown as it
is: the double quote and the backslash itself, U+0000, tab, line feed and carriage return by a
letter or digit, and any other character that cannot be shown by its code point.

Results:
* `quoteChar_of_isShown`: every shown character but these two stands for itself.
-/

namespace Uncomment.Text

/-- The hexadecimal digits of a number, in lower case and without leading zeros. -/
def hex (n : Nat) : String := String.ofList (Nat.toDigits 16 n)

/-- How a quoted text spells a character. -/
def quoteChar (c : Char) : String :=
  if c = '\x00' then "\\0"
  else if c = '\t' then "\\t"
  else if c = '\r' then "\\r"
  else if c = '\n' then "\\n"
  else if c = '\x22' ∨ c = '\\' then String.ofList ['\\', c]
  else if isShown c then String.ofList [c]
  else "\\u\x7b" ++ hex c.toNat ++ "\x7d"

/-- The text in quotes. -/
def quoted (text : String) : String :=
  "\"" ++ String.join (text.toList.map quoteChar) ++ "\""

theorem quoteChar_of_isShown {c : Char} (h : isShown c = true)
    (hq : c ≠ '\x22' ∧ c ≠ '\\') : quoteChar c = String.ofList [c] := by
  have ne (d : Char) (hd : isShown d = false) : c ≠ d := by
    rintro rfl; rw [h] at hd; cases hd
  have := ne '\x00' (by decide)
  have := ne '\t' (by decide)
  have := ne '\r' (by decide)
  have := ne '\n' (by decide)
  simp [quoteChar, *]

end Uncomment.Text
