import Uncomment.Scan.Segment

/-!
# Alphabets

A scan reads a row of symbols and looks out for five of them: the slash, the asterisk, the backslash
and the two quotes. It works alike on the bytes of a text and on its characters; an alphabet says
what the five are among the symbols at hand, and how many symbols make up a character.

Results:
* `Alphabet.quote?_eq_some_iff`: a symbol opens a literal exactly if it is one of the two quotes.
* `Alphabet.bytes_distinct`, `Alphabet.chars_distinct`: the five symbols are different ones.
-/

namespace Uncomment

open Text

/-- What a scan has to know of its symbols. -/
structure Alphabet (α : Type) where
  slash : α
  star : α
  backslash : α
  mark : Quote → α
  /-- How many symbols a character takes, by the first of them. -/
  width : α → Nat

namespace Alphabet

/-- The bytes of UTF-8. -/
def bytes : Alphabet UInt8 where
  slash := 0x2F
  star := 0x2A
  backslash := 0x5C
  mark := Quote.byte
  width := leadWidth

/-- The characters themselves. -/
def chars : Alphabet Char where
  slash := '/'
  star := '*'
  backslash := '\\'
  mark := Quote.char
  width _ := 1

variable {α : Type} [DecidableEq α] (A : Alphabet α)

/-- The quote that a symbol is. -/
def quote? (a : α) : Option Quote :=
  if a = A.mark .double then some .double else if a = A.mark .single then some .single else none

/-- The symbols that end a code run: the slash, the quotes and the backslash. -/
def isStop (a : α) : Bool :=
  a = A.slash ∨ a = A.mark .double ∨ a = A.mark .single ∨ a = A.backslash

/-- One of the five symbols that a scan looks out for. -/
def isSpecial (a : α) : Bool := A.isStop a ∨ a = A.star

/-- Whether the five symbols are different ones. -/
structure Distinct : Prop where
  slash_star : A.slash ≠ A.star
  slash_backslash : A.slash ≠ A.backslash
  star_backslash : A.star ≠ A.backslash
  mark_slash (q : Quote) : A.mark q ≠ A.slash
  mark_star (q : Quote) : A.mark q ≠ A.star
  mark_backslash (q : Quote) : A.mark q ≠ A.backslash
  mark_injective {p q : Quote} : A.mark p = A.mark q → p = q

theorem bytes_distinct : bytes.Distinct where
  slash_star := by decide
  slash_backslash := by decide
  star_backslash := by decide
  mark_slash q := by cases q <;> decide
  mark_star q := by cases q <;> decide
  mark_backslash q := by cases q <;> decide
  mark_injective {p q} := by cases p <;> cases q <;> decide

theorem chars_distinct : chars.Distinct where
  slash_star := by decide
  slash_backslash := by decide
  star_backslash := by decide
  mark_slash q := by cases q <;> decide
  mark_star q := by cases q <;> decide
  mark_backslash q := by cases q <;> decide
  mark_injective {p q} := by cases p <;> cases q <;> decide

theorem quote?_eq_some_iff (hA : A.Distinct) {a : α} {q : Quote} :
    A.quote? a = some q ↔ a = A.mark q := by
  have hne : A.mark .double ≠ A.mark .single := fun h => by cases hA.mark_injective h
  unfold quote?
  cases q
  · split
    next h => simp [h]
    next h => split <;> simp_all
  · split
    next h => simp [h, hne]
    next h => split <;> simp_all

theorem quote?_eq_none_iff {a : α} :
    A.quote? a = none ↔ a ≠ A.mark .double ∧ a ≠ A.mark .single := by
  unfold quote?
  split
  next h => simp [h]
  next h => split <;> simp_all

end Alphabet

end Uncomment
