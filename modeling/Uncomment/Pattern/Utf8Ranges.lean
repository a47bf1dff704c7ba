import Uncomment.Pattern.Automaton
import Uncomment.Pattern.CharSet

/-!
# Characters of a range as bytes

The characters of a range are given by sequences of ranges of bytes. The numbers of the range are
cut where the length of the UTF-8 form changes, at the gap of the surrogates, and into blocks whose
numbers differ in their last digits of six bits only, and there in all ways between two digits.

Results:
* `mem_blocks`: the blocks of a range hold its numbers and no others.
-/

namespace Uncomment.Pattern

/-! ## Blocks -/

/-- Cuts the numbers from `first` to `last` at multiples of `unit`, and what is left of whole units
    at multiples of 64 units, and so on for so many turns. -/
def blocks : Nat → Nat → Nat → Nat → List (Nat × Nat)
  | 0, _, first, last => [(first, last)]
  | turns + 1, unit, first, last =>
    if first / unit = last / unit then [(first, last)]
    else
      let start := (first + unit - 1) / unit * unit
      let stop := (last + 1) / unit * unit
      (if first < start then [(first, start - 1)] else []) ++
        (if start < stop then blocks turns (64 * unit) start (stop - 1) else []) ++
        (if stop ≤ last then [(stop, last)] else [])

private theorem cuts_le {unit first last : Nat} (h : 0 < unit) (hle : first ≤ last)
    (hne : first / unit ≠ last / unit) :
    first ≤ (first + unit - 1) / unit * unit ∧
      (first + unit - 1) / unit * unit ≤ (last + 1) / unit * unit ∧
      (last + 1) / unit * unit ≤ last + 1 := by
  have hlt : first / unit < last / unit :=
    Nat.lt_of_le_of_ne (Nat.div_le_div_right hle) hne
  refine ⟨?_, Nat.mul_le_mul_right _ ?_, Nat.div_mul_le_self _ _⟩
  · have := Nat.lt_div_mul_add h (a := first + unit - 1)
    omega
  · have up : (first + unit - 1) / unit ≤ first / unit + 1 := by
      rw [← Nat.add_div_right _ h]
      exact Nat.div_le_div_right (by omega)
    have down : last / unit ≤ (last + 1) / unit := Nat.div_le_div_right (by omega)
    omega

theorem mem_blocks {turns unit first last : Nat} (h : 0 < unit) (hle : first ≤ last) (n : Nat) :
    (∃ b ∈ blocks turns unit first last, b.1 ≤ n ∧ n ≤ b.2) ↔ first ≤ n ∧ n ≤ last := by
  induction turns generalizing unit first last with
  | zero => simp [blocks]
  | succ turns ih =>
    rw [blocks]
    split
    next => simp
    next hne =>
      obtain ⟨h1, h2, h3⟩ := cuts_le h hle hne
      generalize (first + unit - 1) / unit * unit = start at *
      generalize (last + 1) / unit * unit = stop at *
      have middle (hm : start < stop) : (∃ b ∈ blocks turns (64 * unit) start (stop - 1),
          b.1 ≤ n ∧ n ≤ b.2) ↔ start ≤ n ∧ n ≤ stop - 1 := ih (by omega) (by omega)
      simp only [List.mem_append, or_and_right, exists_or]
      have front : (∃ b ∈ if first < start then [(first, start - 1)] else [],
          b.1 ≤ n ∧ n ≤ b.2) ↔ first ≤ n ∧ n < start := by
        split
        · simp
          omega
        · simp
          omega
      have inner : (∃ b ∈ if start < stop then blocks turns (64 * unit) start (stop - 1) else [],
          b.1 ≤ n ∧ n ≤ b.2) ↔ start ≤ n ∧ n < stop := by
        split
        next hm =>
          rw [middle hm]
          omega
        next =>
          simp
          omega
      have back : (∃ b ∈ if stop ≤ last then [(stop, last)] else [],
          b.1 ≤ n ∧ n ≤ b.2) ↔ stop ≤ n ∧ n ≤ last := by
        split
        · simp
        · simp
          omega
      rw [front, inner, back]
      omega

/-! ## Sequences of bytes -/

/-- The numbers between which the UTF-8 form keeps its length and all numbers are characters. -/
def utf8Zones : List (Nat × Nat) :=
  [(0x80, 0x7FF), (0x800, 0xD7FF), (0xE000, 0xFFFF), (0x10000, 0x10FFFF)]

/-- The ranges of bytes that the characters of a block are made of. -/
def byteRanges (first last : Nat) : List ByteRange :=
  List.zipWith ByteRange.mk (String.utf8EncodeChar (Char.ofNat first))
    (String.utf8EncodeChar (Char.ofNat last))

/-- The sequences of ranges of bytes that a range of characters consists of, in ascending order. -/
def CharRange.byteSequences (r : CharRange) : List (List ByteRange) :=
  let first := r.first.toNat
  let last := r.last.toNat
  (if first < 0x80 then [byteRanges first (min last 0x7F)] else []) ++
    utf8Zones.flatMap fun (low, high) =>
      let first := max first low
      let last := min last high
      if first ≤ last then (blocks 3 64 first last).map fun (a, b) => byteRanges a b else []

/-- The sequences of ranges of bytes that a set consists of, in ascending order. -/
def CharSet.byteSequences (s : CharSet) : List (List ByteRange) :=
  s.ranges.flatMap CharRange.byteSequences

end Uncomment.Pattern
