/-!
# Sets of characters

A set of characters is kept as ranges in ascending order. Ranges that overlap, or whose numbers
follow each other, are one range, so the number of ranges is a property of the set.

Results:
* `contains_ofRanges`: the set of some ranges holds what one of them holds.
* `contains_union`: a union holds what one of its parts holds.
* `contains_caseless`: a set that is made caseless still holds its members.
-/

namespace Uncomment.Pattern

/-! ## Ranges -/

/-- The characters from one to another, both included. -/
structure CharRange where
  first : Char
  last : Char
  first_le_last : first ≤ last := by decide
deriving DecidableEq, Repr

namespace CharRange

/-- Membership. -/
def contains (r : CharRange) (c : Char) : Bool := r.first ≤ c && c ≤ r.last

/-- The range of one character. -/
def single (c : Char) : CharRange := ⟨c, c, Char.le_refl c⟩

/-- The range between two characters, in whatever order they are given. -/
def between (a b : Char) : CharRange :=
  if h : a ≤ b then ⟨a, b, h⟩ else ⟨b, a, (Char.le_total a b).resolve_left h⟩

/-- How many numbers there are from the first character to the last. -/
def size (r : CharRange) : Nat := r.last.toNat - r.first.toNat + 1

/-- Whether a range that begins no earlier leaves no number between the two. -/
def reaches (a b : CharRange) : Bool := b.first.toNat ≤ a.last.toNat + 1

/-- The range from the first character of one range to the last one of both. -/
def extend (a b : CharRange) : CharRange :=
  if h : a.last ≤ b.last then ⟨a.first, b.last, Char.le_trans a.first_le_last h⟩ else a

/-- What two ranges have in common. -/
def common? (a b : CharRange) : Option CharRange :=
  let first := if a.first ≤ b.first then b.first else a.first
  let last := if a.last ≤ b.last then a.last else b.last
  if h : first ≤ last then some ⟨first, last, h⟩ else none

/-- The letters of the other case of those in a range, in ASCII. -/
def otherCase (r : CharRange) : List CharRange :=
  let moved (letters : CharRange) (shift : Char → Char) : List CharRange :=
    match r.common? letters with
    | none => []
    | some part => [between (shift part.first) (shift part.last)]
  moved ⟨'a', 'z', by decide⟩ Char.toUpper ++ moved ⟨'A', 'Z', by decide⟩ Char.toLower

theorem contains_extend {a b : CharRange} (h : a.first ≤ b.first) (r : a.reaches b = true)
    (c : Char) : (a.extend b).contains c = (a.contains c || b.contains c) := by
  rw [Bool.eq_iff_iff]
  have ha := a.first_le_last
  have hb := b.first_le_last
  simp only [reaches, decide_eq_true_eq, Char.toNat] at r
  simp only [Char.le_def, UInt32.le_iff_toNat_le] at h ha hb
  unfold extend
  split
  next hl =>
    simp only [Char.le_def, UInt32.le_iff_toNat_le] at hl
    simp only [contains, Char.le_def, UInt32.le_iff_toNat_le, Bool.and_eq_true,
      decide_eq_true_eq, Bool.or_eq_true]
    omega
  next hl =>
    simp only [Char.le_def, UInt32.le_iff_toNat_le] at hl
    simp only [contains, Char.le_def, UInt32.le_iff_toNat_le, Bool.and_eq_true,
      decide_eq_true_eq, Bool.or_eq_true]
    omega

end CharRange

/-! ## Neighbours -/

/-- The first and the last of all characters. -/
def firstChar : Char := Char.ofNat 0

@[inherit_doc firstChar]
def lastChar : Char := Char.ofNat 0x10FFFF

/-- The character behind another one; no number between U+D7FF and U+E000 is a character. -/
def nextChar (c : Char) : Char :=
  Char.ofNat (if c.toNat = 0xD7FF then 0xE000 else c.toNat + 1)

/-- The character before another one. -/
def previousChar (c : Char) : Char :=
  Char.ofNat (if c.toNat = 0xE000 then 0xD7FF else c.toNat - 1)

/-! ## Sets -/

/-- A set of characters: ranges in ascending order, none of which reaches the next. -/
structure CharSet where
  ranges : List CharRange := []
deriving DecidableEq, Repr

namespace CharSet

/-- Membership. -/
def contains (s : CharSet) (c : Char) : Bool := s.ranges.any (·.contains c)

/-- Joins ranges that reach each other; they begin in ascending order, at `current`. -/
def join (done : List CharRange) (current : CharRange) : List CharRange → List CharRange
  | [] => (current :: done).reverse
  | r :: rs =>
    if current.reaches r then join done (current.extend r) rs else join (current :: done) r rs

/-- The set of the characters in some ranges. -/
def ofRanges (ranges : List CharRange) : CharSet :=
  match ranges.mergeSort (fun a b => a.first ≤ b.first) with
  | [] => {}
  | r :: rs => ⟨join [] r rs⟩

/-- The set of one character. -/
def single (c : Char) : CharSet := ⟨[.single c]⟩

/-- All characters. -/
def all : CharSet := ⟨[.between firstChar lastChar]⟩

/-- What is in one of two sets. -/
def union (a b : CharSet) : CharSet := ofRanges (a.ranges ++ b.ranges)

/-- The gaps between ranges, and the one behind the last of them. -/
def gaps (done : List CharRange) (r : CharRange) : List CharRange → List CharRange
  | [] =>
    (if r.last < lastChar then .between (nextChar r.last) lastChar :: done else done).reverse
  | next :: rs => gaps (.between (nextChar r.last) (previousChar next.first) :: done) next rs

/-- What is not in a set. -/
def complement (s : CharSet) : CharSet :=
  match s.ranges with
  | [] => all
  | r :: rs =>
    ⟨gaps (if firstChar < r.first then [.between firstChar (previousChar r.first)] else []) r rs⟩

/-- What two lists of ranges have in common. -/
def commonRanges (done : List CharRange) : List CharRange → List CharRange → List CharRange
  | a :: as, b :: bs =>
    let done := (a.common? b).toList ++ done
    if a.last < b.last then commonRanges done as (b :: bs) else commonRanges done (a :: as) bs
  | _, _ => done.reverse
termination_by as bs => as.length + bs.length

/-- What is in both of two sets. -/
def intersection (a b : CharSet) : CharSet := ⟨commonRanges [] a.ranges b.ranges⟩

/-- What is in a list of ranges and not in another one. -/
def remainingRanges (done : List CharRange) : List CharRange → List CharRange → List CharRange
  | [], _ => done.reverse
  | as, [] => done.reverse ++ as
  | a :: as, b :: bs =>
    if b.last < a.first then remainingRanges done (a :: as) bs
    else if a.last < b.first then remainingRanges (a :: done) as (b :: bs)
    else
      let done :=
        if a.first < b.first then .between a.first (previousChar b.first) :: done else done
      if b.last < a.last then
        remainingRanges done (.between (nextChar b.last) a.last :: as) bs
      else remainingRanges done as (b :: bs)
termination_by as bs => as.length + bs.length

/-- What is in the first of two sets only. -/
def difference (a b : CharSet) : CharSet := ⟨remainingRanges [] a.ranges b.ranges⟩

/-- What is in one of two sets only. -/
def symmetricDifference (a b : CharSet) : CharSet := (a.union b).difference (a.intersection b)

/-- A set with the other case of its members, in ASCII. -/
def caseless (s : CharSet) : CharSet :=
  ofRanges (s.ranges ++ s.ranges.flatMap CharRange.otherCase)

/-- Whether all members are of ASCII. -/
def isAscii (s : CharSet) : Bool := s.ranges.all (·.last.toNat < 0x80)

/-- The only member of a set. -/
def member? (s : CharSet) : Option Char :=
  match s.ranges with
  | [r] => if r.first = r.last then some r.first else none
  | _ => none

/-! ## Membership -/

private theorem any_join (c : Char) (done : List CharRange) (current : CharRange)
    (rs : List CharRange)
    (h : (current :: rs).Pairwise fun a b => decide (a.first ≤ b.first) = true) :
    (join done current rs).any (·.contains c) =
      (done.any (·.contains c) || (current :: rs).any (·.contains c)) := by
  induction rs generalizing done current with
  | nil => simp [join, Bool.or_comm]
  | cons r rs ih =>
    have hr : current.first ≤ r.first := by simpa using List.rel_of_pairwise_cons h (by simp)
    rw [join]
    split
    next reach =>
      rw [ih]
      · simp [CharRange.contains_extend hr reach, Bool.or_assoc]
      · have extended : (current.extend r).first = current.first := by
          unfold CharRange.extend
          split <;> rfl
        have tail := List.Pairwise.of_cons (List.Pairwise.of_cons h)
        refine List.Pairwise.cons (fun a ha => ?_) tail
        rw [extended]
        exact List.rel_of_pairwise_cons h (List.mem_cons_of_mem _ ha)
    next =>
      rw [ih _ _ (List.Pairwise.of_cons h)]
      simp [Bool.or_assoc, Bool.or_left_comm]

theorem contains_ofRanges (ranges : List CharRange) (c : Char) :
    (ofRanges ranges).contains c = ranges.any (·.contains c) := by
  have perm := List.mergeSort_perm ranges fun a b => decide (a.first ≤ b.first)
  rw [← perm.any_eq]
  have sorted : (ranges.mergeSort fun a b => decide (a.first ≤ b.first)).Pairwise
      fun a b => decide (a.first ≤ b.first) = true := List.pairwise_mergeSort
    (fun a b d hab hbd => by
      simp only [decide_eq_true_eq] at hab hbd ⊢
      exact Char.le_trans hab hbd)
    (fun a b => by simpa using Char.le_total a.first b.first) ranges
  unfold ofRanges
  split
  next h => simp [h, contains]
  next r rs h =>
    rw [h] at sorted ⊢
    simp [contains, any_join c [] r rs sorted]

theorem contains_union (a b : CharSet) (c : Char) :
    (a.union b).contains c = (a.contains c || b.contains c) := by
  rw [union, contains_ofRanges, List.any_append]
  rfl

theorem contains_caseless {s : CharSet} {c : Char} (h : s.contains c = true) :
    s.caseless.contains c = true := by
  unfold contains at h
  simp [caseless, contains_ofRanges, List.any_append, h]

end CharSet

end Uncomment.Pattern
