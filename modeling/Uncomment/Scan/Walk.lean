import Uncomment.Scan.Cursor

/-!
# Walks with several cursors

A walk holds any number of cursors over one text, numbered in the order in which they were made.
Each step moves one of them, or makes a new one at the place of another.

Results:
* `Walk.step?_move`: a move answers what the cursor alone would answer, and touches no other.
* `Walk.step?_clone`: a clone stands where the cursor it was made from stands.
-/

namespace Uncomment

/-- The cursors made so far, by their numbers. -/
abbrev Walk := List Cursor

namespace Walk

/-- One way to move a cursor. -/
inductive Move where
  /-- Past the next segment. -/
  | next
  /-- Past `n` segments and one more. -/
  | nth (n : Nat)
  /-- Past the next comment. -/
  | nextComment
deriving DecidableEq, Repr

/-- Moves a cursor; answers the segment that it passed last, if the text had one to pass. -/
def Move.run : Move → Cursor → Option Segment × Cursor
  | next, c => c.next
  | nth n, c => c.nth n
  | nextComment, c => c.nextComment

/-- A step of a walk, on the cursor of that number. -/
inductive Step where
  | move (cursor : Nat) (how : Move)
  | clone (cursor : Nat)
deriving DecidableEq, Repr

/-- What a step answers. -/
inductive Answer where
  /-- The segment reached by a move, if any. -/
  | reached (segment : Option Segment)
  /-- The number of a new cursor. -/
  | made (cursor : Nat)
deriving DecidableEq, Repr

/-- The walk with one cursor, before the first segment of a text. -/
def ofText (text : String) : Walk := [Cursor.ofText text]

/-- Does a step, if there is a cursor of its number. -/
def step? (w : Walk) : Step → Option (Answer × Walk)
  | .move i how => w[i]?.map fun c => (.reached (how.run c).1, w.set i (how.run c).2)
  | .clone i => w[i]?.map fun c => (.made w.length, w ++ [c])

theorem step?_move {w : Walk} {i : Nat} {c : Cursor} (how : Move) (h : w[i]? = some c) :
    ∃ w', w.step? (.move i how) = some (.reached (how.run c).1, w') ∧
      w'[i]? = some (how.run c).2 ∧ ∀ j, j ≠ i → w'[j]? = w[j]? := by
  refine ⟨w.set i (how.run c).2, by simp [step?, h], ?_, fun j hj => ?_⟩
  · obtain ⟨hi, _⟩ := List.getElem?_eq_some_iff.1 h
    simp [hi]
  · rw [List.getElem?_set_ne (Ne.symm hj)]

theorem step?_clone {w : Walk} {i : Nat} {c : Cursor} (h : w[i]? = some c) :
    ∃ w', w.step? (.clone i) = some (.made w.length, w') ∧
      w'[w.length]? = some c ∧ ∀ j, j < w.length → w'[j]? = w[j]? :=
  ⟨w ++ [c], by simp [step?, h], by simp, fun j hj => by simp [List.getElem?_append_left hj]⟩

end Walk

end Uncomment
