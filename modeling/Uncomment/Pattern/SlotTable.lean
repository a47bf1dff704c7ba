import Std.Data.HashMap

/-!
# Tables that forget

A table has a fixed number of slots. What is put into a slot takes the place of what was there, so a
key is found again only as long as no other key was put into its slot.
-/

namespace Uncomment.Pattern

/-- The slot of a key that consists of some numbers, one of `count` slots. Each number is mixed into
    a word of 64 bits, which is then multiplied by a prime. -/
def slotOf (count : Nat) (key : List Nat) : Nat :=
  let mixed (hash : UInt64) (n : Nat) : UInt64 := (hash ^^^ UInt64.ofNat n) * 1099511628211
  (key.foldl mixed 14695981039346656037).toNat % count

/-- A table of values by keys: what each slot holds. -/
structure SlotTable (κ α : Type) where
  slots : Std.HashMap Nat (κ × α) := {}

namespace SlotTable

variable {κ α : Type} [DecidableEq κ]

/-- The value of a key, if its slot holds it. -/
def find? (t : SlotTable κ α) (slot : Nat) (key : κ) : Option α :=
  match t.slots[slot]? with
  | some (k, v) => if k = key then some v else none
  | none => none

omit [DecidableEq κ] in
/-- Puts the value of a key into its slot. -/
def put (t : SlotTable κ α) (slot : Nat) (key : κ) (value : α) : SlotTable κ α :=
  ⟨t.slots.insert slot (key, value)⟩

end SlotTable

end Uncomment.Pattern
