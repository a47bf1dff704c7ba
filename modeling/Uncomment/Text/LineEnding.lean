import Uncomment.Text.Bytes
import Uncomment.Text.Derived

/-!
# Line endings

Normalization replaces every pair CR LF by a single LF, from left to right; a CR without an LF
behind it stays. The output is not scanned again, so CR CR LF becomes CR LF.

Results:
* `collapse_eq_self_iff`: a text is its own normal form exactly if it holds no pair.
* `normalize_text`: the text of the result, whether the input was reused or not.
* `length_collapse`: each pair costs one character.
-/

namespace Uncomment.LineEnding

open Text

/-! ## Pairs -/

/-- Replaces each pair CR LF by LF. -/
def collapse : List Char → List Char
  | '\r' :: '\n' :: rest => '\n' :: collapse rest
  | c :: rest => c :: collapse rest
  | [] => []

/-- How many pairs CR LF there are. -/
def pairs : List Char → Nat
  | '\r' :: '\n' :: rest => pairs rest + 1
  | _ :: rest => pairs rest
  | [] => 0

theorem length_collapse (cs : List Char) : (collapse cs).length + pairs cs = cs.length := by
  fun_induction collapse cs with
  | case1 rest ih => simp [pairs]; omega
  | case2 c rest h ih => rw [pairs.eq_2 _ _ h]; simp; omega
  | case3 => rfl

theorem collapse_eq_self_iff {cs : List Char} : collapse cs = cs ↔ pairs cs = 0 := by
  constructor
  · intro h
    have := length_collapse cs
    rw [h] at this
    omega
  · intro h
    fun_induction collapse cs with
    | case1 rest ih => simp [pairs] at h
    | case2 c rest hc ih => rw [pairs.eq_2 _ _ hc] at h; rw [ih h]
    | case3 => rfl

/-! ## Normal form of a text -/

/-- The text with every CR LF replaced by LF; a text without such a pair is used as it is. -/
def normalize (text : String) : Derived :=
  if pairs text.toList = 0 then ⟨text, true⟩ else ⟨String.ofList (collapse text.toList), false⟩

@[simp] theorem normalize_text (text : String) :
    (normalize text).text = String.ofList (collapse text.toList) := by
  unfold normalize
  split
  next h => rw [collapse_eq_self_iff.2 h, String.ofList_toList]
  next => rfl

theorem normalize_unchanged_iff {text : String} :
    (normalize text).unchanged = true ↔ (normalize text).text = text := by
  rw [normalize_text]
  unfold normalize
  split
  next h => simp [collapse_eq_self_iff.2 h, String.ofList_toList]
  next h =>
    refine ⟨fun h => by simp at h, fun h' => absurd ?_ h⟩
    rw [← collapse_eq_self_iff]
    simpa using congrArg String.toList h'

end Uncomment.LineEnding
