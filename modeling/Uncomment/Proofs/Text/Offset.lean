import Mathlib
import Uncomment.Text.Slice

/-!
# Looking at a text by offsets

Where a program knows no more of a text than an offset into its bytes, a look at the text can go
wrong: there may be no byte at that offset, and a slice may begin or end outside the text or inside
a character. Here every look is made only where it can be made, and answers a fault otherwise.

Results:
* `byteAt_eq`, `bytesFrom_eq`, `slice_eq`: where a look can be made.
* `isValid_of_append`, `exists_append_of_isValid`: the offsets between two characters are those
  where a slice may begin or end.
* `exists_append_of_getElem?`: a byte below 0x80 stands for a character of its own, so on both sides
  of it there are such offsets.
* `slice_to_end`, `slice_behind_backslash`: what a slice to the end of the text holds that begins
  between two characters, such as behind a backslash.
-/

namespace Uncomment.Offset

open Text

/-! ## Looks that can go wrong -/

/-- Why a look at a text cannot be made, or a scan does not go on. -/
inductive Fault where
  /-- The bytes end before this offset, or the slice before it begins. -/
  | outside (offset : Nat)
  /-- The slice begins or ends inside a character. -/
  | insideCharacter (offset : Nat)
  /-- What was found here has no length. -/
  | stuck (offset : Nat)
deriving DecidableEq, Repr

/-- The byte at an offset. -/
def byteAt (bs : Bytes) (i : Nat) : Except Fault UInt8 :=
  match bs[i]? with
  | some b => .ok b
  | none => .error (.outside i)

/-- The bytes from an offset on, which may be the end. -/
def bytesFrom (bs : Bytes) (i : Nat) : Except Fault Bytes :=
  if i ≤ bs.length then .ok (bs.drop i) else .error (.outside i)

/-- The slice of a text between two offsets. -/
def slice (text : String) (start stop : Nat) : Except Fault String :=
  if stop < start ∨ text.utf8ByteSize < stop then .error (.outside stop)
  else if ¬ String.Pos.Raw.IsValid text ⟨start⟩ then .error (.insideCharacter start)
  else if ¬ String.Pos.Raw.IsValid text ⟨stop⟩ then .error (.insideCharacter stop)
  else .ok (String.Pos.Raw.extract text ⟨start⟩ ⟨stop⟩)

theorem byteAt_eq {bs : Bytes} {i : Nat} (h : i < bs.length) : byteAt bs i = .ok bs[i] := by
  rw [byteAt, List.getElem?_eq_getElem h]

theorem bytesFrom_eq {bs : Bytes} {i : Nat} (h : i ≤ bs.length) :
    bytesFrom bs i = .ok (bs.drop i) := if_pos h

theorem slice_eq {text : String} {start stop : Nat} (hle : start ≤ stop)
    (hstart : String.Pos.Raw.IsValid text ⟨start⟩) (hstop : String.Pos.Raw.IsValid text ⟨stop⟩) :
    slice text start stop = .ok (String.Pos.Raw.extract text ⟨start⟩ ⟨stop⟩) := by
  have hend : stop ≤ text.utf8ByteSize := hstop.le_rawEndPos
  rw [slice, if_neg (by omega), if_neg (not_not.2 hstart), if_neg (not_not.2 hstop)]

/-! ## Between two characters -/

theorem isValid_of_append {text : String} {before after : List Char}
    (h : text.toList = before ++ after) :
    String.Pos.Raw.IsValid text ⟨(charsBytes before).length⟩ := by
  rw [String.Pos.Raw.isValid_iff_exists_append]
  refine ⟨String.ofList before, String.ofList after, ?_, ?_⟩
  · rw [← String.toList_inj, String.toList_append, String.toList_ofList, String.toList_ofList, h]
  · rw [length_charsBytes]
    rfl

theorem exists_append_of_getElem? {d : Char} {b : UInt8} (hd : String.utf8EncodeChar d = [b])
    (hb : b < 0x80) {cs : List Char} {i : Nat} (h : (charsBytes cs)[i]? = some b) :
    ∃ before after, cs = before ++ d :: after ∧ i = (charsBytes before).length := by
  induction cs generalizing i with
  | nil => simp at h
  | cons c cs ih =>
    rw [charsBytes_cons] at h
    by_cases hi : i < (String.utf8EncodeChar c).length
    · rw [List.getElem?_append_left hi] at h
      have hc := eq_ofNat_of_mem (List.mem_of_getElem? h) hb
      have hself : d = Char.ofNat b.toNat := eq_ofNat_of_mem (by rw [hd]; simp) hb
      rw [← hself] at hc
      subst hc
      rw [hd, List.length_singleton] at hi
      exact ⟨[], cs, rfl, by rw [charsBytes_nil, List.length_nil]; omega⟩
    · rw [List.getElem?_append_right (by omega)] at h
      obtain ⟨before, after, rfl, hlen⟩ := ih h
      refine ⟨c :: before, after, rfl, ?_⟩
      rw [charsBytes_cons, List.length_append]
      omega

theorem slice_to_end {text : String} {before after : List Char}
    (h : text.toList = before ++ after) :
    (bytes text).drop (charsBytes before).length = charsBytes after ∧
      slice text (charsBytes before).length (bytes text).length = .ok (String.ofList after) := by
  have hbytes : bytes text = charsBytes before ++ charsBytes after := by
    rw [bytes_eq, h, charsBytes_append]
  have hlen : (bytes text).length = (charsBytes before).length + (charsBytes after).length := by
    rw [hbytes, List.length_append]
  have hend : String.Pos.Raw.IsValid text ⟨(bytes text).length⟩ := by
    rw [bytes_eq]
    exact isValid_of_append (List.append_nil _).symm
  constructor
  · rw [hbytes, List.drop_left]
  · have hextract := extract_charsBytes before after []
    rw [List.append_nil, ← h, String.ofList_toList] at hextract
    rw [slice_eq (by omega) (isValid_of_append h) hend, hlen, hextract]

theorem exists_append_of_isValid {text : String} {i : Nat}
    (h : String.Pos.Raw.IsValid text ⟨i⟩) :
    ∃ before after, text.toList = before ++ after ∧ i = (charsBytes before).length := by
  obtain ⟨front, rest, htext, hi⟩ := String.Pos.Raw.isValid_iff_exists_append.1 h
  refine ⟨front.toList, rest.toList, ?_, ?_⟩
  · rw [htext, String.toList_append]
  · rw [length_charsBytes, String.ofList_toList]
    exact congrArg String.Pos.Raw.byteIdx hi

theorem slice_behind_backslash {text : String} {i : Nat} (h : (bytes text)[i]? = some 0x5C) :
    ∃ after : List Char, (bytes text).drop (i + 1) = charsBytes after ∧
      slice text (i + 1) (bytes text).length = .ok (String.ofList after) := by
  rw [bytes_eq] at h
  obtain ⟨front, after, hfront, hstart⟩ :=
    exists_append_of_getElem? (d := '\\') (by decide) (by decide) h
  have hsplit : text.toList = (front ++ ['\\']) ++ after := by
    rw [hfront, List.append_assoc, List.singleton_append]
  have hcut : i + 1 = (charsBytes (front ++ ['\\'])).length := by
    rw [hstart, charsBytes_append, List.length_append]
    rfl
  rw [hcut]
  exact ⟨after, slice_to_end hsplit⟩

end Uncomment.Offset
