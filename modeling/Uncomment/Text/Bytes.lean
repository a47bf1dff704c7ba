/-!
# Texts as bytes

A text is a `String`, a sequence of Unicode characters; what is stored is its UTF-8 form, a list of
bytes. All lengths and offsets of this library count those bytes.

Results:
* `Text.bytes_append`, `Text.length_bytes`: the bytes of a text are those of its characters in
  order, and there are `utf8ByteSize` of them.
* `Text.leadWidth_of_bytes`: the first byte of a character tells how many bytes it takes.
* `Text.eq_ofNat_of_mem`: ASCII bytes stand for ASCII characters only.
-/

namespace Uncomment

/-- Stored data, first byte first. -/
abbrev Bytes := List UInt8

namespace Text

/-! ## The UTF-8 form -/

/-- The UTF-8 form of a text. -/
def bytes (text : String) : Bytes := text.toUTF8.data.toList

/-- The UTF-8 form of a sequence of characters. -/
def charsBytes (chars : List Char) : Bytes := chars.flatMap String.utf8EncodeChar

theorem bytes_ofList (chars : List Char) : bytes (String.ofList chars) = charsBytes chars := by
  simp [bytes, charsBytes, String.toByteArray_ofList, List.utf8Encode]

theorem bytes_eq (text : String) : bytes text = charsBytes text.toList := by
  rw [← bytes_ofList, String.ofList_toList]

@[simp] theorem bytes_append (s t : String) : bytes (s ++ t) = bytes s ++ bytes t := by
  simp [bytes_eq, charsBytes, String.toList_append]

@[simp] theorem length_bytes (text : String) : (bytes text).length = text.utf8ByteSize := by
  simp [bytes]

@[simp] theorem charsBytes_cons (c : Char) (cs : List Char) :
    charsBytes (c :: cs) = String.utf8EncodeChar c ++ charsBytes cs := by
  simp [charsBytes]

@[simp] theorem charsBytes_nil : charsBytes [] = [] := rfl

theorem charsBytes_append (as bs : List Char) :
    charsBytes (as ++ bs) = charsBytes as ++ charsBytes bs := List.flatMap_append

/-! ## Widths of characters -/

/-- How many bytes the character takes whose first byte is `lead`. -/
def leadWidth (lead : UInt8) : Nat :=
  if lead < 0x80 then 1 else if lead < 0xE0 then 2 else if lead < 0xF0 then 3 else 4

theorem leadWidth_of_bytes (c : Char) :
    ∃ lead rest, String.utf8EncodeChar c = lead :: rest ∧ leadWidth lead = c.utf8Size := by
  have hc : c.val.toNat < 0x110000 := by
    rcases c.valid with h | h <;> omega
  unfold String.utf8EncodeChar Char.utf8Size leadWidth
  simp only [UInt32.le_iff_toNat_le, UInt8.lt_iff_toNat_lt, UInt32.reduceOfNatLT,
    UInt32.toNat_ofNat, UInt8.toNat_ofNat]
  generalize c.val.toNat = v at *
  by_cases h1 : v ≤ 127
  · exact ⟨_, _, if_pos h1, by simp [h1]; omega⟩
  · by_cases h2 : v ≤ 2047
    · exact ⟨_, _, by rw [if_neg h1, if_pos h2], by simp [h1, h2]; grind⟩
    · by_cases h3 : v ≤ 65535
      · exact ⟨_, _, by rw [if_neg h1, if_neg h2, if_pos h3], by simp [h1, h2, h3]; grind⟩
      · exact ⟨_, _, by rw [if_neg h1, if_neg h2, if_neg h3], by simp [h1, h2, h3]; grind⟩

/-! ## ASCII -/

/-- A byte below 0x80 is part of no character but the one of that number. -/
theorem eq_ofNat_of_mem {c : Char} {b : UInt8} (h : b ∈ String.utf8EncodeChar c)
    (hb : b < 0x80) : c = Char.ofNat b.toNat := by
  have hc : c.val.toNat < 0x110000 := by
    rcases c.valid with h | h <;> omega
  rw [UInt8.lt_iff_toNat_lt] at hb
  have hb' : b.toNat < 128 := hb
  have big {n : Nat} (hn : 128 ≤ n) (hm : n < 256) : b ≠ UInt8.ofNat n := by
    rintro rfl
    rw [UInt8.toNat_ofNat'] at hb'
    omega
  unfold String.utf8EncodeChar at h
  simp only at h
  split at h
  next hv =>
    obtain rfl := List.mem_singleton.1 h
    rw [UInt8.toNat_ofNat', Nat.mod_eq_of_lt (by omega)]
    exact (Char.ofNat_toNat c).symm
  next =>
    split at h
    next =>
      simp only [List.mem_cons, List.not_mem_nil, or_false] at h
      rcases h with h | h <;> exact absurd h (big (by omega) (by omega))
    next =>
      split at h
      next =>
        simp only [List.mem_cons, List.not_mem_nil, or_false] at h
        rcases h with h | h | h <;> exact absurd h (big (by omega) (by omega))
      next =>
        simp only [List.mem_cons, List.not_mem_nil, or_false] at h
        rcases h with h | h | h | h <;> exact absurd h (big (by omega) (by omega))

end Text

end Uncomment
