import Uncomment.Proofs.Scan.Substitution
import Uncomment.Proofs.Text.LineEnding
import Uncomment.TextEncoding

/-!
# UTF-8 taken for Latin-1

Where the UTF-8 form of a text is read as Latin-1, each ASCII character is read as itself, and each
other one as some characters from U+0080 on, as many as it takes bytes. This is a substitution of
ordinary characters, and it leaves line endings alone.

Results:
* `utf8ByteSize_map_latin1Char`: each byte from 0x80 on makes two bytes of the text that is read.
* `ofList_map_latin1Char_bytes`: a text that is misread, character by character.
* `misread_of_ascii`, `eq_of_mem_misread`: ASCII characters come from themselves alone.
* `ordinarySubst_misread`, `keepsLines_misread`: what misreading leaves alone.
-/

namespace Uncomment.TextEncoding

open Text

/-! ## Bytes read as characters -/

theorem toNat_latin1Char (b : UInt8) : (latin1Char b).toNat = b.toNat := by
  have hlt : b.toNat < 256 := b.toNat_lt
  have hvalid : b.toNat.isValidChar := .inl (by omega)
  rw [latin1Char, Char.ofNat, dif_pos hvalid]
  rfl

theorem utf8Size_latin1Char (b : UInt8) :
    (latin1Char b).utf8Size = if 0x80 ≤ b then 2 else 1 := by
  have hlt : b.toNat < 256 := b.toNat_lt
  have hval : (latin1Char b).val.toNat = b.toNat := toNat_latin1Char b
  unfold Char.utf8Size
  simp only [UInt32.le_iff_toNat_le, UInt8.le_iff_toNat_le, hval, UInt32.reduceOfNatLT,
    UInt32.toNat_ofNat, UInt8.toNat_ofNat]
  by_cases h : b.toNat ≤ 127
  · rw [if_pos h, if_neg (by omega)]
  · rw [if_neg h, if_pos (by omega), if_pos (by omega)]

theorem utf8ByteSize_map_latin1Char (bs : Bytes) :
    (String.ofList (bs.map latin1Char)).utf8ByteSize = bs.length + bs.countP (0x80 ≤ ·) := by
  rw [← length_charsBytes]
  induction bs with
  | nil => rfl
  | cons b bs ih =>
    rw [List.map_cons, charsBytes_cons, List.length_append, ih, String.length_utf8EncodeChar,
      utf8Size_latin1Char, List.length_cons, List.countP_cons]
    simp only [decide_eq_true_eq]
    split <;> omega

/-! ## Characters read wrongly -/

/-- What a character is read as if its UTF-8 form is taken for Latin-1. -/
def misread (c : Char) : String := String.ofList ((String.utf8EncodeChar c).map latin1Char)

theorem ofList_map_latin1Char_bytes (text : String) :
    String.ofList ((bytes text).map latin1Char) = substitute misread text := by
  rw [← String.toList_inj, String.toList_ofList, toList_substitute, bytes_eq, charsBytes,
    List.map_flatMap]
  simp [misread]

theorem utf8ByteSize_substitute_misread (text : String) :
    (substitute misread text).utf8ByteSize =
      text.utf8ByteSize + (bytes text).countP (0x80 ≤ ·) := by
  rw [← ofList_map_latin1Char_bytes, utf8ByteSize_map_latin1Char, length_bytes]

theorem utf8EncodeChar_of_ascii {c : Char} (h : c.toNat < 128) :
    String.utf8EncodeChar c = [UInt8.ofNat c.toNat] := by
  have hval : c.val.toNat < 128 := h
  unfold String.utf8EncodeChar
  exact if_pos (by omega)

theorem misread_of_ascii {c : Char} (h : c.toNat < 128) : misread c = String.singleton c := by
  have hbyte : (UInt8.ofNat c.toNat).toNat = c.toNat := by
    rw [UInt8.toNat_ofNat']
    omega
  have hchar : latin1Char (UInt8.ofNat c.toNat) = c := by
    rw [latin1Char, hbyte, Char.ofNat_toNat]
  rw [misread, utf8EncodeChar_of_ascii h, List.map_singleton, hchar]
  rfl

/-- An ASCII character is read only where it was written. -/
theorem eq_of_mem_misread {c d : Char} (hd : d.toNat < 128) (h : d ∈ (misread c).toList) :
    c = d := by
  rw [misread, String.toList_ofList] at h
  obtain ⟨b, hb, rfl⟩ := List.mem_map.1 h
  rw [toNat_latin1Char] at hd
  exact eq_ofNat_of_mem hb (UInt8.lt_iff_toNat_lt.2 hd)

theorem misread_ne_empty (c : Char) : misread c ≠ "" := by
  obtain ⟨lead, rest, h, -⟩ := leadWidth_of_bytes c
  rw [misread, h, ne_eq, String.ofList_eq_empty_iff]
  exact List.cons_ne_nil _ _

theorem toNat_lt_of_mem_specials {c : Char} (h : c ∈ specials) : c.toNat < 128 := by
  simp only [specials, stops, List.mem_cons, List.not_mem_nil, or_false] at h
  rcases h with rfl | rfl | rfl | rfl | rfl <;> decide

theorem ordinarySubst_misread : OrdinarySubst misread where
  special c hc := misread_of_ascii (toNat_lt_of_mem_specials hc)
  ne_empty c _ := misread_ne_empty c
  ordinary c hc d hd hspecial := by
    rw [eq_of_mem_misread (toNat_lt_of_mem_specials hspecial) hd] at hc
    exact hc hspecial

theorem keepsLines_misread : LineEnding.KeepsLines fun c => (misread c).toList where
  cr := by rw [misread_of_ascii (by decide), String.toList_singleton]
  lf := by rw [misread_of_ascii (by decide), String.toList_singleton]
  ne_nil c h := misread_ne_empty c (String.toList_eq_nil_iff.1 h)
  eq_cr _ h := eq_of_mem_misread (by decide) h
  eq_lf _ h := eq_of_mem_misread (by decide) h

end Uncomment.TextEncoding
