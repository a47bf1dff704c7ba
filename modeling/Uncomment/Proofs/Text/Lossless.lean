import Uncomment.Proofs.Text.Latin1

/-!
# Latin-1 loses nothing

Reading bytes as Latin-1 and writing the number of each character are inverse bijections between
the rows of bytes and the texts of characters up to U+00FF. Such a text takes as many bytes in UTF-8
as it was read from only if these were ASCII; for other bytes the two encodings never give the same
text, even where the bytes are UTF-8.

Results:
* `latin1Bytes_latin1Text`, `latin1Text_latin1Bytes`: reading and writing undo each other.
* `bijOn_latin1Text`: which texts are read, each from one row of bytes.
* `bytes_latin1Text_eq_self_iff`: what is read has the bytes it was read from exactly if they are
  ASCII.
* `decode_latin1_lossless`: what decoding makes of that.
-/

namespace Uncomment.TextEncoding

open Text

/-! ## Reading and writing -/

/-- What bytes are read as in Latin-1. -/
def latin1Text (bs : Bytes) : String := String.ofList (bs.map latin1Char)

/-- The byte that a character up to U+00FF is read from. -/
def latin1Byte (c : Char) : UInt8 := UInt8.ofNat c.toNat

/-- The bytes that a text of characters up to U+00FF is read from. -/
def latin1Bytes (text : String) : Bytes := text.toList.map latin1Byte

/-- The texts of characters up to U+00FF. -/
def Latin1Texts : Set String := {text | ∀ c ∈ text.toList, c.toNat ≤ 0xFF}

theorem latin1Byte_latin1Char (b : UInt8) : latin1Byte (latin1Char b) = b := by
  rw [latin1Byte, toNat_latin1Char, UInt8.ofNat_toNat]

theorem latin1Char_latin1Byte {c : Char} (h : c.toNat ≤ 0xFF) : latin1Char (latin1Byte c) = c := by
  have hbyte : (latin1Byte c).toNat = c.toNat := by
    rw [latin1Byte, UInt8.toNat_ofNat']
    omega
  rw [latin1Char, hbyte, Char.ofNat_toNat]

theorem latin1Bytes_latin1Text (bs : Bytes) : latin1Bytes (latin1Text bs) = bs := by
  rw [latin1Bytes, latin1Text, String.toList_ofList, List.map_map]
  have hid : latin1Byte ∘ latin1Char = id := funext latin1Byte_latin1Char
  rw [hid, List.map_id]

theorem latin1Text_latin1Bytes {text : String} (h : text ∈ Latin1Texts) :
    latin1Text (latin1Bytes text) = text := by
  rw [← String.toList_inj, latin1Text, latin1Bytes, String.toList_ofList, List.map_map]
  conv_rhs => rw [← List.map_id text.toList]
  apply List.map_congr_left
  intro c hc
  exact latin1Char_latin1Byte (h c hc)

theorem latin1Text_mem (bs : Bytes) : latin1Text bs ∈ Latin1Texts := by
  intro c hc
  rw [latin1Text, String.toList_ofList] at hc
  obtain ⟨b, -, rfl⟩ := List.mem_map.1 hc
  have hlt := b.toNat_lt
  rw [toNat_latin1Char]
  omega

theorem bijOn_latin1Text : Set.BijOn latin1Text Set.univ Latin1Texts := by
  have hinv : Set.InvOn latin1Bytes latin1Text Set.univ Latin1Texts :=
    ⟨fun bs _ => latin1Bytes_latin1Text bs, fun _ h => latin1Text_latin1Bytes h⟩
  exact hinv.bijOn (fun bs _ => latin1Text_mem bs) (Set.mapsTo_univ _ _)

/-! ## ASCII -/

theorem charsBytes_map_latin1Char {bs : Bytes} (h : ∀ b ∈ bs, b < 0x80) :
    charsBytes (bs.map latin1Char) = bs := by
  induction bs with
  | nil => rfl
  | cons b bs ih =>
    obtain ⟨hb, hbs⟩ := List.forall_mem_cons.1 h
    have hascii : (latin1Char b).toNat < 128 := by
      rw [toNat_latin1Char]
      exact UInt8.lt_iff_toNat_lt.1 hb
    rw [List.map_cons, charsBytes_cons, utf8EncodeChar_of_ascii hascii, toNat_latin1Char,
      UInt8.ofNat_toNat, ih hbs, List.singleton_append]

/-- Each other byte makes two, so only ASCII gets by with the bytes that are there. -/
theorem bytes_latin1Text_eq_self_iff {bs : Bytes} :
    bytes (latin1Text bs) = bs ↔ ∀ b ∈ bs, b < 0x80 := by
  constructor
  · intro h b hb
    have hlen := congrArg List.length h
    rw [length_bytes, latin1Text, utf8ByteSize_map_latin1Char] at hlen
    have hnone : bs.countP (0x80 ≤ ·) = 0 := by omega
    simpa using List.countP_eq_zero.1 hnone b hb
  · intro h
    rw [latin1Text, bytes_ofList, charsBytes_map_latin1Char h]

/-- Strict decoding gives a text exactly if that has the bytes that are decoded. -/
theorem exists_decode_utf8_text_iff {bs : Bytes} {text : String} :
    (∃ d, decode utf8 bs = .ok d ∧ d.text = text) ↔ bytes text = bs := by
  constructor
  · rintro ⟨d, hd, rfl⟩
    exact (bytes_of_decode_utf8 hd).1
  · rintro rfl
    exact ⟨_, decode_utf8_bytes text, rfl⟩

/-- Reading Latin-1 never fails. It maps the rows of bytes one to one to the texts of characters up
    to U+00FF, and what is put end to end to what is put end to end; the text takes a byte more in
    UTF-8 for each byte from 0x80 on. It is the data unchanged exactly if this is ASCII, exactly if
    its bytes are those that were read, and exactly if reading them as UTF-8 gives the same text. -/
theorem decode_latin1_lossless :
    ∃ read : Bytes → Derived,
      (∀ bs, decode latin1 bs = .ok (read bs)) ∧
      Set.BijOn (fun bs => (read bs).text) Set.univ
        {text | ∀ c ∈ text.toList, c.toNat ≤ 0xFF} ∧
      (∀ a b, (read (a ++ b)).text = (read a).text ++ (read b).text) ∧
      ∀ bs,
        (read bs).text.utf8ByteSize = bs.length + bs.countP (0x80 ≤ ·) ∧
        List.TFAE
          [∀ b ∈ bs, b < 0x80,
           (read bs).unchanged = true,
           bytes (read bs).text = bs,
           ∃ d, decode utf8 bs = .ok d ∧ d.text = (read bs).text] := by
  refine ⟨fun bs => ⟨latin1Text bs, bs.all (· < 0x80)⟩, fun _ => rfl, bijOn_latin1Text, ?_, ?_⟩
  · intro a b
    simp only [latin1Text, List.map_append, String.ofList_append]
  · intro bs
    refine ⟨utf8ByteSize_map_latin1Char bs, ?_⟩
    tfae_have 1 ↔ 2 := by simp only [List.all_eq_true, decide_eq_true_eq]
    tfae_have 3 ↔ 1 := bytes_latin1Text_eq_self_iff
    tfae_have 4 ↔ 3 := exists_decode_utf8_text_iff
    tfae_finish

end Uncomment.TextEncoding
