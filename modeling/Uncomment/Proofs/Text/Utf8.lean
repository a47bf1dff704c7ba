import Mathlib
import Uncomment.TextEncoding

/-!
# What strict decoding accepts, and where it stops

The bytes of a text are given here by a table: a character is a first byte and up to three others,
and the range of the second byte depends on the first. The ranges leave out what would fit fewer
bytes, the surrogates, and all that lies above U+10FFFF. Strict decoding accepts the rows of such
characters, each as the one text that has these bytes, and refuses all others at the end of their
longest part from the front that it accepts.

Results:
* `isCharacter_iff`: the table gives the encodings of the characters and nothing else.
* `valid_iff_split`: decoding gets to the end of the bytes exactly if they follow the table.
* `valid_take_validUpTo`, `le_validUpTo`: the characters decoded are the longest part from the front
  that follows the table.
* `decode_utf8_iff`: when bytes are decoded, to what, and where they are refused.
-/

namespace Uncomment.Utf8

open Text

/-! ## The table -/

/-- The range of a byte that continues a character, where the byte before it does not narrow it. -/
def tail : Nat × Nat := (0x80, 0xBF)

/-- The ranges of the bytes of a character, from the first to the last. -/
def table : List (List (Nat × Nat)) :=
  [[(0x00, 0x7F)],
   [(0xC2, 0xDF), tail],
   [(0xE0, 0xE0), (0xA0, 0xBF), tail],
   [(0xE1, 0xEC), tail, tail],
   [(0xED, 0xED), (0x80, 0x9F), tail],
   [(0xEE, 0xEF), tail, tail],
   [(0xF0, 0xF0), (0x90, 0xBF), tail, tail],
   [(0xF1, 0xF3), tail, tail, tail],
   [(0xF4, 0xF4), (0x80, 0x8F), tail, tail]]

/-- The bytes are those of one character. -/
def IsCharacter (bs : Bytes) : Prop :=
  ∃ row ∈ table, List.Forall₂ (fun (range : Nat × Nat) (b : UInt8) =>
    range.1 ≤ b.toNat ∧ b.toNat ≤ range.2) row bs

/-- The bytes are those of some characters, one after the other. -/
inductive Valid : Bytes → Prop where
  | nil : Valid []
  | cons {c rest : Bytes} : IsCharacter c → Valid rest → Valid (c ++ rest)

/-! ## Characters -/

theorem length_of_isCharacter {bs : Bytes} (h : IsCharacter bs) :
    1 ≤ bs.length ∧ bs.length ≤ 4 := by
  obtain ⟨row, hrow, hbs⟩ := h
  have hall : ∀ row ∈ table, 1 ≤ row.length ∧ row.length ≤ 4 := by decide
  rw [← hbs.length_eq]
  exact hall row hrow

theorem isCharacter_one {a : UInt8} : IsCharacter [a] ↔ a.toNat ≤ 0x7F := by
  simp [IsCharacter, table, tail]

theorem isCharacter_two {a b : UInt8} :
    IsCharacter [a, b] ↔
      (0xC2 ≤ a.toNat ∧ a.toNat ≤ 0xDF) ∧ 0x80 ≤ b.toNat ∧ b.toNat ≤ 0xBF := by
  simp [IsCharacter, table, tail]

/-- Of the four rows with three bytes, two narrow the range of the second. -/
theorem isCharacter_three {a b c : UInt8} :
    IsCharacter [a, b, c] ↔
      (0xE0 ≤ a.toNat ∧ a.toNat ≤ 0xEF) ∧ (0x80 ≤ b.toNat ∧ b.toNat ≤ 0xBF) ∧
        (0x80 ≤ c.toNat ∧ c.toNat ≤ 0xBF) ∧ (a.toNat = 0xE0 → 0xA0 ≤ b.toNat) ∧
        (a.toNat = 0xED → b.toNat ≤ 0x9F) := by
  simp [IsCharacter, table, tail]
  omega

/-- Of the three rows with four bytes, two narrow the range of the second. -/
theorem isCharacter_four {a b c d : UInt8} :
    IsCharacter [a, b, c, d] ↔
      (0xF0 ≤ a.toNat ∧ a.toNat ≤ 0xF4) ∧ (0x80 ≤ b.toNat ∧ b.toNat ≤ 0xBF) ∧
        (0x80 ≤ c.toNat ∧ c.toNat ≤ 0xBF) ∧ (0x80 ≤ d.toNat ∧ d.toNat ≤ 0xBF) ∧
        (a.toNat = 0xF0 → 0x90 ≤ b.toNat) ∧ (a.toNat = 0xF4 → b.toNat ≤ 0x8F) := by
  simp [IsCharacter, table, tail]
  omega

theorem isCharacter_encode (c : Char) : IsCharacter (String.utf8EncodeChar c) := by
  have hv : c.val.toNat.isValidChar := c.valid
  unfold String.utf8EncodeChar
  generalize c.val.toNat = n at hv
  have hlt : n < 0xD800 ∨ 0xDFFF < n ∧ n < 0x110000 := hv
  simp only
  by_cases h1 : n ≤ 127
  · rw [if_pos h1, isCharacter_one, UInt8.toNat_ofNat']
    omega
  · by_cases h2 : n ≤ 2047
    · rw [if_neg h1, if_pos h2, isCharacter_two, UInt8.toNat_ofNat', UInt8.toNat_ofNat']
      omega
    · by_cases h3 : n ≤ 65535
      · rw [if_neg h1, if_neg h2, if_pos h3, isCharacter_three, UInt8.toNat_ofNat',
          UInt8.toNat_ofNat', UInt8.toNat_ofNat']
        omega
      · rw [if_neg h1, if_neg h2, if_neg h3, isCharacter_four, UInt8.toNat_ofNat',
          UInt8.toNat_ofNat', UInt8.toNat_ofNat', UInt8.toNat_ofNat']
        omega

theorem continue?_cons (more value : Nat) {b : UInt8} (bs : Bytes)
    (hb : 0x80 ≤ b.toNat ∧ b.toNat ≤ 0xBF) :
    continue? (more + 1) value (b :: bs) = continue? more (value * 64 + (b.toNat - 0x80)) bs := by
  rw [continue?, if_pos (by omega)]

theorem exists_char?_of_lead? {b : UInt8} {bs : Bytes} {payload more least value : Nat}
    (hl : lead? b = some ⟨payload, more, least⟩) (hm : continue? more payload bs = some (value, []))
    (hle : least ≤ value) (hv : value < 0xD800 ∨ 0xDFFF < value ∧ value < 0x110000) :
    ∃ c, char? (b :: bs) = some (c, []) := by
  refine ⟨Char.ofNat value, ?_⟩
  unfold char?
  simp only [hl, hm]
  exact if_pos ⟨hle, hv⟩

theorem exists_char?_of_isCharacter {bs : Bytes} (h : IsCharacter bs) :
    ∃ c, char? bs = some (c, []) := by
  have hlen := length_of_isCharacter h
  match bs, h, hlen with
  | [a], h, _ =>
    have ha := isCharacter_one.1 h
    have hl : lead? a = some ⟨a.toNat, 0, 0⟩ := if_pos (by omega)
    exact exists_char?_of_lead? hl rfl (Nat.zero_le _) (by omega)
  | [a, b], h, _ =>
    obtain ⟨ha, hb⟩ := isCharacter_two.1 h
    have hl := lead?_ofNat_two (d := a.toNat - 192) (by omega)
    rw [Nat.sub_add_cancel (by omega), UInt8.ofNat_toNat] at hl
    apply exists_char?_of_lead? hl
    · rw [continue?_cons 0 _ _ hb, continue?]
    · omega
    · omega
  | [a, b, c], h, _ =>
    obtain ⟨ha, hb, hc, hleast, hgap⟩ := isCharacter_three.1 h
    have hl := lead?_ofNat_three (d := a.toNat - 224) (by omega)
    rw [Nat.sub_add_cancel (by omega), UInt8.ofNat_toNat] at hl
    apply exists_char?_of_lead? hl
    · rw [continue?_cons 1 _ _ hb, continue?_cons 0 _ _ hc, continue?]
    · omega
    · omega
  | [a, b, c, d], h, _ =>
    obtain ⟨ha, hb, hc, hd, hleast, hmost⟩ := isCharacter_four.1 h
    have hl := lead?_ofNat_four (d := a.toNat - 240) (by omega)
    rw [Nat.sub_add_cancel (by omega), UInt8.ofNat_toNat] at hl
    apply exists_char?_of_lead? hl
    · rw [continue?_cons 2 _ _ hb, continue?_cons 1 _ _ hc, continue?_cons 0 _ _ hd, continue?]
    · omega
    · omega

/-- The table gives the encodings of the characters and nothing else. -/
theorem isCharacter_iff {bs : Bytes} : IsCharacter bs ↔ ∃ c, bs = String.utf8EncodeChar c := by
  constructor
  · intro h
    obtain ⟨c, hc⟩ := exists_char?_of_isCharacter h
    exact ⟨c, by rw [eq_encode_of_char? hc, List.append_nil]⟩
  · rintro ⟨c, rfl⟩
    exact isCharacter_encode c

/-! ## Rows of characters -/

theorem valid_charsBytes (cs : List Char) : Valid (charsBytes cs) := by
  induction cs with
  | nil => exact .nil
  | cons c cs ih =>
    rw [charsBytes_cons]
    exact .cons (isCharacter_encode c) ih

theorem exists_charsBytes_of_valid {bs : Bytes} (h : Valid bs) : ∃ cs, bs = charsBytes cs := by
  induction h with
  | nil => exact ⟨[], rfl⟩
  | cons hc _ ih =>
    obtain ⟨c, rfl⟩ := isCharacter_iff.1 hc
    obtain ⟨cs, rfl⟩ := ih
    exact ⟨c :: cs, (charsBytes_cons c cs).symm⟩

/-- Decoding gets to the end of the bytes exactly if they follow the table. -/
theorem valid_iff_split {bs : Bytes} : Valid bs ↔ (split bs).2 = [] := by
  constructor
  · intro h
    obtain ⟨cs, rfl⟩ := exists_charsBytes_of_valid h
    rw [split_charsBytes]
  · intro h
    rw [← split_eq bs, h, List.append_nil]
    exact valid_charsBytes _

/-- How many bytes the characters take that are decoded. -/
def validUpTo (bs : Bytes) : Nat := (charsBytes (split bs).1).length

theorem validUpTo_add (bs : Bytes) : validUpTo bs + (split bs).2.length = bs.length := by
  rw [validUpTo, ← List.length_append, split_eq]

theorem valid_take_validUpTo (bs : Bytes) : Valid (bs.take (validUpTo bs)) := by
  have h : (charsBytes (split bs).1 ++ (split bs).2).take (validUpTo bs) =
      charsBytes (split bs).1 := List.take_left
  rw [split_eq] at h
  rw [h]
  exact valid_charsBytes _

/-- No longer part from the front follows the table: the characters of such a part would all be
    decoded. -/
theorem le_validUpTo {bs : Bytes} {m : Nat} (h : Valid (bs.take m)) (hm : m ≤ bs.length) :
    m ≤ validUpTo bs := by
  obtain ⟨cs, hcs⟩ := exists_charsBytes_of_valid h
  -- decoding all the bytes begins with the characters of the part
  have hsplit := split_charsBytes_append cs (bs.drop m)
  rw [← hcs, List.take_append_drop] at hsplit
  have hlen := congrArg List.length hcs
  rw [List.length_take] at hlen
  rw [validUpTo, hsplit, charsBytes_append, List.length_append]
  omega

end Uncomment.Utf8

namespace Uncomment.TextEncoding

open Text

/-! ## Decoding -/

theorem decode_utf8_eq (bs : Bytes) :
    decode utf8 bs =
      if (Utf8.split bs).2 = [] then .ok ⟨String.ofList (Utf8.split bs).1, true⟩
      else .error (.invalidUtf8 (Utf8.validUpTo bs)) := by
  have hlen := Utf8.validUpTo_add bs
  simp only [decode]
  split
  next cs heq => rw [heq, if_pos rfl]
  next cs b left heq =>
    have hleft : (Utf8.split bs).2 = b :: left := by rw [heq]
    rw [hleft] at hlen ⊢
    rw [if_neg (List.cons_ne_nil b left), ← hlen, Nat.add_sub_cancel]

theorem exists_decode_utf8_iff {bs : Bytes} :
    (∃ d, decode utf8 bs = .ok d) ↔ Utf8.Valid bs := by
  rw [Utf8.valid_iff_split, decode_utf8_eq]
  split
  next h => simp [h]
  next h => simp [h]

/-- Strict decoding is the inverse of encoding. Bytes are decoded to a text exactly if they are its
    bytes, unchanged, and there is such a text exactly if the bytes follow the table of characters.
    They are refused with the offset `n` exactly if they go on behind it, the `n` bytes before it
    can be decoded, and no longer part from the front can. -/
theorem decode_utf8_iff (bs : Bytes) :
    (∀ d, decode utf8 bs = .ok d ↔ bytes d.text = bs ∧ d.unchanged = true) ∧
      ((∃ d, decode utf8 bs = .ok d) ↔ Utf8.Valid bs) ∧
      ∀ n, decode utf8 bs = .error (.invalidUtf8 n) ↔
        n < bs.length ∧ (∃ d, decode utf8 (bs.take n) = .ok d) ∧
          ∀ m, n < m → m ≤ bs.length → ∃ e, decode utf8 (bs.take m) = .error e := by
  have herror (as : Bytes) : (∃ e, decode utf8 as = .error e) ↔ ¬ Utf8.Valid as := by
    rw [← exists_decode_utf8_iff]
    cases decode utf8 as <;> simp
  refine ⟨fun d => ⟨bytes_of_decode_utf8, ?_⟩, exists_decode_utf8_iff, fun n => ?_⟩
  · obtain ⟨text, unchanged⟩ := d
    rintro ⟨rfl, rfl⟩
    exact decode_utf8_bytes text
  · have hlen := Utf8.validUpTo_add bs
    have hvalid := Utf8.valid_take_validUpTo bs
    simp only [herror, exists_decode_utf8_iff]
    rw [decode_utf8_eq]
    constructor
    · intro h
      split at h
      next => cases h
      next hleft =>
        obtain rfl := TextEncoding.DecodeError.invalidUtf8.inj (Except.error.inj h)
        have hpos := List.length_pos_iff.2 hleft
        refine ⟨by omega, hvalid, fun m hlt hle hm => ?_⟩
        have := Utf8.le_validUpTo hm hle
        omega
    · rintro ⟨hlt, hn, hmore⟩
      -- both offsets are the longest part: one by what is decoded, the other by what is not
      have hle := Utf8.le_validUpTo hn hlt.le
      have heq : Utf8.validUpTo bs = n := by
        by_contra hne
        exact hmore _ (by omega) (by omega) hvalid
      have hleft : (Utf8.split bs).2 ≠ [] := by
        intro hnil
        rw [hnil, List.length_nil] at hlen
        omega
      rw [if_neg hleft, heq]

end Uncomment.TextEncoding
