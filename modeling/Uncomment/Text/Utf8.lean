import Uncomment.Text.Bytes

/-!
# Strict UTF-8 decoding

Bytes are decoded one character at a time. The lead byte gives the first bits of the code point and
the number of continuation bytes that follow, each with six bits more. A sequence is refused if its
code point would fit a shorter one, is a surrogate or lies above U+10FFFF, and if the bytes end
within it.

Results:
* `Utf8.char?_encode`, `Utf8.eq_encode_of_char?`: one character is decoded from exactly its own
  encoding.
* `Utf8.split_eq`: what is decoded and what is left make up the bytes.
* `Utf8.split_charsBytes`: the encoding of a text is decoded to the end.
-/

namespace Uncomment.Utf8

open Text

/-! ## One character -/

/-- What a lead byte announces. -/
structure Lead where
  /-- The first bits of the code point. -/
  payload : Nat
  /-- How many continuation bytes follow. -/
  more : Nat
  /-- The least code point that needs so many bytes. -/
  least : Nat
deriving DecidableEq, Repr

/-- Reads a lead byte. -/
def lead? (b : UInt8) : Option Lead :=
  let n := b.toNat
  if n < 0x80 then some ⟨n, 0, 0⟩
  else if n < 0xC0 then none
  else if n < 0xE0 then some ⟨n - 0xC0, 1, 0x80⟩
  else if n < 0xF0 then some ⟨n - 0xE0, 2, 0x800⟩
  else if n < 0xF8 then some ⟨n - 0xF0, 3, 0x10000⟩
  else none

/-- Appends the bits of `more` continuation bytes to `value`; answers the code point and what
    follows it. -/
def continue? : (more value : Nat) → Bytes → Option (Nat × Bytes)
  | 0, value, bs => some (value, bs)
  | _ + 1, _, [] => none
  | more + 1, value, b :: bs =>
    if 0x80 ≤ b.toNat ∧ b.toNat < 0xC0 then continue? more (value * 64 + (b.toNat - 0x80)) bs
    else none

/-- The character at the front, and what follows it. -/
def char? : Bytes → Option (Char × Bytes)
  | [] => none
  | b :: bs =>
    match lead? b with
    | none => none
    | some lead =>
      match continue? lead.more lead.payload bs with
      | none => none
      | some (value, rest) =>
        if lead.least ≤ value ∧ value.isValidChar then some (Char.ofNat value, rest) else none

theorem length_le_of_continue? {more value n : Nat} {bs rest : Bytes}
    (h : continue? more value bs = some (n, rest)) : rest.length ≤ bs.length := by
  fun_induction continue? more value bs with
  | case1 => simp_all
  | case2 => simp at h
  | case3 more value b bs _ ih => have := ih h; simp; omega
  | case4 => simp at h

theorem length_lt_of_char? {bs rest : Bytes} {c : Char} (h : char? bs = some (c, rest)) :
    rest.length < bs.length := by
  cases bs with
  | nil => simp [char?] at h
  | cons b bs =>
    simp only [char?] at h
    split at h
    next => simp at h
    next lead _ =>
      split at h
      next => simp at h
      next value rest' hc =>
        split at h <;> simp at h
        have := length_le_of_continue? hc
        simp [← h.2]; omega

/-! ## All characters -/

/-- The characters up to the first place where none can be decoded, and the bytes from there on. -/
def split (bs : Bytes) : List Char × Bytes :=
  match h : char? bs with
  | none => ([], bs)
  | some (c, rest) =>
    have := length_lt_of_char? h
    let (cs, left) := split rest
    (c :: cs, left)
termination_by bs.length

/-! ## Encoding, then decoding -/

theorem char?_cons {b : UInt8} {bs rest : Bytes} {lead : Lead} {c : Char}
    (hl : lead? b = some lead)
    (hm : continue? lead.more lead.payload bs = some (c.val.toNat, rest))
    (hc : lead.least ≤ c.val.toNat) : char? (b :: bs) = some (c, rest) := by
  have hv : c.val.toNat.isValidChar := c.valid
  simp only [char?, hl, hm, hc, hv, and_self, if_true]
  rw [show c.val.toNat = c.toNat from rfl, Char.ofNat_toNat]

theorem continue?_ofNat (more value : Nat) (bs : Bytes) {d : Nat} (hd : d < 64) :
    continue? (more + 1) value (UInt8.ofNat (d + 128) :: bs) =
      continue? more (value * 64 + d) bs := by
  have : (UInt8.ofNat (d + 128)).toNat = d + 128 := by simp; omega
  rw [continue?, this, if_pos (by omega), Nat.add_sub_cancel]

theorem lead?_ofNat_two {d : Nat} (hd : d < 32) :
    lead? (UInt8.ofNat (d + 192)) = some ⟨d, 1, 0x80⟩ := by
  have : (UInt8.ofNat (d + 192)).toNat = d + 192 := by simp; omega
  simp only [lead?, this]
  grind

theorem lead?_ofNat_three {d : Nat} (hd : d < 16) :
    lead? (UInt8.ofNat (d + 224)) = some ⟨d, 2, 0x800⟩ := by
  have : (UInt8.ofNat (d + 224)).toNat = d + 224 := by simp; omega
  simp only [lead?, this]
  grind

theorem lead?_ofNat_four {d : Nat} (hd : d < 8) :
    lead? (UInt8.ofNat (d + 240)) = some ⟨d, 3, 0x10000⟩ := by
  have : (UInt8.ofNat (d + 240)).toNat = d + 240 := by simp; omega
  simp only [lead?, this]
  grind

theorem char?_encode (c : Char) (rest : Bytes) :
    char? (String.utf8EncodeChar c ++ rest) = some (c, rest) := by
  have hlt : c.val.toNat < 0x110000 := by
    rcases c.valid with h | h <;> omega
  unfold String.utf8EncodeChar
  simp only
  by_cases h1 : c.val.toNat ≤ 127
  · rw [if_pos h1]
    have : (UInt8.ofNat c.val.toNat).toNat = c.val.toNat := by
      rw [UInt8.toNat_ofNat']; omega
    have hl : lead? (UInt8.ofNat c.val.toNat) = some ⟨c.val.toNat, 0, 0⟩ := by
      simp only [lead?, this, show c.val.toNat < 0x80 by omega, if_true]
    exact char?_cons hl rfl (Nat.zero_le _)
  · by_cases h2 : c.val.toNat ≤ 2047
    · rw [if_neg h1, if_pos h2]
      simp only [List.cons_append, List.nil_append]
      refine char?_cons (lead?_ofNat_two (by omega)) ?_ (by simp only; omega)
      dsimp only
      rw [continue?_ofNat 0 _ _ (by omega), continue?]
      congr; omega
    · by_cases h3 : c.val.toNat ≤ 65535
      · rw [if_neg h1, if_neg h2, if_pos h3]
        simp only [List.cons_append, List.nil_append]
        refine char?_cons (lead?_ofNat_three (by omega)) ?_ (by simp only; omega)
        dsimp only
        rw [continue?_ofNat 1 _ _ (by omega), continue?_ofNat 0 _ _ (by omega), continue?]
        congr; omega
      · rw [if_neg h1, if_neg h2, if_neg h3]
        simp only [List.cons_append, List.nil_append]
        refine char?_cons (lead?_ofNat_four (by omega)) ?_ (by simp only; omega)
        dsimp only
        rw [continue?_ofNat 2 _ _ (by omega), continue?_ofNat 1 _ _ (by omega),
          continue?_ofNat 0 _ _ (by omega), continue?]
        congr; omega

/-! ## Decoding, then encoding -/

theorem eq_of_lead? {b : UInt8} {lead : Lead} (h : lead? b = some lead) :
    (b.toNat < 0x80 ∧ lead = ⟨b.toNat, 0, 0⟩) ∨
      (∃ d, d < 32 ∧ b.toNat = d + 192 ∧ lead = ⟨d, 1, 0x80⟩) ∨
      (∃ d, d < 16 ∧ b.toNat = d + 224 ∧ lead = ⟨d, 2, 0x800⟩) ∨
      ∃ d, d < 8 ∧ b.toNat = d + 240 ∧ lead = ⟨d, 3, 0x10000⟩ := by
  simp only [lead?] at h
  split at h
  next hb => exact .inl ⟨hb, (Option.some.inj h).symm⟩
  next =>
    split at h
    next => simp at h
    next =>
      split at h
      next => exact .inr (.inl ⟨b.toNat - 192, by omega, by omega, (Option.some.inj h).symm⟩)
      next =>
        split at h
        next =>
          exact .inr (.inr (.inl ⟨b.toNat - 224, by omega, by omega, (Option.some.inj h).symm⟩))
        next =>
          split at h
          next =>
            exact .inr (.inr (.inr ⟨b.toNat - 240, by omega, by omega, (Option.some.inj h).symm⟩))
          next => simp at h

theorem eq_of_continue? {more value n : Nat} {bs rest : Bytes}
    (h : continue? (more + 1) value bs = some (n, rest)) :
    ∃ d bs', d < 64 ∧ bs = UInt8.ofNat (d + 128) :: bs' ∧
      continue? more (value * 64 + d) bs' = some (n, rest) := by
  cases bs with
  | nil => simp [continue?] at h
  | cons b bs =>
    rw [continue?] at h
    split at h
    next hb =>
      refine ⟨b.toNat - 0x80, bs, by omega, ?_, h⟩
      rw [Nat.sub_add_cancel hb.1, UInt8.ofNat_toNat]
    next => simp at h

theorem eq_encode_of_char? {bs rest : Bytes} {c : Char} (h : char? bs = some (c, rest)) :
    bs = String.utf8EncodeChar c ++ rest := by
  cases bs with
  | nil => simp [char?] at h
  | cons b bs =>
    simp only [char?] at h
    split at h
    next => simp at h
    next lead hl =>
      split at h
      next => simp at h
      next value rest' hm =>
        split at h
        next hv =>
          simp only [Option.some.injEq, Prod.mk.injEq] at h
          obtain ⟨rfl, rfl⟩ := h
          have hc : (Char.ofNat value).val.toNat = value := by
            rw [Char.ofNat, dif_pos hv.2]; rfl
          have hlt : value < 0x110000 := by
            rcases hv.2 with h | h <;> omega
          rw [← UInt8.ofNat_toNat (x := b)]
          unfold String.utf8EncodeChar
          simp only [hc]
          rcases eq_of_lead? hl with ⟨hb, rfl⟩ | ⟨d, hd, hb, rfl⟩ | ⟨d, hd, hb, rfl⟩ |
            ⟨d, hd, hb, rfl⟩ <;> dsimp only at hm hv
          · rw [continue?] at hm
            obtain ⟨rfl, rfl⟩ := Prod.mk.inj (Option.some.inj hm)
            rw [if_pos (by omega)]; rfl
          · obtain ⟨e, bs₁, he, rfl, h₁⟩ := eq_of_continue? hm
            simp only [continue?, Option.some.injEq, Prod.mk.injEq] at h₁
            obtain ⟨rfl, rfl⟩ := h₁
            rw [if_neg (by omega), if_pos (by omega), hb]
            simp only [List.cons_append, List.nil_append]
            congr <;> omega
          · obtain ⟨e, bs₁, he, rfl, h₁⟩ := eq_of_continue? hm
            obtain ⟨f, bs₂, hf, rfl, h₂⟩ := eq_of_continue? h₁
            simp only [continue?, Option.some.injEq, Prod.mk.injEq] at h₂
            obtain ⟨rfl, rfl⟩ := h₂
            rw [if_neg (by omega), if_neg (by omega), if_pos (by omega), hb]
            simp only [List.cons_append, List.nil_append]
            congr <;> omega
          · obtain ⟨e, bs₁, he, rfl, h₁⟩ := eq_of_continue? hm
            obtain ⟨f, bs₂, hf, rfl, h₂⟩ := eq_of_continue? h₁
            obtain ⟨g, bs₃, hg, rfl, h₃⟩ := eq_of_continue? h₂
            simp only [continue?, Option.some.injEq, Prod.mk.injEq] at h₃
            obtain ⟨rfl, rfl⟩ := h₃
            rw [if_neg (by omega), if_neg (by omega), if_neg (by omega), hb]
            simp only [List.cons_append, List.nil_append]
            congr <;> omega
        next => simp at h

/-! ## Whole texts -/

theorem split_eq (bs : Bytes) : charsBytes (split bs).1 ++ (split bs).2 = bs := by
  fun_induction split bs with
  | case1 => simp
  | case2 bs c rest h _ cs left heq ih =>
    rw [heq] at ih
    simp only [charsBytes_cons, List.append_assoc]
    rw [ih, ← eq_encode_of_char? h]

theorem split_charsBytes_append (cs : List Char) (rest : Bytes) :
    split (charsBytes cs ++ rest) = (cs ++ (split rest).1, (split rest).2) := by
  induction cs with
  | nil => simp
  | cons c cs ih =>
    rw [charsBytes_cons, List.append_assoc, split]
    split
    next h => simp [char?_encode] at h
    next d rest' h =>
      rw [char?_encode] at h
      simp only [Option.some.injEq, Prod.mk.injEq] at h
      obtain ⟨rfl, rfl⟩ := h
      simp [ih]

theorem split_charsBytes (cs : List Char) : split (charsBytes cs) = (cs, []) := by
  have h : split [] = ([], []) := by rw [split]; rfl
  simpa [h] using split_charsBytes_append cs []

end Uncomment.Utf8
