import Uncomment.Scan.Recognizer

/-!
# Scans do not look inside characters

An expansion spells every symbol of one alphabet by symbols of another: the five special symbols by
their counterparts, every other one by any symbols at all that are not special. A row of symbols
and its expansion are cut up in the same way. The UTF-8 form of a text is such an expansion of its
characters, so a scan of the bytes finds what a scan of the characters finds.

Results:
* `Expansion.pieces_flatMap`: the pieces of an expanded row are the expanded pieces of the row.
* `expansion_utf8`: UTF-8 is an expansion.
* `bytes_pieces_charsBytes`: the pieces of the bytes of a text are the bytes of its pieces.
-/

namespace Uncomment.Alphabet

variable {α β : Type} [DecidableEq α] [DecidableEq β] {A : Alphabet α} {B : Alphabet β}

/-! ## Expansions -/

/-- A way to spell symbols that keeps the special ones apart from all others. In the alphabet that
    is spelled, characters are single symbols. -/
structure Expansion (A : Alphabet α) (B : Alphabet β) (e : α → List β) : Prop where
  width_source (a : α) : A.width a = 1
  slash : e A.slash = [B.slash]
  star : e A.star = [B.star]
  backslash : e A.backslash = [B.backslash]
  mark (q : Quote) : e (A.mark q) = [B.mark q]
  ne_nil (a : α) : e a ≠ []
  ordinary (a : α) : A.isSpecial a = false → ∀ b ∈ e a, B.isSpecial b = false
  width_pos (a : α) {b : β} {bs : List β} : e a = b :: bs → 0 < B.width b
  width_le (a : α) {b : β} {bs : List β} : e a = b :: bs → B.width b ≤ (e a).length

/-! ## Special symbols -/

theorem isSpecial_eq_true_iff {a : α} :
    A.isSpecial a = true ↔
      a = A.slash ∨ a = A.star ∨ a = A.backslash ∨ ∃ q, a = A.mark q := by
  simp only [isSpecial, isStop, Bool.decide_or, Bool.or_eq_true, decide_eq_true_eq]
  constructor
  · grind
  · rintro (h | h | h | ⟨q, h⟩)
    · grind
    · grind
    · grind
    · cases q <;> grind

theorem isSpecial_of_isStop {a : α} (h : A.isStop a = true) : A.isSpecial a = true := by
  simp [isSpecial, h]

namespace Expansion

variable {e : α → List β} (E : Expansion A B e)
include E

/-- A special symbol is spelled by one symbol. -/
theorem length_special {a : α} (h : A.isSpecial a = true) : (e a).length = 1 := by
  obtain rfl | rfl | rfl | ⟨q, rfl⟩ := isSpecial_eq_true_iff.1 h
  · simp [E.slash]
  · simp [E.star]
  · simp [E.backslash]
  · simp [E.mark]

/-- Behind the first symbol of a spelling there is no special one. -/
theorem tail_ordinary {a : α} {b : β} {bs : List β} (h : e a = b :: bs) :
    ∀ c ∈ bs, B.isSpecial c = false := by
  intro c hc
  cases ha : A.isSpecial a with
  | true =>
    have := E.length_special ha
    rw [h] at this
    cases bs with
    | nil => simp at hc
    | cons => simp at this
  | false => exact E.ordinary a ha c (by rw [h]; exact List.mem_cons_of_mem _ hc)

/-- What is no special symbol is spelled without any, so a special symbol `s` that is spelled by
    `t` alone is the only one whose spelling begins with `t`. -/
theorem eq_of_head (hB : B.Distinct) {a : α} {b : β} {bs : List β} (h : e a = b :: bs) :
    (b = B.slash ↔ a = A.slash) ∧ (b = B.star ↔ a = A.star) ∧
      (b = B.backslash ↔ a = A.backslash) ∧ ∀ q, b = B.mark q ↔ a = A.mark q := by
  have hs := E.slash
  have ht := E.star
  have hb := E.backslash
  have hm := E.mark
  cases ha : A.isSpecial a with
  | false =>
    have hnb := E.ordinary a ha b (by rw [h]; exact List.mem_cons_self)
    have na : ¬ A.isSpecial a = true := by simp [ha]
    have nb : ¬ B.isSpecial b = true := by simp [hnb]
    rw [isSpecial_eq_true_iff] at na nb
    simp only [not_or, not_exists] at na nb
    refine ⟨?_, ?_, ?_, fun q => ?_⟩
    · simp [na, nb]
    · simp [na, nb]
    · simp [na, nb]
    · simp [na.2.2.2 q, nb.2.2.2 q]
  | true =>
    have d₁ := hB.slash_star
    have d₂ := hB.slash_backslash
    have d₃ := hB.star_backslash
    have d₄ := hB.mark_slash
    have d₅ := hB.mark_star
    have d₆ := hB.mark_backslash
    have head {x : α} {y : β} (hx : e x = [y]) (hax : a = x) : b = y := by
      subst hax; rw [hx] at h; exact (List.cons.inj h).1.symm
    obtain hx | hx | hx | ⟨p, hx⟩ := isSpecial_eq_true_iff.1 ha
    · have := head hs hx
      grind
    · have := head ht hx
      grind
    · have := head hb hx
      grind
    · have hbp := head (hm p) hx
      have inj {q : Quote} (hq : B.mark p = B.mark q) : p = q := hB.mark_injective hq
      grind

/-- The first symbol of an expanded row. -/
theorem head?_flatMap (as : List α) :
    (as.flatMap e).head? = as.head?.bind fun a => (e a).head? := by
  cases as with
  | nil => rfl
  | cons a as =>
    have := E.ne_nil a
    cases h : e a with
    | nil => exact absurd h this
    | cons b bs => simp [h]

/-- An expanded row begins with a slash exactly if the row does. -/
theorem head?_flatMap_slash (hB : B.Distinct) (as : List α) :
    (as.flatMap e).head? = some B.slash ↔ as.head? = some A.slash := by
  rw [E.head?_flatMap]
  cases as with
  | nil => simp
  | cons a as =>
    cases h : e a with
    | nil => exact absurd h (E.ne_nil a)
    | cons b bs => simp [h, (E.eq_of_head hB h).1]

/-- An expanded row begins with an asterisk exactly if the row does. -/
theorem head?_flatMap_star (hB : B.Distinct) (as : List α) :
    (as.flatMap e).head? = some B.star ↔ as.head? = some A.star := by
  rw [E.head?_flatMap]
  cases as with
  | nil => simp
  | cons a as =>
    cases h : e a with
    | nil => exact absurd h (E.ne_nil a)
    | cons b bs => simp [h, (E.eq_of_head hB h).2.1]

end Expansion

/-! ## Running over symbols that are not special -/

omit [DecidableEq α] [DecidableEq β] in
/-- The length of an expanded row, one symbol further. -/
theorem length_take_flatMap (e : α → List β) (n : Nat) (a : α) (as : List α) :
    (((a :: as).take (n + 1)).flatMap e).length =
      ((as.take n).flatMap e).length + (e a).length := by
  rw [List.take_succ_cons, List.flatMap_cons, List.length_append, Nat.add_comm]

theorem commentClose_append {bs : List β} (h : ∀ b ∈ bs, b ≠ B.star) (cs : List β) :
    B.commentClose (bs ++ cs) = (B.commentClose cs).map (· + bs.length) := by
  induction bs with
  | nil => simp
  | cons b bs ih =>
    have hb : b ≠ B.star := h b (by simp)
    rw [List.cons_append, commentClose, if_neg (by simp [hb]),
      ih fun c hc => h c (by simp [hc]), Option.map_map]
    rfl

theorem literalClose_append (q : Quote) {bs : List β} {skip : Nat} (hs : skip ≤ bs.length)
    (h : ∀ b ∈ bs.drop skip, B.isSpecial b = false) (cs : List β) :
    B.literalClose (B.mark q) skip (bs ++ cs) =
      (B.literalClose (B.mark q) 0 cs).map (· + bs.length) := by
  induction bs generalizing skip with
  | nil =>
    obtain rfl : skip = 0 := by simpa using hs
    simp
  | cons b bs ih =>
    cases skip with
    | zero =>
      have hb : ¬ B.isSpecial b = true := by simp [h b (by simp)]
      rw [isSpecial_eq_true_iff] at hb
      simp only [not_or, not_exists] at hb
      rw [List.cons_append, literalClose, if_neg (hb.2.2.2 q), if_neg hb.2.2.1,
        ih (Nat.zero_le _) fun c hc => h c (by simpa using .inr hc), Option.map_map]
      rfl
    | succ skip =>
      rw [List.cons_append, literalClose, ih (by simpa using hs) (by simpa using h),
        Option.map_map]
      rfl

theorem findIdx_isStop_append {bs : List β} (h : ∀ b ∈ bs, B.isSpecial b = false)
    (cs : List β) : (bs ++ cs).findIdx B.isStop = bs.length + cs.findIdx B.isStop := by
  induction bs with
  | nil => simp
  | cons b bs ih =>
    have hb : B.isStop b = false := by
      cases hb : B.isStop b with
      | false => rfl
      | true => exact (isSpecial_of_isStop hb).symm.trans (h b (by simp))
    rw [List.cons_append, List.findIdx_cons, hb, ih fun c hc => h c (by simp [hc])]
    simp; omega

namespace Expansion

variable {e : α → List β} (E : Expansion A B e)
include E

/-! ## Recognizers on an expanded row -/

theorem commentClose_flatMap (hB : B.Distinct) (as : List α) :
    B.commentClose (as.flatMap e) =
      (A.commentClose as).map fun n => ((as.take n).flatMap e).length := by
  induction as with
  | nil => rfl
  | cons a as ih =>
    rw [List.flatMap_cons]
    by_cases ha : a = A.star
    · subst ha
      rw [E.star, List.singleton_append, commentClose, commentClose]
      simp only [true_and, E.head?_flatMap_slash hB]
      split
      next h =>
        cases as with
        | nil => simp at h
        | cons a as =>
          obtain rfl : a = A.slash := by simpa using h
          simp [E.star, E.slash]
      next =>
        rw [ih, Option.map_map, Option.map_map]
        simp only [Function.comp_def, length_take_flatMap, E.star, List.length_singleton]
    · have hne : ∀ b ∈ e a, b ≠ B.star := by
        cases h : e a with
        | nil => simp
        | cons b bs =>
          intro c hc
          rcases List.mem_cons.1 hc with rfl | hc
          · exact fun hs => ha ((E.eq_of_head hB h).2.1.1 hs)
          · rintro rfl
            have := E.tail_ordinary h _ hc
            simp [isSpecial] at this
      rw [commentClose_append hne, ih, commentClose, if_neg (by simp [ha]), Option.map_map,
        Option.map_map]
      simp only [Function.comp_def, length_take_flatMap]

theorem literalClose_flatMap (hB : B.Distinct) (q : Quote) (as : List α) :
    B.literalClose (B.mark q) 0 (as.flatMap e) =
        (A.literalClose (A.mark q) 0 as).map (fun n => ((as.take n).flatMap e).length) ∧
      B.literalClose (B.mark q) ((as.flatMap e).head?.elim 0 B.width) (as.flatMap e) =
        (A.literalClose (A.mark q) (as.head?.elim 0 A.width) as).map
          fun n => ((as.take n).flatMap e).length := by
  induction as with
  | nil => exact ⟨rfl, rfl⟩
  | cons a as ih =>
    cases h : e a with
    | nil => exact absurd h (E.ne_nil a)
    | cons b bs =>
      have hh := E.eq_of_head hB h
      have htail := E.tail_ordinary h
      have hlen : (e a).length = bs.length + 1 := by rw [h]; rfl
      constructor
      · rw [List.flatMap_cons, h, List.cons_append, literalClose, literalClose]
        simp only [hh.2.2.2 q, hh.2.2.1]
        split
        next ha =>
          subst ha
          rw [E.mark] at h
          obtain ⟨-, rfl⟩ := List.cons.inj h
          simp [E.mark]
        next =>
          split
          next ha =>
            subst ha
            rw [E.backslash] at h
            obtain ⟨-, rfl⟩ := List.cons.inj h
            rw [List.nil_append, ih.2, Option.map_map, Option.map_map]
            simp only [Function.comp_def, length_take_flatMap, E.backslash,
              List.length_singleton]
          next =>
            rw [literalClose_append q (Nat.zero_le _) (by simpa using htail), ih.1,
              Option.map_map, Option.map_map, Option.map_map]
            simp only [Function.comp_def, length_take_flatMap, hlen, Nat.add_assoc]
      · have hw := E.width_le a h
        have hp := E.width_pos a h
        rw [List.flatMap_cons, List.head?_append, h]
        simp only [List.head?_cons, Option.some_or, Option.elim_some, E.width_source]
        have hdrop : ∀ c ∈ (b :: bs).drop (B.width b), B.isSpecial c = false := by
          intro c hc
          obtain ⟨k, hk⟩ : ∃ k, B.width b = k + 1 := ⟨B.width b - 1, by omega⟩
          rw [hk, List.drop_succ_cons] at hc
          exact htail c (List.mem_of_mem_drop hc)
        rw [literalClose_append q (by rw [← h]; exact hw) hdrop, ih.1, literalClose,
          Option.map_map, Option.map_map]
        simp only [Function.comp_def, length_take_flatMap, h]

theorem findIdx_isStop_flatMap (hB : B.Distinct) (as : List α) :
    (as.flatMap e).findIdx B.isStop = ((as.take (as.findIdx A.isStop)).flatMap e).length := by
  induction as with
  | nil => rfl
  | cons a as ih =>
    cases h : e a with
    | nil => exact absurd h (E.ne_nil a)
    | cons b bs =>
      have hh := E.eq_of_head hB h
      have hstop : B.isStop b = A.isStop a := by
        simp only [isStop, hh.1, hh.2.2.1, hh.2.2.2]
      rw [List.flatMap_cons, h, List.cons_append, List.findIdx_cons, List.findIdx_cons, hstop]
      cases A.isStop a with
      | true => rfl
      | false =>
        rw [findIdx_isStop_append (E.tail_ordinary h), ih]
        simp [h]

/-! ## Pieces of an expanded row -/

theorem front_flatMap (hA : A.Distinct) (hB : B.Distinct) {a : α} {b : β} {bs : List β}
    (h : e a = b :: bs) (as : List α) :
    B.front b (bs ++ as.flatMap e) =
      ((A.front a as).1, (((a :: as).take (A.front a as).2).flatMap e).length) := by
  have hh := E.eq_of_head hB h
  have hlen : (e a).length = bs.length + 1 := by rw [h]; rfl
  have hquote : B.quote? b = A.quote? a := by
    simp only [quote?, hh.2.2.2]
  have hopen : (b = B.slash ∧ (bs ++ as.flatMap e).head? = some B.star) ↔
      (a = A.slash ∧ as.head? = some A.star) := by
    rw [hh.1]
    refine and_congr_right fun ha => ?_
    subst ha
    rw [E.slash] at h
    obtain ⟨-, rfl⟩ := List.cons.inj h
    exact E.head?_flatMap_star hB as
  unfold front
  simp only [hopen]
  split
  next ha =>
    obtain ⟨rfl, hs⟩ := ha
    rw [E.slash] at h
    obtain ⟨-, rfl⟩ := List.cons.inj h
    cases as with
    | nil => simp at hs
    | cons a as =>
      obtain rfl : a = A.star := by simpa using hs
      simp only [List.nil_append, List.flatMap_cons, E.star, List.singleton_append,
        List.tail_cons, E.commentClose_flatMap hB as, Option.isSome_map]
      cases hc : A.commentClose as with
      | none => simp [Nat.add_comm 2, E.slash, E.star]
      | some n => simp [Nat.add_comm 2, E.slash, E.star]
  next =>
    rw [hquote]
    split
    next q hq =>
      obtain rfl := (A.quote?_eq_some_iff hA).1 hq
      rw [E.mark] at h
      obtain ⟨-, rfl⟩ := List.cons.inj h
      simp only [List.nil_append, (E.literalClose_flatMap hB q as).1, Option.isSome_map]
      cases hc : A.literalClose (A.mark q) 0 as with
      | none => simp [Nat.add_comm 1, E.mark]
      | some n => simp [Nat.add_comm 1, E.mark]
    next =>
      simp only [codeLength, findIdx_isStop_append (E.tail_ordinary h),
        E.findIdx_isStop_flatMap hB, Nat.add_comm 1, List.take_succ_cons, List.flatMap_cons,
        List.length_append, hlen]
      simp [Nat.add_right_comm]

theorem pieces_flatMap (hA : A.Distinct) (hB : B.Distinct) (as : List α) :
    B.pieces (as.flatMap e) =
      (A.pieces as).map fun p => ⟨p.kind, p.symbols.flatMap e⟩ := by
  fun_induction pieces A as with
  | case1 => rw [List.flatMap_nil, pieces]; rfl
  | case2 a as _ ih =>
    cases h : e a with
    | nil => exact absurd h (E.ne_nil a)
    | cons b bs =>
      have hcons : (a :: as).flatMap e = b :: (bs ++ as.flatMap e) := by
        rw [List.flatMap_cons, h, List.cons_append]
      have hsplit := congrArg (List.flatMap e)
        (List.take_append_drop (A.front a as).2 (a :: as))
      rw [List.flatMap_append] at hsplit
      rw [hcons, pieces, List.map_cons, ← hcons, E.front_flatMap hA hB h, ← hsplit,
        List.take_left, List.drop_left, ih]

end Expansion

/-! ## UTF-8 -/

theorem expansion_utf8 : Expansion chars bytes String.utf8EncodeChar where
  width_source _ := rfl
  slash := by decide
  star := by decide
  backslash := by decide
  mark := Quote.utf8EncodeChar_char
  ne_nil c := by
    obtain ⟨b, bs, h, -⟩ := Text.leadWidth_of_bytes c
    simp [h]
  ordinary c hc b hb := by
    refine Bool.eq_false_iff.2 fun h => ?_
    have hlt : b < 0x80 := by
      obtain rfl | rfl | rfl | ⟨q, rfl⟩ := isSpecial_eq_true_iff.1 h
      · decide
      · decide
      · decide
      · cases q <;> decide
    obtain rfl := Text.eq_ofNat_of_mem hb hlt
    obtain rfl | rfl | rfl | ⟨q, rfl⟩ := isSpecial_eq_true_iff.1 h
    · revert hc; decide
    · revert hc; decide
    · revert hc; decide
    · revert hc; cases q <;> decide
  width_pos c b bs h := by
    obtain ⟨b', bs', h', hw⟩ := Text.leadWidth_of_bytes c
    obtain ⟨rfl, rfl⟩ := List.cons.inj (h'.symm.trans h)
    exact Nat.lt_of_lt_of_eq c.utf8Size_pos hw.symm
  width_le c b bs h := by
    obtain ⟨b', bs', h', hw⟩ := Text.leadWidth_of_bytes c
    obtain ⟨rfl, rfl⟩ := List.cons.inj (h'.symm.trans h)
    rw [String.length_utf8EncodeChar, ← hw]
    exact Nat.le_refl _

theorem bytes_pieces_charsBytes (cs : List Char) :
    bytes.pieces (Text.charsBytes cs) =
      (chars.pieces cs).map fun p => ⟨p.kind, Text.charsBytes p.symbols⟩ :=
  expansion_utf8.pieces_flatMap chars_distinct bytes_distinct cs

end Uncomment.Alphabet
