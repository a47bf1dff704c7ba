import Uncomment.Proofs.Scan.Partition
import Uncomment.Proofs.Scan.Seam

/-!
# Literals end by parity

A scan goes through a literal from its front to its end and passes over what a backslash takes
along. Looking back from a mark, it is enough to count the backslashes directly before it: two of
them escape each other, so the mark is escaped by the last one exactly if their number is odd. The
bytes of other characters make no difference, as no backslash is among them.

Results:
* `trailing_cons_of_ne`, `even_trailing_escape`: what one item at the front changes about the
  backslashes at the end.
* `Items.even_trailing`, `Items.odd_trailing`: behind whole items, and before a mark among them.
* `closesAt_iff`: where a mark closes a literal, by the characters behind the opening one.
* `literal_ends_at_closing`: a literal ends with the first mark that closes it.
-/

namespace Uncomment

open Text

/-! ## Runs at the end of a row -/

section Trailing

variable {α : Type} [DecidableEq α] {a : α}

/-- How often `a` stands at the end of the row, without a break. -/
def trailing (a : α) (w : List α) : Nat := (w.rtakeWhile (· = a)).length

theorem trailing_concat (a b : α) (w : List α) :
    trailing a (w ++ [b]) = if b = a then trailing a w + 1 else 0 := by
  unfold trailing
  rw [List.rtakeWhile_concat]
  by_cases h : b = a
  · rw [if_pos h, if_pos (decide_eq_true h), List.length_append, List.length_singleton]
  · rw [if_neg h, if_neg (by simpa using h), List.length_nil]

theorem trailing_append_of_forall_ne {v : List α} (hv : v ≠ []) (h : ∀ b ∈ v, b ≠ a)
    (w : List α) : trailing a (w ++ v) = 0 := by
  obtain rfl | ⟨v, b, rfl⟩ := List.eq_nil_or_concat v
  · exact absurd rfl hv
  · rw [List.concat_eq_append, ← List.append_assoc, trailing_concat, if_neg]
    exact h b (by simp)

/-- Any other symbol at the front makes no difference. -/
theorem trailing_cons_of_ne {c : α} (h : c ≠ a) (w : List α) :
    trailing a (c :: w) = trailing a w := by
  induction w using List.reverseRecOn with
  | nil => exact (trailing_concat a c []).trans (if_neg h)
  | append_singleton w b ih => rw [← List.cons_append, trailing_concat, trailing_concat, ih]

/-- `a` and one more symbol at the front make no odd difference: either the run does not reach
    that far, or it gets longer by two, or it ends with the symbol. -/
theorem even_trailing_escape (c : α) (w : List α) :
    Even (trailing a (a :: c :: w)) ↔ Even (trailing a w) := by
  induction w using List.reverseRecOn with
  | nil =>
    have hone : trailing a [a] = 1 := (trailing_concat a a []).trans (if_pos rfl)
    show Even (trailing a ([a] ++ [c])) ↔ Even 0
    rw [trailing_concat, hone]
    by_cases hc : c = a
    · rw [if_pos hc]
      decide
    · rw [if_neg hc]
  | append_singleton w b ih =>
    rw [← List.cons_append, ← List.cons_append, trailing_concat, trailing_concat]
    by_cases hb : b = a
    · rw [if_pos hb, if_pos hb, Nat.even_add_one, Nat.even_add_one, ih]
    · rw [if_neg hb, if_neg hb]

end Trailing

/-! ## Items -/

section

variable {q : Quote} {items : List Char}

theorem Items.even_trailing (h : Items q items) : Even (trailing '\\' items) := by
  induction h with
  | nil => exact Even.zero
  | escape c _ ih => exact (even_trailing_escape c _).2 ih
  | plain _ hb _ ih => rwa [trailing_cons_of_ne hb]

/-- A mark among items is escaped. -/
theorem Items.odd_trailing (h : Items q items) {x y : List Char} (heq : items = x ++ q.char :: y) :
    ¬ Even (trailing '\\' x) := by
  induction h generalizing x with
  | nil => simp at heq
  | @escape c items _ ih =>
    match x with
    | [] =>
      obtain ⟨hmark, -⟩ := List.cons.inj heq
      exact absurd hmark.symm q.char_ne_backslash
    | [d] =>
      obtain ⟨rfl, -⟩ := List.cons.inj heq
      decide
    | d :: e :: x =>
      obtain ⟨rfl, htail⟩ := List.cons.inj heq
      obtain ⟨rfl, hitems⟩ := List.cons.inj htail
      rw [even_trailing_escape]
      exact ih hitems
  | @plain c items hq hb _ ih =>
    cases x with
    | nil =>
      obtain ⟨hmark, -⟩ := List.cons.inj heq
      exact absurd hmark hq
    | cons d x =>
      obtain ⟨rfl, hitems⟩ := List.cons.inj heq
      rw [trailing_cons_of_ne hb]
      exact ih hitems

/-- A mark that is not escaped stands behind the items. -/
theorem Items.prefix_of_even (h : Items q items) {rest x y : List Char}
    (heq : items ++ q.char :: rest = x ++ q.char :: y) (heven : Even (trailing '\\' x)) :
    items <+: x := by
  rcases List.append_eq_append_iff.1 heq with ⟨w, rfl, -⟩ | ⟨w, hitems, hw⟩
  · exact List.prefix_append items w
  · cases w with
    | nil => rw [hitems, List.append_nil]
    | cons d w =>
      obtain ⟨rfl, -⟩ := List.cons.inj hw
      exact absurd heven (h.odd_trailing hitems)

/-- A mark in what is left open stands among the items: what may stand behind them is no mark. -/
theorem Items.odd_trailing_open (h : Items q items) {tail x y : List Char}
    (ht : tail = [] ∨ tail = ['\\']) (heq : items ++ tail = x ++ q.char :: y) :
    ¬ Even (trailing '\\' x) := by
  rcases ht with rfl | rfl
  · rw [List.append_nil] at heq
    exact h.odd_trailing heq
  · rcases List.append_eq_append_iff.1 heq with ⟨w, rfl, hw⟩ | ⟨w, rfl, hw⟩
    · have hmark : q.char ∈ ['\\'] := by rw [hw]; simp
      exact absurd (List.mem_singleton.1 hmark) q.char_ne_backslash
    · cases w with
      | nil =>
        obtain ⟨hmark, -⟩ := List.cons.inj hw
        exact absurd hmark q.char_ne_backslash
      | cons d w =>
        obtain ⟨rfl, -⟩ := List.cons.inj hw
        exact h.odd_trailing rfl

end

/-! ## Closing marks -/

/-- Behind the byte at `start` stands, at `j`, the mark, and the number of the backslashes directly
    before it, as far as they are behind `start`, is even. -/
structure ClosesAt (bs : Bytes) (start : Nat) (mark : UInt8) (j : Nat) : Prop where
  lt : start < j
  mark : bs[j]? = some mark
  even : Even (trailing Alphabet.bytes.backslash ((bs.take j).drop (start + 1)))

instance (bs : Bytes) (start : Nat) (mark : UInt8) (j : Nat) :
    Decidable (ClosesAt bs start mark j) :=
  decidable_of_iff
    (start < j ∧ bs[j]? = some mark ∧
      Even (trailing Alphabet.bytes.backslash ((bs.take j).drop (start + 1))))
    ⟨fun h => ⟨h.1, h.2.1, h.2.2⟩, fun h => ⟨h.lt, h.mark, h.even⟩⟩

/-- There are as many backslashes among the bytes at the end of a text as among its characters. -/
theorem trailing_charsBytes (w : List Char) :
    trailing Alphabet.bytes.backslash (charsBytes w) = trailing '\\' w := by
  induction w using List.reverseRecOn with
  | nil => rfl
  | append_singleton w c ih =>
    have hlast : charsBytes [c] = String.utf8EncodeChar c := List.flatMap_singleton _ c
    rw [charsBytes_append, hlast]
    by_cases hc : c = '\\'
    · subst hc
      have hself : String.utf8EncodeChar '\\' = [Alphabet.bytes.backslash] := by decide
      rw [hself, trailing_concat, trailing_concat, if_pos rfl, if_pos rfl, ih]
    · have hother : ∀ b ∈ String.utf8EncodeChar c, b ≠ Alphabet.bytes.backslash := by
        rintro b hb rfl
        exact hc (eq_ofNat_of_mem hb (by decide))
      have hne : String.utf8EncodeChar c ≠ [] := by
        obtain ⟨b, rest, h, -⟩ := leadWidth_of_bytes c
        rw [h]
        exact List.cons_ne_nil b rest
      rw [trailing_append_of_forall_ne hne hother, trailing_concat, if_neg hc]

/-- Behind the opening mark of a literal, the closing marks are found among the characters. -/
theorem closesAt_iff {front behind : List Char} {q : Quote} {j : Nat} :
    ClosesAt (charsBytes (front ++ q.char :: behind)) (charsBytes front).length q.byte j ↔
      ∃ x y, behind = x ++ q.char :: y ∧ Even (trailing '\\' x) ∧
        j = (charsBytes front).length + 1 + (charsBytes x).length := by
  have hbytes : charsBytes (front ++ q.char :: behind) =
      (charsBytes front ++ [q.byte]) ++ charsBytes behind := by
    rw [charsBytes_append, charsBytes_cons, Quote.utf8EncodeChar_char, List.append_assoc]
  have hlen : (charsBytes front ++ [q.byte]).length = (charsBytes front).length + 1 := by
    rw [List.length_append, List.length_singleton]
  have hascii : q.byte < 0x80 := by cases q <;> decide
  -- what stands between the opening mark and a later offset
  have hbetween (n : Nat) :
      ((charsBytes (front ++ q.char :: behind)).take ((charsBytes front).length + 1 + n)).drop
        ((charsBytes front).length + 1) = (charsBytes behind).take n := by
    rw [hbytes, ← hlen, List.take_length_add_append, List.drop_left]
  have hget (n : Nat) :
      (charsBytes (front ++ q.char :: behind))[(charsBytes front).length + 1 + n]? =
        (charsBytes behind)[n]? := by
    rw [hbytes, List.getElem?_append_right (by omega), hlen, Nat.add_sub_cancel_left]
  have htake (x y : List Char) :
      (charsBytes (x ++ q.char :: y)).take (charsBytes x).length = charsBytes x := by
    rw [charsBytes_append, List.take_left]
  constructor
  · rintro ⟨hlt, hmark, heven⟩
    obtain ⟨n, rfl⟩ := Nat.exists_eq_add_of_le hlt
    rw [Nat.succ_eq_add_one] at hmark heven ⊢
    rw [hget] at hmark
    obtain ⟨x, y, rfl, rfl⟩ :=
      Offset.exists_append_of_getElem? (Quote.utf8EncodeChar_char q) hascii hmark
    rw [hbetween, htake, trailing_charsBytes] at heven
    exact ⟨x, y, rfl, heven, rfl⟩
  · rintro ⟨x, y, rfl, heven, rfl⟩
    refine ⟨by omega, ?_, ?_⟩
    · rw [hget, charsBytes_append, charsBytes_cons, Quote.utf8EncodeChar_char,
        List.getElem?_append_right (Nat.le_refl _), Nat.sub_self]
      rfl
    · rw [hbetween, htake, trailing_charsBytes]
      exact heven

/-! ## Literals -/

section

variable {front back items tail : List Char} {q : Quote}

theorem Items.closesAt (h : Items q items) (front back : List Char) :
    ClosesAt (charsBytes (front ++ q.char :: (items ++ q.char :: back))) (charsBytes front).length
      q.byte ((charsBytes front).length + 1 + (charsBytes items).length) :=
  closesAt_iff.2 ⟨items, back, rfl, h.even_trailing, rfl⟩

/-- No mark closes the literal before the one behind its items. -/
theorem Items.le_of_closesAt (h : Items q items) {j : Nat}
    (hj : ClosesAt (charsBytes (front ++ q.char :: (items ++ q.char :: back)))
      (charsBytes front).length q.byte j) :
    (charsBytes front).length + 1 + (charsBytes items).length ≤ j := by
  obtain ⟨x, y, heq, heven, rfl⟩ := closesAt_iff.1 hj
  obtain ⟨w, rfl⟩ := h.prefix_of_even heq heven
  rw [charsBytes_append, List.length_append]
  omega

theorem Items.not_closesAt (h : Items q items) (ht : tail = [] ∨ tail = ['\\'])
    (front : List Char) (j : Nat) :
    ¬ ClosesAt (charsBytes (front ++ q.char :: (items ++ tail))) (charsBytes front).length
      q.byte j := by
  intro hj
  obtain ⟨x, y, heq, heven, -⟩ := closesAt_iff.1 hj
  exact h.odd_trailing_open ht heq heven

end

/-- A literal ends with the first mark behind the opening one that has an even number of backslashes
    directly before it; if there is none, it is not closed and goes on to the end of the text. -/
theorem literal_ends_at_closing {text : String} {s : Segment} (hs : s ∈ segments text) {q : Quote}
    {terminated : Bool} (hkind : s.kind = .literal q terminated) :
    (∀ j, ClosesAt (bytes text) s.start q.byte j →
        (∀ i < j, ¬ ClosesAt (bytes text) s.start q.byte i) →
          terminated = true ∧ s.stop = j + 1) ∧
      ((∀ j, ¬ ClosesAt (bytes text) s.start q.byte j) →
        terminated = false ∧ s.stop = text.utf8ByteSize) := by
  obtain ⟨before, p, after, hpieces, hpk, hstart, hstop⟩ := exists_piece_of_mem_segments hs
  have hp := shaped_of_pieces hpieces
  have htext := toList_of_pieces hpieces
  rw [hkind] at hpk
  rw [bytes_eq, htext, hstart]
  generalize before.flatMap Piece.symbols = front at htext hstart ⊢
  cases hp with
  | code | comment | openComment => cases hpk
  | @literal q items hi =>
    cases hpk
    have hsize : s.stop = s.start + 1 + (charsBytes items).length + 1 := by
      rw [hstop, charsBytes_cons, Quote.utf8EncodeChar_char, charsBytes_append, charsBytes_cons,
        Quote.utf8EncodeChar_char, charsBytes_nil]
      simp only [List.length_append, List.length_singleton, List.length_nil]
      omega
    have hbehind : q.char :: (items ++ [q.char]) ++ after.flatMap Piece.symbols =
        q.char :: (items ++ q.char :: after.flatMap Piece.symbols) := by simp
    rw [hbehind]
    have hself := hi.closesAt front (after.flatMap Piece.symbols)
    constructor
    · intro j hj hleast
      have hge := hi.le_of_closesAt hj
      have hle := Nat.le_of_not_lt fun hlt => hleast _ hlt hself
      exact ⟨rfl, by omega⟩
    · intro hnone
      exact absurd hself (hnone _)
  | @openLiteral q items tail hnil hi ht =>
    cases hpk
    subst hnil
    rw [List.flatMap_nil, List.append_nil] at htext ⊢
    constructor
    · intro j hj
      exact absurd hj (hi.not_closesAt ht front j)
    · intro _
      refine ⟨rfl, ?_⟩
      rw [hstop, hstart, ← List.length_append, ← charsBytes_append, ← length_bytes, bytes_eq,
        htext]

/-- Escaped backslashes, an escaped character of two bytes and an escaped mark stand before the mark
    that closes the literal. -/
theorem literal_ends_at_closing_escapes :
    let text := "é\x22\\\\\\é\\\x22a\\\\\x22b"
    let s : Segment := ⟨.literal .double true, 2, 14⟩
    s ∈ segments text ∧ s.kind = .literal .double true ∧
      ClosesAt (bytes text) s.start Quote.double.byte 13 ∧
      (∀ i < 13, ¬ ClosesAt (bytes text) s.start Quote.double.byte i) ∧
      s.stop = 13 + 1 := by
  intro text s
  have hs : s ∈ segments text := by decide +kernel
  have hclose : ClosesAt (bytes text) s.start Quote.double.byte 13 := by decide +kernel
  have hleast : ∀ i < 13, ¬ ClosesAt (bytes text) s.start Quote.double.byte i := by decide +kernel
  exact ⟨hs, rfl, hclose, hleast, ((literal_ends_at_closing hs rfl).1 13 hclose hleast).2⟩

end Uncomment
