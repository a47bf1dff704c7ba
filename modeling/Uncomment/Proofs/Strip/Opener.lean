import Uncomment.Proofs.Scan.Partition
import Uncomment.Proofs.Strip.Fusion

/-!
# Openers

The pair `/*` can stand anywhere in a text: inside a literal, inside a comment, or with the slash
that closes one comment before an asterisk of code. What it never does is to stand in code with
nothing made of it: a slash of code is either the first character of its run, and then a comment
would begin there, or not part of the run.

Results:
* `openerAt_iff`: an opener among the bytes of a text is one among its characters.
* `Shaped.kind_of_opener`: the tokens that can hold the slash of an opener.
* `exists_segment_of_openerAt`, `openerAt_of_comment`: the segment that holds it, and the opener of
  a comment.
* `strip_eq_self_iff_openers`: stripping leaves a text alone exactly if all openers are in literals.
-/

namespace Uncomment

open Text

/-! ## Openers -/

/-- At offset `i` stands the pair `/*`. -/
def OpenerAt (bs : Bytes) (i : Nat) : Prop :=
  bs[i]? = some Alphabet.bytes.slash ∧ bs[i + 1]? = some Alphabet.bytes.star

theorem openerAt_iff {cs : List Char} {i : Nat} :
    OpenerAt (charsBytes cs) i ↔
      ∃ front back, cs = front ++ '/' :: '*' :: back ∧ i = (charsBytes front).length := by
  have hslash : String.utf8EncodeChar '/' = [Alphabet.bytes.slash] := by decide
  have hstar : String.utf8EncodeChar '*' = [Alphabet.bytes.star] := by decide
  constructor
  · rintro ⟨hfirst, hsecond⟩
    obtain ⟨front, behind, rfl, rfl⟩ := Offset.exists_append_of_getElem? hslash (by decide) hfirst
    rw [charsBytes_append, List.getElem?_append_right (by omega), Nat.add_sub_cancel_left,
      charsBytes_cons, hslash] at hsecond
    have hnext : (charsBytes behind)[0]? = some Alphabet.bytes.star := hsecond
    obtain ⟨gap, back, rfl, hgap⟩ :=
      Offset.exists_append_of_getElem? hstar (by decide) hnext
    cases gap with
    | nil => exact ⟨front, back, rfl, rfl⟩
    | cons c gap =>
      have hpos := c.utf8Size_pos
      rw [charsBytes_cons, List.length_append, String.length_utf8EncodeChar] at hgap
      omega
  · rintro ⟨front, back, rfl, rfl⟩
    rw [charsBytes_append, charsBytes_cons, charsBytes_cons, hslash, hstar]
    constructor
    · rw [List.getElem?_append_right (Nat.le_refl _), Nat.sub_self]
      rfl
    · rw [List.getElem?_append_right (by omega), Nat.add_sub_cancel_left]
      rfl

/-- Where a token holds the slash of an opener, it is a comment, or a literal that holds the
    asterisk as well: the first slash of code opens no comment, and there is no other. -/
theorem Shaped.kind_of_opener {p : Piece Char} {after : List (Piece Char)} (h : Shaped after p)
    {x y : List Char} (hslash : p.symbols = x ++ '/' :: y)
    (hstar : (y ++ after.flatMap Piece.symbols).head? = some '*') :
    p.kind.isKept = false ∨
      (∃ q terminated, p.kind = .literal q terminated) ∧ y.head? = some '*' := by
  cases h with
  | comment | openComment => exact .inl rfl
  | @code c run _ hrun _ hopen =>
    cases x with
    | nil =>
      obtain ⟨rfl, rfl⟩ := List.cons.inj hslash
      exact absurd hstar (hopen rfl)
    | cons d x =>
      obtain ⟨-, rfl⟩ := List.cons.inj hslash
      exact absurd (by decide) (hrun '/' (by simp))
  | @literal q items hi =>
    refine .inr ⟨⟨q, true, rfl⟩, ?_⟩
    cases y with
    | nil =>
      have hlast := congrArg List.getLast? hslash
      rw [List.getLast?_concat, List.getLast?_cons_of_ne_nil (by simp), List.getLast?_concat]
        at hlast
      exact absurd (Option.some.inj hlast) q.char_ne_slash
    | cons d y => exact hstar
  | @openLiteral q items tail hnil =>
    subst hnil
    rw [List.flatMap_nil, List.append_nil] at hstar
    exact .inr ⟨⟨q, false, rfl⟩, hstar⟩

/-- The segment that holds the slash of an opener. -/
theorem exists_segment_of_openerAt {text : String} {i : Nat} (h : OpenerAt (bytes text) i) :
    ∃ s ∈ segments text, (s.start ≤ i ∧ i < s.stop) ∧
      (s.kind.isKept = false ∨
        (∃ q terminated, s.kind = .literal q terminated) ∧ i + 2 ≤ s.stop) := by
  rw [bytes_eq, openerAt_iff] at h
  obtain ⟨front, back, htext, rfl⟩ := h
  have hflat := flatMap_pieces text
  rw [htext] at hflat
  obtain ⟨before, p, after, x, y, hpieces, hp, rfl⟩ := exists_piece_of_append hflat
  have hbehind : y ++ after.flatMap Piece.symbols = '*' :: back := by
    rw [toList_of_pieces hpieces, hp, List.append_assoc, List.append_assoc,
      List.append_cancel_left_eq, List.append_cancel_left_eq] at htext
    exact (List.cons.inj htext).2
  have hfront : (charsBytes (before.flatMap Piece.symbols ++ x)).length =
      (charsBytes (before.flatMap Piece.symbols)).length + (charsBytes x).length := by
    rw [charsBytes_append, List.length_append]
  have hlen : (charsBytes p.symbols).length =
      (charsBytes x).length + (1 + (charsBytes y).length) := by
    rw [hp, charsBytes_append, charsBytes_cons, List.length_append, List.length_append]
    rfl
  obtain ⟨s, hs, hkind, hstart, hstop⟩ := exists_segment_of_pieces hpieces
  refine ⟨s, hs, by omega, ?_⟩
  rw [hkind]
  have hopener := (shaped_of_pieces hpieces).kind_of_opener hp (by rw [hbehind]; rfl)
  refine hopener.imp_right (And.imp_right ?_)
  intro hhead
  obtain ⟨y, rfl⟩ := List.head?_eq_some_iff.1 hhead
  have hstar : ('*' : Char).utf8Size = 1 := by decide
  rw [charsBytes_cons, List.length_append, String.length_utf8EncodeChar] at hlen
  omega

/-- Behind its first byte, a comment goes on with an asterisk. -/
theorem openerAt_of_comment {text : String} {s : Segment} (hs : s ∈ comments text) :
    OpenerAt (bytes text) s.start := by
  obtain ⟨hmem, hkind⟩ := List.mem_filter.1 hs
  obtain ⟨before, p, after, hpieces, hpk, hstart, -⟩ := exists_piece_of_mem_segments hmem
  rw [hpk] at hkind
  rw [bytes_eq, openerAt_iff, toList_of_pieces hpieces, hstart]
  cases shaped_of_pieces hpieces with
  | code | literal | openLiteral => cases hkind
  | comment | openComment => exact ⟨_, _, rfl, rfl⟩

/-! ## What is left alone -/

/-- Stripping leaves a text alone exactly if every pair `/*` in it lies inside a literal, whatever
    begins there. No slash of a code segment has an asterisk directly behind it, in the segment or
    not: so outside literals and comments no opener is missed. -/
theorem strip_eq_self_iff_openers (text : String) :
    (strip text = text ↔
        ∀ i, OpenerAt (bytes text) i → ∃ s ∈ segments text,
          (∃ q terminated, s.kind = .literal q terminated) ∧ s.start ≤ i ∧ i + 2 ≤ s.stop) ∧
      ∀ s ∈ segments text, s.kind = .code →
        ∀ i, s.start ≤ i → i < s.stop → ¬ OpenerAt (bytes text) i := by
  constructor
  · rw [strip_eq_self_iff]
    constructor
    · intro hnone i hi
      obtain ⟨s, hs, hin, hcomment | ⟨hliteral, hstop⟩⟩ := exists_segment_of_openerAt hi
      · have hmem : s ∈ comments text := List.mem_filter.2 ⟨hs, by rw [hcomment]; rfl⟩
        rw [hnone] at hmem
        cases hmem
      · exact ⟨s, hs, hliteral, hin.1, hstop⟩
    · intro hall
      apply List.eq_nil_iff_forall_not_mem.2
      intro s hs
      obtain ⟨hmem, hkept⟩ := List.mem_filter.1 hs
      obtain ⟨t, ht, ⟨q, terminated, hliteral⟩, hstart, hstop⟩ := hall _ (openerAt_of_comment hs)
      have hsame := eq_of_mem_segments hmem ht ⟨Nat.le_refl _, start_lt_stop_of_mem_segments hmem⟩
        ⟨hstart, by omega⟩
      rw [hsame, hliteral] at hkept
      cases hkept
  · intro s hs hcode i hstart hstop hi
    obtain ⟨t, ht, hin, hkind⟩ := exists_segment_of_openerAt hi
    obtain rfl := eq_of_mem_segments hs ht ⟨hstart, hstop⟩ hin
    rw [hcode] at hkind
    rcases hkind with hcomment | ⟨⟨q, terminated, hliteral⟩, -⟩
    · cases hcomment
    · cases hliteral

end Uncomment
