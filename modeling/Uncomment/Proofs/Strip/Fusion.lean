import Uncomment.Proofs.Scan.Automaton
import Uncomment.Proofs.Strip.Junction

/-!
# Fusion

Where comments are cut out, the code in front of them and the code behind them come together. If the
one ends in a slash and the other begins with an asterisk, they make up a comment opener that was
not there before. Nothing else comes into being: quotes and backslashes stay what they were.

Results:
* `fused_cons_iff`: a fusion is a junction of a slash and an asterisk.
* `entered_read_kept`: the automaton enters a comment in the kept characters exactly if there is a
  fusion.
* `comments_strip_eq_nil_iff`: a stripped text is free of comments exactly if there is no fusion.
* `strip_eq_self_iff`: a text is its own stripped text exactly if it has no comments.
-/

namespace Uncomment

/-! ## Where code fuses -/

/-- Somewhere in a row of tokens, code ends in a slash, and behind one or more comments code begins
    with an asterisk. -/
def Fused (ps : List (Piece Char)) : Prop :=
  ∃ before s cs t after, ps = before ++ s :: (cs ++ t :: after) ∧
    s.kind = .code ∧ s.symbols.getLast? = some '/' ∧
    cs ≠ [] ∧ (∀ c ∈ cs, ∃ terminated, c.kind = .comment terminated) ∧
    t.kind = .code ∧ t.symbols.head? = some '*'

/-- There is no fusion among the segments of the text. -/
def FusionFree (text : String) : Prop := ¬ Fused ((segments text).map (·.piece text))

/-- A fusion begins with the first token or lies behind it. -/
theorem fused_cons_iff {p : Piece Char} {ps : List (Piece Char)} :
    Fused (p :: ps) ↔ Junction '/' '*' (p :: ps) ∨ Fused ps := by
  constructor
  · rintro ⟨before, s, cs, t, after, heq, hrest⟩
    cases before with
    | nil => exact .inl ⟨s, cs, t, after, heq, hrest⟩
    | cons b before =>
      obtain ⟨rfl, rfl⟩ := List.cons.inj heq
      exact .inr ⟨before, s, cs, t, after, rfl, hrest⟩
  · rintro (⟨s, cs, t, after, heq, hrest⟩ | ⟨before, s, cs, t, after, rfl, hrest⟩)
    · exact ⟨[], s, cs, t, after, heq, hrest⟩
    · exact ⟨p :: before, s, cs, t, after, rfl, hrest⟩

/-- Only a token of one character, the slash, is code that ends in a slash. -/
theorem fused_cons_code_iff {c : Char} {run : List Char} {after : List (Piece Char)}
    (h : Tokens (⟨.code, c :: run⟩ :: after)) :
    Fused (⟨.code, c :: run⟩ :: after) ↔
      (c = '/' ∧ (run ++ kept after).head? = some '*') ∨ Fused after := by
  have hmark : ∀ q : Quote, '/' ≠ q.char := fun q => q.char_ne_slash.symm
  rw [fused_cons_iff, junction_cons_iff hmark (by decide) h rfl]
  refine or_congr_left ?_
  cases h with
  | cons hp _ =>
    constructor
    · rintro ⟨hlast, hstar⟩
      obtain ⟨rfl, rfl⟩ := List.cons.inj (hp.symbols_eq_slash rfl hlast)
      exact ⟨rfl, hstar⟩
    · rintro ⟨rfl, hstar⟩
      cases hp with
      | code _ _ _ hopen =>
        cases run with
        | nil => exact ⟨rfl, hstar⟩
        | cons d run => exact absurd hstar (hopen rfl)

theorem fused_cons_of_ne_code {p : Piece Char} {ps : List (Piece Char)} (h : p.kind ≠ .code) :
    Fused (p :: ps) ↔ Fused ps := by
  rw [fused_cons_iff, junction_cons_iff_exists]
  exact or_iff_right fun hp => h hp.1

theorem not_fused_nil : ¬ Fused [] := by
  rintro ⟨before, s, cs, t, after, h, -⟩
  cases before <;> cases h

/-! ## The second scan -/

/-- The automaton reads the kept characters as it read them among the comments, up to the first
    fusion. -/
theorem entered_read_kept {ps : List (Piece Char)} (h : Tokens ps) :
    (Mode.code.read (kept ps)).entered = 0 ↔ ¬ Fused ps := by
  induction h with
  | nil => exact iff_of_true rfl not_fused_nil
  | @cons p after hp hafter ih =>
    cases hp with
    | @code c run hq hrun hnext hslash =>
      rw [fused_cons_code_iff (.cons (.code hq hrun hnext hslash) hafter), kept_cons_of_isKept rfl,
        List.cons_append]
      by_cases hf : c = '/' ∧ (run ++ kept after).head? = some '*'
      · -- a fusion: the slash and the asterisk are an opener now
        obtain ⟨rfl, hhead⟩ := hf
        obtain ⟨tail, htail⟩ := List.head?_eq_some_iff.1 hhead
        rw [htail, Mode.read_open]
        simp
      · rw [Mode.read_code hq fun hc hs => hf ⟨hc, hs⟩, Mode.read_append_code hrun,
          Reading.entered_behind, Reading.entered_behind, ih, or_iff_right hf]
    | comment | openComment =>
      rw [kept_cons_of_comment rfl, fused_cons_of_ne_code (by simp), ih]
    | literal hi =>
      rw [kept_cons_of_isKept rfl, fused_cons_of_ne_code (by simp), List.cons_append,
        List.append_assoc, Mode.read_mark, Mode.read_append_literal hi, List.singleton_append,
        Mode.read_unmark]
      exact ih
    | openLiteral hnil hi ht =>
      subst hnil
      rw [kept_cons_of_isKept rfl, fused_cons_of_ne_code (by simp), List.cons_append,
        Mode.read_mark, kept, List.filter_nil, List.flatMap_nil, List.append_nil,
        Mode.read_append_literal hi, Mode.read_tail _ ht]
      exact iff_of_true rfl not_fused_nil

theorem comments_strip_eq_nil_iff (text : String) :
    comments (strip text) = [] ↔ FusionFree text := by
  have hread := congrArg Reading.entered (read_pieces (strip text))
  rw [toList_strip_eq_kept] at hread
  rw [FusionFree, map_piece_segments, ← List.length_eq_zero_iff, length_comments]
  exact (Iff.of_eq (congrArg (· = 0) hread.symm)).trans
    (entered_read_kept (tokens_of_text text))

/-! ## Length -/

/-- Each comment takes at least one character along. -/
theorem length_kept_add_le {ps : List (Piece Char)} (h : Tokens ps) :
    (kept ps).length + (ps.filter (!·.kind.isKept)).length ≤
      (ps.flatMap Piece.symbols).length := by
  induction h with
  | nil => simp [kept]
  | @cons p after hp _ ih =>
    have hpos := List.length_pos_iff.2 hp.ne_nil
    rw [List.flatMap_cons, List.length_append]
    cases hk : p.kind.isKept with
    | true =>
      rw [kept_cons_of_isKept hk, List.length_append, List.filter_cons_of_neg (by simp [hk])]
      omega
    | false =>
      rw [kept_cons_of_comment hk, List.filter_cons_of_pos (by simp [hk]), List.length_cons]
      omega

theorem length_strip_add_le (text : String) :
    (strip text).toList.length + (comments text).length ≤ text.toList.length := by
  have h := length_kept_add_le (tokens_pieces text.toList)
  rw [Alphabet.pieces_flatten] at h
  rw [toList_strip, length_comments]
  exact h

theorem strip_of_comments_eq_nil {text : String} (h : comments text = []) : strip text = text := by
  have hall : ∀ p ∈ pieces text, p.kind.isKept = true := by
    rw [← List.length_eq_zero_iff, length_comments, List.length_eq_zero_iff,
      List.filter_eq_nil_iff] at h
    simpa using h
  rw [← String.toList_inj, toList_strip, List.filter_eq_self.2 hall, pieces,
    Alphabet.pieces_flatten]

theorem strip_eq_self_iff {text : String} : strip text = text ↔ comments text = [] := by
  refine ⟨fun h => ?_, strip_of_comments_eq_nil⟩
  have hlen := length_strip_add_le text
  rw [h] at hlen
  exact List.length_eq_zero_iff.1 (by omega)

end Uncomment
