import Uncomment.Proofs.Convert.Counters
import Uncomment.Proofs.Scan.LineEnding
import Uncomment.Proofs.Strip.Junction

/-!
# Stripping and normalizing

A conversion strips first and normalizes then. The other order gives the same text but for one kind
of place: where comments stand between a CR and an LF, the pair only comes about once they are gone.

Results:
* `Tokens.isChain_not_straddles`: no pair lies across the border of two tokens.
* `pairs_kept`: the pairs of the stripped text are those inside the kept tokens and those of the
  junctions of a CR and an LF.
* `collapse_kept_iff`: when normalization goes through the kept tokens one by one.
* `convert_normalize`: the same in terms of segments.
-/

namespace Uncomment

open LineEnding

/-! ## Borders of tokens -/

theorem Quote.cr_ne_char (q : Quote) : '\r' ≠ q.char := by cases q <;> decide

/-- Only code ends in a CR, and what follows code begins with a stop. -/
theorem Tokens.isChain_not_straddles {ps : List (Piece Char)} (h : Tokens ps) :
    ps.IsChain fun p q => ¬ Straddles p.symbols q.symbols := by
  induction h with
  | nil => exact .nil
  | @cons p after hp _ ih =>
    rw [List.isChain_cons]
    refine ⟨fun q hq hstraddles => ?_, ih⟩
    obtain ⟨hcr, hlf⟩ := hstraddles
    cases hp with
    | code _ _ hnext _ =>
      obtain ⟨d, hd, hstop⟩ := hnext q hq
      rw [hlf] at hd
      obtain rfl := Option.some.inj hd
      revert hstop
      decide
    | @comment body =>
      rw [← List.cons_append, ← List.cons_append, List.getLast?_append] at hcr
      cases hcr
    | @literal q' items =>
      rw [← List.cons_append, List.getLast?_concat] at hcr
      exact q'.cr_ne_char (Option.some.inj hcr).symm
    | openComment hnil | openLiteral hnil =>
      rw [hnil] at hq
      cases hq

/-! ## Pairs of the kept characters -/

/-- The pairs that lie inside one of the kept tokens. -/
def pairsInside (ps : List (Piece Char)) : Nat :=
  ((ps.filter (·.kind.isKept)).map fun p => pairs p.symbols).sum

theorem straddles_kept_iff {p : Piece Char} {after : List (Piece Char)} (h : Tokens (p :: after))
    (hk : p.kind.isKept = true) :
    Straddles p.symbols (kept after) ↔ Junction '\r' '\n' (p :: after) :=
  (junction_cons_iff Quote.cr_ne_char (by decide) h hk).symm

theorem pairs_kept {ps : List (Piece Char)} (h : Tokens ps) :
    pairs (kept ps) = pairsInside ps + junctions '\r' '\n' ps := by
  induction h with
  | nil => rfl
  | @cons p after hp hafter ih =>
    rw [junctions_cons]
    cases hk : p.kind.isKept with
    | true =>
      have hinside : pairsInside (p :: after) = pairs p.symbols + pairsInside after := by
        simp [pairsInside, hk]
      rw [kept_cons_of_isKept hk, pairs_append, ih, hinside]
      simp only [straddles_kept_iff (.cons hp hafter) hk]
      omega
    | false =>
      have hnot : ¬ Junction '\r' '\n' (p :: after) := by
        rw [junction_cons_iff_exists]
        rintro ⟨hcode, -⟩
        rw [hcode] at hk
        cases hk
      have hinside : pairsInside (p :: after) = pairsInside after := by
        simp [pairsInside, hk]
      rw [kept_cons_of_comment hk, ih, hinside, if_neg hnot, Nat.zero_add]

/-! ## The two orders -/

/-- The kept characters of a row of tokens that are normalized one by one. -/
def keptCollapsed (ps : List (Piece Char)) : List Char :=
  (ps.filter (·.kind.isKept)).flatMap fun p => collapse p.symbols

theorem length_keptCollapsed (ps : List (Piece Char)) :
    (keptCollapsed ps).length + pairsInside ps = (kept ps).length := by
  unfold keptCollapsed pairsInside kept
  induction ps.filter (·.kind.isKept) with
  | nil => rfl
  | cons p ps ih =>
    have := length_collapse p.symbols
    simp only [List.flatMap_cons, List.length_append, List.map_cons, List.sum_cons]
    omega

theorem collapse_kept_of_junctions {ps : List (Piece Char)} (h : Tokens ps)
    (hnone : junctions '\r' '\n' ps = 0) : collapse (kept ps) = keptCollapsed ps := by
  induction h with
  | nil => rfl
  | @cons p after hp hafter ih =>
    rw [junctions_cons] at hnone
    cases hk : p.kind.isKept with
    | true =>
      have hstraddles : ¬ Straddles p.symbols (kept after) := by
        rw [straddles_kept_iff (.cons hp hafter) hk]
        intro hj
        rw [if_pos hj] at hnone
        omega
      rw [kept_cons_of_isKept hk, collapse_append hstraddles, ih (by omega)]
      simp [keptCollapsed, hk]
    | false =>
      rw [kept_cons_of_comment hk, ih (by omega)]
      simp [keptCollapsed, hk]

/-- Each junction is a pair that the tokens do not have, so it makes a difference in length. -/
theorem collapse_kept_iff {ps : List (Piece Char)} (h : Tokens ps) :
    keptCollapsed ps = collapse (kept ps) ↔ junctions '\r' '\n' ps = 0 := by
  refine ⟨fun heq => ?_, fun hnone => (collapse_kept_of_junctions h hnone).symm⟩
  have hone := length_keptCollapsed ps
  have hall := length_collapse (kept ps)
  have hpairs := pairs_kept h
  rw [heq] at hone
  omega

/-! ## Segments -/

theorem toList_strip_normalize (text : String) :
    (strip (LineEnding.normalize text).text).toList = keptCollapsed (pieces text) := by
  rw [toList_strip, pieces_normalize, List.filter_map, List.flatMap_map]
  rfl

theorem collapse_ne_nil {cs : List Char} (h : cs ≠ []) : collapse cs ≠ [] := by
  fun_cases collapse cs <;> simp_all

/-- The segments of the normalized text are those of the text, each normalized for itself; none of
    them is empty, and no pair lies across the border of two. Stripping and normalizing may change
    places exactly if no code that ends in CR has comments and then code behind it that begins with
    LF. By default, a conversion collapses the pairs inside the segments that are kept, and one for
    each such place. -/
theorem convert_normalize (text : String) :
    ((segments (LineEnding.normalize text).text).map
          (fun s : Segment => (s.kind, s.text (LineEnding.normalize text).text)) =
        (segments text).map
          (fun s : Segment => (s.kind, (LineEnding.normalize (s.text text)).text)) ∧
      (∀ s ∈ segments text, (LineEnding.normalize (s.text text)).text ≠ "") ∧
      (segments text).IsChain fun s t : Segment =>
        ¬ Straddles (s.text text).toList (t.text text).toList) ∧
    (strip (LineEnding.normalize text).text = (LineEnding.normalize (strip text)).text ↔
      ∀ ps : List (Piece Char), ps <:+ (segments text).map (·.piece text) →
        ¬ Junction '\r' '\n' ps) ∧
    (convert text {}).stats.crlfCollapsed =
      ((keptSegments text).map fun s : Segment => pairs (s.text text).toList).sum +
        junctions '\r' '\n' ((segments text).map (·.piece text)) := by
  have htokens := tokens_of_text text
  refine ⟨⟨?_, fun s hs => ?_, ?_⟩, ?_, ?_⟩
  · have hold := congrArg (List.map fun t => (t.1, (LineEnding.normalize t.2).text))
      (map_text_segments text)
    rw [List.map_map, List.map_map] at hold
    rw [map_text_segments, pieces_normalize, List.map_map]
    refine Eq.trans (List.map_congr_left fun p _ => ?_) hold.symm
    simp [Piece.text]
  · have hmem : s.piece text ∈ pieces text := by
      rw [← map_piece_segments]
      exact List.mem_map_of_mem hs
    rw [normalize_text, ne_eq, String.ofList_eq_empty_iff]
    exact collapse_ne_nil (htokens.symbols_ne_nil hmem)
  · have hchain := htokens.isChain_not_straddles
    rw [← map_piece_segments, List.isChain_map] at hchain
    exact hchain
  · rw [map_piece_segments, ← junctions_eq_zero_iff, ← collapse_kept_iff htokens,
      ← String.toList_inj, toList_strip_normalize, normalize_text, String.toList_ofList,
      toList_strip_eq_kept]
  · rw [map_piece_segments, crlfCollapsed_convert, if_pos rfl, toList_strip_eq_kept,
      pairs_kept htokens, pairsInside, ← map_piece_segments, List.filter_map, List.map_map]
    rfl

/-- A comment of one pair between a CR and an LF, and a pair in a literal behind them. -/
theorem convert_normalize_split_pair :
    (⟨.comment true, 2, 8⟩ : Segment) ∈ segments "a\r/*\r\n*/\n'\r\n'" ∧
      (LineEnding.normalize
        ((⟨.comment true, 2, 8⟩ : Segment).text "a\r/*\r\n*/\n'\r\n'")).text ≠ "" ∧
      ¬ strip (LineEnding.normalize "a\r/*\r\n*/\n'\r\n'").text =
        (LineEnding.normalize (strip "a\r/*\r\n*/\n'\r\n'")).text ∧
      (convert "a\r/*\r\n*/\n'\r\n'" {}).stats.crlfCollapsed = 1 + 1 := by
  have hmem : (⟨.comment true, 2, 8⟩ : Segment) ∈ segments "a\r/*\r\n*/\n'\r\n'" := by
    decide +kernel
  obtain ⟨⟨-, hne, -⟩, horder, hcollapsed⟩ := convert_normalize "a\r/*\r\n*/\n'\r\n'"
  refine ⟨hmem, hne _ hmem, fun h => horder.1 h _ List.suffix_rfl ?_, hcollapsed.trans ?_⟩
  · decide +kernel
  · decide +kernel

end Uncomment
