import Uncomment.Proofs.Scan.Seam
import Uncomment.Proofs.Strip.Fusion

/-!
# Literals in a stripped text

Where comments are cut out of a text, characters come to stand next to quotes, slashes and
backslashes that they were not next to before. Unless code fuses to the opener of a comment, none of
this matters: the tokens of the stripped text are those that were kept, with the runs of code laid
together that had nothing but comments between them. So the literals are still the literals, and the
code between two of them is the code that was between them.

Results:
* `pieces_kept`: the tokens of the kept characters of a row of tokens.
* `codeAround_attach`: code that is laid together stays between the same literals.
* `literals_strip`: literals and code of a stripped text are those of the text.
-/

namespace Uncomment

/-! ## Literals and the code around them -/

/-- The segment is a literal, closed or not. -/
def SegmentKind.isLiteral : SegmentKind → Bool
  | literal _ _ => true
  | _ => false

/-- The literals in a row of tokens. -/
def literalPieces (ps : List (Piece Char)) : List (Piece Char) := ps.filter (·.kind.isLiteral)

/-- The characters of the code in a row of tokens. -/
def codeOf (ps : List (Piece Char)) : List Char :=
  (ps.filter (·.kind = .code)).flatMap Piece.symbols

/-- The code in front of the first literal of a row of tokens, between each literal and the next,
    and behind the last one; comments in between are left out. -/
def codeAround (ps : List (Piece Char)) : List (List Char) :=
  (ps.splitOnP (·.kind.isLiteral)).map codeOf

/-- The literals of a text, in order: quote, whether terminated, and characters. -/
def literals (text : String) : List (Piece Char) :=
  literalPieces ((segments text).map (·.piece text))

/-- The code of a text in front of, between and behind its literals. -/
def codeAroundLiterals (text : String) : List (List Char) :=
  codeAround ((segments text).map (·.piece text))

/-! ### Token by token -/

theorem codeOf_append (ps qs : List (Piece Char)) : codeOf (ps ++ qs) = codeOf ps ++ codeOf qs := by
  simp [codeOf]

theorem codeAround_cons_literal {p : Piece Char} (h : p.kind.isLiteral = true)
    (ps : List (Piece Char)) : codeAround (p :: ps) = [] :: codeAround ps := by
  rw [codeAround, List.splitOnP_cons_eq_if_modifyHead, if_pos h]
  rfl

theorem codeAround_cons {p : Piece Char} (h : p.kind.isLiteral = false) (ps : List (Piece Char)) :
    codeAround (p :: ps) = (codeAround ps).modifyHead (codeOf [p] ++ ·) := by
  have hcode (group : List (Piece Char)) : codeOf (p :: group) = codeOf [p] ++ codeOf group :=
    codeOf_append [p] group
  rw [codeAround, List.splitOnP_cons_eq_if_modifyHead, if_neg (by simp [h]), codeAround]
  cases ps.splitOnP (·.kind.isLiteral) with
  | nil => rfl
  | cons group groups =>
    rw [List.modifyHead_cons, List.map_cons, hcode]
    rfl

theorem codeAround_cons_comment {p : Piece Char} (h : p.kind.isKept = false)
    (ps : List (Piece Char)) : codeAround (p :: ps) = codeAround ps := by
  obtain ⟨terminated, hkind⟩ := SegmentKind.isKept_eq_false_iff.1 h
  have hcode : codeOf [p] = [] := by simp [codeOf, hkind]
  rw [codeAround_cons (by rw [hkind]; rfl), hcode]
  exact congrFun List.modifyHead_id _

/-- What stands in front of rows of tokens with the same code around their literals makes no
    difference between them. -/
theorem codeAround_cons_congr {ps qs : List (Piece Char)} (h : codeAround ps = codeAround qs)
    (p : Piece Char) : codeAround (p :: ps) = codeAround (p :: qs) := by
  cases hl : p.kind.isLiteral with
  | true => rw [codeAround_cons_literal hl, codeAround_cons_literal hl, h]
  | false => rw [codeAround_cons hl, codeAround_cons hl, h]

theorem codeAround_filter_isKept (ps : List (Piece Char)) :
    codeAround (ps.filter (·.kind.isKept)) = codeAround ps := by
  induction ps with
  | nil => rfl
  | cons p ps ih =>
    cases hk : p.kind.isKept with
    | false => rw [List.filter_cons_of_neg (by simp [hk]), ih, codeAround_cons_comment hk]
    | true => rw [List.filter_cons_of_pos (by simp [hk]), codeAround_cons_congr ih]

theorem literalPieces_filter_isKept (ps : List (Piece Char)) :
    literalPieces (ps.filter (·.kind.isKept)) = literalPieces ps := by
  rw [literalPieces, List.filter_filter]
  refine List.filter_congr fun p _ => ?_
  cases p.kind <;> rfl

/-! ### Code laid together -/

theorem literalPieces_attach (p : Piece Char) (after : List (Piece Char)) :
    literalPieces (p.attach after) = literalPieces [p] ++ literalPieces after :=
  Piece.filter_attach (·.isLiteral) rfl p after

theorem codeOf_attach (p : Piece Char) (after : List (Piece Char)) :
    codeOf (p.attach after) = codeOf [p] ++ codeOf after :=
  Piece.flatMap_filter_attach (· = .code) p after

theorem codeAround_attach (p : Piece Char) (after : List (Piece Char)) :
    codeAround (p.attach after) = codeAround (p :: after) := by
  unfold Piece.attach
  split
  next c run after =>
    split
    next h =>
      have hcode (cs : List Char) : (⟨.code, cs⟩ : Piece Char).kind.isLiteral = false := rfl
      have hp : p.kind.isLiteral = false := by
        rw [h.1]
        rfl
      have hone : codeOf [⟨.code, p.symbols ++ c :: run⟩] =
          codeOf [p] ++ codeOf [⟨.code, c :: run⟩] := by
        simp [codeOf, h.1]
      rw [codeAround_cons (hcode _), codeAround_cons hp, codeAround_cons (hcode _),
        List.modifyHead_modifyHead, hone]
      congr 1
      funext code
      exact List.append_assoc _ _ _
    next => rfl
  · rfl

theorem literalPieces_foldr_attach (ps : List (Piece Char)) :
    literalPieces (ps.foldr Piece.attach []) = literalPieces ps := by
  have h := Piece.foldr_attach (fun ps qs => List.filter_append ps qs) literalPieces_attach ps []
  rwa [← List.append_nil (literalPieces ps)]

theorem codeAround_foldr_attach (ps : List (Piece Char)) :
    codeAround (ps.foldr Piece.attach []) = codeAround ps := by
  induction ps with
  | nil => rfl
  | cons p ps ih => rw [List.foldr_cons, codeAround_attach, codeAround_cons_congr ih]

/-! ## The tokens of a stripped text -/

/-- Token by token from the back: a kept token that is complete goes in front of the tokens that the
    kept characters behind it make up, since no opener comes about between the two. -/
theorem pieces_kept {ps : List (Piece Char)} (h : Tokens ps) (hfree : ¬ Fused ps) :
    Alphabet.chars.pieces (kept ps) = (ps.filter (·.kind.isKept)).foldr Piece.attach [] := by
  induction h with
  | nil => exact pieces_of_tokens .nil
  | @cons p after hp hafter ih =>
    rw [fused_cons_iff, not_or] at hfree
    obtain ⟨hjunction, hbehind⟩ := hfree
    have hrest := ih hbehind
    cases hk : p.kind.isKept with
    | false => rw [kept_cons_of_comment hk, List.filter_cons_of_neg (by simp [hk]), hrest]
    | true =>
      rw [kept_cons_of_isKept hk, List.filter_cons_of_pos (by simp [hk]), List.foldr_cons, ← hrest]
      by_cases hterm : p.kind.isTerminated = true
      · have hmark : ∀ q : Quote, '/' ≠ q.char := fun q => q.char_ne_slash.symm
        have hflat := Alphabet.chars.pieces_flatten (kept after)
        have hseam : p.symbols.getLast? = some '/' → (kept after).head? ≠ some '*' :=
          fun hlast hstar =>
            hjunction ((junction_cons_iff hmark (by decide) (.cons hp hafter) hk).2 ⟨hlast, hstar⟩)
        have htokens := hp.tokens_attach hterm (tokens_pieces (kept after)) fun _ => by rwa [hflat]
        have hpieces := pieces_of_tokens htokens
        rwa [Piece.flatMap_attach, hflat] at hpieces
      · obtain rfl := hp.eq_nil_of_not_isTerminated hterm
        have hcode : p.kind ≠ .code := by
          intro hcode
          rw [hcode] at hterm
          exact hterm rfl
        have hpieces := pieces_of_tokens (.cons hp hafter)
        rw [List.flatMap_cons] at hpieces
        rw [Piece.attach_of_ne_code hcode, hrest]
        exact hpieces

theorem pieces_strip {text : String} (h : FusionFree text) :
    pieces (strip text) = ((pieces text).filter (·.kind.isKept)).foldr Piece.attach [] := by
  rw [FusionFree, map_piece_segments] at h
  have hpieces := pieces_kept (tokens_of_text text) h
  rwa [← toList_strip_eq_kept] at hpieces

/-! ## Literals survive -/

/-- If no code fuses, a stripped text has no comments, the literals of the text, and the code of the
    text in the same places around them. -/
theorem literals_strip {text : String} (h : FusionFree text) :
    comments (strip text) = [] ∧ literals (strip text) = literals text ∧
      codeAroundLiterals (strip text) = codeAroundLiterals text := by
  refine ⟨(comments_strip_eq_nil_iff text).2 h, ?_, ?_⟩
  · rw [literals, literals, map_piece_segments, map_piece_segments, pieces_strip h,
      literalPieces_foldr_attach, literalPieces_filter_isKept]
  · rw [codeAroundLiterals, codeAroundLiterals, map_piece_segments, map_piece_segments,
      pieces_strip h, codeAround_foldr_attach, codeAround_filter_isKept]

/-- A backslash and slashes that come to stand in front of quotes, delimiters of comments in
    literals, quotes in comments, and a literal that stays open. -/
theorem literals_strip_neighbours :
    FusionFree "a\\/*'*/'/*b*\\''/ /*c*//\"*/\\\\\"*/*d\"*/x/*e*//'f\\" ∧
      strip "a\\/*'*/'/*b*\\''/ /*c*//\"*/\\\\\"*/*d\"*/x/*e*//'f\\" =
        "a\\'/*b*\\''/ /\"*/\\\\\"*x/'f\\" ∧
      comments "a\\'/*b*\\''/ /\"*/\\\\\"*x/'f\\" = [] ∧
      literals "a\\'/*b*\\''/ /\"*/\\\\\"*x/'f\\" =
        [⟨.literal .single true, "'/*b*\\''".toList⟩, ⟨.literal .double true, "\"*/\\\\\"".toList⟩,
          ⟨.literal .single false, "'f\\".toList⟩] ∧
      codeAroundLiterals "a\\'/*b*\\''/ /\"*/\\\\\"*x/'f\\" =
        ["a\\".toList, "/ /".toList, "*x/".toList, []] := by
  have hfree : FusionFree "a\\/*'*/'/*b*\\''/ /*c*//\"*/\\\\\"*/*d\"*/x/*e*//'f\\" :=
    (comments_strip_eq_nil_iff _).1 (by decide +kernel)
  have hstrip : strip "a\\/*'*/'/*b*\\''/ /*c*//\"*/\\\\\"*/*d\"*/x/*e*//'f\\" =
      "a\\'/*b*\\''/ /\"*/\\\\\"*x/'f\\" := by decide +kernel
  obtain ⟨hcomments, hliterals, hcode⟩ := literals_strip hfree
  rw [hstrip] at hcomments hliterals hcode
  refine ⟨hfree, hstrip, hcomments, hliterals.trans ?_, hcode.trans ?_⟩
  · decide +kernel
  · decide +kernel

end Uncomment
