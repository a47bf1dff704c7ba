import Uncomment.Proofs.Convert.Counters
import Uncomment.Proofs.Scan.Automaton
import Uncomment.Proofs.Scan.Seam
import Uncomment.Proofs.Strip.Junction

/-!
# Converting texts laid end to end

A text that leaves nothing open may be stripped on its own, and so may what is written behind it:
both the texts and the counters add up. The only thing that can come about at the seam is the opener
of a comment, of a slash of code and an asterisk. Where the first text does leave a literal or a
comment open, the second goes on with it, and what was kept of the first is still kept.

Results:
* `pieces_append_of_closed`: the pieces of the whole, from those of the two texts.
* `strip_append_of_closed`, `commentPieces_append_of_closed`: what is kept and what is removed.
* `toList_strip_append_last`: where the first text is cut in front of its last token.
* `convert_append`: all of it for texts, closed or not.
-/

namespace Uncomment

/-! ## How a text ends -/

/-- Nothing is open at the end of the text: it has no segments, or the last one is code or is
    terminated. -/
def Closed (text : String) : Prop :=
  ∀ s ∈ (segments text).getLast?, s.kind = .code ∨ s.kind.isTerminated = true

/-- The first text ends in a slash of code and the second begins with an asterisk. -/
def OpensAcross (a b : String) : Prop :=
  (∃ s ∈ (segments a).getLast?, s.kind = .code ∧ (s.text a).toList.getLast? = some '/') ∧
    b.toList.head? = some '*'

instance (text : String) : Decidable (Closed text) :=
  inferInstanceAs (Decidable (∀ s ∈ (segments text).getLast?, _))

instance (a b : String) : Decidable (OpensAcross a b) :=
  inferInstanceAs (Decidable ((∃ s ∈ (segments a).getLast?, _) ∧ _))

theorem getLast?_pieces (text : String) :
    (pieces text).getLast? = (segments text).getLast?.map (·.piece text) := by
  rw [← map_piece_segments, List.getLast?_map]

theorem opensAcross_iff {a b : String} :
    OpensAcross a b ↔
      (∃ p ∈ (pieces a).getLast?, p.kind = .code ∧ p.symbols.getLast? = some '/') ∧
        b.toList.head? = some '*' := by
  rw [getLast?_pieces]
  simp [OpensAcross, Segment.piece]

theorem closed_iff_getLast? {text : String} :
    Closed text ↔ ∀ p ∈ (pieces text).getLast?, p.kind.isTerminated = true := by
  have hkind (k : SegmentKind) :
      (k = .code ∨ k.isTerminated = true) ↔ k.isTerminated = true := by
    cases k <;> simp [SegmentKind.isTerminated]
  rw [getLast?_pieces]
  simp [Closed, Segment.piece, hkind]

theorem closed_iff {text : String} :
    Closed text ↔ ∀ p ∈ pieces text, p.kind.isTerminated = true := by
  rw [closed_iff_getLast?]
  refine ⟨fun h => ?_, fun h p hp => h p (List.mem_of_getLast? hp)⟩
  have htokens := tokens_of_text text
  rcases List.eq_nil_or_concat (pieces text) with hnil | ⟨ps, p, hps⟩
  · simp [hnil]
  · rw [hps, List.concat_eq_append] at h htokens ⊢
    rw [List.forall_mem_append]
    exact ⟨htokens.isTerminated_of_append, by simpa using h⟩

theorem exists_open_of_not_closed {text : String} (h : ¬ Closed text) :
    ∃ ps p, pieces text = ps ++ [p] ∧ p.kind.isTerminated = false := by
  rw [closed_iff_getLast?] at h
  push Not at h
  obtain ⟨p, hp, hopen⟩ := h
  obtain ⟨ps, hps⟩ := List.getLast?_eq_some_iff.1 hp
  exact ⟨ps, p, hps, Bool.eq_false_iff.2 hopen⟩

/-! ## What is kept and what is removed -/

theorem kept_attach (p : Piece Char) (after : List (Piece Char)) :
    kept (p.attach after) = kept [p] ++ kept after :=
  Piece.flatMap_filter_attach (·.isKept) p after

theorem commentPieces_attach (p : Piece Char) (after : List (Piece Char)) :
    commentPieces (p.attach after) = commentPieces [p] ++ commentPieces after :=
  Piece.filter_attach (!·.isKept) rfl p after

theorem kept_foldr_attach (ps qs : List (Piece Char)) :
    kept (ps.foldr Piece.attach qs) = kept ps ++ kept qs :=
  Piece.foldr_attach kept_append kept_attach ps qs

theorem commentPieces_foldr_attach (ps qs : List (Piece Char)) :
    commentPieces (ps.foldr Piece.attach qs) = commentPieces ps ++ commentPieces qs :=
  Piece.foldr_attach (fun ps qs => List.filter_append ps qs) commentPieces_attach ps qs

/-! ## Behind a closed text -/

section Closed

variable {a b : String} (ha : Closed a) (hab : ¬ OpensAcross a b)
include ha hab

theorem pieces_append_of_closed :
    pieces (a ++ b) = (pieces a).foldr Piece.attach (pieces b) := by
  rw [opensAcross_iff] at hab
  have h := pieces_append (tokens_of_text a) (closed_iff.1 ha) b.toList
    fun p hp hcode hlast hstar => hab ⟨⟨p, hp, hcode, hlast⟩, hstar⟩
  rw [flatMap_pieces, ← String.toList_append] at h
  exact h

theorem strip_append_of_closed : strip (a ++ b) = strip a ++ strip b := by
  rw [← String.toList_inj, String.toList_append, toList_strip_eq_kept, toList_strip_eq_kept,
    toList_strip_eq_kept, pieces_append_of_closed ha hab, kept_foldr_attach]

theorem commentPieces_append_of_closed :
    commentPieces (pieces (a ++ b)) = commentPieces (pieces a) ++ commentPieces (pieces b) := by
  rw [pieces_append_of_closed ha hab, commentPieces_foldr_attach]

end Closed

/-! ## Behind an open text -/

/-- The characters that are part of no comment. -/
def Reading.kept (r : Reading) : List Char := (r.marked.filter (·.2 ≠ .comment)).map Prod.fst

theorem kept_read (cs : List Char) :
    (Mode.code.read cs).kept = kept (Alphabet.chars.pieces cs) := by
  have h := read_tokens (tokens_pieces cs)
  rw [Alphabet.pieces_flatten] at h
  rw [h]
  exact filter_marked _

theorem Reading.kept_behind_literal (q : Quote) (cs : List Char) (r : Reading) :
    (r.behind (.literal q) cs).kept = cs ++ r.kept := by
  simp [kept, behind, List.filter_map, Function.comp_def]

/-- A lone backslash at the end of an open literal stays in it, whatever it comes to escape. -/
theorem prefix_kept_read_tail (q : Quote) {tail : List Char} (h : tail = [] ∨ tail = ['\\'])
    (cs : List Char) : tail <+: ((Mode.literal q).read (tail ++ cs)).kept := by
  rcases h with rfl | rfl
  · exact List.nil_prefix
  · cases cs with
    | nil =>
      rw [List.append_nil, Mode.read_tail q (.inr rfl), Reading.kept_behind_literal]
      exact List.prefix_append _ _
    | cons c cs =>
      rw [List.singleton_append, Mode.read_escape, Reading.kept_behind_literal]
      exact ⟨c :: ((Mode.literal q).read cs).kept, rfl⟩

/-- What is kept of an open token is kept if more characters follow. -/
theorem Shaped.prefix_kept_append {p : Piece Char} (hp : Shaped [] p)
    (hopen : p.kind.isTerminated = false) (cs : List Char) :
    kept [p] <+: kept (Alphabet.chars.pieces (p.symbols ++ cs)) := by
  cases hp with
  | code | comment | literal => cases hopen
  | openComment => exact List.nil_prefix
  | @openLiteral q items tail _ hi ht =>
    have hkept : kept [(⟨.literal q false, q.char :: (items ++ tail)⟩ : Piece Char)] =
        [q.char] ++ (items ++ tail) := by
      simp [kept, SegmentKind.isKept]
    rw [hkept, ← kept_read]
    show _ <+: (Mode.code.read (q.char :: (items ++ tail ++ cs))).kept
    rw [Mode.read_mark, Reading.kept_behind_literal, List.append_assoc,
      Mode.read_append_literal hi, Reading.kept_behind_literal, List.prefix_append_right_inj,
      List.prefix_append_right_inj]
    exact prefix_kept_read_tail q ht cs

/-- The last token of a text may be scanned again with what follows, unless it begins with an
    asterisk. -/
theorem toList_strip_append_last {a : String} {ps : List (Piece Char)} {p : Piece Char}
    (ha : pieces a = ps ++ [p]) (hp : p.symbols.head? ≠ some '*') (b : String) :
    (strip (a ++ b)).toList = kept ps ++ kept (Alphabet.chars.pieces (p.symbols ++ b.toList)) := by
  have htokens := tokens_of_text a
  rw [ha] at htokens
  have hne := (shaped_of_pieces ha).ne_nil
  have htext : (a ++ b).toList = ps.flatMap Piece.symbols ++ (p.symbols ++ b.toList) := by
    rw [String.toList_append, toList_of_pieces ha]
    simp
  have hpieces := pieces_append htokens.of_append_left htokens.isTerminated_of_append
    (p.symbols ++ b.toList) fun t _ _ _ hstar =>
      hp (by rwa [List.head?_append_of_ne_nil _ hne] at hstar)
  rw [toList_strip_eq_kept, pieces, htext, hpieces, kept_foldr_attach]

theorem toList_strip_of_pieces {a : String} {ps : List (Piece Char)} {p : Piece Char}
    (ha : pieces a = ps ++ [p]) : (strip a).toList = kept ps ++ kept [p] := by
  rw [toList_strip_eq_kept, ha, kept_append]

/-- Behind an open text everything that was kept is kept. -/
theorem prefix_strip_append_of_not_closed {a : String} (ha : ¬ Closed a) (b : String) :
    (strip a).toList <+: (strip (a ++ b)).toList := by
  obtain ⟨ps, p, hps, hopen⟩ := exists_open_of_not_closed ha
  have hlast := shaped_of_pieces hps
  have hstar : p.symbols.head? ≠ some '*' := by
    cases hlast with
    | code | comment | literal => cases hopen
    | openComment | openLiteral => simp
  rw [toList_strip_of_pieces hps, toList_strip_append_last hps hstar, List.prefix_append_right_inj]
  exact hlast.prefix_kept_append hopen b.toList

/-- Where an opener comes about, the slash in it is all that is lost. -/
theorem prefix_strip_append_of_opensAcross {a b : String} (h : OpensAcross a b) :
    (strip a).toList.getLast? = some '/' ∧
      (strip a).toList.dropLast <+: (strip (a ++ b)).toList := by
  obtain ⟨⟨p, hp, hcode, hslash⟩, -⟩ := opensAcross_iff.1 h
  obtain ⟨ps, hps⟩ := List.getLast?_eq_some_iff.1 hp
  have hsymbols := (shaped_of_pieces hps).symbols_eq_slash hcode hslash
  have hkept : kept [p] = ['/'] := by
    rw [kept_cons_of_isKept (by rw [hcode]; rfl), hsymbols]
    rfl
  rw [toList_strip_of_pieces hps, hkept, toList_strip_append_last hps (by simp [hsymbols]),
    List.getLast?_concat, List.dropLast_concat]
  exact ⟨rfl, List.prefix_append _ _⟩

/-! ## Any two texts -/

/-- Behind a closed text, unless an opener comes about, the stripped texts are laid end to end and
    the counters of comments add up. Behind any text, what was kept of it is kept, up to the slash
    of an opener that comes about. -/
theorem convert_append (a b : String) (options : ConvertOptions) :
    (Closed a → ¬ OpensAcross a b →
        strip (a ++ b) = strip a ++ strip b ∧
        (convert (a ++ b) options).stats.commentsRemoved =
          (convert a options).stats.commentsRemoved +
            (convert b options).stats.commentsRemoved ∧
        (convert (a ++ b) options).stats.commentBytes =
          (convert a options).stats.commentBytes + (convert b options).stats.commentBytes) ∧
      (¬ OpensAcross a b → (strip a).toList <+: (strip (a ++ b)).toList) ∧
      (OpensAcross a b →
        (strip a).toList.getLast? = some '/' ∧
          (strip a).toList.dropLast <+: (strip (a ++ b)).toList) := by
  refine ⟨fun ha hab => ⟨strip_append_of_closed ha hab, ?_, ?_⟩, fun hab => ?_,
    prefix_strip_append_of_opensAcross⟩
  · rw [commentsRemoved_convert, commentsRemoved_convert, commentsRemoved_convert,
      commentPieces_append_of_closed ha hab, List.length_append]
  · rw [commentBytes_convert, commentBytes_convert, commentBytes_convert,
      commentPieces_append_of_closed ha hab, List.map_append, List.sum_append]
  · by_cases ha : Closed a
    · rw [strip_append_of_closed ha hab, String.toList_append]
      exact List.prefix_append _ _
    · exact prefix_strip_append_of_not_closed ha b

/-- A comment that is closed, with an asterisk behind it; a slash of code with one behind it; and a
    literal that ends in a backslash, with a mark behind it. -/
theorem convert_append_seams :
    (Closed "'x'/*/*/" ∧ ¬ OpensAcross "'x'/*/*/" "*/y/*z" ∧
      strip ("'x'/*/*/" ++ "*/y/*z") = "'x'*/y" ∧
      (convert ("'x'/*/*/" ++ "*/y/*z") {}).stats.commentsRemoved = 2 ∧
      (convert ("'x'/*/*/" ++ "*/y/*z") {}).stats.commentBytes = 8) ∧
      (OpensAcross "x/" "*y*/z" ∧
        (strip "x/").toList.dropLast <+: (strip ("x/" ++ "*y*/z")).toList) ∧
      (¬ Closed "x'\\" ∧ ¬ OpensAcross "x'\\" "'/*y*/" ∧
        (strip "x'\\").toList <+: (strip ("x'\\" ++ "'/*y*/")).toList) := by
  have ha : Closed "'x'/*/*/" := by decide +kernel
  have hab : ¬ OpensAcross "'x'/*/*/" "*/y/*z" := by decide +kernel
  have hopens : OpensAcross "x/" "*y*/z" := by decide +kernel
  have hopen : ¬ OpensAcross "x'\\" "'/*y*/" := by decide +kernel
  obtain ⟨hstrip, hremoved, hbytes⟩ := (convert_append "'x'/*/*/" "*/y/*z" {}).1 ha hab
  refine ⟨⟨ha, hab, hstrip.trans ?_, hremoved.trans ?_, hbytes.trans ?_⟩,
    ⟨hopens, ((convert_append "x/" "*y*/z" {}).2.2 hopens).2⟩,
    by decide +kernel, hopen, (convert_append "x'\\" "'/*y*/" {}).2.1 hopen⟩
  · decide +kernel
  · decide +kernel
  · decide +kernel

end Uncomment
