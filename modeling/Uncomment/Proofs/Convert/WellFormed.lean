import Uncomment.Proofs.Convert.Concatenation
import Uncomment.Proofs.Strip.Literals

/-!
# Well-formed texts

A text that is put together of code, closed literals and closed comments, in any order. The pieces
are not the segments: pieces of code that meet are one run to the scan, and a slash or a backslash
begins a new one. But stripping the text drops the comments that were put in, and nothing else, and
the counters count them.

Code does not end in a slash, so no opener comes about where pieces meet, neither as they stand nor
when the comments between them are dropped. That it does not begin with an asterisk either is not
made use of.

Results:
* `WellFormed.pieces_eq`: what the scan finds in one piece on its own.
* `scan_wellFormed`: what the scan of the whole finds, for everything that adds up over pieces.
* `convert_wellFormed`: stripping and counting of texts that are put together of such pieces.
-/

namespace Uncomment

/-! ## Pieces to put a text together of -/

/-- Code without quotes and without openers of comments, that does not begin with an asterisk nor
    end in a slash; closed literals; closed comments. -/
inductive WellFormed : Piece Char → Prop
  | code {cs : List Char} : cs ≠ [] → (∀ q : Quote, q.char ∉ cs) → ¬ ['/', '*'] <:+: cs →
      cs.head? ≠ some '*' → cs.getLast? ≠ some '/' → WellFormed ⟨.code, cs⟩
  | literal {q : Quote} {items : List Char} : Items q items →
      WellFormed ⟨.literal q true, q.char :: (items ++ [q.char])⟩
  | comment {body : List Char} : Unclosed body →
      WellFormed ⟨.comment true, '/' :: '*' :: (body ++ ['*', '/'])⟩

/-- The text that pieces make up. -/
def textOf (ps : List (Piece Char)) : String := String.join (ps.map Piece.text)

theorem toList_textOf (ps : List (Piece Char)) : (textOf ps).toList = ps.flatMap Piece.symbols :=
  toList_join_map_text ps

/-! ## One piece -/

/-- Without quotes and openers there is only code. -/
theorem Tokens.kind_eq_code {ps : List (Piece Char)} (h : Tokens ps)
    (hquote : ∀ q : Quote, q.char ∉ ps.flatMap Piece.symbols)
    (hopen : ¬ ['/', '*'] <:+: ps.flatMap Piece.symbols) : ∀ p ∈ ps, p.kind = .code := by
  induction h with
  | nil => simp
  | @cons p after hp _ ih =>
    rw [List.flatMap_cons] at hquote hopen
    have hbehind : ∀ t ∈ after, t.kind = .code := by
      refine ih (fun q hq => hquote q (List.mem_append_right _ hq)) fun hpart => hopen ?_
      exact hpart.trans (List.suffix_append _ _).isInfix
    have hmark : ∀ (q : Quote) (w : List Char), p.symbols ≠ q.char :: w := by
      intro q w hw
      refine hquote q (List.mem_append_left _ ?_)
      rw [hw]
      exact List.mem_cons_self
    have hopener : ∀ body : List Char, p.symbols ≠ '/' :: '*' :: body := by
      intro body hbody
      refine hopen ((List.prefix_append_of_prefix ?_).isInfix)
      rw [hbody]
      exact ⟨body, rfl⟩
    rw [List.forall_mem_cons]
    refine ⟨?_, hbehind⟩
    cases hp with
    | code => rfl
    | comment | openComment => exact absurd rfl (hopener _)
    | literal | openLiteral => exact absurd rfl (hmark _ _)

/-- Code on its own is scanned as code, whatever runs it falls into; a literal or a comment on its
    own is one token. -/
theorem WellFormed.pieces_eq {p : Piece Char} (h : WellFormed p) :
    ((∀ t ∈ Alphabet.chars.pieces p.symbols, t.kind = .code) ∧ p.kind = .code ∧
        p.symbols.getLast? ≠ some '/') ∨
      (Alphabet.chars.pieces p.symbols = [p] ∧ p.kind ≠ .code ∧ p.kind.isTerminated = true) := by
  have hone (hp : Shaped [] p) : Alphabet.chars.pieces p.symbols = [p] := by
    have hpieces := pieces_of_tokens (.cons hp .nil)
    rwa [List.flatMap_singleton] at hpieces
  cases h with
  | @code cs _ hquote hopen _ hlast =>
    refine .inl ⟨?_, rfl, hlast⟩
    have hflat := Alphabet.chars.pieces_flatten cs
    exact (tokens_pieces cs).kind_eq_code (by rwa [hflat]) (by rwa [hflat])
  | literal hi => exact .inr ⟨hone (.literal hi), by simp, rfl⟩
  | comment hb => exact .inr ⟨hone (.comment hb), by simp, rfl⟩

/-- A piece in front of anything is scanned as on its own, up to code that goes on behind it. -/
theorem WellFormed.pieces_symbols_append {p : Piece Char} (h : WellFormed p) (cs : List Char) :
    Alphabet.chars.pieces (p.symbols ++ cs) =
      (Alphabet.chars.pieces p.symbols).foldr Piece.attach (Alphabet.chars.pieces cs) := by
  have hflat := Alphabet.chars.pieces_flatten p.symbols
  have hterm : ∀ t ∈ Alphabet.chars.pieces p.symbols, t.kind.isTerminated = true := by
    intro t ht
    rcases h.pieces_eq with ⟨hcode, -⟩ | ⟨hone, -, hterm⟩
    · rw [hcode t ht]
      rfl
    · rw [hone] at ht
      rwa [List.mem_singleton.1 ht]
  have hslash : ∀ t ∈ (Alphabet.chars.pieces p.symbols).getLast?, t.kind = .code →
      t.symbols.getLast? ≠ some '/' := by
    intro t ht hkind hlast
    rcases h.pieces_eq with ⟨-, -, hnot⟩ | ⟨hone, hother, -⟩
    · -- the last character of the last run is that of the piece
      obtain ⟨ts, hts⟩ := List.getLast?_eq_some_iff.1 ht
      rw [hts, List.flatMap_append, List.flatMap_singleton] at hflat
      rw [← hflat, List.getLast?_append, hlast] at hnot
      exact hnot rfl
    · rw [hone] at ht
      obtain rfl := Option.some.inj ht
      exact hother hkind
  have happend := pieces_append (tokens_pieces p.symbols) hterm cs
    fun t ht hkind hlast => absurd hlast (hslash t ht hkind)
  rwa [hflat] at happend

/-- The characters of some kinds are the same in a piece and in what the scan finds in it. -/
theorem WellFormed.flatMap_filter_pieces {p : Piece Char} (h : WellFormed p)
    (wanted : SegmentKind → Bool) :
    ((Alphabet.chars.pieces p.symbols).filter (wanted ·.kind)).flatMap Piece.symbols =
      ([p].filter (wanted ·.kind)).flatMap Piece.symbols := by
  rcases h.pieces_eq with ⟨hcode, hkind, -⟩ | ⟨hone, -⟩
  · cases hw : wanted .code with
    | true =>
      rw [List.filter_eq_self.2 fun t ht => by rw [hcode t ht, hw], Alphabet.pieces_flatten]
      simp [hkind, hw]
    | false =>
      rw [List.filter_eq_nil_iff.2 fun t ht => by rw [hcode t ht, hw]; exact Bool.false_ne_true]
      simp [hkind, hw]
  · rw [hone]

theorem WellFormed.commentPieces_pieces {p : Piece Char} (h : WellFormed p) :
    commentPieces (Alphabet.chars.pieces p.symbols) = commentPieces [p] := by
  rcases h.pieces_eq with ⟨hcode, hkind, -⟩ | ⟨hone, -⟩
  · have hnone : commentPieces [p] = [] := by simp [commentPieces, hkind, SegmentKind.isKept]
    rw [hnone]
    refine List.filter_eq_nil_iff.2 fun t ht => ?_
    simp [hcode t ht, SegmentKind.isKept]
  · rw [hone]

/-! ## Pieces in a row -/

section Row

variable {ps : List (Piece Char)} (h : ∀ p ∈ ps, WellFormed p)
include h

/-- What adds up over tokens, does not tell a run of code from its two halves and is right for each
    piece is right for the text that is put together of them. -/
theorem scan_wellFormed {β : Type} {f : List (Piece Char) → List β}
    (happend : ∀ ps qs, f (ps ++ qs) = f ps ++ f qs)
    (hattach : ∀ p after, f (p.attach after) = f [p] ++ f after)
    (hpiece : ∀ p, WellFormed p → f (Alphabet.chars.pieces p.symbols) = f [p]) :
    f (pieces (textOf ps)) = f ps := by
  rw [pieces, toList_textOf]
  induction ps with
  | nil => exact congrArg f (pieces_of_tokens .nil)
  | cons p ps ih =>
    rw [List.forall_mem_cons] at h
    rw [List.flatMap_cons, h.1.pieces_symbols_append, Piece.foldr_attach happend hattach,
      hpiece p h.1, ih h.2, ← happend, List.singleton_append]

theorem strip_textOf : strip (textOf ps) = textOf (ps.filter (·.kind.isKept)) := by
  have hkept : kept (pieces (textOf ps)) = kept ps :=
    scan_wellFormed h kept_append kept_attach fun _ hp => hp.flatMap_filter_pieces (·.isKept)
  rw [← String.toList_inj, toList_strip_eq_kept, hkept, toList_textOf]
  rfl

theorem commentPieces_textOf : commentPieces (pieces (textOf ps)) = commentPieces ps :=
  scan_wellFormed h (fun _ _ => List.filter_append _ _) commentPieces_attach
    fun _ hp => hp.commentPieces_pieces

theorem codeOf_textOf : codeOf (pieces (textOf ps)) = codeOf ps :=
  scan_wellFormed h codeOf_append codeOf_attach fun _ hp => hp.flatMap_filter_pieces (· = .code)

theorem wellFormed_filter_isKept : ∀ p ∈ ps.filter (·.kind.isKept), WellFormed p :=
  fun p hp => h p (List.mem_of_mem_filter hp)

theorem strip_strip_textOf : strip (strip (textOf ps)) = strip (textOf ps) := by
  rw [strip_textOf h, strip_textOf (wellFormed_filter_isKept h), List.filter_filter]
  simp

end Row

/-! ## No opener is left -/

/-- Two characters that stand together in neither of two rows do not come together where the rows
    are laid end to end, unless the first row ends in the first of the two. -/
theorem not_infix_append {c d : Char} {front behind : List Char} (hfront : ¬ [c, d] <:+: front)
    (hbehind : ¬ [c, d] <:+: behind) (hlast : front.getLast? ≠ some c) :
    ¬ [c, d] <:+: front ++ behind := by
  rw [List.infix_append_iff]
  rintro (hpart | hpart | ⟨l, r, hpair, hl, hr⟩)
  · exact hfront hpart
  · exact hbehind hpart
  · -- one of the two rows holds the whole pair, or the first row ends in its first character
    match l, hpair, hl with
    | [], hpair, _ =>
      rw [List.nil_append] at hpair
      exact hbehind (hpair ▸ hr.isInfix)
    | [_], hpair, ⟨before, hbefore⟩ =>
      obtain ⟨rfl, -⟩ := List.cons.inj hpair
      rw [← hbefore, List.getLast?_concat] at hlast
      exact hlast rfl
    | [_, _], hpair, hl =>
      rw [List.cons_append, List.cons_append, List.cons.injEq, List.cons.injEq] at hpair
      obtain ⟨rfl, rfl, -⟩ := hpair
      exact hfront hl.isInfix

/-- No piece of code holds an opener, and none comes about where two of them meet. -/
theorem not_infix_codeOf {ps : List (Piece Char)} (h : ∀ p ∈ ps, WellFormed p) :
    ¬ ['/', '*'] <:+: codeOf ps := by
  induction ps with
  | nil => simp [codeOf]
  | cons p ps ih =>
    rw [List.forall_mem_cons] at h
    have hcode : ¬ ['/', '*'] <:+: codeOf [p] ∧ (codeOf [p]).getLast? ≠ some '/' := by
      cases h.1 with
      | code _ _ hopen _ hlast => simpa [codeOf] using ⟨hopen, hlast⟩
      | literal | comment => simp [codeOf]
    have hcons : codeOf (p :: ps) = codeOf [p] ++ codeOf ps := codeOf_append [p] ps
    rw [hcons]
    exact not_infix_append hcode.1 (ih h.2) hcode.2

/-! ## Conversion -/

/-- Of a text that is put together of well-formed pieces, stripping leaves the pieces that are not
    comments, a second stripping changes nothing, the counters tell number and length of the
    comments, and the code that is left holds no opener. -/
theorem convert_wellFormed {ps : List (Piece Char)} (h : ∀ p ∈ ps, WellFormed p)
    (options : ConvertOptions) :
    strip (textOf ps) = textOf (ps.filter (·.kind.isKept)) ∧
      (convert (textOf ps) options).stats.commentsRemoved = (commentPieces ps).length ∧
      (convert (textOf ps) options).stats.commentBytes =
        ((commentPieces ps).map (·.text.utf8ByteSize)).sum ∧
      strip (strip (textOf ps)) = strip (textOf ps) ∧
      ¬ ['/', '*'] <:+:
        codeOf ((segments (strip (textOf ps))).map (·.piece (strip (textOf ps)))) := by
  refine ⟨strip_textOf h, ?_, ?_, strip_strip_textOf h, ?_⟩
  · rw [commentsRemoved_convert, commentPieces_textOf h]
  · rw [commentBytes_convert, commentPieces_textOf h]
  · rw [map_piece_segments, strip_textOf h, codeOf_textOf (wellFormed_filter_isKept h)]
    exact not_infix_codeOf (wellFormed_filter_isKept h)

/-- Backslashes and slashes in front of marks, delimiters of comments in literals, and marks in
    comments. -/
theorem convert_wellFormed_neighbours :
    ∃ ps : List (Piece Char), (∀ p ∈ ps, WellFormed p) ∧
      textOf ps = "x/é\\'/*\\''/*\"**/\\/*'/**/\"*/\\\"\"/ y" ∧
      strip (textOf ps) = "x/é\\'/*\\''\\\"*/\\\"\"/ y" ∧
      (convert (textOf ps) {}).stats.commentsRemoved = 2 ∧
      (convert (textOf ps) {}).stats.commentBytes = 13 ∧
      strip (strip (textOf ps)) = strip (textOf ps) ∧
      ¬ ['/', '*'] <:+:
        codeOf ((segments (strip (textOf ps))).map (·.piece (strip (textOf ps)))) := by
  have hsingle : Items .single ['/', '*', '\\', '\x27'] :=
    .plain (by decide) (by decide) (.plain (by decide) (by decide) (.escape '\x27' .nil))
  have hdouble : Items .double ['*', '/', '\\', '\x22'] :=
    .plain (by decide) (by decide) (.plain (by decide) (by decide) (.escape '\x22' .nil))
  have hps : ∀ p ∈ ([⟨.code, ['x', '/', 'é', '\\']⟩,
      ⟨.literal .single true, '\x27' :: (['/', '*', '\\', '\x27'] ++ ['\x27'])⟩,
      ⟨.comment true, '/' :: '*' :: (['\x22', '*'] ++ ['*', '/'])⟩,
      ⟨.code, ['\\']⟩,
      ⟨.comment true, '/' :: '*' :: (['\x27', '/', '*'] ++ ['*', '/'])⟩,
      ⟨.literal .double true, '\x22' :: (['*', '/', '\\', '\x22'] ++ ['\x22'])⟩,
      ⟨.code, ['/', ' ', 'y']⟩] : List (Piece Char)), WellFormed p := by
    simp only [List.forall_mem_cons]
    refine ⟨?_, .literal hsingle, ?_, ?_, ?_, .literal hdouble, ?_, List.forall_mem_nil _⟩
    · exact .code (by decide) (by rintro ⟨⟩ <;> decide) (by decide) (by decide) (by decide)
    · exact .comment (by unfold Unclosed; decide)
    · exact .code (by decide) (by rintro ⟨⟩ <;> decide) (by decide) (by decide) (by decide)
    · exact .comment (by unfold Unclosed; decide)
    · exact .code (by decide) (by rintro ⟨⟩ <;> decide) (by decide) (by decide) (by decide)
  obtain ⟨hstrip, hremoved, hbytes, hagain, hopen⟩ := convert_wellFormed hps {}
  refine ⟨_, hps, ?_, hstrip.trans ?_, hremoved.trans ?_, hbytes.trans ?_, hagain, hopen⟩
  · decide +kernel
  · decide +kernel
  · decide +kernel
  · decide +kernel

end Uncomment
