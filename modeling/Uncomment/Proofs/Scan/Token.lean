import Mathlib
import Uncomment.Scan.Layout

/-!
# The grammar of tokens

What a scan finds, said without a scan: a text is a row of tokens, and each token has the shape of
its kind. Three kinds can only end a text: nothing stands behind a comment or a literal that is not
closed. A code token has to stop where its run of ordinary characters stops.

Results:
* `pieces_of_tokens`: in the characters of a row of tokens, the scan finds just these tokens.
* `exists_tokens`: every row of characters is that of some row of tokens.
* `tokens_pieces`: the pieces of a row of characters are tokens, which gives an induction on them.
* `map_segments_eq_iff_tokens`: the kinds and texts of the segments of a text are the only row of
  tokens with that text.
-/

namespace Uncomment

/-! ## Shapes -/

/-- The characters before which a run of code ends. -/
def stops : List Char := ['/', '\x22', '\x27', '\\']

/-- The characters hold no closing delimiter of a comment. -/
def Unclosed (body : List Char) : Prop := ¬ ['*', '/'] <:+: body

/-- What stands between the marks `q` of a literal: escapes of one character each, and characters
    that are neither the mark nor a backslash. -/
inductive Items (q : Quote) : List Char → Prop
  | nil : Items q []
  | escape (c : Char) {items : List Char} : Items q items → Items q ('\\' :: c :: items)
  | plain {c : Char} {items : List Char} : c ≠ q.char → c ≠ '\\' → Items q items →
      Items q (c :: items)

/-- The shape of a token in front of the tokens `after`. Code does not begin with a quote, holds no
    stop behind its first character, runs up to a stop or to the end, and opens no comment; a
    comment ends with the first closing delimiter behind its opener, a literal with the first mark
    that is not escaped. What is not closed is the last token. -/
inductive Shaped (after : List (Piece Char)) : Piece Char → Prop
  | code {c : Char} {run : List Char} : (∀ q : Quote, c ≠ q.char) → (∀ d ∈ run, d ∉ stops) →
      (∀ t ∈ after.head?, ∃ d ∈ t.symbols.head?, d ∈ stops) →
      (c = '/' → (run ++ after.flatMap Piece.symbols).head? ≠ some '*') →
      Shaped after ⟨.code, c :: run⟩
  | comment {body : List Char} : Unclosed body →
      Shaped after ⟨.comment true, '/' :: '*' :: (body ++ ['*', '/'])⟩
  | openComment {body : List Char} : after = [] → Unclosed body →
      Shaped after ⟨.comment false, '/' :: '*' :: body⟩
  | literal {q : Quote} {items : List Char} : Items q items →
      Shaped after ⟨.literal q true, q.char :: (items ++ [q.char])⟩
  | openLiteral {q : Quote} {items tail : List Char} : after = [] → Items q items →
      tail = [] ∨ tail = ['\\'] → Shaped after ⟨.literal q false, q.char :: (items ++ tail)⟩

/-- A row of tokens, each of them of the shape of its kind. -/
inductive Tokens : List (Piece Char) → Prop
  | nil : Tokens []
  | cons {p : Piece Char} {after : List (Piece Char)} : Shaped after p → Tokens after →
      Tokens (p :: after)

/-! ## The five special characters -/

@[simp] theorem Quote.char_ne_slash (q : Quote) : q.char ≠ '/' := by cases q <;> decide

@[simp] theorem Quote.char_ne_star (q : Quote) : q.char ≠ '*' := by cases q <;> decide

@[simp] theorem Quote.char_ne_backslash (q : Quote) : q.char ≠ '\\' := by cases q <;> decide

theorem Quote.char_mem_stops (q : Quote) : q.char ∈ stops := by cases q <;> decide

namespace Alphabet

@[simp] theorem chars_slash : chars.slash = '/' := rfl

@[simp] theorem chars_star : chars.star = '*' := rfl

@[simp] theorem chars_backslash : chars.backslash = '\\' := rfl

@[simp] theorem chars_mark (q : Quote) : chars.mark q = q.char := rfl

theorem chars_isStop_iff {c : Char} : chars.isStop c = true ↔ c ∈ stops := by
  have hd : Quote.double.char = '\x22' := rfl
  have hs : Quote.single.char = '\x27' := rfl
  simp [isStop, stops, hd, hs]

theorem chars_quote?_eq_none {c : Char} (h : ∀ q : Quote, c ≠ q.char) : chars.quote? c = none :=
  chars.quote?_eq_none_iff.2 ⟨h .double, h .single⟩

end Alphabet

/-! ## The first closing delimiter -/

theorem commentClose_cons (c : Char) (rest : List Char) :
    Alphabet.chars.commentClose (c :: rest) =
      if c = '*' ∧ rest.head? = some '/' then some 2
      else (Alphabet.chars.commentClose rest).map (· + 1) := rfl

theorem unclosed_cons {c : Char} {body : List Char} :
    Unclosed (c :: body) ↔ ¬ (c = '*' ∧ body.head? = some '/') ∧ Unclosed body := by
  unfold Unclosed
  rw [List.infix_cons_iff, List.cons_prefix_cons, not_or,
    List.singleton_prefix_iff_head?_eq_some, eq_comm (a := '*')]

/-- A closing delimiter that begins in the body ends in it, unless a slash stands behind the
    body. -/
theorem head?_append_slash {body rest : List Char} (h : rest.head? ≠ some '/') :
    (body ++ rest).head? = some '/' ↔ body.head? = some '/' := by
  cases body with
  | nil => exact iff_of_false h nofun
  | cons d body => rfl

theorem commentClose_of_unclosed {body : List Char} (h : Unclosed body) :
    Alphabet.chars.commentClose body = none := by
  induction body with
  | nil => rfl
  | cons c body ih =>
    obtain ⟨hfirst, hbody⟩ := unclosed_cons.1 h
    rw [commentClose_cons, if_neg hfirst, ih hbody]
    rfl

theorem commentClose_of_closed {body : List Char} (h : Unclosed body) (rest : List Char) :
    Alphabet.chars.commentClose (body ++ '*' :: '/' :: rest) = some (body.length + 2) := by
  induction body with
  | nil => rfl
  | cons c body ih =>
    obtain ⟨hfirst, hbody⟩ := unclosed_cons.1 h
    have hstar : ('*' :: '/' :: rest).head? ≠ some '/' := by simp
    rw [← head?_append_slash hstar] at hfirst
    rw [List.cons_append, commentClose_cons, if_neg hfirst, ih hbody]
    rfl

theorem unclosed_or_closed (cs : List Char) :
    Unclosed cs ∨ ∃ body rest, Unclosed body ∧ cs = body ++ '*' :: '/' :: rest := by
  induction cs with
  | nil => exact .inl (by simp [Unclosed])
  | cons c cs ih =>
    by_cases hfirst : c = '*' ∧ cs.head? = some '/'
    · obtain ⟨rfl, hhead⟩ := hfirst
      obtain ⟨rest, rfl⟩ := List.head?_eq_some_iff.1 hhead
      exact .inr ⟨[], rest, by simp [Unclosed], rfl⟩
    · rcases ih with h | ⟨body, rest, h, rfl⟩
      · exact .inl (unclosed_cons.2 ⟨hfirst, h⟩)
      · rw [head?_append_slash (by simp)] at hfirst
        exact .inr ⟨c :: body, rest, unclosed_cons.2 ⟨hfirst, h⟩, rfl⟩

/-! ## The first mark that is not escaped -/

theorem literalClose_mark (q : Quote) (rest : List Char) :
    Alphabet.chars.literalClose q.char 0 (q.char :: rest) = some 1 := by
  rw [Alphabet.literalClose, if_pos rfl]

theorem literalClose_escape (q : Quote) (c : Char) (rest : List Char) :
    Alphabet.chars.literalClose q.char 0 ('\\' :: c :: rest) =
      (Alphabet.chars.literalClose q.char 0 rest).map (· + 2) := by
  have hskip : (c :: rest).head?.elim 0 Alphabet.chars.width = 1 := rfl
  rw [Alphabet.literalClose, if_neg q.char_ne_backslash.symm, Alphabet.chars_backslash,
    if_pos rfl, hskip, Alphabet.literalClose, Option.map_map]
  rfl

theorem literalClose_plain {q : Quote} {c : Char} (hq : c ≠ q.char) (hb : c ≠ '\\')
    (rest : List Char) :
    Alphabet.chars.literalClose q.char 0 (c :: rest) =
      (Alphabet.chars.literalClose q.char 0 rest).map (· + 1) := by
  rw [Alphabet.literalClose, if_neg hq, Alphabet.chars_backslash, if_neg hb]

theorem literalClose_items {q : Quote} {items : List Char} (h : Items q items)
    (rest : List Char) :
    Alphabet.chars.literalClose q.char 0 (items ++ rest) =
      (Alphabet.chars.literalClose q.char 0 rest).map (· + items.length) := by
  induction h with
  | nil => simp
  | escape c _ ih =>
    rw [List.cons_append, List.cons_append, literalClose_escape, ih, Option.map_map]
    rfl
  | plain hq hb _ ih =>
    rw [List.cons_append, literalClose_plain hq hb, ih, Option.map_map]
    rfl

theorem literalClose_tail (q : Quote) {tail : List Char} (h : tail = [] ∨ tail = ['\\']) :
    Alphabet.chars.literalClose q.char 0 tail = none := by
  rcases h with rfl | rfl
  · rfl
  · rw [Alphabet.literalClose, if_neg q.char_ne_backslash.symm, Alphabet.chars_backslash,
      if_pos rfl]
    rfl

theorem open_or_closed_items (q : Quote) (cs : List Char) :
    (∃ items tail, Items q items ∧ (tail = [] ∨ tail = ['\\']) ∧ cs = items ++ tail) ∨
      ∃ items rest, Items q items ∧ cs = items ++ q.char :: rest := by
  match cs with
  | [] => exact .inl ⟨[], [], .nil, .inl rfl, rfl⟩
  | c :: cs =>
    by_cases hq : c = q.char
    · exact .inr ⟨[], cs, .nil, by rw [hq]; rfl⟩
    · by_cases hb : c = '\\'
      · subst hb
        match cs with
        | [] => exact .inl ⟨[], ['\\'], .nil, .inr rfl, rfl⟩
        | c :: cs =>
          rcases open_or_closed_items q cs with ⟨items, tail, hi, ht, rfl⟩ | ⟨items, rest, hi, rfl⟩
          · exact .inl ⟨'\\' :: c :: items, tail, hi.escape c, ht, rfl⟩
          · exact .inr ⟨'\\' :: c :: items, rest, hi.escape c, rfl⟩
      · rcases open_or_closed_items q cs with ⟨items, tail, hi, ht, rfl⟩ | ⟨items, rest, hi, rfl⟩
        · exact .inl ⟨c :: items, tail, hi.plain hq hb, ht, rfl⟩
        · exact .inr ⟨c :: items, rest, hi.plain hq hb, rfl⟩

/-! ## The first stop -/

theorem findIdx_isStop {run rest : List Char} (hrun : ∀ d ∈ run, d ∉ stops)
    (hrest : ∀ d ∈ rest.head?, d ∈ stops) :
    (run ++ rest).findIdx Alphabet.chars.isStop = run.length := by
  induction run with
  | nil =>
    cases rest with
    | nil => rfl
    | cons d rest =>
      have hd := Alphabet.chars_isStop_iff.2 (hrest d rfl)
      rw [List.nil_append, List.findIdx_cons, hd]
      rfl
  | cons c run ih =>
    have hc : Alphabet.chars.isStop c = false := by
      rw [Bool.eq_false_iff, ne_eq, Alphabet.chars_isStop_iff]
      exact hrun c List.mem_cons_self
    rw [List.cons_append, List.findIdx_cons, hc, ih fun d hd => hrun d (List.mem_cons_of_mem _ hd)]
    rfl

/-! ## The token in front -/

theorem front_comment (rest : List Char) :
    Alphabet.chars.front '/' ('*' :: rest) =
      (.comment (Alphabet.chars.commentClose rest).isSome,
        2 + (Alphabet.chars.commentClose rest).getD rest.length) := by
  rw [Alphabet.front, if_pos ⟨rfl, rfl⟩, List.tail_cons]

theorem front_literal (q : Quote) (rest : List Char) :
    Alphabet.chars.front q.char rest =
      (.literal q (Alphabet.chars.literalClose q.char 0 rest).isSome,
        1 + (Alphabet.chars.literalClose q.char 0 rest).getD rest.length) := by
  have hq : Alphabet.chars.quote? q.char = some q :=
    (Alphabet.chars.quote?_eq_some_iff Alphabet.chars_distinct).2 rfl
  rw [Alphabet.front, if_neg fun h => q.char_ne_slash h.1, hq]
  rfl

theorem front_code {c : Char} {run rest : List Char} (hq : ∀ q : Quote, c ≠ q.char)
    (hrun : ∀ d ∈ run, d ∉ stops) (hrest : ∀ d ∈ rest.head?, d ∈ stops)
    (hslash : c = '/' → (run ++ rest).head? ≠ some '*') :
    Alphabet.chars.front c (run ++ rest) = (.code, run.length + 1) := by
  rw [Alphabet.front, if_neg fun h => hslash h.1 h.2, Alphabet.chars_quote?_eq_none hq,
    Alphabet.codeLength, findIdx_isStop hrun hrest, Nat.add_comm]

/-- Only the first character of a code token can be a slash. -/
theorem Shaped.symbols_eq_slash {p : Piece Char} {after : List (Piece Char)} (h : Shaped after p)
    (hcode : p.kind = .code) (hlast : p.symbols.getLast? = some '/') : p.symbols = ['/'] := by
  cases h with
  | @code c run _ hrun =>
    cases run with
    | nil => rw [List.getLast?_singleton] at hlast; rw [Option.some.inj hlast]
    | cons d run =>
      rw [List.getLast?_cons_cons] at hlast
      exact absurd (by decide) (hrun '/' (List.mem_of_getLast? hlast))
  | comment | openComment | literal | openLiteral => cases hcode

theorem Shaped.ne_nil {p : Piece Char} {after : List (Piece Char)} (h : Shaped after p) :
    p.symbols ≠ [] := by
  cases h <;> exact List.cons_ne_nil _ _

theorem Tokens.symbols_ne_nil {ps : List (Piece Char)} (h : Tokens ps) {p : Piece Char}
    (hp : p ∈ ps) : p.symbols ≠ [] := by
  induction h with
  | nil => cases hp
  | cons ht _ ih =>
    rcases List.mem_cons.1 hp with rfl | hp
    · exact ht.ne_nil
    · exact ih hp

/-- The character behind a token is the first one of the next token. -/
theorem Tokens.head?_flatMap {t : Piece Char} {after : List (Piece Char)}
    (h : Tokens (t :: after)) :
    ((t :: after).flatMap Piece.symbols).head? = t.symbols.head? := by
  cases h with
  | cons ht _ =>
    obtain ⟨c, w, hw⟩ := List.exists_cons_of_ne_nil ht.ne_nil
    rw [List.flatMap_cons, hw]
    rfl

theorem Tokens.head?_mem_stops_iff {after : List (Piece Char)} (h : Tokens after) :
    (∀ d ∈ (after.flatMap Piece.symbols).head?, d ∈ stops) ↔
      ∀ t ∈ after.head?, ∃ d ∈ t.symbols.head?, d ∈ stops := by
  cases after with
  | nil => simp
  | cons t after =>
    have ht : t.symbols ≠ [] := by
      cases h with
      | cons ht _ => exact ht.ne_nil
    obtain ⟨c, w, hw⟩ := List.exists_cons_of_ne_nil ht
    rw [h.head?_flatMap]
    simp [hw]

/-- The scan cuts off what `front` tells it to. -/
theorem pieces_of_front {p : Piece Char} {c : Char} {w rest : List Char} (hp : p.symbols = c :: w)
    (h : Alphabet.chars.front c (w ++ rest) = (p.kind, w.length + 1)) :
    Alphabet.chars.pieces (p.symbols ++ rest) = p :: Alphabet.chars.pieces rest := by
  have hlen : w.length + 1 = (c :: w).length := rfl
  rw [hp, List.cons_append, Alphabet.pieces, h, hlen, ← List.cons_append, List.take_left,
    List.drop_left, ← hp]

theorem pieces_of_shaped {p : Piece Char} {after : List (Piece Char)} (hp : Shaped after p)
    (hafter : Tokens after) :
    Alphabet.chars.pieces (p.symbols ++ after.flatMap Piece.symbols) =
      p :: Alphabet.chars.pieces (after.flatMap Piece.symbols) := by
  cases hp with
  | code hq hrun hnext hslash =>
    have hstop := hafter.head?_mem_stops_iff.2 hnext
    exact pieces_of_front rfl (front_code hq hrun hstop hslash)
  | @comment body hb =>
    refine pieces_of_front rfl ?_
    rw [List.cons_append, List.append_assoc, front_comment]
    simp only [List.cons_append, List.nil_append, commentClose_of_closed hb, Option.isSome_some,
      Option.getD_some, List.length_cons, List.length_append, List.length_nil]
    congr 1
    omega
  | openComment hnil hb =>
    subst hnil
    refine pieces_of_front rfl ?_
    rw [List.flatMap_nil, List.append_nil, front_comment, commentClose_of_unclosed hb,
      Option.getD_none, List.length_cons, Nat.add_comm]
    rfl
  | @literal q items hi =>
    refine pieces_of_front rfl ?_
    rw [List.append_assoc, List.singleton_append, front_literal, literalClose_items hi,
      literalClose_mark]
    simp only [Option.map_some, Option.isSome_some, Option.getD_some, List.length_append,
      List.length_singleton]
    congr 1
    omega
  | @openLiteral q items tail hnil hi ht =>
    subst hnil
    refine pieces_of_front rfl ?_
    rw [List.flatMap_nil, List.append_nil, front_literal, literalClose_items hi,
      literalClose_tail q ht, Option.map_none, Option.getD_none, Nat.add_comm]
    rfl

/-! ## Tokens and pieces -/

theorem pieces_of_tokens {ps : List (Piece Char)} (h : Tokens ps) :
    Alphabet.chars.pieces (ps.flatMap Piece.symbols) = ps := by
  induction h with
  | nil => rw [List.flatMap_nil, Alphabet.pieces]
  | cons hp hafter ih => rw [List.flatMap_cons, pieces_of_shaped hp hafter, ih]

theorem Tokens.eq_nil_of_flatMap {ps : List (Piece Char)} (h : Tokens ps)
    (hnil : ps.flatMap Piece.symbols = []) : ps = [] := by
  cases h with
  | nil => rfl
  | cons hp _ =>
    rw [List.flatMap_cons, List.append_eq_nil_iff] at hnil
    exact absurd hnil.1 hp.ne_nil

/-- Cuts one token off a row of characters, whatever the tokens behind it will be. -/
theorem exists_shaped (c : Char) (cs : List Char) :
    ∃ k w rest, c :: cs = c :: w ++ rest ∧
      ∀ after, Tokens after → after.flatMap Piece.symbols = rest → Shaped after ⟨k, c :: w⟩ := by
  by_cases hopen : c = '/' ∧ cs.head? = some '*'
  · obtain ⟨rfl, hhead⟩ := hopen
    obtain ⟨cs, rfl⟩ := List.head?_eq_some_iff.1 hhead
    rcases unclosed_or_closed cs with h | ⟨body, rest, h, rfl⟩
    · exact ⟨.comment false, '*' :: cs, [], by simp, fun _ hafter hnil =>
        .openComment (hafter.eq_nil_of_flatMap hnil) h⟩
    · exact ⟨.comment true, '*' :: (body ++ ['*', '/']), rest, by simp, fun _ _ _ => .comment h⟩
  · by_cases hq : ∃ q : Quote, c = q.char
    · obtain ⟨q, rfl⟩ := hq
      rcases open_or_closed_items q cs with ⟨items, tail, hi, ht, rfl⟩ | ⟨items, rest, hi, rfl⟩
      · exact ⟨.literal q false, items ++ tail, [], by simp, fun _ hafter hnil =>
          .openLiteral (hafter.eq_nil_of_flatMap hnil) hi ht⟩
      · exact ⟨.literal q true, items ++ [q.char], rest, by simp, fun _ _ _ => .literal hi⟩
    · refine ⟨.code, cs.takeWhile (· ∉ stops), cs.dropWhile (· ∉ stops), by simp,
        fun after hafter hrest => .code (not_exists.1 hq) ?_ ?_ ?_⟩
      · intro d hd
        have := List.all_eq_true.1 (List.all_takeWhile (p := (· ∉ stops)) (l := cs)) d hd
        simpa using this
      · rw [← hafter.head?_mem_stops_iff, hrest]
        intro d hd
        have := List.head?_dropWhile_not (· ∉ stops) cs
        rw [hd] at this
        simpa using this
      · rintro rfl
        rw [hrest, List.takeWhile_append_dropWhile]
        exact fun h => hopen ⟨rfl, h⟩

theorem exists_tokens (cs : List Char) :
    ∃ ps, Tokens ps ∧ ps.flatMap Piece.symbols = cs := by
  match cs with
  | [] => exact ⟨[], .nil, rfl⟩
  | c :: cs =>
    obtain ⟨k, w, rest, hcs, hshaped⟩ := exists_shaped c cs
    have hlen : rest.length < (c :: cs).length := by
      rw [hcs, List.length_append, List.length_cons]
      omega
    obtain ⟨after, hafter, hrest⟩ := exists_tokens rest
    refine ⟨⟨k, c :: w⟩ :: after, .cons (hshaped after hafter hrest) hafter, ?_⟩
    rw [List.flatMap_cons, hrest, hcs]
termination_by cs.length
decreasing_by exact hlen

theorem tokens_pieces (cs : List Char) : Tokens (Alphabet.chars.pieces cs) := by
  obtain ⟨ps, hps, rfl⟩ := exists_tokens cs
  rw [pieces_of_tokens hps]
  exact hps

/-! ## Segments -/

theorem tokens_of_text (text : String) : Tokens (pieces text) := tokens_pieces text.toList

theorem flatMap_pieces (text : String) : (pieces text).flatMap Piece.symbols = text.toList :=
  Alphabet.chars.pieces_flatten text.toList

theorem toList_join_map_text (ps : List (Piece Char)) :
    (String.join (ps.map Piece.text)).toList = ps.flatMap Piece.symbols := by
  have hsymbols (p : Piece Char) : p.text.toList = p.symbols := String.toList_ofList
  rw [String.toList_join, List.flatMap_map]
  simp only [hsymbols]

/-- The kinds and texts of the segments of a text are a row of tokens with that text, and no other
    row is one. -/
theorem map_segments_eq_iff_tokens (text : String) (tokens : List (SegmentKind × String)) :
    (segments text).map (fun s => (s.kind, s.text text)) = tokens ↔
      String.join (tokens.map Prod.snd) = text ∧
        Tokens (tokens.map fun t => ⟨t.1, t.2.toList⟩) := by
  rw [map_text_segments]
  constructor
  · rintro rfl
    have hself : (pieces text).map (fun p => (⟨p.kind, p.text.toList⟩ : Piece Char)) =
        pieces text := by
      simp [Piece.text]
    refine ⟨?_, ?_⟩
    · rw [← String.toList_inj, String.toList_join]
      simp only [List.map_map, List.flatMap_map, Function.comp_apply, Piece.text,
        String.toList_ofList]
      exact Alphabet.chars.pieces_flatten text.toList
    · rw [List.map_map]
      simp only [Function.comp_def]
      rw [hself]
      exact tokens_pieces text.toList
  · rintro ⟨htext, htokens⟩
    have hpieces := pieces_of_tokens htokens
    rw [List.flatMap_map] at hpieces
    have hlist : text.toList = tokens.flatMap fun t => t.2.toList := by
      rw [← htext, String.toList_join, List.flatMap_map]
    rw [pieces, hlist, hpieces, List.map_map]
    simp [Function.comp_def, Piece.text]

end Uncomment
