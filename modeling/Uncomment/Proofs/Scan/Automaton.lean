import Uncomment.Proofs.Scan.Place
import Uncomment.Proofs.Scan.Token
import Uncomment.Strip

/-!
# The automaton of three states

Comments and literals can also be told from code by an automaton that reads the characters of a
text from left to right, one or two at a time. It knows nothing of bytes, and it searches for
nothing: it only knows whether it is in code, in a comment or in a literal.

Results:
* `Mode.read_append_code`, `Mode.read_append_comment`, `Mode.read_append_literal`: what the
  automaton makes of the inside of a token.
* `read_tokens`: what it makes of a row of tokens.
* `read_pieces`: the same for the pieces that the scan finds.
* `scan_eq_read`: automaton and scan agree on every character, on the text without comments, on the
  number of comments and on what is open at the end.
-/

namespace Uncomment

open Text

/-! ## The automaton -/

/-- A state of the automaton, and what a character is part of. -/
inductive Mode where
  | code
  | comment
  | literal (quote : Quote)
deriving DecidableEq, Repr

/-- What the automaton has read. -/
structure Reading where
  /-- The characters, each with what it is part of. -/
  marked : List (Char × Mode)
  /-- How many comments were entered. -/
  entered : Nat
  /-- The state in the end. -/
  final : Mode
deriving DecidableEq, Repr

namespace Reading

/-- The reading with characters in front that are part of `m`. -/
def behind (m : Mode) (cs : List Char) (r : Reading) : Reading :=
  { r with marked := cs.map (·, m) ++ r.marked }

/-- The reading with one more comment entered. -/
def entering (r : Reading) : Reading := { r with entered := r.entered + 1 }

end Reading

/-- Reads characters, starting in some state. In code, the pair `/*` enters a comment and a quote
    enters a literal; in a comment, the pair `*/` leaves it; in a literal, a backslash takes the
    character behind it along, and the quote that opened it leaves it. -/
@[simp] def Mode.read : Mode → List Char → Reading
  | m, [] => ⟨[], 0, m⟩
  | code, '/' :: '*' :: rest => ((comment.read rest).behind comment ['/', '*']).entering
  | code, '\x22' :: rest => ((literal .double).read rest).behind (literal .double) ['\x22']
  | code, '\x27' :: rest => ((literal .single).read rest).behind (literal .single) ['\x27']
  | code, c :: rest => (code.read rest).behind code [c]
  | comment, '*' :: '/' :: rest => (code.read rest).behind comment ['*', '/']
  | comment, c :: rest => (comment.read rest).behind comment [c]
  | literal q, '\\' :: c :: rest => ((literal q).read rest).behind (literal q) ['\\', c]
  | literal q, c :: rest =>
    ((if c = q.char then code else literal q).read rest).behind (literal q) [c]

/-! ## Moves -/

namespace Reading

theorem behind_behind (m : Mode) (cs ds : List Char) (r : Reading) :
    (r.behind m ds).behind m cs = r.behind m (cs ++ ds) := by
  simp [behind]

@[simp] theorem entered_behind (m : Mode) (cs : List Char) (r : Reading) :
    (r.behind m cs).entered = r.entered := rfl

@[simp] theorem entered_entering (r : Reading) : r.entering.entered = r.entered + 1 := rfl

end Reading

namespace Mode

theorem read_open (rest : List Char) :
    code.read ('/' :: '*' :: rest) = ((comment.read rest).behind comment ['/', '*']).entering := by
  rw [read]

theorem read_mark (q : Quote) (rest : List Char) :
    code.read (q.char :: rest) = ((literal q).read rest).behind (literal q) [q.char] := by
  cases q <;> rw [Quote.char, read]

theorem read_code {c : Char} {rest : List Char} (hq : ∀ q : Quote, c ≠ q.char)
    (hopen : c = '/' → rest.head? ≠ some '*') :
    code.read (c :: rest) = (code.read rest).behind code [c] := by
  rw [read]
  · intro rest' hc hrest
    exact hopen hc (by rw [hrest]; rfl)
  · exact hq .double
  · exact hq .single

theorem read_close (rest : List Char) :
    comment.read ('*' :: '/' :: rest) = (code.read rest).behind comment ['*', '/'] := by
  rw [read]

theorem read_comment {c : Char} {rest : List Char} (h : ¬ (c = '*' ∧ rest.head? = some '/')) :
    comment.read (c :: rest) = (comment.read rest).behind comment [c] := by
  rw [read]
  intro rest' hc hrest
  exact h ⟨hc, by rw [hrest]; rfl⟩

theorem read_escape (q : Quote) (c : Char) (rest : List Char) :
    (literal q).read ('\\' :: c :: rest) =
      ((literal q).read rest).behind (literal q) ['\\', c] := by
  rw [read]

theorem read_plain {q : Quote} {c : Char} {rest : List Char} (hq : c ≠ q.char) (hb : c ≠ '\\') :
    (literal q).read (c :: rest) = ((literal q).read rest).behind (literal q) [c] := by
  rw [read, if_neg hq]
  intro c' rest' hc
  exact absurd hc hb

theorem read_unmark (q : Quote) (rest : List Char) :
    (literal q).read (q.char :: rest) = (code.read rest).behind (literal q) [q.char] := by
  rw [read, if_pos rfl]
  intro c rest' hc
  exact absurd hc q.char_ne_backslash

/-! ## Inside a token -/

theorem read_append_code {run : List Char} (hrun : ∀ d ∈ run, d ∉ stops) (rest : List Char) :
    code.read (run ++ rest) = (code.read rest).behind code run := by
  induction run with
  | nil => rfl
  | cons c run ih =>
    have hc := hrun c List.mem_cons_self
    have hq : ∀ q : Quote, c ≠ q.char := by
      rintro q rfl
      exact hc q.char_mem_stops
    have hslash : c ≠ '/' := by
      rintro rfl
      exact hc (by decide)
    rw [List.cons_append, read_code hq fun h => absurd h hslash,
      ih fun d hd => hrun d (List.mem_cons_of_mem _ hd), Reading.behind_behind]
    rfl

theorem read_append_comment {body rest : List Char} (hbody : Unclosed body)
    (hrest : rest.head? ≠ some '/') :
    comment.read (body ++ rest) = (comment.read rest).behind comment body := by
  induction body with
  | nil => rfl
  | cons c body ih =>
    obtain ⟨hfirst, hbody⟩ := unclosed_cons.1 hbody
    rw [← head?_append_slash hrest] at hfirst
    rw [List.cons_append, read_comment hfirst, ih hbody, Reading.behind_behind]
    rfl

theorem read_append_literal {q : Quote} {items : List Char} (h : Items q items)
    (rest : List Char) :
    (literal q).read (items ++ rest) = ((literal q).read rest).behind (literal q) items := by
  induction h with
  | nil => rfl
  | escape c _ ih =>
    rw [List.cons_append, List.cons_append, read_escape, ih, Reading.behind_behind]
    rfl
  | plain hq hb _ ih =>
    rw [List.cons_append, read_plain hq hb, ih, Reading.behind_behind]
    rfl

/-- At the end of the characters, what was started is what is open. -/
theorem read_tail (q : Quote) {tail : List Char} (h : tail = [] ∨ tail = ['\\']) :
    (literal q).read tail = Reading.behind (literal q) tail ⟨[], 0, literal q⟩ := by
  rcases h with rfl | rfl
  · rfl
  · rw [read, if_neg q.char_ne_backslash.symm]
    · rfl
    · intro c rest' _ h
      cases h

end Mode

/-! ## Rows of tokens -/

/-- What the characters of a segment are part of. -/
def SegmentKind.mode : SegmentKind → Mode
  | code => .code
  | literal q _ => .literal q
  | comment _ => .comment

/-- What is open behind a row of tokens. -/
def openMode (ps : List (Piece Char)) : Mode :=
  ps.getLast?.elim .code fun p => if p.kind.isTerminated then .code else p.kind.mode

theorem openMode_cons {p : Piece Char} (h : p.kind.isTerminated = true)
    (after : List (Piece Char)) : openMode (p :: after) = openMode after := by
  unfold openMode
  rw [List.getLast?_cons]
  cases after.getLast? with
  | none => simp [h]
  | some t => rfl

/-- What one would read off a row of tokens. -/
def Reading.ofTokens (ps : List (Piece Char)) : Reading where
  marked := ps.flatMap fun p => p.symbols.map (·, p.kind.mode)
  entered := (ps.filter (!·.kind.isKept)).length
  final := openMode ps

namespace Reading

theorem ofTokens_cons_kept {p : Piece Char} (hk : p.kind.isKept = true)
    (ht : p.kind.isTerminated = true) (after : List (Piece Char)) :
    ofTokens (p :: after) = (ofTokens after).behind p.kind.mode p.symbols := by
  simp [ofTokens, behind, openMode_cons ht, hk]

theorem ofTokens_cons_comment {p : Piece Char} (h : p.kind = .comment true)
    (after : List (Piece Char)) :
    ofTokens (p :: after) = ((ofTokens after).behind .comment p.symbols).entering := by
  have ht : p.kind.isTerminated = true := by rw [h]; rfl
  simp [ofTokens, behind, entering, openMode_cons ht, h, SegmentKind.isKept, SegmentKind.mode]

end Reading

theorem read_tokens {ps : List (Piece Char)} (h : Tokens ps) :
    Mode.code.read (ps.flatMap Piece.symbols) = Reading.ofTokens ps := by
  induction h with
  | nil => rw [List.flatMap_nil, Mode.read]; rfl
  | @cons p after hp _ ih =>
    rw [List.flatMap_cons]
    cases hp with
    | @code c run hq hrun _ hslash =>
      rw [List.cons_append, Mode.read_code hq hslash, Mode.read_append_code hrun, ih,
        Reading.behind_behind, Reading.ofTokens_cons_kept rfl rfl]
      rfl
    | @comment body hb =>
      -- behind the body stands an asterisk, so the body's own end closes nothing
      rw [List.cons_append, List.cons_append, List.append_assoc, Mode.read_open,
        Mode.read_append_comment hb (by simp), List.cons_append, List.singleton_append,
        Mode.read_close, ih, Reading.behind_behind, Reading.behind_behind,
        Reading.ofTokens_cons_comment rfl]
      rfl
    | @openComment body hnil hb =>
      subst hnil
      rw [List.flatMap_nil, List.append_nil, Mode.read_open, ← List.append_nil body,
        Mode.read_append_comment hb (by simp), Reading.behind_behind, Mode.read]
      simp [Reading.ofTokens, Reading.behind, Reading.entering, openMode, SegmentKind.isKept,
        SegmentKind.isTerminated, SegmentKind.mode]
    | @literal q items hi =>
      rw [List.cons_append, List.append_assoc, Mode.read_mark, Mode.read_append_literal hi,
        List.singleton_append, Mode.read_unmark, ih, Reading.behind_behind,
        Reading.behind_behind, Reading.ofTokens_cons_kept rfl rfl]
      rfl
    | @openLiteral q items tail hnil hi ht =>
      subst hnil
      rw [List.flatMap_nil, List.append_nil, Mode.read_mark, Mode.read_append_literal hi,
        Mode.read_tail q ht, Reading.behind_behind, Reading.behind_behind]
      simp [Reading.ofTokens, Reading.behind, openMode, SegmentKind.isKept,
        SegmentKind.isTerminated, SegmentKind.mode]

/-! ## Scan and automaton -/

/-- What is open behind a row of tokens tells the kind of the last one, if that is not closed. -/
theorem openMode_eq_mode_iff {ps : List (Piece Char)} {k : SegmentKind}
    (hk : k.isTerminated = false) :
    openMode ps = k.mode ↔ (ps.map Piece.kind).getLast? = some k := by
  rw [List.getLast?_map, openMode]
  cases ps.getLast? with
  | none =>
    obtain _ | ⟨q, _ | _⟩ | (_ | _) := k <;> simp_all [SegmentKind.isTerminated, SegmentKind.mode]
  | some p =>
    obtain ⟨_ | ⟨_, _ | _⟩ | (_ | _), _⟩ := p <;> obtain _ | ⟨q, _ | _⟩ | (_ | _) := k <;>
      simp_all [SegmentKind.isTerminated, SegmentKind.mode]

theorem read_pieces (text : String) :
    Mode.code.read text.toList = Reading.ofTokens (pieces text) := by
  have h := read_tokens (tokens_pieces text.toList)
  rw [Alphabet.pieces_flatten] at h
  exact h

theorem map_fst_marked (ps : List (Piece Char)) :
    (Reading.ofTokens ps).marked.map Prod.fst = ps.flatMap Piece.symbols := by
  simp [Reading.ofTokens, List.map_flatMap, Function.comp_def]

theorem filter_marked (ps : List (Piece Char)) :
    ((Reading.ofTokens ps).marked.filter (·.2 ≠ .comment)).map Prod.fst =
      (ps.filter (·.kind.isKept)).flatMap Piece.symbols := by
  unfold Reading.ofTokens
  induction ps with
  | nil => rfl
  | cons p ps ih =>
    have hmode : decide (p.kind.mode ≠ .comment) = p.kind.isKept := by
      obtain ⟨_ | _ | _, _⟩ := p <;> rfl
    simp only at ih
    simp only [List.flatMap_cons, List.filter_append, List.map_append, ih, List.filter_cons,
      List.filter_map, Function.comp_def, hmode]
    cases p.kind.isKept <;> simp [Function.comp_def]

/-- The class that a marked reading gives to a character inside one of the pieces. -/
theorem marked_getElem? (ps qs : List (Piece Char)) {p : Piece Char} {x y : List Char} {c : Char}
    (hp : p.symbols = x ++ c :: y) :
    (Reading.ofTokens (ps ++ p :: qs)).marked[(ps.flatMap Piece.symbols ++ x).length]? =
      some (c, p.kind.mode) := by
  have hlen : (ps.flatMap fun p => p.symbols.map (·, p.kind.mode)).length =
      (ps.flatMap Piece.symbols).length := by
    simp [List.length_flatMap]
  simp only [Reading.ofTokens, List.flatMap_append, List.flatMap_cons, hp, List.length_append]
  rw [List.getElem?_append_right (by omega), hlen, Nat.add_sub_cancel_left,
    List.getElem?_append_left (by simp)]
  simp

/-- The automaton reads every character once; it gives each one the class of the segment that holds
    it, so that the characters outside comments are those of the stripped text; it enters as many
    comments as there are segments of that kind; and what is open in the end is what the last
    segment left open. -/
theorem scan_eq_read (text : String) :
    (Mode.code.read text.toList).marked.map Prod.fst = text.toList ∧
      (∀ i : Fin text.toList.length, ∃ s,
        (segments text).filter (·.meets (charStart text i) (charStart text (i + 1))) = [s] ∧
          s.start ≤ charStart text i ∧ charStart text (i + 1) ≤ s.stop ∧
          (Mode.code.read text.toList).marked[i.val]? = some (text.toList.get i, s.kind.mode)) ∧
      (strip text).toList =
        ((Mode.code.read text.toList).marked.filter (·.2 ≠ .comment)).map Prod.fst ∧
      (Mode.code.read text.toList).entered = (comments text).length ∧
      ((Mode.code.read text.toList).final = .comment ↔
        (segments text).getLast?.map Segment.kind = some (.comment false)) ∧
      ∀ q, (Mode.code.read text.toList).final = .literal q ↔
        (segments text).getLast?.map Segment.kind = some (.literal q false) := by
  rw [read_pieces, ← List.getLast?_map, map_kind_segments]
  refine ⟨?_, fun i => ?_, ?_, ?_, openMode_eq_mode_iff (k := .comment false) rfl,
    fun q => openMode_eq_mode_iff (k := .literal q false) rfl⟩
  · rw [map_fst_marked, pieces, Alphabet.pieces_flatten]
  · obtain ⟨ps, p, qs, x, y, s, hps, hp, htake, hkind, hstart, hstop, hfilter⟩ :=
      filter_meets_segments text i
    refine ⟨s, hfilter, hstart, hstop, ?_⟩
    have hmarked := marked_getElem? ps qs hp
    rw [← htake, List.length_take, Nat.min_eq_left (Nat.le_of_lt i.isLt)] at hmarked
    rw [hps, hkind]
    exact hmarked
  · rw [toList_strip, filter_marked]
  · rw [length_comments]
    rfl

end Uncomment
