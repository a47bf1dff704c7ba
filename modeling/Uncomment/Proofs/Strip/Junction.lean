import Uncomment.Proofs.Scan.Token
import Uncomment.Strip

/-!
# Where code meets

Where comments are cut out, the code in front of them and the code behind them come together. What
stands at such a junction are the last character of the one and the first of the other.

Results:
* `head?_kept_eq_some_iff`: when the kept characters of a row of tokens begin with a given
  character.
* `junction_cons_iff`: behind a kept token, a junction shows in the kept characters.
* `junctions_cons`: the junctions of a row are counted token by token.
-/

namespace Uncomment

/-! ## What is kept -/

/-- A segment as a piece of the text it was found in. -/
def Segment.piece (text : String) (s : Segment) : Piece Char := ⟨s.kind, (s.text text).toList⟩

theorem map_piece_segments (text : String) :
    (segments text).map (·.piece text) = pieces text := by
  have h := congrArg (List.map fun t => (⟨t.1, t.2.toList⟩ : Piece Char)) (map_text_segments text)
  rw [List.map_map, List.map_map] at h
  refine h.trans ?_
  simp [Function.comp_def, Piece.text]

/-- The kept characters of a row of tokens. -/
def kept (ps : List (Piece Char)) : List Char :=
  (ps.filter (·.kind.isKept)).flatMap Piece.symbols

theorem toList_strip_eq_kept (text : String) : (strip text).toList = kept (pieces text) :=
  toList_strip text

theorem kept_append (ps qs : List (Piece Char)) : kept (ps ++ qs) = kept ps ++ kept qs := by
  simp [kept]

theorem kept_cons_of_isKept {p : Piece Char} (h : p.kind.isKept = true) (ps : List (Piece Char)) :
    kept (p :: ps) = p.symbols ++ kept ps := by
  simp [kept, h]

theorem kept_cons_of_comment {p : Piece Char} (h : p.kind.isKept = false)
    (ps : List (Piece Char)) : kept (p :: ps) = kept ps := by
  simp [kept, h]

/-- Literals begin with a quote, so what begins the kept characters with anything else is code, with
    nothing but comments in front of it. -/
theorem head?_kept_eq_some_iff {d : Char} (hd : ∀ q : Quote, d ≠ q.char) {ps : List (Piece Char)}
    (h : Tokens ps) :
    (kept ps).head? = some d ↔
      ∃ (cs : List (Piece Char)) (t : Piece Char) (after : List (Piece Char)),
        ps = cs ++ t :: after ∧ (∀ c ∈ cs, ∃ terminated, c.kind = .comment terminated) ∧
        t.kind = .code ∧ t.symbols.head? = some d := by
  induction h with
  | nil => simp [kept]
  | @cons p after hp _ ih =>
    by_cases hk : p.kind.isKept = true
    · obtain ⟨c, w, hw⟩ := List.exists_cons_of_ne_nil hp.ne_nil
      rw [kept_cons_of_isKept hk, hw, List.cons_append, List.head?_cons]
      constructor
      · intro hc
        refine ⟨[], p, after, rfl, by simp, ?_, by rw [hw]; exact hc⟩
        cases hp with
        | code => rfl
        | comment | openComment => cases hk
        | literal | openLiteral =>
          obtain ⟨rfl, -⟩ := List.cons.inj hw
          exact absurd (Option.some.inj hc).symm (hd _)
      · rintro ⟨cs, t, rest, hcs, hcomments, -, hstar⟩
        cases cs with
        | nil =>
          obtain ⟨rfl, -⟩ := List.cons.inj hcs
          rw [hw] at hstar
          exact hstar
        | cons c cs =>
          obtain ⟨rfl, -⟩ := List.cons.inj hcs
          obtain ⟨terminated, hkind⟩ := hcomments p List.mem_cons_self
          rw [hkind] at hk
          cases hk
    · rw [Bool.not_eq_true] at hk
      rw [kept_cons_of_comment hk, ih]
      have hkind := SegmentKind.isKept_eq_false_iff.1 hk
      constructor
      · rintro ⟨cs, t, rest, rfl, hcomments, ht⟩
        refine ⟨p :: cs, t, rest, rfl, ?_, ht⟩
        rw [List.forall_mem_cons]
        exact ⟨hkind, hcomments⟩
      · rintro ⟨cs, t, rest, hcs, hcomments, ht⟩
        cases cs with
        | nil =>
          obtain ⟨rfl, -⟩ := List.cons.inj hcs
          obtain ⟨terminated, hkind⟩ := hkind
          rw [hkind] at ht
          cases ht.1
        | cons c cs =>
          obtain ⟨rfl, rfl⟩ := List.cons.inj hcs
          exact ⟨cs, t, rest, rfl, (List.forall_mem_cons.1 hcomments).2, ht⟩

/-! ## Junctions -/

/-- In front of the row stands code that ends in `c`, and behind one or more comments code that
    begins with `d`. -/
def Junction (c d : Char) (ps : List (Piece Char)) : Prop :=
  ∃ (s : Piece Char) (cs : List (Piece Char)) (t : Piece Char) (after : List (Piece Char)),
    ps = s :: (cs ++ t :: after) ∧ s.kind = .code ∧ s.symbols.getLast? = some c ∧
    cs ≠ [] ∧ (∀ c ∈ cs, ∃ terminated, c.kind = .comment terminated) ∧
    t.kind = .code ∧ t.symbols.head? = some d

theorem junction_cons_iff_exists {c d : Char} {p : Piece Char} {ps : List (Piece Char)} :
    Junction c d (p :: ps) ↔
      p.kind = .code ∧ p.symbols.getLast? = some c ∧
        ∃ (cs : List (Piece Char)) (t : Piece Char) (after : List (Piece Char)),
        ps = cs ++ t :: after ∧ cs ≠ [] ∧ (∀ c ∈ cs, ∃ terminated, c.kind = .comment terminated) ∧
        t.kind = .code ∧ t.symbols.head? = some d := by
  constructor
  · rintro ⟨s, cs, t, after, heq, hs, hlast, hrest⟩
    obtain ⟨rfl, rfl⟩ := List.cons.inj heq
    exact ⟨hs, hlast, cs, t, after, rfl, hrest⟩
  · rintro ⟨hs, hlast, cs, t, after, rfl, hrest⟩
    exact ⟨p, cs, t, after, rfl, hs, hlast, hrest⟩

/-- The comments behind a token are those up to the first kept one, so a junction can be looked
    for. -/
theorem exists_behind_comments_iff {P : Piece Char → Prop} {ps : List (Piece Char)} :
    (∃ (cs : List (Piece Char)) (t : Piece Char) (after : List (Piece Char)),
        ps = cs ++ t :: after ∧ cs ≠ [] ∧
          (∀ c ∈ cs, ∃ terminated, c.kind = .comment terminated) ∧ t.kind = .code ∧ P t) ↔
      (∃ t ∈ ps.head?, t.kind.isKept = false) ∧
        ∃ t ∈ (ps.dropWhile fun t => !t.kind.isKept).head?, t.kind = .code ∧ P t := by
  simp only [← SegmentKind.isKept_eq_false_iff]
  constructor
  · rintro ⟨cs, t, after, rfl, hne, hcomments, hcode, ht⟩
    obtain ⟨c, cs, rfl⟩ := List.exists_cons_of_ne_nil hne
    refine ⟨⟨c, rfl, hcomments c List.mem_cons_self⟩, t, ?_, hcode, ht⟩
    rw [List.dropWhile_append_of_pos (by simpa using hcomments),
      List.dropWhile_cons_of_neg (by simp [hcode, SegmentKind.isKept])]
    rfl
  · rintro ⟨⟨c, hc, hcomment⟩, t, ht, hcode, hP⟩
    obtain ⟨rest, rfl⟩ := List.head?_eq_some_iff.1 hc
    obtain ⟨after, hafter⟩ := List.head?_eq_some_iff.1 ht
    refine ⟨(c :: rest).takeWhile fun t => !t.kind.isKept, t, after, ?_, ?_, fun u hu => ?_, hcode,
      hP⟩
    · rw [← hafter, List.takeWhile_append_dropWhile]
    · simp [hcomment]
    · simpa using List.mem_takeWhile_imp hu

instance (c d : Char) : DecidablePred (Junction c d)
  | [] => .isFalse fun ⟨_, _, _, _, h, _⟩ => by cases h
  | _ :: _ =>
    decidable_of_iff' _ <| junction_cons_iff_exists.trans <|
      and_congr_right fun _ => and_congr_right fun _ => exists_behind_comments_iff

/-- How many junctions there are, each counted where it begins. -/
def junctions (c d : Char) (ps : List (Piece Char)) : Nat := ps.tails.countP (Junction c d)

theorem junctions_cons (c d : Char) (p : Piece Char) (ps : List (Piece Char)) :
    junctions c d (p :: ps) = (if Junction c d (p :: ps) then 1 else 0) + junctions c d ps := by
  unfold junctions
  rw [List.tails_cons, List.countP_cons, Nat.add_comm]
  simp

theorem junctions_eq_zero_iff {c d : Char} {ps : List (Piece Char)} :
    junctions c d ps = 0 ↔ ∀ tail, tail <:+ ps → ¬ Junction c d tail := by
  simp [junctions]

/-! ## Junctions in the kept characters -/

/-- A token that is kept begins a junction exactly if the two characters meet behind it: neither
    can be the end of a literal, and code behind code begins with a stop. -/
theorem junction_cons_iff {c d : Char} (hc : ∀ q : Quote, c ≠ q.char) (hd : d ∉ stops)
    {p : Piece Char} {after : List (Piece Char)} (h : Tokens (p :: after))
    (hk : p.kind.isKept = true) :
    Junction c d (p :: after) ↔ p.symbols.getLast? = some c ∧ (kept after).head? = some d := by
  have hmark : ∀ q : Quote, d ≠ q.char := by
    rintro q rfl
    exact hd q.char_mem_stops
  rw [junction_cons_iff_exists]
  cases h with
  | cons hp hafter =>
    rw [head?_kept_eq_some_iff hmark hafter]
    constructor
    · rintro ⟨-, hlast, cs, t, rest, hcs, -, ht⟩
      exact ⟨hlast, cs, t, rest, hcs, ht⟩
    · rintro ⟨hlast, cs, t, rest, rfl, hcomments, ht, hhead⟩
      cases hp with
      | comment | openComment => cases hk
      | openLiteral hnil => simp at hnil
      | literal =>
        rw [List.getLast?_cons_of_ne_nil (by simp), List.getLast?_concat] at hlast
        exact absurd (Option.some.inj hlast).symm (hc _)
      | code _ _ hnext _ =>
        refine ⟨rfl, hlast, cs, t, rest, rfl, ?_, hcomments, ht, hhead⟩
        rintro rfl
        obtain ⟨e, he, hstop⟩ := hnext t rfl
        rw [hhead] at he
        obtain rfl := Option.some.inj he
        exact hd hstop

end Uncomment
