import Uncomment.Scan.Alphabet

/-!
# Recognizers

Each recognizer looks at the symbols from some place to the end of the text and says how far its
kind of segment reaches. `front` picks the recognizer by the first symbol or two.

* A code run takes its first symbol whatever it is, and goes on to the next one that is a slash, a
  quote or a backslash.
* A comment reaches to the first `*/` after its opening `/*`; the two do not overlap.
* A literal reaches to the first closing mark that is not escaped; a backslash escapes exactly the
  one character after it, however many symbols that takes.

Results:
* `front_pos`, `front_le`: a segment covers at least one symbol and none past the end.
* `pieces_flatten`: the pieces of a row of symbols are the row, cut up.
-/

namespace Uncomment.Alphabet

variable {α : Type} [DecidableEq α] (A : Alphabet α)

/-! ## Code runs -/

/-- The length of the code run whose first symbol is followed by `rest`. -/
def codeLength (rest : List α) : Nat := 1 + rest.findIdx A.isStop

/-! ## Comments -/

/-- The offset just past the first `*/`. -/
def commentClose : List α → Option Nat
  | [] => none
  | a :: rest =>
    if a = A.star ∧ rest.head? = some A.slash then some 2 else (commentClose rest).map (· + 1)

/-! ## Literals -/

/-- The offset just past the first unescaped `mark`, when the next `skip` symbols belong to an
    escaped character. -/
def literalClose (mark : α) : (skip : Nat) → List α → Option Nat
  | _, [] => none
  | skip + 1, _ :: rest => (literalClose mark skip rest).map (· + 1)
  | 0, a :: rest =>
    if a = mark then some 1
    else if a = A.backslash then
      (literalClose mark (rest.head?.elim 0 A.width) rest).map (· + 1)
    else (literalClose mark 0 rest).map (· + 1)

/-! ## The segment at the front -/

/-- The kind and the length of the segment that starts at `a :: rest`. -/
def front (a : α) (rest : List α) : SegmentKind × Nat :=
  if a = A.slash ∧ rest.head? = some A.star then
    let close := A.commentClose rest.tail
    (.comment close.isSome, 2 + close.getD rest.tail.length)
  else
    match A.quote? a with
    | some quote =>
      let close := A.literalClose (A.mark quote) 0 rest
      (.literal quote close.isSome, 1 + close.getD rest.length)
    | none => (.code, A.codeLength rest)

theorem commentClose_le {as : List α} {n : Nat} (h : A.commentClose as = some n) :
    n ≤ as.length := by
  induction as generalizing n with
  | nil => simp [commentClose] at h
  | cons a rest ih =>
    rw [commentClose] at h
    split at h
    next ha =>
      cases rest with
      | nil => simp at ha
      | cons c rest => simp at h ⊢; omega
    next =>
      obtain ⟨m, hm, rfl⟩ := Option.map_eq_some_iff.1 h
      simpa using ih hm

theorem literalClose_le {mark : α} {skip : Nat} {as : List α} {n : Nat}
    (h : A.literalClose mark skip as = some n) : n ≤ as.length := by
  fun_induction literalClose A mark skip as generalizing n with
  | case1 => simp at h
  | case2 skip a rest ih =>
    obtain ⟨m, hm, rfl⟩ := Option.map_eq_some_iff.1 h
    simpa using ih hm
  | case3 => simp at h ⊢; omega
  | case4 rest _ ih =>
    obtain ⟨m, hm, rfl⟩ := Option.map_eq_some_iff.1 h
    simpa using ih hm
  | case5 a rest _ _ ih =>
    obtain ⟨m, hm, rfl⟩ := Option.map_eq_some_iff.1 h
    simpa using ih hm

theorem front_pos (a : α) (rest : List α) : 0 < (A.front a rest).2 := by
  unfold front codeLength
  grind

theorem front_le (a : α) (rest : List α) : (A.front a rest).2 ≤ (a :: rest).length := by
  have getD_le {close : Option Nat} {as : List α} (h : ∀ n, close = some n → n ≤ as.length) :
      close.getD as.length ≤ as.length := by
    cases close with
    | none => simp
    | some n => simpa using h n rfl
  unfold front codeLength
  split
  next ha =>
    have := @getD_le _ rest.tail fun _ => A.commentClose_le
    cases rest with
    | nil => simp at ha
    | cons c rest => simp at this ⊢; omega
  next =>
    split
    next quote _ =>
      have := @getD_le (A.literalClose (A.mark quote) 0 rest) rest fun _ => A.literalClose_le
      simp; omega
    next =>
      have := @List.findIdx_le_length _ A.isStop rest
      simp; omega

/-! ## Cutting up the whole row -/

/-- The pieces of a row of symbols, from its front to its end. -/
def pieces : List α → List (Piece α)
  | [] => []
  | a :: rest =>
    have := A.front_pos a rest
    ⟨(A.front a rest).1, (a :: rest).take (A.front a rest).2⟩ ::
      pieces ((a :: rest).drop (A.front a rest).2)
termination_by as => as.length
decreasing_by simp only [List.length_drop, List.length_cons]; omega

theorem pieces_flatten (as : List α) : (A.pieces as).flatMap Piece.symbols = as := by
  fun_induction pieces A as with
  | case1 => rfl
  | case2 a rest _ ih =>
    rw [List.flatMap_cons, ih]
    exact List.take_append_drop _ _

end Uncomment.Alphabet
