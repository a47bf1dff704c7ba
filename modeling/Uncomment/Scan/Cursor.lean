import Uncomment.Scan.Recognizer

/-!
# Cursors and the scan of a text

A cursor stands between two segments of a text: it knows its offset and the bytes that remain. It
holds nothing else, so a copy goes its own way and a scan can be taken up again at any segment
boundary.

Results:
* `Cursor.segments_eq`, `Cursor.segments_eq_nil`, `Cursor.segments_eq_cons`: the remaining segments
  are the next one, if there is one, followed by those of the cursor behind it.
* `Cursor.nth_fst`, `Cursor.nextComment_fst`: skipping and searching answer from the remaining
  segments.
-/

namespace Uncomment

open Text

/-- A place between two segments: its byte offset and what follows it. -/
structure Cursor where
  offset : Nat
  rest : Bytes
deriving DecidableEq, Repr

namespace Cursor

/-- The cursor before the first segment of a text. -/
def ofText (text : String) : Cursor := ⟨0, bytes text⟩

/-! ## One step -/

/-- The next segment and the cursor behind it, unless the text is at its end. -/
def next? : Cursor → Option (Segment × Cursor)
  | ⟨_, []⟩ => none
  | ⟨offset, b :: rest⟩ =>
    let (kind, length) := Alphabet.bytes.front b rest
    some (⟨kind, offset, offset + length⟩, ⟨offset + length, (b :: rest).drop length⟩)

theorem next?_eq_none_iff {c : Cursor} : c.next? = none ↔ c.rest = [] := by
  obtain ⟨offset, _ | ⟨b, rest⟩⟩ := c <;> simp [next?]

theorem length_rest_lt_of_next? {c d : Cursor} {s : Segment} (h : c.next? = some (s, d)) :
    d.rest.length < c.rest.length := by
  obtain ⟨offset, _ | ⟨b, rest⟩⟩ := c
  · simp [next?] at h
  · have := Alphabet.bytes.front_pos b rest
    simp only [next?, Option.some.injEq, Prod.mk.injEq] at h
    rw [← h.2]
    simp only [List.length_drop, List.length_cons]
    omega

/-! ## The remaining segments -/

/-- All segments from the cursor to the end of the text. -/
def segments (c : Cursor) : List Segment :=
  match h : c.next? with
  | none => []
  | some (s, d) =>
    have := length_rest_lt_of_next? h
    s :: d.segments
termination_by c.rest.length

theorem segments_eq (c : Cursor) :
    c.segments = c.next?.elim [] fun (s, d) => s :: d.segments := by
  rw [segments]
  split <;> simp_all

theorem segments_eq_nil {c : Cursor} (h : c.next? = none) : c.segments = [] := by
  rw [segments_eq, h]
  rfl

theorem segments_eq_cons {c d : Cursor} {s : Segment} (h : c.next? = some (s, d)) :
    c.segments = s :: d.segments := by
  rw [segments_eq, h]
  rfl

/-! ## Moving on -/

/-- Moves past the next segment and answers it; at the end of the text nothing moves. -/
def next (c : Cursor) : Option Segment × Cursor :=
  match c.next? with
  | none => (none, c)
  | some (s, d) => (some s, d)

/-- Passes over `n` segments, then moves past one more and answers it; a text with no more than
    `n` segments left is used up. -/
def nth : Nat → Cursor → Option Segment × Cursor
  | 0, c => c.next
  | n + 1, c =>
    match c.next? with
    | none => (none, c)
    | some (_, d) => nth n d

/-- Moves past the next comment and answers it; a text with no comment left is used up. -/
def nextComment (c : Cursor) : Option Segment × Cursor :=
  match h : c.next? with
  | none => (none, c)
  | some (s, d) =>
    have := length_rest_lt_of_next? h
    if s.kind.isKept then d.nextComment else (some s, d)
termination_by c.rest.length

theorem next_fst (c : Cursor) : c.next.1 = c.segments.head? := by
  rw [next, segments_eq]
  cases c.next? <;> rfl

theorem nth_fst (n : Nat) (c : Cursor) : (nth n c).1 = c.segments[n]? := by
  induction n generalizing c with
  | zero => rw [nth, next_fst, List.head?_eq_getElem?]
  | succ n ih =>
    rw [nth, segments_eq]
    cases c.next? with
    | none => rfl
    | some sd => simpa using ih sd.2

theorem nextComment_fst (c : Cursor) :
    c.nextComment.1 = c.segments.find? fun s => !s.kind.isKept := by
  fun_induction nextComment c with
  | case1 c h => simp [segments_eq c, h]
  | case2 c s d h _ hk ih => rw [ih, segments_eq c, h]; simp [hk]
  | case3 c s d h _ hk => rw [segments_eq c, h]; simp [hk]

end Cursor

/-- The segments of a text, in order. -/
def segments (text : String) : List Segment := (Cursor.ofText text).segments

end Uncomment
