import Uncomment.Scan.Cursor
import Uncomment.Scan.Expansion
import Uncomment.Text.Slice

/-!
# Segments as pieces laid end to end

The segments of a text are the pieces of its characters, laid end to end: the first starts at the
front, each one starts where the one before it ended, and its text is that of the piece.

Results:
* `Cursor.segments_eq_place`: a cursor's segments are the pieces of the bytes that remain, laid from
  its offset on.
* `segments_eq_place`: the segments of a text, from the pieces of its characters.
* `map_text_segments`: kinds and texts of the segments are those of the pieces.
-/

namespace Uncomment

open Text

/-! ## Laying pieces -/

/-- The segments that pieces take up if the first starts at `offset`. -/
def place {α : Type} : (offset : Nat) → List (Piece α) → List Segment
  | _, [] => []
  | offset, p :: ps =>
    ⟨p.kind, offset, offset + p.symbols.length⟩ :: place (offset + p.symbols.length) ps

theorem Cursor.segments_eq_place (c : Cursor) :
    c.segments = place c.offset (Alphabet.bytes.pieces c.rest) := by
  fun_induction Cursor.segments c with
  | case1 c h =>
    rw [next?_eq_none_iff.1 h, Alphabet.pieces]
    rfl
  | case2 c s d h _ ih =>
    obtain ⟨offset, _ | ⟨b, rest⟩⟩ := c
    · simp [next?] at h
    · have hle := Alphabet.bytes.front_le b rest
      simp only [next?, Option.some.injEq, Prod.mk.injEq] at h
      obtain ⟨rfl, rfl⟩ := h
      rw [ih, Alphabet.pieces, place, List.length_take, Nat.min_eq_left hle]

/-! ## Segments of a text -/

/-- A piece of a text as a piece of its bytes. -/
def Piece.toBytes (p : Piece Char) : Piece UInt8 := ⟨p.kind, charsBytes p.symbols⟩

/-- The text of a piece. -/
def Piece.text (p : Piece Char) : String := String.ofList p.symbols

/-- The pieces of a text's characters. -/
def pieces (text : String) : List (Piece Char) := Alphabet.chars.pieces text.toList

theorem segments_eq_place (text : String) :
    segments text = place 0 ((pieces text).map Piece.toBytes) := by
  rw [segments, Cursor.segments_eq_place, Cursor.ofText, bytes_eq,
    Alphabet.bytes_pieces_charsBytes]
  rfl

private theorem map_text_place (before : List Char) (ps : List (Piece Char)) (after : List Char)
    (text : String) (h : text.toList = before ++ ps.flatMap Piece.symbols ++ after) :
    (place (charsBytes before).length (ps.map Piece.toBytes)).map (fun s => (s.kind, s.text text)) =
      ps.map fun p => (p.kind, p.text) := by
  induction ps generalizing before with
  | nil => rfl
  | cons p ps ih =>
    have hlen : (charsBytes before).length + (charsBytes p.symbols).length =
        (charsBytes (before ++ p.symbols)).length := by
      simp [charsBytes]
    rw [List.map_cons, List.map_cons, place, List.map_cons]
    congr 1
    · rw [← String.ofList_toList (s := text), h]
      simp only [Segment.text, Piece.toBytes, Piece.text, List.flatMap_cons]
      rw [← List.append_assoc, List.append_assoc (before ++ p.symbols), extract_charsBytes]
    · rw [Piece.toBytes, hlen]
      exact ih (before ++ p.symbols) (by rw [h, List.flatMap_cons]; simp)

theorem map_text_segments (text : String) :
    (segments text).map (fun s => (s.kind, s.text text)) =
      (pieces text).map fun p => (p.kind, p.text) := by
  rw [segments_eq_place]
  refine map_text_place [] (pieces text) [] text ?_
  rw [pieces, Alphabet.pieces_flatten, List.nil_append, List.append_nil]

end Uncomment
