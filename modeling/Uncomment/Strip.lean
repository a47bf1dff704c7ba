import Uncomment.Scan.Layout

/-!
# Stripping

Stripping drops the comments of a text and joins what is left, with nothing in their place:
`a/**/b` becomes `ab`. Every text can be stripped.

Results:
* `toList_strip`: the characters that remain are those of the pieces that are kept.
* `map_length_comments`, `length_comments`: lengths and number of the comments, from the pieces.
-/

namespace Uncomment

/-- The segments that stripping keeps, in order. -/
def keptSegments (text : String) : List Segment := (segments text).filter (·.kind.isKept)

/-- The comments of a text, in order. -/
def comments (text : String) : List Segment := (segments text).filter (!·.kind.isKept)

/-- The text without its block comments. -/
def strip (text : String) : String := String.join ((keptSegments text).map (·.text text))

/-! ## In terms of pieces -/

theorem toList_strip (text : String) :
    (strip text).toList = ((pieces text).filter (·.kind.isKept)).flatMap Piece.symbols := by
  have h := congrArg (fun l => (l.filter (·.1.isKept)).map Prod.snd) (map_text_segments text)
  simp only [List.filter_map, List.map_map, Function.comp_def] at h
  rw [strip, keptSegments, h, String.toList_join, List.flatMap_map]
  simp [Piece.text]

private theorem filter_place {α : Type} (offset : Nat) (ps : List (Piece α)) :
    ((place offset ps).filter (!·.kind.isKept)).map Segment.length =
      (ps.filter (!·.kind.isKept)).map fun p => p.symbols.length := by
  induction ps generalizing offset with
  | nil => rfl
  | cons p ps ih =>
    rw [place, List.filter_cons, List.filter_cons]
    cases p.kind.isKept <;> simp [ih, Segment.length]

theorem map_length_comments (text : String) :
    (comments text).map Segment.length =
      ((pieces text).filter (!·.kind.isKept)).map fun p => p.text.utf8ByteSize := by
  rw [comments, segments_eq_place, filter_place, List.filter_map, List.map_map]
  simp only [Function.comp_def, Piece.toBytes, Piece.text, Text.length_charsBytes]

theorem length_comments (text : String) :
    (comments text).length = ((pieces text).filter (!·.kind.isKept)).length := by
  simpa using congrArg List.length (map_length_comments text)

end Uncomment
