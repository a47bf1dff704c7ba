import Uncomment.Proofs.Convert.Counters
import Uncomment.Proofs.Scan.Substitution
import Uncomment.Proofs.Strip.Junction

/-!
# Counters under a substitution

A substitution of ordinary characters keeps the comments of a text. It makes them longer or shorter
by as much as their texts.

Results:
* `map_text_comments`: what can be said of the texts of the comments, from the pieces.
* `commentsRemoved_substitute`, `commentBytes_substitute`: the counters of comments.
-/

namespace Uncomment

theorem map_text_comments {β : Type} (f : String → β) (text : String) :
    (comments text).map (fun s => f (s.text text)) =
      (commentPieces (pieces text)).map fun p => f p.text := by
  rw [← map_piece_segments, commentPieces, List.filter_map, List.map_map, comments]
  refine List.map_congr_left fun s _ => ?_
  simp [Segment.piece, Piece.text]

section Substitute

variable {h : Char → String} (hh : OrdinarySubst h)
include hh

theorem commentPieces_substitute (text : String) :
    commentPieces (pieces (substitute h text)) =
      (commentPieces (pieces text)).map fun p =>
        ⟨p.kind, p.symbols.flatMap fun c => (h c).toList⟩ := by
  rw [pieces_substitute hh, commentPieces, List.filter_map]
  rfl

theorem commentsRemoved_substitute (text : String) (options : ConvertOptions) :
    (convert (substitute h text) options).stats.commentsRemoved =
      (convert text options).stats.commentsRemoved := by
  rw [commentsRemoved_convert, commentsRemoved_convert, commentPieces_substitute hh,
    List.length_map]

/-- The comments get longer by what their texts gain. -/
theorem commentBytes_substitute {gain : String → Nat}
    (hgain : ∀ t, (substitute h t).utf8ByteSize = t.utf8ByteSize + gain t) (text : String)
    (options : ConvertOptions) :
    (convert (substitute h text) options).stats.commentBytes =
      (convert text options).stats.commentBytes +
        ((comments text).map fun s => gain (s.text text)).sum := by
  rw [commentBytes_convert, commentBytes_convert, commentPieces_substitute hh, List.map_map,
    map_text_comments gain, ← List.sum_map_add]
  congr 1
  refine List.map_congr_left fun p _ => ?_
  rw [Function.comp_apply, Piece.text_substitute, hgain]

end Substitute

end Uncomment
