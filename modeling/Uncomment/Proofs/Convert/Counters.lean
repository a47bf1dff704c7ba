import Uncomment.Convert
import Uncomment.Proofs.Text.LineEnding

/-!
# What the counters count

The counters of a conversion, said in terms of the pieces of the text and of what is left of it.

Results:
* `commentsRemoved_convert`, `commentBytes_convert`: number and length of the comments.
* `crlfCollapsed_convert`: the pairs CR LF of the stripped text.
-/

namespace Uncomment

open LineEnding

/-- The pieces that are comments. -/
def commentPieces (ps : List (Piece Char)) : List (Piece Char) := ps.filter (!·.kind.isKept)

theorem commentsRemoved_convert (text : String) (options : ConvertOptions) :
    (convert text options).stats.commentsRemoved = (commentPieces (pieces text)).length :=
  length_comments text

theorem commentBytes_convert (text : String) (options : ConvertOptions) :
    (convert text options).stats.commentBytes =
      ((commentPieces (pieces text)).map (·.text.utf8ByteSize)).sum :=
  congrArg List.sum (map_length_comments text)

/-- Pairs are only collapsed if the options ask for it. -/
theorem crlfCollapsed_convert (text : String) (options : ConvertOptions) :
    (convert text options).stats.crlfCollapsed =
      if options.normalize then pairs (strip text).toList else 0 := by
  have hlen := utf8ByteSize_normalize_add (strip text)
  unfold convert
  simp only
  split
  · omega
  · exact Nat.sub_self _

end Uncomment
