import Uncomment.Log.Record
import Uncomment.Strip
import Uncomment.Text.LineEnding

/-!
# Conversion

A conversion strips the comments of a text and then, unless told otherwise, normalizes the line
endings of what is left; it counts what it removes. A pair CR LF that only comes together because a
comment between the two is gone is collapsed as well.
-/

namespace Uncomment

/-! ## Counters -/

/-- What a conversion removed. -/
structure Stats where
  /-- Comments, unterminated ones included. -/
  commentsRemoved : Nat
  /-- Bytes of those comments. -/
  commentBytes : Nat
  /-- Bytes dropped by the normalization of line endings. -/
  crlfCollapsed : Nat
deriving DecidableEq, Repr

/-- A converted text and what was removed from it. -/
structure Conversion where
  text : String
  stats : Stats
deriving DecidableEq, Repr

/-! ## Converting -/

/-- What a conversion does besides stripping. -/
structure ConvertOptions where
  /-- Whether line endings are normalized after stripping. -/
  normalize : Bool := true
deriving DecidableEq, Repr

/-- The text without comments and, if the options ask for it, with every CR LF that is then in it
    replaced by LF. -/
def convert (text : String) (options : ConvertOptions) : Conversion :=
  let removed := comments text
  let stripped := strip text
  let result := if options.normalize then (LineEnding.normalize stripped).text else stripped
  { text := result
    stats :=
      { commentsRemoved := removed.length
        commentBytes := (removed.map Segment.length).foldr (· + ·) 0
        crlfCollapsed := stripped.utf8ByteSize - result.utf8ByteSize } }

/-- The log record of a conversion of `input`. -/
def Conversion.record (input : String) (c : Conversion) : Log.Record :=
  { source := .converter
    level := .debug
    message :=
      s!"converted {input.utf8ByteSize} -> {c.text.utf8ByteSize} bytes " ++
        s!"({c.stats.commentsRemoved} comments, {c.stats.commentBytes} comment bytes, " ++
        s!"{c.stats.crlfCollapsed} CRs collapsed)" }

end Uncomment
