import Uncomment.Text.Bytes

/-!
# Segments

A scanned text is a row of segments: runs of code, quoted literals and block comments. A segment
names its kind and its byte range; its text is the slice of the scanned text at that range.

Results:
* `SegmentKind.isKept_eq_false_iff`: only comments are dropped.
* `Quote.utf8EncodeChar_char`: each quote is one byte.
-/

namespace Uncomment

open Text

/-! ## Quotes -/

/-- The mark that opens a literal, and closes it. -/
inductive Quote where
  /-- The mark of string literals. -/
  | double
  /-- The mark of character literals. -/
  | single
deriving DecidableEq, Repr

namespace Quote

/-- The mark itself: U+0022 or U+0027. -/
def char : Quote → Char
  | double => '\x22'
  | single => '\x27'

/-- The mark as a byte; both marks are ASCII. -/
def byte : Quote → UInt8
  | double => 0x22
  | single => 0x27

@[simp] theorem utf8EncodeChar_char (q : Quote) : String.utf8EncodeChar q.char = [q.byte] := by
  cases q <;> decide

end Quote

/-! ## Kinds -/

/-- What a segment holds. -/
inductive SegmentKind where
  /-- Text outside literals and comments. -/
  | code
  /-- A literal with its marks and escapes; not `terminated` if the text ends before the closing
      mark. -/
  | literal (quote : Quote) (terminated : Bool)
  /-- A block comment with its delimiters; not `terminated` if the text ends before the closing
      one. -/
  | comment (terminated : Bool)
deriving DecidableEq, Repr

namespace SegmentKind

/-- Whether stripping keeps segments of this kind. -/
def isKept : SegmentKind → Bool
  | comment _ => false
  | _ => true

/-- Whether the segment is complete; code always is. -/
def isTerminated : SegmentKind → Bool
  | code => true
  | literal _ terminated => terminated
  | comment terminated => terminated

theorem isKept_eq_false_iff {kind : SegmentKind} :
    kind.isKept = false ↔ ∃ terminated, kind = comment terminated := by
  cases kind <;> simp [isKept]

end SegmentKind

/-! ## Pieces and segments -/

/-- A part of a row of symbols, with its kind. -/
structure Piece (α : Type) where
  kind : SegmentKind
  symbols : List α
deriving DecidableEq, Repr

/-- A classified byte range `start ≤ i < stop` of the scanned text. -/
structure Segment where
  kind : SegmentKind
  start : Nat
  stop : Nat
deriving DecidableEq, Repr

namespace Segment

/-- How many bytes the segment covers. -/
def length (s : Segment) : Nat := s.stop - s.start

/-- The slice of `input` at the segment's range; `input` is the scanned text, so both ends lie
    between characters. -/
def text (s : Segment) (input : String) : String :=
  String.Pos.Raw.extract input ⟨s.start⟩ ⟨s.stop⟩

/-- The same segment `n` bytes further on. -/
def shift (n : Nat) (s : Segment) : Segment := { s with start := n + s.start, stop := n + s.stop }

end Segment

end Uncomment
