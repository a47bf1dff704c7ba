/-!
# Faults of a pattern

A pattern that cannot be used is answered by the first fault in it: what is wrong, and the part of
the pattern that it is about. The report shows the pattern with that part marked from below.
-/

namespace Uncomment.Pattern

/-! ## Parts of a pattern -/

/-- A part of a pattern, by the numbers of characters before its start and before its end. -/
structure Span where
  start : Nat
  stop : Nat
deriving DecidableEq, Repr

/-! ## Causes -/

/-- What can be wrong with a pattern. -/
inductive Cause where
  | classEscapeInvalid
  | classRangeInvalid
  | classRangeLiteral
  | classUnclosed
  | decimalInvalid
  | hexEmpty
  | hexInvalid
  | hexInvalidDigit
  | escapeUnexpectedEnd
  | escapeUnrecognized
  | flagDanglingNegation
  | flagDuplicate
  | flagRepeatedNegation
  | flagUnexpectedEnd
  | flagUnrecognized
  | groupNameDuplicate
  | groupNameEmpty
  | groupNameInvalid
  | groupNameUnexpectedEnd
  | groupUnclosed
  | groupUnopened
  | nestedTooDeep (limit : Nat)
  | repetitionCountInvalid
  | repetitionCountEmpty
  | repetitionCountUnclosed
  | repetitionMissing
  | wordBoundaryUnclosed
  | wordBoundaryUnrecognized
  | wordBoundaryUnexpectedEnd
  | propertyInvalid
  | backreference
  | lookAround
  /-- A character that is not ASCII where only bytes count. -/
  | notAscii
  /-- A part that could match a piece of a character. -/
  | brokenUtf8
  | propertyUnknown
  | propertyValueUnknown
  /-- A shorthand class of all characters, for which there is no table. -/
  | shorthandUnavailable
  /-- Upper and lower case of all characters, for which there is no table. -/
  | caseUnavailable
deriving DecidableEq, Repr

/-- The cause in words. -/
def Cause.message : Cause → String
  | classEscapeInvalid => "invalid escape sequence found in character class"
  | classRangeInvalid => "invalid character class range, the start must be <= the end"
  | classRangeLiteral => "invalid range boundary, must be a literal"
  | classUnclosed => "unclosed character class"
  | decimalInvalid => "decimal literal invalid"
  | hexEmpty => "hexadecimal literal empty"
  | hexInvalid => "hexadecimal literal is not a Unicode scalar value"
  | hexInvalidDigit => "invalid hexadecimal digit"
  | escapeUnexpectedEnd => "incomplete escape sequence, reached end of pattern prematurely"
  | escapeUnrecognized => "unrecognized escape sequence"
  | flagDanglingNegation => "dangling flag negation operator"
  | flagDuplicate => "duplicate flag"
  | flagRepeatedNegation => "flag negation operator repeated"
  | flagUnexpectedEnd => "expected flag but got end of regex"
  | flagUnrecognized => "unrecognized flag"
  | groupNameDuplicate => "duplicate capture group name"
  | groupNameEmpty => "empty capture group name"
  | groupNameInvalid => "invalid capture group character"
  | groupNameUnexpectedEnd => "unclosed capture group name"
  | groupUnclosed => "unclosed group"
  | groupUnopened => "unopened group"
  | nestedTooDeep limit =>
    s!"exceed the maximum number of nested parentheses/brackets ({limit})"
  | repetitionCountInvalid =>
    "invalid repetition count range, the start must be <= the end"
  | repetitionCountEmpty => "repetition quantifier expects a valid decimal"
  | repetitionCountUnclosed => "unclosed counted repetition"
  | repetitionMissing => "repetition operator missing expression"
  | wordBoundaryUnclosed =>
    "special word boundary assertion is either unclosed or contains an invalid character"
  | wordBoundaryUnrecognized =>
    "unrecognized special word boundary assertion, " ++
      "valid choices are: start, end, start-half or end-half"
  | wordBoundaryUnexpectedEnd =>
    "found either the beginning of a special word boundary or a bounded repetition on a \\b " ++
      "with an opening brace, but no closing brace"
  | propertyInvalid => "invalid Unicode character class"
  | backreference => "backreferences are not supported"
  | lookAround => "look-around, including look-ahead and look-behind, is not supported"
  | notAscii => "Unicode not allowed here"
  | brokenUtf8 => "pattern can match invalid UTF-8"
  | propertyUnknown => "Unicode property not found"
  | propertyValueUnknown => "Unicode property value not found"
  | shorthandUnavailable =>
    "Unicode-aware Perl class not found (make sure the unicode-perl feature is enabled)"
  | caseUnavailable =>
    "Unicode-aware case insensitivity matching is not available " ++
      "(make sure the unicode-case feature is enabled)"

/-- A fault in a pattern. -/
structure Fault where
  cause : Cause
  span : Span
  /-- The part of the pattern that the faulty one repeats. -/
  first : Option Span := none
deriving DecidableEq, Repr

/-- Fails for a cause, between two places of the pattern. -/
def fail {α : Type} (cause : Cause) (start stop : Nat) : Except Fault α :=
  .error { cause := cause, span := ⟨start, stop⟩ }

/-! ## Reports -/

/-- The line of a place in a text and the column in that line, both from 0. -/
def lineColumn (text : List Char) (place : Nat) : Nat × Nat :=
  let before := text.take place
  (before.count '\n', (before.reverse.takeWhile (· ≠ '\n')).length)

/-- The lines of a text. A line ends with LF or CR LF; a text that ends with one has no line
    behind it. -/
def lines (text : List Char) : List (List Char) :=
  go [] [] text
where
  /-- The lines behind others and behind the beginning of one, all in reverse. -/
  go (done : List (List Char)) (line : List Char) : List Char → List (List Char)
    | [] => (if line.isEmpty then done else line.reverse :: done).reverse
    | '\n' :: rest =>
      let line := if line.head? = some '\r' then line.tail else line
      go (line.reverse :: done) [] rest
    | c :: rest => go done (c :: line) rest

/-- Marks below a line: from column to column, in the order of the parts; a part without length
    has one mark. -/
def marks : List (Nat × Nat) → String :=
  go 0
where
  go (column : Nat) : List (Nat × Nat) → String
    | [] => ""
    | (start, stop) :: rest =>
      let width := max 1 (stop - start)
      String.ofList (List.replicate (start - column) ' ' ++ List.replicate width '^') ++
        go (max column start + width) rest

namespace Fault

/-- The parts that a fault is about, in the order in which they stand. -/
def spans (f : Fault) : List Span :=
  match f.first with
  | none => [f.span]
  | some s => if s.start ≤ f.span.start then [s, f.span] else [f.span, s]

/-- The width of the line numbers of a report. -/
def numberWidth (text : List Char) : Nat :=
  let count := (lines text).length + if text.getLast? = some '\n' then 1 else 0
  if count ≤ 1 then 0 else (toString count).length

/-- What stands before a line in a report. -/
def margin (width number : Nat) : String :=
  if width = 0 then "    "
  else
    let digits := toString number
    String.ofList (List.replicate (width - digits.length) ' ') ++ digits ++ ": "

/-- The lines of the pattern, numbered if there are more than one, with marks below. -/
def listing (text : List Char) (spans : List Span) : String :=
  let width := numberWidth text
  let indent := String.ofList (List.replicate (if width = 0 then 4 else width + 2) ' ')
  let ends := spans.map fun s => (lineColumn text s.start, lineColumn text s.stop)
  String.join <| (lines text).mapIdx fun i line =>
    let here := ends.filterMap fun ((first, start), (last, stop)) =>
      if first = i ∧ last = i then some (start, stop) else none
    margin width (i + 1) ++ String.ofList line ++ "\n" ++
      if here.isEmpty then "" else indent ++ marks here ++ "\n"

/-- Where a part goes over more than one line. -/
def extent? (text : List Char) (s : Span) : Option String :=
  let (first, start) := lineColumn text s.start
  let (last, stop) := lineColumn text s.stop
  if first = last then none
  else
    some (s!"on line {first + 1} (column {start + 1}) " ++
      s!"through line {last + 1} (column {stop})")

/-- The report of a fault in a pattern. A pattern of several lines stands between rules, and parts
    that go over more than one line are described instead of marked. -/
def report (pattern : String) (f : Fault) : String :=
  let text := pattern.toList
  if text.contains '\n' then
    let rule := String.ofList (List.replicate 79 '~') ++ "\n"
    let extents := f.spans.filterMap (extent? text)
    "regex parse error:\n" ++ rule ++ listing text f.spans ++ rule ++
      (if extents.isEmpty then "" else String.intercalate "\n" extents ++ "\n") ++
      "error: " ++ f.cause.message
  else "regex parse error:\n" ++ listing text f.spans ++ "error: " ++ f.cause.message

end Fault

end Uncomment.Pattern
