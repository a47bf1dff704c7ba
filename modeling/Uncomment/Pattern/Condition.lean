/-!
# Conditions on a place

A pattern can ask for the start or the end of the text or of a line, and for the edges of words. All
of this is decided by the bytes beside a place. No condition holds inside a character.

Results:
* `reversed_reversed`: a condition reversed twice is the condition itself.
-/

namespace Uncomment.Pattern

/-! ## Places -/

/-- A place in a text: the bytes before and behind it. -/
structure Gap where
  before : Option UInt8
  behind : Option UInt8
deriving DecidableEq, Repr

namespace Gap

/-- Whether a byte continues a character. -/
def isContinuation (b : UInt8) : Bool := 0x80 ≤ b && b < 0xC0

/-- Whether a place is not inside a character. -/
def isBetweenChars (g : Gap) : Bool := !g.behind.any isContinuation

end Gap

/-! ## Conditions -/

/-- What can be asked about words at a place. -/
inductive WordCondition where
  | boundary | noBoundary | start | stop | startHalf | stopHalf
deriving DecidableEq, Repr

/-- A condition on a place. -/
inductive Condition where
  | textStart | textEnd
  /-- At the start of the text or behind LF. -/
  | lineStart
  /-- At the end of the text or before LF. -/
  | lineEnd
  /-- As `lineStart`, where CR ends a line too, but not inside CR LF. -/
  | lineStartCrlf
  /-- As `lineEnd`, where CR ends a line too, but not inside CR LF. -/
  | lineEndCrlf
  /-- About words of ASCII. -/
  | word (w : WordCondition)
  /-- About words of all scripts. For lack of a table such a condition holds nowhere, and a pattern
      with one is not used. -/
  | unicodeWord (w : WordCondition)
deriving DecidableEq, Repr

/-- The bytes LF and CR. -/
def lf : UInt8 := 0x0A

@[inherit_doc lf]
def cr : UInt8 := 0x0D

/-- The byte of a letter, digit or underscore of ASCII. -/
def isWordByte (b : UInt8) : Bool :=
  0x30 ≤ b && b ≤ 0x39 || 0x41 ≤ b && b ≤ 0x5A || b = 0x5F || 0x61 ≤ b && b ≤ 0x7A

/-- Whether a condition on words holds, by whether a word is before and behind the place. -/
def WordCondition.holds (before behind : Bool) : WordCondition → Bool
  | boundary => before ≠ behind
  | noBoundary => before = behind
  | start => !before && behind
  | stop => before && !behind
  | startHalf => !before
  | stopHalf => !behind

/-- The condition on words that takes its place where a text is read backward. -/
def WordCondition.reversed : WordCondition → WordCondition
  | boundary => boundary
  | noBoundary => noBoundary
  | start => stop
  | stop => start
  | startHalf => stopHalf
  | stopHalf => startHalf

namespace Condition

/-- Whether a condition holds at a place between characters. -/
def holds (g : Gap) : Condition → Bool
  | textStart => g.before.isNone
  | textEnd => g.behind.isNone
  | lineStart => g.before.all (· = lf)
  | lineEnd => g.behind.all (· = lf)
  | lineStartCrlf => g.before.all fun b => b = lf || b = cr && g.behind ≠ some lf
  | lineEndCrlf => g.behind.all fun b => b = cr || b = lf && g.before ≠ some cr
  | word w => w.holds (g.before.any isWordByte) (g.behind.any isWordByte)
  | unicodeWord _ => false

/-- The condition that takes its place where a text is read backward. -/
def reversed : Condition → Condition
  | textStart => textEnd
  | textEnd => textStart
  | lineStart => lineEnd
  | lineEnd => lineStart
  | lineStartCrlf => lineEndCrlf
  | lineEndCrlf => lineStartCrlf
  | word w => word w.reversed
  | unicodeWord w => unicodeWord w.reversed

@[simp] theorem reversed_reversed (c : Condition) : c.reversed.reversed = c := by
  cases c with
  | word w | unicodeWord w => cases w <;> rfl
  | _ => rfl

end Condition

end Uncomment.Pattern
