import Uncomment.Pattern.Draft.Parts
import Uncomment.Pattern.Meaning
import Uncomment.Pattern.Needles
import Uncomment.Pattern.Reader

/-!
# Patterns

A pattern is written in the usual language of regular expressions and is looked for anywhere in a
text, by an automaton that must not become too large in either direction of reading. A pattern that
means only a few texts can be looked for by these if its automaton is too large.

Results:
* `occursIn_texts`: a pattern of some texts occurs where one of these stands in the text.
-/

namespace Uncomment

/-- A pattern that can be looked for. -/
inductive Pattern where
  /-- One of some texts. -/
  | texts (ts : List Bytes)
  /-- What an automaton accepts. -/
  | automaton (a : Pattern.Automaton)
deriving DecidableEq, Repr

namespace Pattern

/-- Why a pattern cannot be used. -/
inductive Refusal where
  /-- It has a fault. -/
  | fault (pattern : String) (f : Fault)
  /-- Its automaton would be too large. -/
  | tooLarge
  /-- It asks about words of all scripts, for which there is no table. -/
  | noWords
deriving DecidableEq, Repr

/-- The refusal in words. -/
def Refusal.message : Refusal → String
  | fault pattern f => f.report pattern
  | tooLarge => s!"Compiled regex exceeds size limit of {sizeLimit} bytes."
  | noWords => "error building NFA"

/-- The pattern that looks for the texts that an expression means, where they are few. -/
def ofFewTexts (e : Expression) : Except Refusal Pattern :=
  match e.texts? with
  | some ts => .ok (.texts ts)
  | none => .error .tooLarge

/-- The pattern that looks for an expression. Of the automata for both directions of reading the one
    for reading backward only has to keep to the limit. -/
def ofExpression (e : Expression) : Except Refusal Pattern :=
  match Automaton.ofExpression? .forward e with
  | none => ofFewTexts e
  | some a =>
    if e.asksUnicodeWords then .error .noWords
    else if (Automaton.ofExpression? .backward e).isNone then ofFewTexts e
    else .ok (.automaton a)

/-- The pattern that a text describes. -/
def ofString (pattern : String) : Except Refusal Pattern :=
  match readTree pattern.toList >>= Tree.meaning {} with
  | .error f => .error (.fault pattern f)
  | .ok (e, _) => ofExpression e

/-- Whether a pattern occurs in a text. -/
def occursIn (p : Pattern) (text : String) : Bool :=
  match p with
  | texts ts => ts.any (isPartOf · (Text.bytes text))
  | automaton a => a.occursIn (Text.bytes text)

theorem occursIn_texts (ts : List Bytes) (text : String) :
    (texts ts).occursIn text = true ↔ ∃ t ∈ ts, t <:+: Text.bytes text := by
  simp [occursIn, isPartOf_iff]

end Pattern

end Uncomment
