import Uncomment.Pattern.Draft.Sets
import Uncomment.Pattern.Draft.Texts
import Uncomment.Pattern.Expression

/-!
# Expressions as automata

Every expression becomes a part of an automaton; repetitions are written out. The whole automaton
begins with a loop over all bytes, unless the expression can only be found at the start of the text.
An automaton can be built for reading forward or backward; for the latter the expression is
reversed, and captures are of no account.
-/

namespace Uncomment.Pattern

/-- Which way a text is read. -/
inductive Direction where
  | forward | backward
deriving DecidableEq, Repr

namespace Direction

/-- Brings what is written forward into the order in which it is read. -/
def order {α : Type} : Direction → List α → List α
  | forward, as => as
  | backward, as => as.reverse

/-- The bytes of characters that are given in the order in which they are read. -/
def bytes (d : Direction) (cs : List Char) : Bytes :=
  cs.flatMap fun c => d.order (String.utf8EncodeChar c)

end Direction

namespace Build

/-! ## Texts and sets -/

/-- The part that reads some bytes, behind a part. -/
def appendBytes (a : Part) : Bytes → Build Part
  | [] => pure a
  | b :: bs => do
    let next ← single (.link ⟨⟨b, b⟩, 0⟩)
    appendBytes (← append a next) bs

/-- The part that reads some bytes. -/
def ofBytes : Bytes → Build Part
  | [] => pass
  | b :: bs => do appendBytes (← single (.link ⟨⟨b, b⟩, 0⟩)) bs

/-- The part that reads a character of a set. -/
def ofSet (d : Direction) (s : CharSet) : Build Part :=
  if s.isAscii then ofAscii s
  else
    match d with
    | .forward => ofSetForward s
    | .backward => ofSetBackward s

/-! ## Repetitions -/

/-- So many copies of a part behind a part. -/
def appendCopies (one : Build Part) (a : Part) : Nat → Build Part
  | 0 => pure a
  | n + 1 => do
    let next ← one
    appendCopies one (← append a next) n

/-- So many copies of a part, one after the other. -/
def copies (one : Build Part) : Nat → Build Part
  | 0 => pass
  | n + 1 => do appendCopies one (← one) n

/-- A part or nothing. -/
def optional (one : Build Part) : Build Part := do
  let start ← choice
  let inner ← one
  let stop ← add (.pass 0)
  link start inner.start
  link start stop
  link inner.stop stop
  pure ⟨start, stop⟩

/-- A part any number of times, where each time takes at least a byte. -/
def loop (one : Build Part) : Build Part := do
  let start ← choice
  let inner ← one
  link start inner.start
  link inner.stop start
  pure ⟨start, start⟩

/-- A part any number of times, each of which may be empty. -/
def carefulLoop (one : Build Part) : Build Part := do
  let inner ← one
  let again ← choice
  link inner.stop again
  link again inner.start
  let start ← choice
  let stop ← add (.pass 0)
  link start inner.start
  link start stop
  link again stop
  pure ⟨start, stop⟩

/-- A part at least so many times. -/
def atLeast (one : Build Part) (certain : Bool) : Nat → Build Part
  | 0 => if certain then loop one else carefulLoop one
  | 1 => do
    let inner ← one
    let again ← choice
    link inner.stop again
    link again inner.start
    pure ⟨inner.start, again⟩
  | n + 1 => do
    let front ← copies one n
    let last ← one
    let again ← choice
    link front.stop last.start
    link last.stop again
    link again last.start
    pure ⟨front.start, again⟩

/-- So many further times of a part behind a state, each of which may be the last one before
    `stop`; answers the state behind them. -/
def furtherTimes (one : Build Part) (stop : Nat) (behind : Nat) : Nat → Build Nat
  | 0 => pure behind
  | n + 1 => do
    let start ← choice
    let inner ← one
    link behind start
    link start inner.start
    link start stop
    furtherTimes one stop inner.stop n

/-- A part at least and at most so many times. -/
def atMost (one : Build Part) (least most : Nat) : Build Part := do
  let front ← copies one least
  if most ≤ least then pure front
  else
    let stop ← add (.pass 0)
    let behind ← furtherTimes one stop front.stop (most - least)
    link behind stop
    pure ⟨front.start, stop⟩

/-- A part so often; whether it is certain to take a byte each time makes for a simpler loop. -/
def times (one : Build Part) (certain : Bool) : Nat → Option Nat → Build Part
  | 0, some 1 => optional one
  | least, none => atLeast one certain least
  | least, some most => atMost one least most

/-! ## Captures and alternatives -/

/-- A part between two states that would take down where it begins and ends. -/
def captured (d : Direction) (one : Build Part) : Build Part :=
  match d with
  | .backward => one
  | .forward => do
    let start ← add (.pass 0)
    let inner ← one
    let stop ← add (.pass 0)
    link start inner.start
    link inner.stop stop
    pure ⟨start, stop⟩

/-- Leads from a choice to a part, and from there to `stop`. -/
def offer (start stop : Nat) (p : Part) : Build Unit := do
  link start p.start
  link p.stop stop

/-! ## Expressions -/

mutual

/-- The part for an expression. -/
def part (d : Direction) : Expression → Build Part
  | .empty => pass
  | .text cs => ofBytes (d.bytes cs)
  | .set s _ => ofSet d s
  | .condition c => single (.condition c 0)
  | .sequence [] => pass
  | .sequence (e :: es) => do appendParts d (← part d e) es
  | .alternatives es => alternatives d es
  | .repeated e least most _ => times (part d e) ((e.shortest?).any (0 < ·)) least most
  | .captured e _ => captured d (part d e)

/-- The parts for expressions, one after the other, behind a part. -/
def appendParts (d : Direction) (a : Part) : List Expression → Build Part
  | [] => pure a
  | e :: es => do
    let next ← part d e
    appendParts d (← append a next) es

/-- The part for alternatives. -/
def alternatives (d : Direction) : List Expression → Build Part
  | [] => ofAscii {}
  | [e] => part d e
  | e₁ :: e₂ :: es =>
    let texts := (e₁ :: e₂ :: es).filterMap Expression.text?
    if texts.length = es.length + 2 then ofTexts (texts.map d.bytes)
    else do
      let first ← part d e₁
      let second ← part d e₂
      let start ← choice
      let stop ← add (.pass 0)
      offer start stop first
      offer start stop second
      offerParts d start stop es
      pure ⟨start, stop⟩

/-- The parts for further alternatives between a choice and a state. -/
def offerParts (d : Direction) (start stop : Nat) : List Expression → Build Unit
  | [] => pure ()
  | e :: es => do
    let p ← part d e
    offer start stop p
    offerParts d start stop es

end

/-- The part in front of an expression: none at the start of the text, else any bytes. -/
def front (anchored : Bool) : Build Part :=
  if anchored then pass else loop (ofByteRanges [⟨0, 0xFF⟩])

/-- The whole automaton for an expression in reading order; answers the state where it starts. -/
def whole (d : Direction) (e : Expression) : Build Nat := do
  let front ← front (e.opensWith .textStart)
  let body ← captured d (part d e)
  let accepting ← add .accept
  link body.stop accepting
  link front.stop body.start
  pure front.start

end Build

/-- The automaton for an expression, if it keeps to the limit. -/
def Automaton.ofExpression? (d : Direction) (e : Expression) : Option Automaton :=
  let e := match d with
    | .forward => e
    | .backward => e.reversed
  (Build.whole d e {}).map fun (start, draft) => ⟨draft.states, start⟩

end Uncomment.Pattern
