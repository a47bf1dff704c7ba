import Uncomment.Pattern.Condition
import Uncomment.Text.Bytes

/-!
# Automata

An automaton reads a text byte by byte and is in several states at a time. States that need no byte
are left at once; the others wait for a byte of theirs. A text is accepted as soon as an accepting
state is reached, so what is in front of a match must be read by the automaton itself.
-/

namespace Uncomment.Pattern

/-! ## States -/

/-- The bytes from one to another, both included. -/
structure ByteRange where
  first : UInt8
  last : UInt8
deriving DecidableEq, Repr

/-- Membership. -/
def ByteRange.contains (r : ByteRange) (b : UInt8) : Bool := r.first ≤ b && b ≤ r.last

/-- A way that a byte opens to another state. -/
structure Link where
  range : ByteRange
  target : Nat
deriving DecidableEq, Repr

/-- A state of an automaton; states are known by their numbers. -/
inductive State where
  /-- Goes on without a byte. -/
  | pass (target : Nat)
  /-- Goes on without a byte where a condition holds. -/
  | condition (c : Condition) (target : Nat)
  /-- Goes on behind a byte of a range. -/
  | link (l : Link)
  /-- Goes on by the first of some ways that a byte opens. -/
  | links (ls : List Link)
  /-- Goes on without a byte to several states. -/
  | choice (targets : List Nat)
  | accept
deriving DecidableEq, Repr

/-- How many ways without a byte lead out of a state. -/
def State.wayCount : State → Nat
  | pass _ | condition _ _ => 1
  | link _ | links _ | accept => 0
  | choice targets => targets.length

/-- An automaton: its states, and the number of the one where it starts. -/
structure Automaton where
  states : Array State
  start : Nat
deriving DecidableEq, Repr

namespace Automaton

/-! ## Reading -/

/-- The state that a byte leads to by the first of some ways that is open to it. -/
def targetOf? (ls : List Link) (b : Option UInt8) : Option Nat :=
  b.bind fun b => (ls.find? (·.range.contains b)).map Link.target

/-- Visits states at a place and all that are reached from them without a byte, none twice: `marks`
    holds for each state the last round in which it was visited. Answers `none` if an accepting
    state is among them, else the marks and the states that the byte behind the place leads to. The
    first number bounds the visits. -/
def visit (a : Automaton) (g : Gap) (round : Nat) :
    Nat → List Nat → Array Nat → List Nat → Option (Array Nat × List Nat)
  | 0, _, marks, behind => some (marks, behind)
  | _ + 1, [], marks, behind => some (marks, behind)
  | fuel + 1, i :: todo, marks, behind =>
    if marks.getD i 0 = round then visit a g round fuel todo marks behind
    else
      let marks := marks.setIfInBounds i round
      match a.states[i]? with
      | none => visit a g round fuel todo marks behind
      | some (.pass target) => visit a g round fuel (target :: todo) marks behind
      | some (.condition c target) =>
        if g.isBetweenChars && c.holds g then visit a g round fuel (target :: todo) marks behind
        else visit a g round fuel todo marks behind
      | some (.link l) =>
        visit a g round fuel todo marks ((targetOf? [l] g.behind).toList ++ behind)
      | some (.links ls) =>
        visit a g round fuel todo marks ((targetOf? ls g.behind).toList ++ behind)
      | some (.choice targets) => visit a g round fuel (targets ++ todo) marks behind
      | some .accept => none

/-- Reads a text behind a byte, in the states of `todo`; `ways` is the number of ways without a
    byte in the whole automaton. -/
def acceptsFrom (a : Automaton) (ways : Nat) (before : Option UInt8) (round : Nat)
    (todo : List Nat) (marks : Array Nat) : Bytes → Bool
  | [] => (a.visit ⟨before, none⟩ round (todo.length + ways + 1) todo marks []).isNone
  | b :: bs =>
    match a.visit ⟨before, some b⟩ round (todo.length + ways + 1) todo marks [] with
    | none => true
    | some (marks, behind) => a.acceptsFrom ways (some b) (round + 1) behind marks bs

/-- Whether an automaton comes to accept while it reads a text. -/
def occursIn (a : Automaton) (text : Bytes) : Bool :=
  let ways := a.states.foldl (fun n s => n + s.wayCount) 0
  a.acceptsFrom ways none 1 [a.start] (Array.replicate a.states.size 0) text

end Automaton

end Uncomment.Pattern
