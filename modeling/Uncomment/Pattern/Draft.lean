import Uncomment.Pattern.Automaton

/-!
# Drafts of automata

An automaton is built state by state. Every state takes room, and so does every target of a choice;
a draft never takes more than the limit, so a pattern that would need more is not built at all.
-/

namespace Uncomment.Pattern

/-- How many bytes the states of an automaton may take. -/
def sizeLimit : Nat := 10 * 1024 * 1024

/-- How many bytes a state takes: its own, and those of what it holds more than one of. -/
def State.size : State → Nat
  | links ls => 32 + 8 * ls.length
  | choice targets => 32 + 4 * targets.length
  | _ => 32

/-- The states of an automaton that is being built, and how many bytes they take. -/
structure Draft where
  states : Array State := #[]
  size : Nat := 0
  size_le : size ≤ sizeLimit := by decide
deriving DecidableEq, Repr

/-- A step of building, which fails where the limit would be passed. -/
abbrev Build := StateT Draft Option

/-- A part of an automaton: the state where it begins, and the one that leads on from it. -/
structure Part where
  start : Nat
  stop : Nat
deriving DecidableEq, Repr

namespace Build

/-- Adds a state and answers its number. -/
def add (s : State) : Build Nat := fun ⟨states, size, _⟩ =>
  if h : size + s.size ≤ sizeLimit then some (states.size, ⟨states.push s, size + s.size, h⟩)
  else none

/-- A state with a further target: a choice has it beside the others, any other state in place of
    its own. -/
def retarget (target : Nat) : State → State
  | .pass _ => .pass target
  | .condition c _ => .condition c target
  | .link l => .link { l with target }
  | .choice targets => .choice (target :: targets)
  | s => s

/-- Leads from a state to another one. -/
def link (source target : Nat) : Build Unit := fun ⟨states, size, h⟩ =>
  match states[source]? with
  | some (.choice _) =>
    if h : size + 4 ≤ sizeLimit then
      some ((), ⟨states.modify source (retarget target), size + 4, h⟩)
    else none
  | _ => some ((), ⟨states.modify source (retarget target), size, h⟩)

/-- Adds a state that is a part by itself. -/
def single (s : State) : Build Part := do
  let i ← add s
  pure ⟨i, i⟩

/-- The part that describes the empty text. -/
def pass : Build Part := single (.pass 0)

/-- A choice that is yet to be filled. -/
def choice : Build Nat := add (.choice [])

/-- Puts a part behind another one. -/
def append (a b : Part) : Build Part := do
  link a.stop b.start
  pure ⟨a.start, b.stop⟩

end Build

end Uncomment.Pattern
