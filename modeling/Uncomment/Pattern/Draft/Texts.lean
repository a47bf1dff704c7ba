import Uncomment.Pattern.Draft

/-!
# Alternative texts as parts of automata

Alternatives that are all texts are read together as long as they agree. Where one of them ends, the
ways that were open by then are closed: the alternatives behind it open ways of their own, so that
the order of preference is kept.
-/

namespace Uncomment.Pattern

/-! ## Texts with common beginnings -/

/-- The ways that lead from a place between texts, each by a byte to another place. -/
abbrev Ways := List (UInt8 × Nat)

/-- A place between texts that begin alike: the ways that are open, and those that were closed when
    a text ended here, last first. -/
structure Fork where
  closed : List Ways := []
  ways : Ways := []
deriving DecidableEq, Repr

namespace Fork

/-- Whether no text goes on behind a place, at which at most one text ends. -/
def isLeaf : Fork → Bool
  | ⟨[], []⟩ | ⟨[[]], []⟩ => true
  | _ => false

/-- Closes the ways from a place, where a text ends. At a place without ways this is done once. -/
def close : Fork → Fork
  | ⟨[[]], []⟩ => ⟨[[]], []⟩
  | ⟨closed, ways⟩ => ⟨ways :: closed, []⟩

/-- Opens a way from a place. -/
def openWay (b : UInt8) (target : Nat) (f : Fork) : Fork := { f with ways := (b, target) :: f.ways }

end Fork

/-- Adds a text to others that begin at a place. A place has a lower number than those behind it. -/
def descend (forks : Array Fork) (place : Nat) : Bytes → Array Fork
  | [] => forks.modify place Fork.close
  | b :: bs =>
    match forks[place]?.bind (·.ways.lookup b) with
    | some next => descend forks next bs
    | none =>
      let next := forks.size
      descend ((forks.modify place (Fork.openWay b next)).push {}) next bs

/-- The places between some texts; all of them begin at place 0. -/
def forksOf (texts : List Bytes) : Array Fork :=
  texts.foldl (fun forks text => descend forks 0 text) #[{}]

/-! ## States -/

namespace Build

/-- Adds the state of some ways, where the states of the places behind are known. -/
def addWays (starts : Array Nat) (ways : Ways) : Build (List Nat) := do
  match ways.map fun (b, place) => (⟨⟨b, b⟩, starts.getD place 0⟩ : Link) with
  | [] => pure []
  | [l] => pure [← add (.link l)]
  | ls => pure [← add (.links ls)]

/-- Adds the states of a place: one for the ways that are open or were closed together, and the
    choice between them and `stop`. -/
def addFork (stop : Nat) (starts : Array Nat) (f : Fork) : Build Nat := do
  let targets ← f.closed.foldrM (fun ways targets => do
    let added ← addWays starts ways
    pure (stop :: added ++ targets)) []
  let added ← addWays starts f.ways
  add (.choice (added ++ targets))

/-- The part that reads one of some texts. -/
def ofTexts (texts : List Bytes) : Build Part := do
  let stop ← add (.pass 0)
  let forks := forksOf texts
  let starts ← forks.zipIdx.foldrM (fun (f, place) starts => do
    if f.isLeaf then pure starts
    else
      let start ← addFork stop starts f
      pure (starts.setIfInBounds place start)) (Array.replicate forks.size stop)
  pure ⟨starts.getD 0 stop, stop⟩

end Build

end Uncomment.Pattern
