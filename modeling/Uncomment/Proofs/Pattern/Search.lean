import Mathlib.Algebra.BigOperators.Fin
import Mathlib.Algebra.Order.BigOperators.Group.Finset
import Mathlib.Logic.Relation
import Uncomment.Pattern

/-!
# What a search by an automaton finds

At each place of a text the search visits the states that are reached without a byte, depth first
and none twice, and goes on behind the next byte from the states that this byte leads to. What it is
to find is said without marks and bounds: `Accepts` follows the ways of an automaton one by one.

Results:
* `visit_spec`: at a place the search stops where an accepting state is reached without a byte, and
  else answers the states that the next byte leads to; the bound on the visits is never met.
* `occursIn_iff_accepts`: the search answers whether an automaton accepts a text from the state
  where it starts.
* `occursIn_automaton`: so does a pattern, for the bytes of a text.
-/

namespace Uncomment.Pattern

/-! ## Specification -/

/-- The states that a state leads to at a place without a byte. -/
def State.onward (g : Gap) : State → List Nat
  | pass target => [target]
  | condition c target => if g.isBetweenChars && c.holds g then [target] else []
  | choice targets => targets
  | link _ | links _ | accept => []

/-- The states that a state leads to by the byte behind a place. -/
def State.behind (g : Gap) : State → List Nat
  | link l => (Automaton.targetOf? [l] g.behind).toList
  | links ls => (Automaton.targetOf? ls g.behind).toList
  | pass _ | condition _ _ | choice _ | accept => []

theorem State.length_onward_le (g : Gap) (s : State) : (s.onward g).length ≤ s.wayCount := by
  cases s with
  | condition c target =>
    rw [onward, wayCount]
    split <;> simp
  | _ => simp [onward, wayCount]

namespace Automaton

variable {a : Automaton} {g : Gap}

/-- The states that the state of a number leads to without a byte. -/
def onward (a : Automaton) (g : Gap) (i : Nat) : List Nat :=
  (a.states[i]?.map (State.onward g)).getD []

/-- The states that the state of a number leads to by the byte behind a place. -/
def behind (a : Automaton) (g : Gap) (i : Nat) : List Nat :=
  (a.states[i]?.map (State.behind g)).getD []

theorem onward_eq_nil {i : Nat} (h : a.states[i]? = none) : a.onward g i = [] := by
  simp [onward, h]

theorem behind_eq_nil {i : Nat} (h : a.states[i]? = none) : a.behind g i = [] := by
  simp [behind, h]

/-- Whether the state of a number is accepting. -/
def IsAccepting (a : Automaton) (i : Nat) : Prop := a.states[i]? = some .accept

instance (a : Automaton) (i : Nat) : Decidable (a.IsAccepting i) :=
  inferInstanceAs (Decidable (a.states[i]? = some .accept))

/-- Whether an automaton comes to accept from a state, behind a byte and in front of a text. -/
inductive Accepts (a : Automaton) : Option UInt8 → Nat → Bytes → Prop where
  | here {before : Option UInt8} {i : Nat} {text : Bytes} (h : a.IsAccepting i) :
      Accepts a before i text
  | onward {before : Option UInt8} {i j : Nat} {text : Bytes}
      (way : j ∈ a.onward ⟨before, text.head?⟩ i) (h : Accepts a before j text) :
      Accepts a before i text
  | behind {before : Option UInt8} {i j : Nat} {b : UInt8} {bs : Bytes}
      (way : j ∈ a.behind ⟨before, some b⟩ i) (h : Accepts a (some b) j bs) :
      Accepts a before i (b :: bs)

/-! ## States at a place -/

/-- The states that are reached at a place from some states without a byte. -/
def Reached (a : Automaton) (g : Gap) (roots : List Nat) (j : Nat) : Prop :=
  ∃ i ∈ roots, Relation.ReflTransGen (fun i j => j ∈ a.onward g i) i j

theorem Reached.of_mem {roots : List Nat} {i : Nat} (h : i ∈ roots) : a.Reached g roots i :=
  ⟨i, h, .refl⟩

theorem Reached.onward {roots : List Nat} {i j : Nat} (h : a.Reached g roots i)
    (way : j ∈ a.onward g i) : a.Reached g roots j := by
  obtain ⟨root, hroot, reach⟩ := h
  exact ⟨root, hroot, reach.tail way⟩

/-- What holds of the states to begin with, and of those behind a way without a byte, holds of all
    that are reached. -/
theorem Reached.induction {roots : List Nat} {P : Nat → Prop} (start : ∀ i ∈ roots, P i)
    (step : ∀ i, P i → ∀ j ∈ a.onward g i, P j) {j : Nat} (h : a.Reached g roots j) : P j := by
  obtain ⟨root, hroot, reach⟩ := h
  induction reach with
  | refl => exact start root hroot
  | tail _ way ih => exact step _ ih _ way

theorem Accepts.of_reached {before : Option UInt8} {roots : List Nat} {j : Nat} {text : Bytes}
    (reached : a.Reached ⟨before, text.head?⟩ roots j) (h : a.Accepts before j text) :
    ∃ i ∈ roots, a.Accepts before i text := by
  obtain ⟨i, hi, reach⟩ := reached
  refine ⟨i, hi, ?_⟩
  clear hi
  induction reach using Relation.ReflTransGen.head_induction_on with
  | refl => exact h
  | head way _ ih => exact .onward way ih

/-- An automaton that accepts from a state reaches an accepting state without a byte, or one from
    which the next byte leads on. -/
theorem Accepts.exists_reached {before : Option UInt8} {roots : List Nat} {i : Nat} {text : Bytes}
    (hi : i ∈ roots) (h : a.Accepts before i text) :
    ∃ j, a.Reached ⟨before, text.head?⟩ roots j ∧
      (a.IsAccepting j ∨ ∃ b bs, text = b :: bs ∧
        ∃ k ∈ a.behind ⟨before, some b⟩ j, a.Accepts (some b) k bs) := by
  have reached := Reached.of_mem (a := a) (g := ⟨before, text.head?⟩) hi
  clear hi
  induction h with
  | here h => exact ⟨_, reached, .inl h⟩
  | onward way _ ih => exact ih (reached.onward way)
  | behind way h => exact ⟨_, reached, .inr ⟨_, _, rfl, _, way, h⟩⟩

/-! ## One visit -/

/-- Whether a state was visited in a round. -/
def IsMarked (round : Nat) (marks : Array Nat) (i : Nat) : Prop := marks.getD i 0 = round

instance (round : Nat) (marks : Array Nat) (i : Nat) : Decidable (IsMarked round marks i) :=
  inferInstanceAs (Decidable (marks.getD i 0 = round))

theorem isMarked_setIfInBounds {round : Nat} {marks : Array Nat} {i : Nat} (h : i < marks.size)
    (j : Nat) :
    IsMarked round (marks.setIfInBounds i round) j ↔ j = i ∨ IsMarked round marks j := by
  simp only [IsMarked, Array.getD_eq_getD_getElem?, Array.getElem?_setIfInBounds]
  grind

/-- A visit takes the first state: one that was visited is left out, an accepting one ends the
    search, and any other is marked and gives way to those that it leads to. -/
theorem visit_cons {round fuel i : Nat} {todo found : List Nat} {marks : Array Nat} :
    a.visit g round (fuel + 1) (i :: todo) marks found =
      if IsMarked round marks i then a.visit g round fuel todo marks found
      else if a.IsAccepting i then none
      else a.visit g round fuel (a.onward g i ++ todo) (marks.setIfInBounds i round)
        (a.behind g i ++ found) := by
  by_cases marked : marks.getD i 0 = round
  · have : IsMarked round marks i := marked
    rw [visit, if_pos marked, if_pos this]
  · have : ¬ IsMarked round marks i := marked
    rw [visit, if_neg marked, if_neg this]
    cases hs : a.states[i]? with
    | none => simp [IsAccepting, onward_eq_nil hs, behind_eq_nil hs, hs]
    | some s =>
      cases s with
      | condition c target =>
        by_cases holds : (g.isBetweenChars && c.holds g) = true <;>
          simp [IsAccepting, onward, behind, hs, State.onward, State.behind, holds]
      | _ => simp [IsAccepting, onward, behind, hs, State.onward, State.behind]

/-! ## The visits at a place -/

/-- Whether nothing is left to be done for a state: it was visited, or the automaton has none of
    this number. -/
def IsDone (a : Automaton) (round : Nat) (marks : Array Nat) (i : Nat) : Prop :=
  IsMarked round marks i ∨ a.states[i]? = none

/-- What holds while the states that are reached from `roots` are visited: where a visited state
    leads without a byte is yet to be visited or done, and where it leads by the next byte is
    found. -/
structure Visiting (a : Automaton) (g : Gap) (round : Nat) (roots todo : List Nat)
    (marks : Array Nat) (found : List Nat) : Prop where
  size_eq : marks.size = a.states.size
  getD_le : ∀ i, marks.getD i 0 ≤ round
  reached : ∀ i, i ∈ todo ∨ IsMarked round marks i → a.Reached g roots i
  roots_met : ∀ i ∈ roots, i ∈ todo ∨ a.IsDone round marks i
  onward_met : ∀ i, IsMarked round marks i → ∀ j ∈ a.onward g i, j ∈ todo ∨ a.IsDone round marks j
  not_accepting : ∀ i, IsMarked round marks i → ¬ a.IsAccepting i
  mem_found : ∀ k, k ∈ found ↔ ∃ i, IsMarked round marks i ∧ k ∈ a.behind g i

namespace Visiting

variable {round fuel i : Nat} {roots todo found : List Nat} {marks : Array Nat}

theorem start (size_eq : marks.size = a.states.size) (old : ∀ i, marks.getD i 0 < round) :
    Visiting a g round roots roots marks [] := by
  have unmarked (i : Nat) : ¬ IsMarked round marks i := (old i).ne
  exact
    { size_eq
      getD_le := fun i => (old i).le
      reached := fun i h => .of_mem (h.resolve_right (unmarked i))
      roots_met := fun i h => .inl h
      onward_met := fun i h => absurd h (unmarked i)
      not_accepting := fun i h => absurd h (unmarked i)
      mem_found := by simp [unmarked] }

/-- A state that is done can be left out. -/
theorem skip (v : Visiting a g round roots (i :: todo) marks found)
    (done : a.IsDone round marks i) : Visiting a g round roots todo marks found := by
  have met {j : Nat} (h : j ∈ i :: todo ∨ a.IsDone round marks j) :
      j ∈ todo ∨ a.IsDone round marks j := by
    rcases h with h | h
    · rcases List.mem_cons.mp h with rfl | h
      · exact .inr done
      · exact .inl h
    · exact .inr h
  exact
    { v with
      reached := fun j h => v.reached j (h.imp_left (List.mem_cons_of_mem i))
      roots_met := fun j h => met (v.roots_met j h)
      onward_met := fun j h k way => met (v.onward_met j h k way) }

/-- Any other state that does not accept can be marked, where all that it leads to is kept. -/
theorem mark (v : Visiting a g round roots (i :: todo) marks found) (hi : i < marks.size)
    (h : ¬ a.IsAccepting i) :
    Visiting a g round roots (a.onward g i ++ todo) (marks.setIfInBounds i round)
      (a.behind g i ++ found) := by
  have marked (j : Nat) :
      IsMarked round (marks.setIfInBounds i round) j ↔ j = i ∨ IsMarked round marks j :=
    isMarked_setIfInBounds hi j
  have ri : a.Reached g roots i := v.reached i (.inl List.mem_cons_self)
  have met {j : Nat} (h : j ∈ i :: todo ∨ a.IsDone round marks j) :
      j ∈ a.onward g i ++ todo ∨ a.IsDone round (marks.setIfInBounds i round) j := by
    rw [IsDone, marked]
    rw [IsDone] at h
    grind
  exact
    { size_eq := by rw [Array.size_setIfInBounds, v.size_eq]
      getD_le := fun j => by
        have := v.getD_le j
        simp only [Array.getD_eq_getD_getElem?, Array.getElem?_setIfInBounds] at this ⊢
        grind
      reached := fun j h => by
        rw [List.mem_append, marked] at h
        rcases h with (way | h) | (rfl | h)
        · exact ri.onward way
        · exact v.reached j (.inl (List.mem_cons_of_mem i h))
        · exact ri
        · exact v.reached j (.inr h)
      roots_met := fun j h => met (v.roots_met j h)
      onward_met := fun j h k way => by
        rcases (marked j).mp h with rfl | h
        · exact .inl (List.mem_append_left todo way)
        · exact met (v.onward_met j h k way)
      not_accepting := fun j hj => by
        rcases (marked j).mp hj with rfl | hj
        · exact h
        · exact v.not_accepting j hj
      mem_found := fun k => by
        simp only [List.mem_append, v.mem_found, marked, or_and_right, exists_or, exists_eq_left] }

/-- When nothing is left to be visited, every state that is reached is done. -/
theorem isDone_of_reached (v : Visiting a g round roots [] marks found) {j : Nat}
    (h : a.Reached g roots j) : a.IsDone round marks j := by
  have met {i : Nat} (h : i ∈ [] ∨ a.IsDone round marks i) : a.IsDone round marks i :=
    h.resolve_left List.not_mem_nil
  refine h.induction (fun i hi => met (v.roots_met i hi)) fun i hi j way => ?_
  rcases hi with hi | hi
  · exact met (v.onward_met i hi j way)
  · simp [onward_eq_nil hi] at way

theorem not_accepting_of_reached (v : Visiting a g round roots [] marks found) {j : Nat}
    (h : a.Reached g roots j) : ¬ a.IsAccepting j := by
  rcases v.isDone_of_reached h with h | h
  · exact v.not_accepting j h
  · simp [IsAccepting, h]

theorem mem_found_iff (v : Visiting a g round roots [] marks found) (k : Nat) :
    k ∈ found ↔ ∃ j, a.Reached g roots j ∧ k ∈ a.behind g j := by
  rw [v.mem_found]
  constructor
  · rintro ⟨j, marked, way⟩
    exact ⟨j, v.reached j (.inr marked), way⟩
  · rintro ⟨j, reached, way⟩
    rcases v.isDone_of_reached reached with h | h
    · exact ⟨j, h, way⟩
    · simp [behind_eq_nil h] at way

end Visiting

/-! ## How many visits there are -/

/-- The states that were not visited in a round. -/
def unvisited (a : Automaton) (round : Nat) (marks : Array Nat) : Finset (Fin a.states.size) :=
  Finset.univ.filter fun i => ¬ IsMarked round marks i

/-- How many ways without a byte lead out of the states that were not visited in a round. -/
def openWays (a : Automaton) (round : Nat) (marks : Array Nat) : Nat :=
  ∑ i ∈ a.unvisited round marks, a.states[i].wayCount

theorem unvisited_setIfInBounds {round : Nat} {marks : Array Nat}
    (size_eq : marks.size = a.states.size) (i : Fin a.states.size) :
    a.unvisited round (marks.setIfInBounds i round) = (a.unvisited round marks).erase i := by
  have hi : i < marks.size := by
    rw [size_eq]
    exact i.isLt
  ext j
  simp only [unvisited, Finset.mem_filter_univ, Finset.mem_erase, Fin.ext_iff, ne_eq,
    isMarked_setIfInBounds hi, not_or]

/-- To mark a state closes as many ways as it leads to states, at least. -/
theorem length_onward_add_openWays_le {round : Nat} {marks : Array Nat}
    (size_eq : marks.size = a.states.size) {i : Fin a.states.size}
    (unmarked : ¬ IsMarked round marks i) :
    (a.onward g i).length + a.openWays round (marks.setIfInBounds i round) ≤
      a.openWays round marks := by
  have length_le : (a.onward g i).length ≤ a.states[i].wayCount := by
    rw [onward, Array.getElem?_eq_getElem i.isLt]
    exact State.length_onward_le g _
  have mem : i ∈ a.unvisited round marks := by simpa [unvisited] using unmarked
  rw [openWays, openWays, unvisited_setIfInBounds size_eq, ← Finset.add_sum_erase _ _ mem]
  exact Nat.add_le_add_right length_le _

/-- How many ways without a byte there are in the whole automaton. -/
def wayCount (a : Automaton) : Nat := a.states.foldl (fun n s => n + s.wayCount) 0

theorem openWays_le_wayCount (a : Automaton) (round : Nat) (marks : Array Nat) :
    a.openWays round marks ≤ a.wayCount := by
  calc a.openWays round marks
    _ ≤ ∑ i : Fin a.states.size, a.states[i].wayCount :=
        Finset.sum_le_sum_of_subset (Finset.subset_univ _)
    _ = (a.states.toList.map State.wayCount).sum := by
        rw [← Fin.sum_univ_fun_getElem]
        rfl
    _ = a.wayCount := by
        rw [wayCount, ← Array.foldl_toList, List.sum_eq_foldl, List.foldl_map]

/-! ## The search -/

/-- At a place the search stops where an accepting state is reached, and else has visited all that
    is reached. The bound on the visits is never met: each one takes a state that is yet to be
    visited, and only adds others in place of ways that were open. -/
theorem Visiting.visit {round fuel : Nat} {roots todo found : List Nat} {marks : Array Nat}
    (v : Visiting a g round roots todo marks found)
    (bound : todo.length + a.openWays round marks ≤ fuel) :
    (a.visit g round fuel todo marks found = none ∧ ∃ j, a.Reached g roots j ∧ a.IsAccepting j) ∨
      ∃ marks' found', a.visit g round fuel todo marks found = some (marks', found') ∧
        Visiting a g round roots [] marks' found' := by
  induction fuel generalizing todo marks found with
  | zero =>
    obtain rfl : todo = [] := List.length_eq_zero_iff.mp (by omega)
    exact .inr ⟨marks, found, by rw [Automaton.visit], v⟩
  | succ fuel ih =>
    cases todo with
    | nil => exact .inr ⟨marks, found, by rw [Automaton.visit], v⟩
    | cons i todo =>
      rw [List.length_cons] at bound
      rw [visit_cons]
      split
      next marked => exact ih (v.skip (.inl marked)) (by omega)
      next unmarked =>
        split
        next accepting => exact .inl ⟨rfl, i, v.reached i (.inl List.mem_cons_self), accepting⟩
        next h =>
          by_cases hi : i < a.states.size
          · refine ih (v.mark (v.size_eq ▸ hi) h) ?_
            have closed : (a.onward g i).length + a.openWays round (marks.setIfInBounds i round) ≤
                a.openWays round marks :=
              length_onward_add_openWays_le (i := ⟨i, hi⟩) v.size_eq unmarked
            rw [List.length_append]
            omega
          · have hnone : a.states[i]? = none := by
              rw [Array.getElem?_eq_none_iff]
              omega
            have unchanged : marks.setIfInBounds i round = marks :=
              Array.setIfInBounds_eq_of_size_le (by rw [v.size_eq]; omega)
            rw [onward_eq_nil hnone, behind_eq_nil hnone, unchanged, List.nil_append,
              List.nil_append]
            exact ih (v.skip (.inr hnone)) (by omega)

theorem visit_spec (g : Gap) {round : Nat} (todo : List Nat) {marks : Array Nat}
    (size_eq : marks.size = a.states.size) (old : ∀ i, marks.getD i 0 < round) :
    (a.visit g round (todo.length + a.wayCount + 1) todo marks [] = none ∧
        ∃ j, a.Reached g todo j ∧ a.IsAccepting j) ∨
      ∃ marks' found, a.visit g round (todo.length + a.wayCount + 1) todo marks [] =
          some (marks', found) ∧
        Visiting a g round todo [] marks' found := by
  have := a.openWays_le_wayCount round marks
  exact (Visiting.start size_eq old).visit (by omega)

theorem acceptsFrom_iff {before : Option UInt8} {round : Nat} {todo : List Nat}
    {marks : Array Nat} {text : Bytes} (size_eq : marks.size = a.states.size)
    (old : ∀ i, marks.getD i 0 < round) :
    a.acceptsFrom a.wayCount before round todo marks text = true ↔
      ∃ i ∈ todo, a.Accepts before i text := by
  induction text generalizing before round todo marks with
  | nil =>
    rw [acceptsFrom]
    rcases visit_spec ⟨before, none⟩ todo size_eq old with
      ⟨stopped, j, reached, accepting⟩ | ⟨marks', found, visited, v⟩
    · simp only [stopped, Option.isNone_none, true_iff]
      exact Accepts.of_reached reached (.here accepting)
    · simp only [visited, Option.isNone_some, Bool.false_eq_true, false_iff]
      rintro ⟨i, hi, accepts⟩
      obtain ⟨j, reached, accepting | ⟨b, bs, h, _⟩⟩ := accepts.exists_reached hi
      · exact v.not_accepting_of_reached reached accepting
      · cases h
  | cons b bs ih =>
    rw [acceptsFrom]
    rcases visit_spec ⟨before, some b⟩ todo size_eq old with
      ⟨stopped, j, reached, accepting⟩ | ⟨marks', found, visited, v⟩
    · simp only [stopped, true_iff]
      exact Accepts.of_reached reached (.here accepting)
    · simp only [visited]
      rw [ih v.size_eq fun i => Nat.lt_succ_of_le (v.getD_le i)]
      constructor
      · rintro ⟨k, hk, accepts⟩
        obtain ⟨j, reached, way⟩ := (v.mem_found_iff k).mp hk
        exact Accepts.of_reached reached (.behind way accepts)
      · rintro ⟨i, hi, accepts⟩
        obtain ⟨j, reached, accepting | ⟨b', bs', h, k, way, accepts⟩⟩ := accepts.exists_reached hi
        · exact absurd accepting (v.not_accepting_of_reached reached)
        · cases h
          exact ⟨k, (v.mem_found_iff k).mpr ⟨j, reached, way⟩, accepts⟩

theorem occursIn_iff_accepts (a : Automaton) (text : Bytes) :
    a.occursIn text = true ↔ a.Accepts none a.start text := by
  have old (i : Nat) : (Array.replicate a.states.size 0).getD i 0 < 1 := by
    rw [Array.getD_eq_getD_getElem?, Array.getElem?_replicate]
    split <;> simp
  rw [occursIn, ← wayCount, acceptsFrom_iff Array.size_replicate old]
  simp

end Automaton

theorem occursIn_automaton (a : Automaton) (text : String) :
    (automaton a).occursIn text = true ↔ a.Accepts none a.start (Text.bytes text) :=
  a.occursIn_iff_accepts (Text.bytes text)

end Uncomment.Pattern
