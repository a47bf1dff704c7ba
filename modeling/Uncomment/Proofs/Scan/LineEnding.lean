import Uncomment.Proofs.Text.LineEnding
import Uncomment.Scan.Layout

/-!
# Scans and line endings

A pair CR LF may be taken for one unit, and the characters of a text for a row of units none of
which are the two halves of a pair. Spelling each pair as CR LF gives the text back, spelling it as
LF gives its normal form. Neither spelling touches the characters that a scan looks out for, so
the text and its normal form are cut up in the same way.

Results:
* `flatMap_spelled_units`, `flatMap_joined_units`: the two spellings of the units of some
  characters.
* `collapse_flatMap_spelled`: any row of units that are not halves of a pair has these two
  spellings.
* `pieces_collapse`, `pieces_normalize`: normalization goes through the pieces of a text one by one.
-/

namespace Uncomment.LineEnding

open Alphabet

/-! ## Units -/

/-- A pair CR LF is the unit `none`, and any other character is a unit of its own. -/
def units : List Char → List (Option Char)
  | '\r' :: '\n' :: rest => none :: units rest
  | c :: rest => some c :: units rest
  | [] => []

/-- A unit in characters. -/
def spelled : Option Char → List Char
  | none => ['\r', '\n']
  | some c => [c]

/-- A unit in normalized characters. -/
def joined : Option Char → List Char
  | none => ['\n']
  | some c => [c]

/-- No two of the units are the halves of a pair. -/
def Whole (us : List (Option Char)) : Prop := ¬ [some '\r', some '\n'] <:+: us

theorem flatMap_spelled_units (cs : List Char) : (units cs).flatMap spelled = cs := by
  fun_induction units cs with
  | case1 rest ih => rw [List.flatMap_cons, ih]; rfl
  | case2 c rest _ ih => rw [List.flatMap_cons, ih]; rfl
  | case3 => rfl

theorem flatMap_joined_units (cs : List Char) : (units cs).flatMap joined = collapse cs := by
  fun_induction units cs with
  | case1 rest ih => rw [List.flatMap_cons, ih, collapse]; rfl
  | case2 c rest h ih => rw [List.flatMap_cons, ih, collapse_cons h]; rfl
  | case3 => rfl

theorem head?_flatMap_spelled (us : List (Option Char)) :
    (us.flatMap spelled).head? = some '\n' ↔ us.head? = some (some '\n') := by
  match us with
  | [] => simp
  | none :: us => simp [spelled]
  | some c :: us => simp [spelled]

theorem whole_units (cs : List Char) : Whole (units cs) := by
  fun_induction units cs with
  | case1 rest ih =>
    unfold Whole at ih ⊢
    rw [List.infix_cons_iff]
    simpa using ih
  | case2 c rest h ih =>
    unfold Whole
    rw [List.infix_cons_iff, List.cons_prefix_cons, List.singleton_prefix_iff_head?_eq_some,
      ← head?_flatMap_spelled, flatMap_spelled_units, not_or]
    refine ⟨?_, ih⟩
    rintro ⟨hc, hrest⟩
    obtain ⟨tail, htail⟩ := List.head?_eq_some_iff.1 hrest
    exact h tail (Option.some.inj hc).symm htail
  | case3 => simp [Whole]

theorem Whole.of_part {us vs : List (Option Char)} (h : Whole vs) (hus : us <:+: vs) :
    Whole us := fun hpair => h (hpair.trans hus)

theorem collapse_flatMap_spelled {us : List (Option Char)} (h : Whole us) :
    collapse (us.flatMap spelled) = us.flatMap joined := by
  match us with
  | [] => rfl
  | none :: us =>
    have ih := collapse_flatMap_spelled (h.of_part (List.infix_cons List.infix_rfl))
    rw [List.flatMap_cons, List.flatMap_cons, ← ih]
    rfl
  | some c :: us =>
    have ih := collapse_flatMap_spelled (h.of_part (List.infix_cons List.infix_rfl))
    have hpair : ∀ tail, c = '\r' → us.flatMap spelled = '\n' :: tail → False := by
      intro tail hc hrest
      refine h ?_
      have hhead : us.head? = some (some '\n') := by
        rw [← head?_flatMap_spelled, hrest]
        rfl
      rw [hc, List.infix_cons_iff, List.cons_prefix_cons,
        List.singleton_prefix_iff_head?_eq_some]
      exact .inl ⟨rfl, hhead⟩
    rw [List.flatMap_cons, List.flatMap_cons, ← ih]
    exact collapse_cons hpair

/-! ## Units as symbols of a scan -/

/-- The units as an alphabet. -/
def unitAlphabet : Alphabet (Option Char) where
  slash := some '/'
  star := some '*'
  backslash := some '\\'
  mark q := some q.char
  width _ := 1

theorem unitAlphabet_distinct : unitAlphabet.Distinct where
  slash_star := by decide
  slash_backslash := by decide
  star_backslash := by decide
  mark_slash q := by cases q <;> decide
  mark_star q := by cases q <;> decide
  mark_backslash q := by cases q <;> decide
  mark_injective {p q} := by cases p <;> cases q <;> decide

theorem isSpecial_some (c : Char) : unitAlphabet.isSpecial (some c) = chars.isSpecial c := by
  rw [Bool.eq_iff_iff, isSpecial_eq_true_iff, isSpecial_eq_true_iff]
  simp [unitAlphabet, chars]

/-- A spelling is an expansion as long as it leaves characters alone and has no special character
    in its spelling of pairs. -/
theorem expansion_units {e : Option Char → List Char} (hsome : ∀ c, e (some c) = [c])
    (hnone : e none ≠ []) (hordinary : (e none).any chars.isSpecial = false) :
    Expansion unitAlphabet chars e where
  width_source _ := rfl
  slash := hsome _
  star := hsome _
  backslash := hsome _
  mark _ := hsome _
  ne_nil u := by
    cases u with
    | none => exact hnone
    | some c => rw [hsome]; exact List.cons_ne_nil _ _
  ordinary u hu d hd := by
    cases u with
    | none => exact Bool.eq_false_iff.2 (List.any_eq_false.1 hordinary d hd)
    | some c =>
      rw [hsome, List.mem_singleton] at hd
      rw [hd, ← isSpecial_some, hu]
  width_pos _ _ _ _ := Nat.one_pos
  width_le u d ds hcons := by
    rw [hcons, List.length_cons]
    exact Nat.le_add_left 1 ds.length

theorem expansion_spelled : Expansion unitAlphabet chars spelled :=
  expansion_units (fun _ => rfl) (List.cons_ne_nil _ _) rfl

theorem expansion_joined : Expansion unitAlphabet chars joined :=
  expansion_units (fun _ => rfl) (List.cons_ne_nil _ _) rfl

/-- No pair lies across the border of two pieces, and a scan does not see the difference between a
    pair and its LF. -/
theorem pieces_collapse (cs : List Char) :
    chars.pieces (collapse cs) =
      (chars.pieces cs).map fun p => ⟨p.kind, collapse p.symbols⟩ := by
  have hwhole : ∀ p ∈ unitAlphabet.pieces (units cs),
      collapse (p.symbols.flatMap spelled) = p.symbols.flatMap joined := by
    intro p hp
    refine collapse_flatMap_spelled ((whole_units cs).of_part ?_)
    have hpart := List.infix_of_mem_flatten (List.mem_map_of_mem (f := Piece.symbols) hp)
    rw [← List.flatMap_def, unitAlphabet.pieces_flatten] at hpart
    exact hpart
  have hspelled := expansion_spelled.pieces_flatMap unitAlphabet_distinct chars_distinct (units cs)
  have hjoined := expansion_joined.pieces_flatMap unitAlphabet_distinct chars_distinct (units cs)
  rw [flatMap_spelled_units] at hspelled
  rw [flatMap_joined_units] at hjoined
  rw [hspelled, hjoined, List.map_map]
  refine List.map_congr_left fun p hp => ?_
  rw [Function.comp_apply, hwhole p hp]

theorem pieces_normalize (text : String) :
    pieces (normalize text).text = (pieces text).map fun p => ⟨p.kind, collapse p.symbols⟩ := by
  rw [normalize_text, pieces, String.toList_ofList, pieces_collapse]
  rfl

end Uncomment.LineEnding
