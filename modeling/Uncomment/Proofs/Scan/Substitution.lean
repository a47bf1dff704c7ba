import Uncomment.Proofs.Scan.Token
import Uncomment.Strip

/-!
# Substitution of ordinary characters

A scan looks out for five characters. Texts may stand for all others, as long as none of the five
is in them and none of them is empty: the scan of the new text takes the same decisions, although
its segments are of other lengths and begin at other offsets.

Results:
* `OrdinarySubst.expansion`: such a substitution spells characters by characters.
* `pieces_substitute`: the pieces of the new text, from those of the old one.
* `segments_substitute`: kinds and texts of its segments, and its stripped text.
-/

namespace Uncomment

/-- The five characters that a scan looks out for. -/
def specials : List Char := '*' :: stops

/-- The text with a text in place of each character. -/
def substitute (h : Char → String) (text : String) : String := String.join (text.toList.map h)

/-- The five special characters stay as they are, and every other character is replaced by some
    text of other characters. -/
structure OrdinarySubst (h : Char → String) : Prop where
  special : ∀ c ∈ specials, h c = String.singleton c
  ne_empty : ∀ c ∉ specials, h c ≠ ""
  ordinary : ∀ c ∉ specials, ∀ d ∈ (h c).toList, d ∉ specials

/-! ## As an expansion -/

theorem Alphabet.chars_isSpecial_iff {c : Char} :
    Alphabet.chars.isSpecial c = true ↔ c ∈ specials := by
  simp [Alphabet.isSpecial, Alphabet.chars_isStop_iff, specials, or_comm]

theorem toList_substitute (h : Char → String) (text : String) :
    (substitute h text).toList = text.toList.flatMap fun c => (h c).toList := by
  rw [substitute, String.toList_join, List.flatMap_map]

theorem Piece.text_substitute (h : Char → String) (p : Piece Char) :
    Piece.text ⟨p.kind, p.symbols.flatMap fun c => (h c).toList⟩ = substitute h p.text := by
  rw [← String.toList_inj, toList_substitute, Piece.text, Piece.text, String.toList_ofList,
    String.toList_ofList]

namespace OrdinarySubst

variable {h : Char → String} (hh : OrdinarySubst h)
include hh

theorem toList_special {c : Char} (hc : c ∈ specials) : (h c).toList = [c] := by
  rw [hh.special c hc, String.toList_singleton]

theorem expansion : Alphabet.Expansion Alphabet.chars Alphabet.chars fun c => (h c).toList where
  width_source _ := rfl
  slash := hh.toList_special (by decide)
  star := hh.toList_special (by decide)
  backslash := hh.toList_special (by decide)
  mark q := hh.toList_special (List.mem_cons_of_mem _ q.char_mem_stops)
  ne_nil c := by
    by_cases hc : c ∈ specials
    · rw [hh.toList_special hc]
      exact List.cons_ne_nil _ _
    · intro hnil
      exact hh.ne_empty c hc (String.toList_eq_nil_iff.1 hnil)
  ordinary c hc d hd := by
    rw [Bool.eq_false_iff, ne_eq, Alphabet.chars_isSpecial_iff] at hc ⊢
    exact hh.ordinary c hc d hd
  width_pos _ _ _ _ := Nat.one_pos
  width_le c d ds hcons := by
    rw [hcons, List.length_cons]
    exact Nat.le_add_left 1 ds.length

end OrdinarySubst

/-! ## The scan of the new text -/

theorem pieces_substitute {h : Char → String} (hh : OrdinarySubst h) (text : String) :
    pieces (substitute h text) =
      (pieces text).map fun p => ⟨p.kind, p.symbols.flatMap fun c => (h c).toList⟩ := by
  rw [pieces, toList_substitute]
  exact hh.expansion.pieces_flatMap Alphabet.chars_distinct Alphabet.chars_distinct text.toList

theorem strip_substitute {h : Char → String} (hh : OrdinarySubst h) (text : String) :
    strip (substitute h text) = substitute h (strip text) := by
  rw [← String.toList_inj, toList_substitute, toList_strip, toList_strip, pieces_substitute hh,
    List.filter_map, List.flatMap_map, List.flatMap_assoc]
  rfl

/-- The segments of the new text are those of the old one, with the same kinds and with the new
    texts of their old texts, and what is left of the new text is the new text of what is left of
    the old one. -/
theorem segments_substitute {h : Char → String} (hh : OrdinarySubst h) (text : String) :
    (segments (substitute h text)).map (fun s => (s.kind, s.text (substitute h text))) =
        (segments text).map (fun s => (s.kind, substitute h (s.text text))) ∧
      strip (substitute h text) = substitute h (strip text) := by
  refine ⟨?_, strip_substitute hh text⟩
  have hold := congrArg (List.map fun t => (t.1, substitute h t.2)) (map_text_segments text)
  rw [List.map_map, List.map_map] at hold
  rw [map_text_segments, pieces_substitute hh, List.map_map]
  refine Eq.trans (List.map_congr_left fun p _ => ?_) hold.symm
  exact congrArg (Prod.mk p.kind) (Piece.text_substitute h p)

/-- A literal with an escaped letter and an open comment, the letter spelled by two: the escape
    takes only the first of them. -/
theorem segments_substitute_escape :
    OrdinarySubst (fun c => if c = 'a' then "bé" else String.singleton c) ∧
      (segments "\x22\\bé\x22/*bé").map (fun s => (s.kind, s.text "\x22\\bé\x22/*bé")) =
        [(.literal .double true, "\x22\\bé\x22"), (.comment false, "/*bé")] ∧
      strip "\x22\\bé\x22/*bé" = "\x22\\bé\x22" := by
  have hh : OrdinarySubst (fun c => if c = 'a' then "bé" else String.singleton c) := by
    refine ⟨?_, fun c _ => ?_, fun c hc d hd => ?_⟩
    · simp [specials, stops]
    · split <;> simp
    · split at hd
      · obtain rfl | rfl : d = 'b' ∨ d = 'é' := by simpa using hd
        · simp [specials, stops]
        · simp [specials, stops]
      · obtain rfl : d = c := by simpa using hd
        exact hc
  have h := segments_substitute hh "\x22\\a\x22/*a"
  refine ⟨hh, h.1.trans ?_, h.2.trans ?_⟩
  · decide +kernel
  · decide +kernel

end Uncomment
