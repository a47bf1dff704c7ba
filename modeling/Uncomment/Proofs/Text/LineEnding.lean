import Mathlib
import Uncomment.Text.LineEnding
import Uncomment.Text.Slice

/-!
# Pairs and what normalization leaves behind

Normalization goes from left to right and does not look at its own output, where new pairs CR LF
can stand: those that were CR CR LF. Where two rows of characters are laid end to end, one more pair
can come about, of a CR at the end of the one and an LF at the front of the other.

Results:
* `collapse_append`, `pairs_append`, `collapse_append_eq_iff`: normal form and pairs of two rows
  laid end to end.
* `length_charsBytes_collapse`: each pair costs one byte.
* `pairs_eq_count`: pairs are neighbours in the row.
* `pairs_eq_zero_iff`: there are no pairs exactly if CR LF is no part of the characters.
* `KeepsLines.collapse_flatMap`: normalization goes through a spelling that leaves CR and LF alone.
* `infix_collapse_iff`: a pair is left exactly if CR CR LF was part of the characters.
* `collapse_collapse_eq_iff`: when normalizing twice is normalizing once.
* `collapse_eq_unpaired`: which characters stay.
* `normalize_deletes`: what normalization does to a text, and when it does nothing.
-/

namespace Uncomment.LineEnding

open Text

/-! ## Two rows laid end to end -/

theorem collapse_cons {c : Char} {rest : List Char}
    (h : ∀ tail, c = '\r' → rest = '\n' :: tail → False) :
    collapse (c :: rest) = c :: collapse rest := collapse.eq_2 c rest h

theorem pairs_cons {c : Char} {rest : List Char}
    (h : ∀ tail, c = '\r' → rest = '\n' :: tail → False) : pairs (c :: rest) = pairs rest :=
  pairs.eq_2 c rest h

/-- A pair lies across the border of two rows of characters. -/
def Straddles (as bs : List Char) : Prop := as.getLast? = some '\r' ∧ bs.head? = some '\n'

instance (as bs : List Char) : Decidable (Straddles as bs) :=
  inferInstanceAs (Decidable (_ ∧ _))

theorem straddles_cons {c : Char} {as : List Char} (h : as ≠ []) (bs : List Char) :
    Straddles (c :: as) bs ↔ Straddles as bs := by
  unfold Straddles
  rw [List.getLast?_cons_of_ne_nil h]

theorem straddles_singleton {c : Char} {bs : List Char} :
    Straddles [c] bs ↔ ∃ tail, c = '\r' ∧ bs = '\n' :: tail := by
  unfold Straddles
  rw [List.head?_eq_some_iff]
  simp

theorem not_straddles_nil (bs : List Char) : ¬ Straddles [] bs := fun h => nomatch h.1

theorem collapse_append {as bs : List Char} (h : ¬ Straddles as bs) :
    collapse (as ++ bs) = collapse as ++ collapse bs := by
  fun_induction collapse as with
  | case1 rest ih =>
    have hrest : ¬ Straddles rest bs := by
      cases rest with
      | nil => exact not_straddles_nil bs
      | cons => rwa [straddles_cons (by simp), straddles_cons (by simp)] at h
    rw [List.cons_append, List.cons_append, collapse, ih hrest]
    rfl
  | case2 c rest hpair ih =>
    cases rest with
    | nil =>
      rw [straddles_singleton] at h
      rw [List.singleton_append, collapse_cons fun tail hc hbs => h ⟨tail, hc, hbs⟩]
      rfl
    | cons d rest =>
      rw [straddles_cons (by simp)] at h
      rw [List.cons_append, collapse_cons, ih h]
      · rfl
      · intro tail hc hrest
        exact hpair rest hc (by rw [(List.cons.inj hrest).1])
  | case3 => rfl

theorem pairs_append (as bs : List Char) :
    pairs (as ++ bs) = pairs as + pairs bs + if Straddles as bs then 1 else 0 := by
  have hwhole := length_collapse (as ++ bs)
  have has := length_collapse as
  have hbs := length_collapse bs
  rw [List.length_append] at hwhole
  split
  next h =>
    obtain ⟨as, rfl⟩ := List.getLast?_eq_some_iff.1 h.1
    obtain ⟨bs, rfl⟩ := List.head?_eq_some_iff.1 h.2
    have hcr : ¬ Straddles as ['\r'] := by simp [Straddles]
    have hpair : ¬ Straddles as ('\r' :: '\n' :: bs) := by simp [Straddles]
    have hlf : collapse ('\n' :: bs) = '\n' :: collapse bs := collapse_cons (by simp)
    rw [List.append_assoc, List.singleton_append, collapse_append hpair, collapse] at hwhole
    rw [collapse_append hcr] at has
    rw [hlf] at hbs
    simp only [List.length_append, List.length_cons, List.length_nil, collapse] at hwhole has hbs
    rw [List.append_assoc, List.singleton_append]
    omega
  next h =>
    rw [collapse_append h, List.length_append] at hwhole
    omega

theorem collapse_append_eq_iff (as bs : List Char) :
    collapse (as ++ bs) = collapse as ++ collapse bs ↔ ¬ Straddles as bs := by
  refine ⟨fun h hborder => ?_, collapse_append⟩
  have hlen := congrArg List.length h
  rw [List.length_append] at hlen
  have hwhole := length_collapse (as ++ bs)
  have has := length_collapse as
  have hbs := length_collapse bs
  rw [pairs_append, if_pos hborder, List.length_append] at hwhole
  omega

/-! ## Length -/

theorem length_charsBytes_collapse (cs : List Char) :
    (charsBytes (collapse cs)).length + pairs cs = (charsBytes cs).length := by
  fun_induction collapse cs with
  | case1 rest ih =>
    have hcr : (String.utf8EncodeChar '\r').length = 1 := by decide
    simp only [charsBytes_cons, List.length_append, pairs, hcr]
    omega
  | case2 c rest h ih =>
    rw [pairs_cons h, charsBytes_cons, charsBytes_cons, List.length_append, List.length_append]
    omega
  | case3 => rfl

/-- Normalization makes a text shorter by its pairs, so it makes none longer. -/
theorem utf8ByteSize_normalize_add (text : String) :
    (normalize text).text.utf8ByteSize + pairs text.toList = text.utf8ByteSize := by
  have h := length_charsBytes_collapse text.toList
  rwa [length_charsBytes, length_charsBytes, String.ofList_toList, ← normalize_text] at h

/-! ## No pairs -/

theorem not_pair_front {c : Char} {rest : List Char}
    (h : ∀ tail, c = '\r' → rest = '\n' :: tail → False) : ¬ ['\r', '\n'] <+: c :: rest := by
  rintro ⟨tail, htail⟩
  obtain ⟨hc, hrest⟩ := List.cons.inj htail
  exact h tail hc.symm hrest.symm

theorem pairs_eq_zero_iff {cs : List Char} : pairs cs = 0 ↔ ¬ ['\r', '\n'] <:+: cs := by
  fun_induction pairs cs with
  | case1 rest ih =>
    have hpart : ['\r', '\n'] <:+: '\r' :: '\n' :: rest :=
      List.IsPrefix.isInfix (List.prefix_append ['\r', '\n'] rest)
    simp [hpart]
  | case2 c rest h ih =>
    rw [ih, List.infix_cons_iff]
    simp [not_pair_front h]
  | case3 => simp

/-- Pairs do not overlap, so they are counted where they begin. -/
theorem pairs_eq_count (cs : List Char) : pairs cs = (cs.zip cs.tail).count ('\r', '\n') := by
  fun_induction pairs cs with
  | case1 rest ih =>
    rw [ih]
    cases rest with
    | nil => rfl
    | cons c rest => simp
  | case2 c rest h ih =>
    rw [ih]
    cases rest with
    | nil => rfl
    | cons d rest =>
      have hne : (c, d) ≠ ('\r', '\n') := by
        rintro heq
        obtain ⟨hc, hd⟩ := Prod.mk.inj heq
        exact h rest hc (by rw [hd])
      exact (List.count_cons_of_ne hne).symm
  | case3 => rfl

/-! ## Rows that are spelled otherwise -/

/-- A spelling of characters that leaves CR and LF alone and uses them for nothing else. -/
structure KeepsLines (e : Char → List Char) : Prop where
  cr : e '\r' = ['\r']
  lf : e '\n' = ['\n']
  ne_nil (c : Char) : e c ≠ []
  eq_cr (c : Char) : '\r' ∈ e c → c = '\r'
  eq_lf (c : Char) : '\n' ∈ e c → c = '\n'

namespace KeepsLines

variable {e : Char → List Char} (E : KeepsLines e)
include E

theorem pairs_spelling (c : Char) : pairs (e c) = 0 := by
  rw [pairs_eq_zero_iff]
  intro hpair
  have hcr := E.eq_cr c (hpair.subset (by simp))
  have hlf := E.eq_lf c (hpair.subset (by simp))
  rw [hcr] at hlf
  revert hlf
  decide

/-- A pair across two spellings is a pair that was there before. -/
theorem not_straddles {c : Char} {rest : List Char}
    (h : ∀ tail, c = '\r' → rest = '\n' :: tail → False) :
    ¬ Straddles (e c) (rest.flatMap e) := by
  rintro ⟨hlast, hhead⟩
  have hc := E.eq_cr c (List.mem_of_getLast? hlast)
  cases rest with
  | nil => cases hhead
  | cons d rest =>
    rw [List.flatMap_cons, List.head?_append_of_ne_nil _ (E.ne_nil d)] at hhead
    exact h rest hc (by rw [E.eq_lf d (List.mem_of_head? hhead)])

theorem collapse_flatMap (cs : List Char) :
    collapse (cs.flatMap e) = (collapse cs).flatMap e ∧ pairs (cs.flatMap e) = pairs cs := by
  fun_induction collapse cs with
  | case1 rest ih =>
    rw [List.flatMap_cons, List.flatMap_cons, List.flatMap_cons, E.cr, E.lf, pairs, ← ih.1, ← ih.2]
    exact ⟨rfl, rfl⟩
  | case2 c rest h ih =>
    have hborder := E.not_straddles h
    have hown := E.pairs_spelling c
    rw [List.flatMap_cons, List.flatMap_cons, collapse_append hborder,
      collapse_eq_self_iff.2 hown, pairs_append, if_neg hborder, hown, pairs_cons h, ih.1,
      ih.2]
    exact ⟨rfl, by omega⟩
  | case3 => exact ⟨rfl, rfl⟩

end KeepsLines

/-! ## New pairs -/

theorem head?_collapse_eq_iff {cs : List Char} :
    (collapse cs).head? = some '\n' ↔ cs.head? = some '\n' ∨ ['\r', '\n'] <+: cs := by
  fun_induction collapse cs with
  | case1 rest ih => simp
  | case2 c rest h ih =>
    simp [not_pair_front h]
  | case3 => simp

theorem infix_collapse_iff {cs : List Char} :
    ['\r', '\n'] <:+: collapse cs ↔ ['\r', '\r', '\n'] <:+: cs := by
  fun_induction collapse cs with
  | case1 rest ih =>
    have hne : ('\r' : Char) ≠ '\n' := by decide
    simp [List.infix_cons_iff, ih, hne]
  | case2 c rest h ih =>
    rw [List.infix_cons_iff, List.infix_cons_iff, ih, List.cons_prefix_cons,
      List.cons_prefix_cons, List.singleton_prefix_iff_head?_eq_some, head?_collapse_eq_iff]
    refine or_congr_left (and_congr_right fun hc => or_iff_right fun hrest => ?_)
    obtain ⟨tail, htail⟩ := List.head?_eq_some_iff.1 hrest
    exact h tail hc.symm htail
  | case3 => simp

theorem collapse_collapse_eq_iff {cs : List Char} :
    collapse (collapse cs) = collapse cs ↔ ¬ ['\r', '\r', '\n'] <:+: cs := by
  rw [collapse_eq_self_iff, pairs_eq_zero_iff, infix_collapse_iff]

/-! ## What normalization deletes -/

/-- The characters but each CR that has an LF directly behind it. -/
def unpaired (cs : List Char) : List Char :=
  (cs.zipIdx.filter fun p => ¬ (p.1 = '\r' ∧ cs[p.2 + 1]? = some '\n')).map Prod.fst

/-- Normalization decides on each character by a look at the next one. -/
theorem collapse_cons_eq_ite (c : Char) (rest : List Char) :
    collapse (c :: rest) =
      if c = '\r' ∧ rest.head? = some '\n' then collapse rest else c :: collapse rest := by
  split
  next h =>
    obtain ⟨rfl, hhead⟩ := h
    obtain ⟨tail, rfl⟩ := List.head?_eq_some_iff.1 hhead
    have hlf : collapse ('\n' :: tail) = '\n' :: collapse tail := collapse_cons (by simp)
    rw [collapse, hlf]
  next h =>
    apply collapse_cons
    rintro tail rfl rfl
    exact h ⟨rfl, rfl⟩

/-- The characters that stay, where others stand before them. -/
theorem collapse_eq_map_filter (before cs : List Char) :
    collapse cs = ((cs.zipIdx before.length).filter fun p =>
      ¬ (p.1 = '\r' ∧ (before ++ cs)[p.2 + 1]? = some '\n')).map Prod.fst := by
  induction cs generalizing before with
  | nil => rfl
  | cons c rest ih =>
    have hnext : (before ++ c :: rest)[before.length + 1]? = rest.head? := by
      rw [List.getElem?_append_right (by omega), Nat.add_sub_cancel_left, List.head?_eq_getElem?]
      rfl
    have hrest := ih (before ++ [c])
    rw [List.length_append, List.append_assoc, List.singleton_append] at hrest
    rw [collapse_cons_eq_ite, List.zipIdx_cons, List.filter_cons, hnext]
    by_cases hpair : c = '\r' ∧ rest.head? = some '\n'
    · rw [if_pos hpair, if_neg (by simpa using hpair), hrest]
      rfl
    · rw [if_neg hpair, if_pos (decide_eq_true hpair), List.map_cons, hrest]
      rfl

theorem collapse_eq_unpaired (cs : List Char) : collapse cs = unpaired cs :=
  collapse_eq_map_filter [] cs

/-- Normalization deletes each CR that has an LF directly behind it, and nothing else, so the text
    gets shorter by as many bytes as there are pairs. A text is used as it is exactly if it holds no
    pair, and exactly if nothing changes. Two texts can be normalized one by one exactly if no pair
    lies across their border. Normalizing twice is normalizing once exactly if nowhere in the text
    two CRs stand before an LF. -/
theorem normalize_deletes (text : String) :
    (normalize text).text.toList = unpaired text.toList ∧
      (normalize text).text.utf8ByteSize + (text.toList.zip text.toList.tail).count ('\r', '\n') =
        text.utf8ByteSize ∧
      ((normalize text).unchanged = true ↔ ¬ ['\r', '\n'] <:+: text.toList) ∧
      ((normalize text).unchanged = true ↔ (normalize text).text = text) ∧
      (∀ other,
        (normalize (text ++ other)).text = (normalize text).text ++ (normalize other).text ↔
          ¬ (text.toList.getLast? = some '\r' ∧ other.toList.head? = some '\n')) ∧
      ((normalize (normalize text).text).text = (normalize text).text ↔
        ¬ ['\r', '\r', '\n'] <:+: text.toList) := by
  refine ⟨?_, ?_, ?_, normalize_unchanged_iff, fun other => ?_, ?_⟩
  · rw [normalize_text, String.toList_ofList, collapse_eq_unpaired]
  · rw [← pairs_eq_count]
    exact utf8ByteSize_normalize_add text
  · rw [normalize_unchanged_iff, normalize_text, ← String.toList_inj, String.toList_ofList,
      collapse_eq_self_iff, pairs_eq_zero_iff]
  · rw [normalize_text, normalize_text, normalize_text, ← String.ofList_append,
      String.ofList_inj, String.toList_append]
    exact collapse_append_eq_iff _ _
  · rw [normalize_text, normalize_text, String.toList_ofList, String.ofList_inj]
    exact collapse_collapse_eq_iff

end Uncomment.LineEnding
