import Uncomment.Proofs.Convert.Idempotence
import Uncomment.Proofs.Convert.Substitution

/-!
# Lines that end in CR LF

A text whose lines end in CR LF is converted to what stripping makes of the same text with lines
that end in LF. Putting a CR in front of every LF is a substitution of ordinary characters, and
normalization undoes it, whatever CRs there are besides.

Results:
* `ordinarySubst_pairedChar`: the substitution.
* `collapse_flatMap_pairedChar`: normal form and pairs of its result.
* `convert_paired`: text and counters of a conversion.
-/

namespace Uncomment.LineEnding

open Text

/-- An LF with a CR in front of it, and any other character alone. -/
def pairedChar (c : Char) : String := if c = '\n' then "\r\n" else String.singleton c

/-- The text with CR LF in place of every LF. -/
def paired (text : String) : String := substitute pairedChar text

theorem toList_pairedChar_of_ne {c : Char} (h : c ≠ '\n') : (pairedChar c).toList = [c] := by
  rw [pairedChar, if_neg h, String.toList_singleton]

theorem ordinarySubst_pairedChar : OrdinarySubst pairedChar where
  special c hc := by
    rw [pairedChar, if_neg]
    rintro rfl
    revert hc
    decide
  ne_empty c _ := by
    unfold pairedChar
    split <;> simp
  ordinary c hc d hd := by
    by_cases h : c = '\n'
    · subst h
      obtain rfl | rfl : d = '\r' ∨ d = '\n' := by simpa [pairedChar] using hd
      · decide
      · decide
    · rw [toList_pairedChar_of_ne h, List.mem_singleton] at hd
      rwa [hd]

/-- No LF stands alone in the result, so none comes to stand behind a CR of the text. -/
theorem head?_flatMap_pairedChar (cs : List Char) :
    (cs.flatMap fun c => (pairedChar c).toList).head? ≠ some '\n' := by
  cases cs with
  | nil => simp
  | cons c cs =>
    by_cases h : c = '\n'
    · subst h
      simp [pairedChar]
    · rw [List.flatMap_cons, toList_pairedChar_of_ne h]
      simpa using h

theorem collapse_flatMap_pairedChar (cs : List Char) :
    collapse (cs.flatMap fun c => (pairedChar c).toList) = cs ∧
      pairs (cs.flatMap fun c => (pairedChar c).toList) = cs.count '\n' := by
  induction cs with
  | nil => exact ⟨rfl, rfl⟩
  | cons c cs ih =>
    by_cases h : c = '\n'
    · subst h
      have hpair : (pairedChar '\n').toList = ['\r', '\n'] := rfl
      rw [List.flatMap_cons, hpair, List.cons_append, List.singleton_append, collapse, pairs, ih.1,
        ih.2, List.count_cons_self]
      exact ⟨rfl, rfl⟩
    · have hlone : ∀ tail, c = '\r' →
          (cs.flatMap fun c => (pairedChar c).toList) = '\n' :: tail → False := by
        intro tail _ hrest
        refine head?_flatMap_pairedChar cs ?_
        rw [hrest]
        rfl
      rw [List.flatMap_cons, toList_pairedChar_of_ne h, List.singleton_append,
        collapse_cons hlone, pairs_cons hlone, ih.1, ih.2, List.count_cons_of_ne h]
      exact ⟨rfl, rfl⟩

theorem utf8ByteSize_paired (text : String) :
    (paired text).utf8ByteSize = text.utf8ByteSize + text.toList.count '\n' := by
  obtain ⟨hcollapse, hpairs⟩ := collapse_flatMap_pairedChar text.toList
  have hlen := utf8ByteSize_normalize_add (paired text)
  rw [normalize_text, paired, toList_substitute, hcollapse, hpairs, String.ofList_toList] at hlen
  exact hlen.symm

/-- Normalization undoes the pairing. By default, a text with CR LF in place of every LF is
    converted to the stripped text, with the same number of comments; each LF in what is left is a
    pair that was collapsed, and each one in a comment makes that comment a byte longer. -/
theorem convert_paired (text : String) :
    (normalize (paired text)).text = text ∧
      (convert (paired text) {}).text = strip text ∧
      (convert (paired text) {}).stats.commentsRemoved =
        (convert text {}).stats.commentsRemoved ∧
      (convert (paired text) {}).stats.crlfCollapsed = (strip text).toList.count '\n' ∧
      (convert (paired text) {}).stats.commentBytes =
        (convert text {}).stats.commentBytes +
          ((comments text).map fun s => (s.text text).toList.count '\n').sum := by
  have hstrip : strip (paired text) = paired (strip text) :=
    strip_substitute ordinarySubst_pairedChar text
  have hcollapse (t : String) : collapse (paired t).toList = t.toList := by
    rw [paired, toList_substitute]
    exact (collapse_flatMap_pairedChar t.toList).1
  refine ⟨?_, ?_, commentsRemoved_substitute ordinarySubst_pairedChar text {}, ?_,
    commentBytes_substitute ordinarySubst_pairedChar utf8ByteSize_paired text {}⟩
  · rw [normalize_text, hcollapse, String.ofList_toList]
  · rw [text_convert_normalized, hstrip, hcollapse, String.ofList_toList]
  · rw [crlfCollapsed_convert, if_pos rfl, hstrip, paired, toList_substitute]
    exact (collapse_flatMap_pairedChar (strip text).toList).2

end Uncomment.LineEnding
