import Uncomment.Convert
import Uncomment.Proofs.Scan.LineEnding
import Uncomment.Proofs.Strip.Fusion

/-!
# When converting twice is converting once

A conversion can leave something for a second one: a fusion of code is a comment in the output, and
CR CR LF becomes CR LF. These two are all there is.

Results:
* `text_convert_plain`, `text_convert_normalized`: the text of a conversion.
* `comments_collapse_eq_nil_iff`: normalization neither adds nor removes comments.
* `convert_convert_iff`: the texts on which converting twice is converting once.
-/

namespace Uncomment

open LineEnding

theorem text_convert_plain (text : String) :
    (convert text { normalize := false }).text = strip text := rfl

theorem text_convert_normalized (text : String) :
    (convert text { normalize := true }).text = String.ofList (collapse (strip text).toList) :=
  normalize_text (strip text)

theorem comments_collapse_eq_nil_iff (text : String) :
    comments (String.ofList (collapse text.toList)) = [] ↔ comments text = [] := by
  rw [← normalize_text, ← List.length_eq_zero_iff, ← List.length_eq_zero_iff, length_comments,
    length_comments, pieces_normalize, List.filter_map, List.length_map]
  rfl

/-- A text comes out of a conversion as it went in only if there is nothing to do. -/
theorem collapse_strip_eq_self_iff (text : String) :
    collapse (strip text).toList = text.toList ↔
      comments text = [] ∧ collapse text.toList = text.toList := by
  constructor
  · intro h
    have hcollapse := length_collapse (strip text).toList
    have hstrip := length_strip_add_le text
    rw [h] at hcollapse
    have hnil : comments text = [] := List.length_eq_zero_iff.1 (by omega)
    rw [strip_of_comments_eq_nil hnil] at h
    exact ⟨hnil, h⟩
  · rintro ⟨hnil, hcollapse⟩
    rw [strip_of_comments_eq_nil hnil, hcollapse]

/-- Without normalization, a second conversion changes nothing exactly if the text is free of
    fusion; with it, exactly if moreover CR CR LF is no part of the stripped text. -/
theorem convert_convert_iff (text : String) :
    ((convert (convert text { normalize := false }).text { normalize := false }).text =
        (convert text { normalize := false }).text ↔ FusionFree text) ∧
      (strip (strip text) = strip text ↔ FusionFree text) ∧
      ((convert (convert text { normalize := true }).text { normalize := true }).text =
          (convert text { normalize := true }).text ↔
        FusionFree text ∧ ¬ ['\r', '\r', '\n'] <:+: (strip text).toList) := by
  have hstrip : strip (strip text) = strip text ↔ FusionFree text := by
    rw [strip_eq_self_iff, comments_strip_eq_nil_iff]
  rw [text_convert_plain, text_convert_plain]
  refine ⟨hstrip, hstrip, ?_⟩
  rw [text_convert_normalized, text_convert_normalized, String.ofList_inj]
  have hself := collapse_strip_eq_self_iff (String.ofList (collapse (strip text).toList))
  rw [comments_collapse_eq_nil_iff, comments_strip_eq_nil_iff, String.toList_ofList,
    collapse_collapse_eq_iff] at hself
  exact hself

end Uncomment
