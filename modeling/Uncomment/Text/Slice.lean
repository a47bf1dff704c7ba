import Uncomment.Text.Bytes

/-!
# Slices by byte offsets

A slice of a text is given by two byte offsets. Where both lie between characters, it is the text
of the characters between them.

Results:
* `extract_charsBytes`: the slice behind some characters, as long as some more, is the text of
  those.
-/

namespace Uncomment.Text

open String.Pos.Raw

/-- The length of some characters in bytes. -/
theorem length_charsBytes (cs : List Char) :
    (charsBytes cs).length = (String.ofList cs).utf8ByteSize := by
  rw [← length_bytes, bytes_ofList]

private theorem extract_eq (text : String) (b e : String.Pos.Raw) :
    String.Pos.Raw.extract text b e =
      if b.byteIdx ≥ e.byteIdx then "" else String.ofList (extract.go₁ text.toList 0 b e) := rfl

private theorem go₁_cons (c : Char) (cs : List Char) (i b e : String.Pos.Raw) :
    extract.go₁ (c :: cs) i b e =
      if i = b then extract.go₂ (c :: cs) i e else extract.go₁ cs (i + c) b e := rfl

private theorem go₂_nil (i e : String.Pos.Raw) : extract.go₂ [] i e = [] := rfl

private theorem go₂_cons (c : Char) (cs : List Char) (i e : String.Pos.Raw) :
    extract.go₂ (c :: cs) i e = if i = e then [] else c :: extract.go₂ cs (i + c) e := rfl

private theorem add_eq (i : Nat) (c : Char) :
    (⟨i⟩ : String.Pos.Raw) + c = ⟨i + (String.utf8EncodeChar c).length⟩ := by
  rw [String.length_utf8EncodeChar]
  rfl

/-- Skipping the characters before the slice. -/
private theorem skip_eq (before cs : List Char) (i : Nat) (stop : String.Pos.Raw) :
    extract.go₁ (before ++ cs) ⟨i⟩ ⟨i + (charsBytes before).length⟩ stop =
      extract.go₁ cs ⟨i + (charsBytes before).length⟩ ⟨i + (charsBytes before).length⟩ stop := by
  induction before generalizing i with
  | nil => simp
  | cons c before ih =>
    have hpos : 0 < (String.utf8EncodeChar c).length := by
      rw [String.length_utf8EncodeChar]; exact c.utf8Size_pos
    rw [List.cons_append, go₁_cons, if_neg, add_eq, charsBytes_cons, List.length_append,
      ← Nat.add_assoc]
    · exact ih _
    · rw [String.Pos.Raw.ext_iff, charsBytes_cons, List.length_append]
      simp only
      omega

/-- Taking the characters of the slice. -/
private theorem take_eq (cs after : List Char) (i : Nat) :
    extract.go₂ (cs ++ after) ⟨i⟩ ⟨i + (charsBytes cs).length⟩ = cs := by
  induction cs generalizing i with
  | nil => cases after <;> simp [go₂_nil, go₂_cons]
  | cons c cs ih =>
    have hpos : 0 < (String.utf8EncodeChar c).length := by
      rw [String.length_utf8EncodeChar]; exact c.utf8Size_pos
    rw [List.cons_append, go₂_cons, if_neg, add_eq, charsBytes_cons, List.length_append,
      ← Nat.add_assoc, ih]
    rw [String.Pos.Raw.ext_iff, charsBytes_cons, List.length_append]
    simp only
    omega

theorem extract_charsBytes (before cs after : List Char) :
    String.Pos.Raw.extract (String.ofList (before ++ cs ++ after)) ⟨(charsBytes before).length⟩
      ⟨(charsBytes before).length + (charsBytes cs).length⟩ = String.ofList cs := by
  cases cs with
  | nil => rw [extract_eq, if_pos (by simp)]
  | cons c cs =>
    have hpos : 0 < (String.utf8EncodeChar c).length := by
      rw [String.length_utf8EncodeChar]; exact c.utf8Size_pos
    have hne : ¬ (charsBytes before).length ≥
        (charsBytes before).length + (charsBytes (c :: cs)).length := by
      rw [charsBytes_cons, List.length_append]
      omega
    rw [extract_eq, if_neg hne, String.toList_ofList, List.append_assoc,
      show (0 : String.Pos.Raw) = ⟨0⟩ from rfl]
    have h := skip_eq before ((c :: cs) ++ after) 0
      ⟨(charsBytes before).length + (charsBytes (c :: cs)).length⟩
    rw [Nat.zero_add] at h
    rw [h, List.cons_append, go₁_cons, if_pos rfl, ← List.cons_append, take_eq]

end Uncomment.Text
