import Mathlib
import Uncomment.Scan.Layout

/-!
# Which segment holds a character

Segments lie end to end, so a range of bytes inside one of them meets no other.

Results:
* `eq_of_mem_place`: no two segments that are laid share a symbol.
* `filter_meets_place`: a range inside one of the pieces that are laid meets the segment of that
  piece alone.
* `exists_piece_of_append`: a place in a row of symbols is a place in one of its pieces.
* `filter_meets_segments`: each character of a text lies in one segment and meets no other.
-/

namespace Uncomment

open Text

/-- Whether the segment has a byte in the range `start ≤ i < stop`. -/
def Segment.meets (start stop : Nat) (s : Segment) : Bool := s.start < stop ∧ start < s.stop

section Laying

variable {α : Type}

/-! ## Laying pieces -/

theorem place_append (offset : Nat) (ps qs : List (Piece α)) :
    place offset (ps ++ qs) =
      place offset ps ++ place (offset + (ps.flatMap Piece.symbols).length) qs := by
  induction ps generalizing offset with
  | nil => rfl
  | cons p ps ih =>
    rw [List.cons_append, place, place, ih, List.flatMap_cons, List.length_append,
      Nat.add_assoc]
    rfl

theorem bounds_of_mem_place {offset : Nat} {ps : List (Piece α)} {s : Segment}
    (h : s ∈ place offset ps) :
    offset ≤ s.start ∧ s.stop ≤ offset + (ps.flatMap Piece.symbols).length := by
  induction ps generalizing offset with
  | nil => simp [place] at h
  | cons p ps ih =>
    rw [List.flatMap_cons, List.length_append]
    rcases List.mem_cons.1 h with rfl | h
    · exact ⟨Nat.le_refl _, by simp only; omega⟩
    · have := ih h
      omega

theorem eq_of_mem_place {offset : Nat} {ps : List (Piece α)} {s t : Segment}
    (hs : s ∈ place offset ps) (ht : t ∈ place offset ps) {i : Nat}
    (hi : s.start ≤ i ∧ i < s.stop) (hi' : t.start ≤ i ∧ i < t.stop) : s = t := by
  induction ps generalizing offset with
  | nil => cases hs
  | cons p ps ih =>
    rcases List.mem_cons.1 hs with rfl | hs
    · rcases List.mem_cons.1 ht with rfl | ht
      · rfl
      · have hbounds := bounds_of_mem_place ht
        simp only at hi
        omega
    · rcases List.mem_cons.1 ht with rfl | ht
      · have hbounds := bounds_of_mem_place hs
        simp only at hi'
        omega
      · exact ih hs ht

theorem filter_meets_place {offset start stop : Nat} (before : List (Piece α)) (p : Piece α)
    (after : List (Piece α)) (hlt : start < stop)
    (hstart : offset + (before.flatMap Piece.symbols).length ≤ start)
    (hstop : stop ≤ offset + (before.flatMap Piece.symbols).length + p.symbols.length) :
    (place offset (before ++ p :: after)).filter (·.meets start stop) =
      [⟨p.kind, offset + (before.flatMap Piece.symbols).length,
        offset + (before.flatMap Piece.symbols).length + p.symbols.length⟩] := by
  generalize hmid : offset + (before.flatMap Piece.symbols).length = mid at hstart hstop ⊢
  have hbefore : ∀ s ∈ place offset before, ¬ s.meets start stop = true := by
    intro s hs
    have := bounds_of_mem_place hs
    simp only [Segment.meets, decide_eq_true_eq]
    omega
  have hafter : ∀ s ∈ place (mid + p.symbols.length) after, ¬ s.meets start stop = true := by
    intro s hs
    have := bounds_of_mem_place hs
    simp only [Segment.meets, decide_eq_true_eq]
    omega
  have hself : (⟨p.kind, mid, mid + p.symbols.length⟩ : Segment).meets start stop = true := by
    simp only [Segment.meets, decide_eq_true_eq]
    omega
  rw [place_append, hmid, place, List.filter_append, List.filter_cons, if_pos hself,
    List.filter_eq_nil_iff.2 hbefore, List.filter_eq_nil_iff.2 hafter, List.nil_append]

theorem exists_piece_of_append {ps : List (Piece α)} {u v : List α} {a : α}
    (h : ps.flatMap Piece.symbols = u ++ a :: v) :
    ∃ before p after x y, ps = before ++ p :: after ∧ p.symbols = x ++ a :: y ∧
      u = before.flatMap Piece.symbols ++ x := by
  induction ps generalizing u with
  | nil => simp at h
  | cons p ps ih =>
    rw [List.flatMap_cons] at h
    rcases List.append_eq_append_iff.1 h with ⟨w, rfl, hw⟩ | ⟨w, hw, hps⟩
    · obtain ⟨before, t, after, x, y, rfl, ht, rfl⟩ := ih hw
      exact ⟨p :: before, t, after, x, y, rfl, ht, by simp⟩
    · cases w with
      | nil =>
        rw [List.nil_append] at hps
        obtain ⟨before, t, after, x, y, rfl, ht, hx⟩ := ih (u := []) hps.symm
        refine ⟨p :: before, t, after, x, y, rfl, ht, ?_⟩
        rw [List.flatMap_cons, List.append_assoc, ← hx, hw, List.append_nil, List.append_nil]
      | cons b w =>
        obtain ⟨rfl, -⟩ := List.cons.inj hps
        exact ⟨[], p, ps, u, w, rfl, hw, rfl⟩

end Laying

/-! ## Segments of a text -/

theorem map_kind_segments (text : String) :
    (segments text).map Segment.kind = (pieces text).map Piece.kind := by
  have h := congrArg (List.map Prod.fst) (map_text_segments text)
  rw [List.map_map, List.map_map] at h
  exact h

theorem flatMap_toBytes (ps : List (Piece Char)) :
    (ps.map Piece.toBytes).flatMap Piece.symbols = charsBytes (ps.flatMap Piece.symbols) := by
  rw [List.flatMap_map, charsBytes, List.flatMap_assoc]
  rfl

/-- Where the character number `i` of a text starts, in bytes. -/
def charStart (text : String) (i : Nat) : Nat := (charsBytes (text.toList.take i)).length

theorem charStart_succ (text : String) (i : Fin text.toList.length) :
    charStart text (i + 1) = charStart text i + text.toList[i].utf8Size := by
  unfold charStart
  rw [List.take_succ_eq_append_getElem i.isLt, charsBytes_append, List.length_append,
    charsBytes_cons, charsBytes_nil, List.append_nil, String.length_utf8EncodeChar]
  rfl

/-- A character lies in one segment, that of the piece around it, and meets no other. -/
theorem filter_meets_segments (text : String) (i : Fin text.toList.length) :
    ∃ ps p qs x y s, pieces text = ps ++ p :: qs ∧ p.symbols = x ++ text.toList[i] :: y ∧
      text.toList.take i = ps.flatMap Piece.symbols ++ x ∧ s.kind = p.kind ∧
      s.start ≤ charStart text i ∧ charStart text (i + 1) ≤ s.stop ∧
      (segments text).filter (·.meets (charStart text i) (charStart text (i + 1))) = [s] := by
  have hflat : (pieces text).flatMap Piece.symbols =
      text.toList.take i ++ text.toList[i] :: text.toList.drop (i + 1) := by
    rw [pieces, Alphabet.pieces_flatten]
    simp
  obtain ⟨ps, p, qs, x, y, hps, hp, htake⟩ := exists_piece_of_append hflat
  have hpos := text.toList[i].utf8Size_pos
  have hstart : charStart text i =
      (charsBytes (ps.flatMap Piece.symbols)).length + (charsBytes x).length := by
    simp [charStart, htake, charsBytes]
  have hstop := charStart_succ text i
  have hlen : p.toBytes.symbols.length =
      (charsBytes x).length + text.toList[i].utf8Size + (charsBytes y).length := by
    simp [Piece.toBytes, hp, charsBytes, String.length_utf8EncodeChar, Nat.add_assoc]
  have hbytes := congrArg List.length (flatMap_toBytes ps)
  have hsegments := segments_eq_place text
  rw [hps, List.map_append, List.map_cons] at hsegments
  refine ⟨ps, p, qs, x, y, _, hps, hp, htake, ?_, ?_, ?_, hsegments ▸
    filter_meets_place (ps.map Piece.toBytes) p.toBytes (qs.map Piece.toBytes) ?_ ?_ ?_⟩
  · rfl
  · show 0 + _ ≤ _
    omega
  · show _ ≤ 0 + _ + _
    omega
  · omega
  · omega
  · omega

end Uncomment
