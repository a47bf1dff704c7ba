import Uncomment.Proofs.Scan.Place
import Uncomment.Proofs.Scan.Seam
import Uncomment.Proofs.Text.Offset

/-!
# Segments as a partition

The segments of a text cut it up: they lie end to end from its front to its end, each of them with
at least one character, and none begins or ends inside a character. Only where the text ends can
something be left open.

Results:
* `exists_of_mem_place`, `isChain_place`, `stop_of_mem_getLast?_place`: where pieces lie that are
  laid end to end.
* `exists_piece_of_mem_segments`, `exists_segment_of_pieces`: the piece that a segment was made
  from, and the segment that a piece makes.
* `eq_of_mem_segments`: no two segments share a byte.
* `utf8ByteSize_text_of_mem_segments`, `sum_length_segments`: lengths of ranges are those of texts,
  and add up to that of the whole.
* `partition_segments`: the segments of a text are a partition of it.
-/

namespace Uncomment

open Text

/-! ## Laying pieces -/

section Laying

variable {α : Type}

theorem exists_of_mem_place {offset : Nat} {ps : List (Piece α)} {s : Segment}
    (h : s ∈ place offset ps) :
    ∃ before p after, ps = before ++ p :: after ∧ s.kind = p.kind ∧
      s.start = offset + (before.flatMap Piece.symbols).length ∧
      s.stop = s.start + p.symbols.length := by
  induction ps generalizing offset with
  | nil => cases h
  | cons p ps ih =>
    rcases List.mem_cons.1 h with rfl | h
    · exact ⟨[], p, ps, rfl, rfl, rfl, rfl⟩
    · obtain ⟨before, t, after, rfl, hkind, hstart, hstop⟩ := ih h
      refine ⟨p :: before, t, after, rfl, hkind, ?_, hstop⟩
      rw [List.flatMap_cons, List.length_append]
      omega

theorem start_of_mem_head?_place {offset : Nat} {ps : List (Piece α)} :
    ∀ s ∈ (place offset ps).head?, s.start = offset := by
  cases ps with
  | nil => simp [place]
  | cons p ps => simp [place]

theorem isChain_place (offset : Nat) (ps : List (Piece α)) :
    (place offset ps).IsChain fun s t => s.stop = t.start := by
  induction ps generalizing offset with
  | nil => exact .nil
  | cons p ps ih =>
    rw [place, List.isChain_cons]
    exact ⟨fun t ht => (start_of_mem_head?_place t ht).symm, ih _⟩

theorem stop_of_mem_getLast?_place {offset : Nat} {ps : List (Piece α)} :
    ∀ s ∈ (place offset ps).getLast?, s.stop = offset + (ps.flatMap Piece.symbols).length := by
  intro s hs
  rcases List.eq_nil_or_concat ps with rfl | ⟨init, p, rfl⟩
  · cases hs
  · rw [List.concat_eq_append, place_append, place, place, List.getLast?_concat] at hs
    obtain rfl := Option.some.inj hs
    simp [Nat.add_assoc]

end Laying

/-! ## Segments of a text -/

theorem exists_piece_of_mem_segments {text : String} {s : Segment} (h : s ∈ segments text) :
    ∃ before p after, pieces text = before ++ p :: after ∧ s.kind = p.kind ∧
      s.start = (charsBytes (before.flatMap Piece.symbols)).length ∧
      s.stop = s.start + (charsBytes p.symbols).length := by
  rw [segments_eq_place] at h
  obtain ⟨before, p, after, hps, hkind, hstart, hstop⟩ := exists_of_mem_place h
  obtain ⟨before, rest, hpieces, rfl, hrest⟩ := List.map_eq_append_iff.1 hps
  obtain ⟨p, after, rfl, rfl, rfl⟩ := List.map_eq_cons_iff.1 hrest
  rw [flatMap_toBytes, Nat.zero_add] at hstart
  exact ⟨before, p, after, hpieces, hkind, hstart, hstop⟩

theorem exists_segment_of_pieces {text : String} {before after : List (Piece Char)}
    {p : Piece Char} (h : pieces text = before ++ p :: after) :
    ∃ s ∈ segments text, s.kind = p.kind ∧
      s.start = (charsBytes (before.flatMap Piece.symbols)).length ∧
      s.stop = s.start + (charsBytes p.symbols).length := by
  rw [segments_eq_place, h, List.map_append, List.map_cons, place_append, flatMap_toBytes,
    Nat.zero_add, place]
  exact ⟨_, List.mem_append_right _ List.mem_cons_self, rfl, rfl, rfl⟩

/-- No two segments share a byte. -/
theorem eq_of_mem_segments {text : String} {s t : Segment} (hs : s ∈ segments text)
    (ht : t ∈ segments text) {i : Nat} (hi : s.start ≤ i ∧ i < s.stop)
    (hi' : t.start ≤ i ∧ i < t.stop) : s = t := by
  rw [segments_eq_place] at hs ht
  exact eq_of_mem_place hs ht hi hi'

theorem start_lt_stop_of_mem_segments {text : String} {s : Segment} (h : s ∈ segments text) :
    s.start < s.stop := by
  obtain ⟨before, p, after, hpieces, -, -, hstop⟩ := exists_piece_of_mem_segments h
  have hp : p ∈ pieces text := by rw [hpieces]; simp
  obtain ⟨c, cs, hcons⟩ := List.exists_cons_of_ne_nil ((tokens_of_text text).symbols_ne_nil hp)
  have hpos := c.utf8Size_pos
  rw [hstop, hcons, charsBytes_cons, List.length_append, String.length_utf8EncodeChar]
  omega

theorem boundaries_of_mem_segments {text : String} {s : Segment} (h : s ∈ segments text) :
    String.Pos.Raw.IsValid text ⟨s.start⟩ ∧ String.Pos.Raw.IsValid text ⟨s.stop⟩ := by
  obtain ⟨before, p, after, hpieces, -, hstart, hstop⟩ := exists_piece_of_mem_segments h
  have htext := toList_of_pieces hpieces
  have hlen : s.stop = (charsBytes (before.flatMap Piece.symbols ++ p.symbols)).length := by
    rw [hstop, hstart, charsBytes_append, List.length_append]
  rw [hstart, hlen]
  exact ⟨Offset.isValid_of_append htext,
    Offset.isValid_of_append (by rw [htext, List.append_assoc])⟩

theorem utf8ByteSize_text_of_mem_segments {text : String} {s : Segment} (h : s ∈ segments text) :
    (s.text text).utf8ByteSize = s.length := by
  obtain ⟨before, p, after, hpieces, -, hstart, hstop⟩ := exists_piece_of_mem_segments h
  have htext := toList_of_pieces hpieces
  rw [← List.append_assoc] at htext
  have hslice := extract_charsBytes (before.flatMap Piece.symbols) p.symbols
    (after.flatMap Piece.symbols)
  rw [← htext, String.ofList_toList, ← hstart, ← hstop] at hslice
  have hsize : (s.text text).utf8ByteSize = (charsBytes p.symbols).length := by
    rw [Segment.text, hslice, length_charsBytes]
  rw [hsize, Segment.length]
  omega

theorem join_map_text_segments (text : String) :
    String.join ((segments text).map (·.text text)) = text := by
  have h := congrArg (List.map Prod.snd) (map_text_segments text)
  rw [List.map_map, List.map_map] at h
  have htext : (segments text).map (·.text text) = (pieces text).map Piece.text := h
  rw [htext, ← String.toList_inj, toList_join_map_text, flatMap_pieces]

theorem utf8ByteSize_join (ts : List String) :
    (String.join ts).utf8ByteSize = (ts.map String.utf8ByteSize).sum := by
  induction ts with
  | nil => rfl
  | cons t ts ih =>
    rw [String.join_cons, String.utf8ByteSize_append, ih, List.map_cons, List.sum_cons]

theorem sum_length_segments (text : String) :
    ((segments text).map Segment.length).sum = text.utf8ByteSize := by
  have h := congrArg String.utf8ByteSize (join_map_text_segments text)
  rw [utf8ByteSize_join, List.map_map] at h
  rw [← h]
  congr 1
  exact List.map_congr_left fun s hs => (utf8ByteSize_text_of_mem_segments hs).symm

theorem isTerminated_of_mem_dropLast {text : String} {s : Segment}
    (h : s ∈ (segments text).dropLast) : s.kind.isTerminated = true := by
  have hkind : s.kind ∈ (pieces text).dropLast.map Piece.kind := by
    rw [List.map_dropLast, ← map_kind_segments, ← List.map_dropLast]
    exact List.mem_map_of_mem h
  obtain ⟨p, hp, hpk⟩ := List.mem_map.1 hkind
  have htokens := tokens_of_text text
  rw [← hpk]
  rcases List.eq_nil_or_concat (pieces text) with hnil | ⟨init, q, hconcat⟩
  · rw [hnil] at hp
    cases hp
  · rw [hconcat, List.concat_eq_append] at hp htokens
    rw [List.dropLast_concat] at hp
    exact htokens.isTerminated_of_append p hp

/-- The segments are not empty and lie end to end from the front of the text to its end; both ends
    of each lie between characters; their texts make up the text; and only the last can be open. -/
structure Partition (text : String) (ss : List Segment) : Prop where
  start_lt_stop : ∀ s ∈ ss, s.start < s.stop
  first : ∀ s ∈ ss.head?, s.start = 0
  contiguous : ss.IsChain fun s t => s.stop = t.start
  last : ∀ s ∈ ss.getLast?, s.stop = text.utf8ByteSize
  boundaries : ∀ s ∈ ss,
    String.Pos.Raw.IsValid text ⟨s.start⟩ ∧ String.Pos.Raw.IsValid text ⟨s.stop⟩
  join_map_text : String.join (ss.map (·.text text)) = text
  terminated : ∀ s ∈ ss.dropLast, s.kind.isTerminated = true

theorem partition_segments (text : String) : Partition text (segments text) where
  start_lt_stop _ := start_lt_stop_of_mem_segments
  first := by
    rw [segments_eq_place]
    exact start_of_mem_head?_place
  contiguous := by
    rw [segments_eq_place]
    exact isChain_place 0 _
  last := by
    intro s hs
    rw [segments_eq_place] at hs
    rw [stop_of_mem_getLast?_place s hs, flatMap_toBytes, flatMap_pieces, ← bytes_eq, length_bytes,
      Nat.zero_add]
  boundaries _ := boundaries_of_mem_segments
  join_map_text := join_map_text_segments text
  terminated _ := isTerminated_of_mem_dropLast

theorem start_add_length_le {ss : List Segment} (hlt : ∀ s ∈ ss, s.start < s.stop)
    (hchain : ss.IsChain fun s t => s.stop = t.start) :
    ∀ s ∈ ss.head?, ∀ t ∈ ss.getLast?, s.start + ss.length ≤ t.stop := by
  induction ss with
  | nil => simp
  | cons a rest ih =>
    rw [List.forall_mem_cons] at hlt
    intro s hs t ht
    obtain rfl := Option.some.inj hs
    cases rest with
    | nil =>
      obtain rfl := Option.some.inj ht
      exact hlt.1
    | cons b rest =>
      rw [List.isChain_cons_cons] at hchain
      have hnext := ih hlt.2 hchain.2 b rfl t (by rwa [List.getLast?_cons_cons] at ht)
      rw [List.length_cons]
      omega

/-- A partition has no more segments than the text has bytes. -/
theorem Partition.length_le {text : String} {ss : List Segment} (h : Partition text ss) :
    ss.length ≤ text.utf8ByteSize := by
  cases hlast : ss.getLast? with
  | none =>
    rw [List.getLast?_eq_none_iff.1 hlast]
    exact Nat.zero_le _
  | some t =>
    obtain ⟨s, hs⟩ : ∃ s, ss.head? = some s := by
      cases ss with
      | nil => cases hlast
      | cons s rest => exact ⟨s, rfl⟩
    have hspan := start_add_length_le h.start_lt_stop h.contiguous s hs t hlast
    have hstop := h.last t hlast
    omega

end Uncomment
