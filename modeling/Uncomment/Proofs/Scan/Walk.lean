import Uncomment.Proofs.Scan.Offset
import Uncomment.Scan.Walk

/-!
# Cursors that go their own ways

However a walk goes on, each of its cursors stands between two segments of the text, with the last
segments of the text before it. Nothing but its offset is needed to tell which: they are the
segments of the slice of the text from there on. So a cursor is moved by no step but those on
itself, a copy goes on as the cursor would, and a cursor that has come to the end stays there.

Results:
* `Move.run_segments`: what a move answers and leaves, from the segments that remain.
* `Move.run_preserves`: what holds behind every single segment holds behind every move.
* `Cursor.Between.restart`: the remaining segments are those of the rest of the text.
* `between_step?`, `between_steps?`: cursors stand between segments after one step, and after any.
* `exhausted_step?`, `exhausted_steps?`: so does a cursor stay at the end of the text.
* `steps?_ofText`: all of this for the walks that begin with one cursor before the text.
-/

namespace Uncomment

open Text

/-! ## What a move leaves -/

/-- What a move answers, and what it leaves, of the segments that remain. -/
def Walk.Move.onSegments : Move → List Segment → Option Segment × List Segment
  | next, ss => (ss.head?, ss.tail)
  | nth n, ss => (ss[n]?, ss.drop (n + 1))
  | nextComment, ss =>
    (ss.find? fun s => !s.kind.isKept, (ss.dropWhile fun s => s.kind.isKept).tail)

namespace Cursor

theorem next_snd_segments (c : Cursor) : c.next.2.segments = c.segments.tail := by
  rw [next]
  cases h : c.next? with
  | none =>
    rw [segments_eq_nil h]
    rfl
  | some sd => rw [segments_eq_cons h, List.tail_cons]

theorem nth_snd_segments (n : Nat) (c : Cursor) :
    (c.nth n).2.segments = c.segments.drop (n + 1) := by
  induction n generalizing c with
  | zero => rw [nth, next_snd_segments, List.drop_one]
  | succ n ih =>
    rw [nth]
    cases h : c.next? with
    | none =>
      rw [segments_eq_nil h, List.drop_nil]
    | some sd =>
      rw [segments_eq_cons h, List.drop_succ_cons]
      exact ih sd.2

theorem nextComment_snd_segments (c : Cursor) :
    c.nextComment.2.segments = (c.segments.dropWhile fun s => s.kind.isKept).tail := by
  fun_induction nextComment c with
  | case1 c h =>
    rw [segments_eq_nil h]
    rfl
  | case2 c s d h _ hk ih =>
    rw [ih, segments_eq_cons h]
    simp [hk]
  | case3 c s d h _ hk =>
    rw [segments_eq_cons h]
    simp [hk]

end Cursor

namespace Walk

theorem Move.run_segments (how : Move) (c : Cursor) :
    ((how.run c).1, (how.run c).2.segments) = how.onSegments c.segments := by
  cases how with
  | next => exact Prod.ext c.next_fst c.next_snd_segments
  | nth n => exact Prod.ext (c.nth_fst n) (c.nth_snd_segments n)
  | nextComment => exact Prod.ext c.nextComment_fst c.nextComment_snd_segments

/-- A move that answers nothing leaves nothing. -/
theorem Move.onSegments_eq_nil {how : Move} {ss : List Segment}
    (h : (how.onSegments ss).1 = none) : (how.onSegments ss).2 = [] := by
  cases how with
  | next =>
    obtain rfl := List.head?_eq_none_iff.1 h
    rfl
  | nth n =>
    have hlen : ss.length ≤ n := List.getElem?_eq_none_iff.1 h
    exact List.drop_eq_nil_of_le (by omega)
  | nextComment =>
    have hall : ∀ s ∈ ss, s.kind.isKept = true := by
      intro s hs
      simpa using List.find?_eq_none.1 h s hs
    show (ss.dropWhile fun s => s.kind.isKept).tail = []
    rw [List.dropWhile_eq_nil_iff.2 hall, List.tail_nil]

theorem Move.onSegments_nil (how : Move) : how.onSegments [] = (none, []) := by
  cases how <;> rfl

theorem Move.run_preserves {P : Cursor → Prop}
    (hnext : ∀ c s d, P c → c.next? = some (s, d) → P d) (how : Move) {c : Cursor} (h : P c) :
    P (how.run c).2 := by
  have hstep : ∀ c, P c → P c.next.2 := by
    intro c h
    unfold Cursor.next
    cases hc : c.next? with
    | none => exact h
    | some sd => exact hnext c sd.1 sd.2 h hc
  cases how with
  | next => exact hstep c h
  | nth n =>
    show P (c.nth n).2
    induction n generalizing c with
    | zero => exact hstep c h
    | succ n ih =>
      unfold Cursor.nth
      cases hc : c.next? with
      | none => exact h
      | some sd => exact ih (hnext c sd.1 sd.2 h hc)
  | nextComment =>
    show P c.nextComment.2
    fun_induction Cursor.nextComment c with
    | case1 => exact h
    | case2 c s d hc _ _ ih => exact ih (hnext c s d h hc)
    | case3 c s d hc => exact hnext c s d h hc

end Walk

/-! ## Between two segments -/

theorem place_add {α : Type} (n m : Nat) (ps : List (Piece α)) :
    place (n + m) ps = (place m ps).map (Segment.shift n) := by
  induction ps generalizing m with
  | nil => rfl
  | cons p ps ih =>
    rw [place, place, List.map_cons, Nat.add_assoc, ih]
    rfl

namespace Cursor

/-- The cursor stands before the text or behind one of its segments, with the rest of the text and
    the rest of its segments before it. -/
structure Between (text : String) (c : Cursor) : Prop where
  offset : c.offset = 0 ∨ ∃ s ∈ Uncomment.segments text, c.offset = s.stop
  rest : c = Offset.cursorAt text c.offset
  suffix : c.segments <:+ Uncomment.segments text

theorem between_ofText (text : String) : Between text (ofText text) where
  offset := .inl rfl
  rest := rfl
  suffix := List.suffix_refl _

theorem Between.next? {text : String} {c d : Cursor} {s : Segment} (h : Between text c)
    (hnext : c.next? = some (s, d)) : Between text d := by
  have hsegments := segments_eq_cons hnext
  have hs : s ∈ Uncomment.segments text := by
    apply h.suffix.subset
    rw [hsegments]
    exact List.mem_cons_self
  have hd : d = Offset.cursorAt text s.stop := by
    rw [h.rest] at hnext
    exact Offset.eq_cursorAt_of_next? hnext
  have hoffset : d.offset = s.stop := by rw [hd]; rfl
  constructor
  · exact .inr ⟨s, hs, hoffset⟩
  · rw [hoffset]
    exact hd
  · have hsuffix := h.suffix
    rw [hsegments] at hsuffix
    exact (List.suffix_cons s d.segments).trans hsuffix

theorem Between.isValid {text : String} {c : Cursor} (h : Between text c) :
    String.Pos.Raw.IsValid text ⟨c.offset⟩ := by
  obtain hzero | ⟨s, hs, hstop⟩ := h.offset
  · rw [hzero]
    exact String.Pos.Raw.isValid_zero
  · rw [hstop]
    exact (boundaries_of_mem_segments hs).2

theorem Between.restart {text : String} {c : Cursor} (h : Between text c) :
    ∃ rest, Offset.slice text c.offset text.utf8ByteSize = .ok rest ∧
      c.segments = (Uncomment.segments rest).map (Segment.shift c.offset) := by
  obtain ⟨before, after, htext, hoffset⟩ := Offset.exists_append_of_isValid h.isValid
  obtain ⟨hdrop, hslice⟩ := Offset.slice_to_end htext
  rw [← hoffset, length_bytes] at hslice
  have hrest : c.rest = charsBytes after := by
    rw [h.rest, Offset.cursorAt, hoffset, hdrop]
  refine ⟨String.ofList after, hslice, ?_⟩
  -- both rows of segments are the pieces of the same bytes, laid out from different offsets
  rw [segments_eq_place, Uncomment.segments, segments_eq_place, hrest, ofText, bytes_ofList]
  exact place_add c.offset 0 _

end Cursor

namespace Walk

/-! ## One step -/

theorem step?_cases {w w' : Walk} {step : Step} {answer : Answer}
    (h : w.step? step = some (answer, w')) :
    (∃ i how c, step = .move i how ∧ w[i]? = some c ∧ answer = .reached (how.run c).1 ∧
        w' = w.set i (how.run c).2) ∨
      ∃ i c, step = .clone i ∧ w[i]? = some c ∧ answer = .made w.length ∧ w' = w ++ [c] := by
  cases step with
  | move i how =>
    obtain ⟨c, hc, heq⟩ := Option.map_eq_some_iff.1 h
    obtain ⟨rfl, rfl⟩ := Prod.mk.inj heq
    exact .inl ⟨i, how, c, rfl, hc, rfl, rfl⟩
  | clone i =>
    obtain ⟨c, hc, heq⟩ := Option.map_eq_some_iff.1 h
    obtain ⟨rfl, rfl⟩ := Prod.mk.inj heq
    exact .inr ⟨i, c, rfl, hc, rfl, rfl⟩

theorem between_step? {text : String} {w w' : Walk} {step : Step} {answer : Answer}
    (hw : ∀ c ∈ w, Cursor.Between text c) (h : w.step? step = some (answer, w')) :
    ∀ c ∈ w', Cursor.Between text c := by
  obtain ⟨i, how, c, -, hc, -, rfl⟩ | ⟨i, c, -, hc, -, rfl⟩ := step?_cases h
  · have hrun : Cursor.Between text (how.run c).2 :=
      how.run_preserves (fun _ _ _ => Cursor.Between.next?) (hw c (List.mem_of_getElem? hc))
    intro d hd
    obtain hd | rfl := List.mem_or_eq_of_mem_set hd
    · exact hw d hd
    · exact hrun
  · intro d hd
    obtain hd | hd := List.mem_append.1 hd
    · exact hw d hd
    · rw [List.mem_singleton.1 hd]
      exact hw c (List.mem_of_getElem? hc)

/-- The cursor of that number has no segment before it. -/
def Exhausted (w : Walk) (i : Nat) : Prop := ∃ c, w[i]? = some c ∧ c.segments = []

theorem exhausted_step? {w w' : Walk} {i : Nat} {step : Step} {answer : Answer}
    (hw : w.Exhausted i) (h : w.step? step = some (answer, w')) : w'.Exhausted i := by
  obtain ⟨c, hc, hnil⟩ := hw
  obtain ⟨j, how, d, -, hd, -, rfl⟩ | ⟨j, d, -, -, -, rfl⟩ := step?_cases h
  · by_cases hij : j = i
    · subst hij
      obtain rfl := Option.some.inj (hd.symm.trans hc)
      have hlen := (List.getElem?_eq_some_iff.1 hc).1
      have hrun := congrArg Prod.snd (how.run_segments d)
      rw [hnil, Move.onSegments_nil] at hrun
      exact ⟨(how.run d).2, by rw [List.getElem?_set_self hlen], hrun⟩
    · exact ⟨c, by rw [List.getElem?_set_ne hij, hc], hnil⟩
  · have hlen := (List.getElem?_eq_some_iff.1 hc).1
    exact ⟨c, by rw [List.getElem?_append_left hlen, hc], hnil⟩

theorem exhausted_of_reached_none {w w' : Walk} {i : Nat} {how : Move}
    (h : w.step? (.move i how) = some (.reached none, w')) : w'.Exhausted i := by
  obtain ⟨c, hc, heq⟩ := Option.map_eq_some_iff.1 h
  obtain ⟨hanswer, rfl⟩ := Prod.mk.inj heq
  have hlen := (List.getElem?_eq_some_iff.1 hc).1
  have hnone : (how.run c).1 = none := Answer.reached.inj hanswer
  have hrun := how.run_segments c
  refine ⟨(how.run c).2, by rw [List.getElem?_set_self hlen], ?_⟩
  rw [congrArg Prod.fst hrun] at hnone
  exact (congrArg Prod.snd hrun).trans (Move.onSegments_eq_nil hnone)

theorem reached_none_of_exhausted {w : Walk} {i : Nat} (hw : w.Exhausted i) (how : Move) :
    ∃ w', w.step? (.move i how) = some (.reached none, w') := by
  obtain ⟨c, hc, hnil⟩ := hw
  obtain ⟨w', hstep, -, -⟩ := step?_move how hc
  have hrun := congrArg Prod.fst (how.run_segments c)
  rw [hnil, Move.onSegments_nil] at hrun
  rw [hrun] at hstep
  exact ⟨w', hstep⟩

/-! ## Any number of steps -/

/-- Does steps one after the other, if each is on a cursor that there is by then. -/
def steps? (w : Walk) : List Step → Option (List Answer × Walk)
  | [] => some ([], w)
  | step :: steps =>
    (w.step? step).bind fun (answer, w) =>
      (w.steps? steps).map fun (answers, w) => (answer :: answers, w)

/-- What every step keeps is kept by any number of them. -/
theorem steps?_preserves {P : Walk → Prop}
    (hstep : ∀ w step answer w', P w → w.step? step = some (answer, w') → P w')
    {w w' : Walk} {steps : List Step} {answers : List Answer} (hw : P w)
    (h : w.steps? steps = some (answers, w')) : P w' := by
  induction steps generalizing w answers with
  | nil =>
    obtain ⟨-, rfl⟩ := Prod.mk.inj (Option.some.inj h)
    exact hw
  | cons step steps ih =>
    obtain ⟨⟨answer, v⟩, hv, hmore⟩ := Option.bind_eq_some_iff.1 h
    obtain ⟨⟨answers, u⟩, hu, heq⟩ := Option.map_eq_some_iff.1 hmore
    obtain ⟨-, rfl⟩ := Prod.mk.inj heq
    exact ih (hstep w step answer v hw hv) hu

theorem between_steps? {text : String} {w : Walk} {steps : List Step} {answers : List Answer}
    (h : (ofText text).steps? steps = some (answers, w)) :
    ∀ c ∈ w, Cursor.Between text c := by
  refine steps?_preserves (fun _ _ _ _ => between_step?) ?_ h
  intro c hc
  rw [List.mem_singleton.1 hc]
  exact Cursor.between_ofText text

theorem exhausted_steps? {w w' : Walk} {i : Nat} {steps : List Step} {answers : List Answer}
    (hw : w.Exhausted i) (h : w.steps? steps = some (answers, w')) : w'.Exhausted i :=
  steps?_preserves (fun _ _ _ _ => exhausted_step?) hw h

/-- Some steps were done, the first of them with one cursor before the text. Then each cursor holds
    nothing but its offset, which is zero or the end of a segment. Its remaining segments are the
    last ones of the text, and those of the rest of the text, shifted by the offset. A move on a
    cursor answers and leaves what it has to of these and changes no other cursor; a clone adds a
    cursor with the same remaining segments and changes none. When a move has answered nothing, then
    whatever is done from then on, all moves on that cursor answer nothing. -/
theorem steps?_ofText {text : String} {steps : List Step} {answers : List Answer} {w : Walk}
    (h : (ofText text).steps? steps = some (answers, w)) :
    (∀ c ∈ w, c = Offset.cursorAt text c.offset ∧
      (c.offset = 0 ∨ ∃ s ∈ segments text, c.offset = s.stop) ∧
      c.segments <:+ segments text ∧
      ∃ rest, Offset.slice text c.offset text.utf8ByteSize = .ok rest ∧
        c.segments = (segments rest).map (Segment.shift c.offset)) ∧
    (∀ i c how, w[i]? = some c → ∃ w' d,
      w.step? (.move i how) = some (.reached (how.onSegments c.segments).1, w') ∧
      w'[i]? = some d ∧ d.segments = (how.onSegments c.segments).2 ∧
      ∀ j, j ≠ i → w'[j]? = w[j]?) ∧
    (∀ i c, w[i]? = some c → ∃ w' d,
      w.step? (.clone i) = some (.made w.length, w') ∧
      w'[w.length]? = some d ∧ d.segments = c.segments ∧
      ∀ j, j ≠ w.length → w'[j]? = w[j]?) ∧
    ∀ i how w', w.step? (.move i how) = some (.reached none, w') →
      ∀ more answers' w'', w'.steps? more = some (answers', w'') →
        ∀ how', ∃ v, w''.step? (.move i how') = some (.reached none, v) := by
  refine ⟨fun c hc => ?_, fun i c how hc => ?_, fun i c hc => ?_, ?_⟩
  · have hbetween := between_steps? h c hc
    exact ⟨hbetween.rest, hbetween.offset, hbetween.suffix, hbetween.restart⟩
  · obtain ⟨w', hstep, hself, hother⟩ := step?_move how hc
    have hrun := how.run_segments c
    rw [congrArg Prod.fst hrun] at hstep
    exact ⟨w', (how.run c).2, hstep, hself, congrArg Prod.snd hrun, hother⟩
  · obtain ⟨w', hstep, hself, hother⟩ := step?_clone hc
    refine ⟨w', c, hstep, hself, rfl, fun j hj => ?_⟩
    -- a number above that of the copy is that of no cursor, before or after
    by_cases hlt : j < w.length
    · exact hother j hlt
    · obtain ⟨d, hd, heq⟩ := Option.map_eq_some_iff.1 hstep
      obtain ⟨-, rfl⟩ := Prod.mk.inj heq
      have hlen : (w ++ [d]).length ≤ j := by
        rw [List.length_append, List.length_singleton]
        omega
      rw [List.getElem?_eq_none hlen, List.getElem?_eq_none (by omega)]
  · intro i how w' hnone more answers' w'' hmore how'
    exact reached_none_of_exhausted
      (exhausted_steps? (exhausted_of_reached_none hnone) hmore) how'

/-- A copy is moved to the comment, and starts again behind it; the cursor it was made from passes
    over more segments than there are. -/
theorem steps?_ofText_copy :
    (ofText "é'*/'/*b*/c").steps? [.move 0 (.nth 0), .clone 0, .move 1 .nextComment] =
        some ([.reached (some ⟨.code, 0, 2⟩), .made 1, .reached (some ⟨.comment true, 6, 11⟩)],
          [⟨2, bytes "'*/'/*b*/c"⟩, ⟨11, [0x63]⟩]) ∧
      (∃ rest, Offset.slice "é'*/'/*b*/c" 11 12 = .ok rest ∧
        Cursor.segments ⟨11, [0x63]⟩ = (segments rest).map (Segment.shift 11)) ∧
      ∀ more answers w, steps? [⟨12, []⟩, ⟨11, [0x63]⟩] more = some (answers, w) →
        ∀ how, ∃ v, w.step? (.move 0 how) = some (.reached none, v) := by
  have h : (ofText "é'*/'/*b*/c").steps? [.move 0 (.nth 0), .clone 0, .move 1 .nextComment] =
      some ([.reached (some ⟨.code, 0, 2⟩), .made 1, .reached (some ⟨.comment true, 6, 11⟩)],
        [⟨2, bytes "'*/'/*b*/c"⟩, ⟨11, [0x63]⟩]) := by
    decide +kernel
  obtain ⟨hall, -, -, hnone⟩ := steps?_ofText h
  refine ⟨h, (hall ⟨11, [0x63]⟩ (by simp)).2.2.2, ?_⟩
  exact hnone 0 (.nth 3) [⟨12, []⟩, ⟨11, [0x63]⟩] (by decide +kernel)

end Walk

end Uncomment
