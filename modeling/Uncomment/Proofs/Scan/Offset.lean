import Uncomment.Proofs.Scan.Partition

/-!
# The scan by offsets

A scan can be run with nothing but an offset into the stored bytes: it looks at single bytes,
searches the bytes from some offset on, and behind a backslash cuts the text to see how long the
character is that stands there. None of these looks ever goes wrong, and what is found are the
segments of the text.

Results:
* `codeStop_eq`, `commentStop_eq`, `literalStop_eq`: how far each kind of segment reaches.
* `next_eq`: one step, from any offset, is that of the cursor there.
* `calls_eq`: any number of steps from any offset.
* `calls_eq_segments`: any number of steps from the front of the text, and the segments found there
  as a partition of it.
-/

namespace Uncomment.Offset

open Text

/-! ## How far a segment reaches -/

/-- Up to the next stop behind the first byte, or to the end. -/
def codeStop (bs : Bytes) (start : Nat) : Except Fault (SegmentKind × Nat) := do
  let rest ← bytesFrom bs (start + 1)
  return (.code, (rest.findIdx? Alphabet.bytes.isStop).elim bs.length (start + 1 + ·))

/-- Behind the first pair of bytes that closes a comment, or to the end. -/
def commentStop (bs : Bytes) (start : Nat) : Except Fault (SegmentKind × Nat) := do
  let body ← bytesFrom bs (start + 2)
  match (body.zip body.tail).findIdx? (· = (Alphabet.bytes.star, Alphabet.bytes.slash)) with
  | some n => return (.comment true, start + 2 + n + 2)
  | none => return (.comment false, bs.length)

/-- Behind the first mark from offset `i` on that is not escaped, or to the end. A backslash takes
    the character along that begins the rest of the text. -/
def literalStop (text : String) (q : Quote) (i : Nat) : Except Fault (SegmentKind × Nat) :=
  if i < (bytes text).length then do
    let b ← byteAt (bytes text) i
    if b = q.byte then return (.literal q true, i + 1)
    else if b = Alphabet.bytes.backslash then
      let rest ← slice text (i + 1) (bytes text).length
      literalStop text q (i + 1 + rest.toList.head?.elim 0 Char.utf8Size)
    else literalStop text q (i + 1)
  else return (.literal q false, (bytes text).length)
termination_by (bytes text).length - i
decreasing_by all_goals omega

/-- Kind and end of the segment that begins at `pos` with the byte `b`. -/
def segmentStop (text : String) (pos : Nat) (b : UInt8) : Except Fault (SegmentKind × Nat) :=
  if b = Alphabet.bytes.slash ∧ (bytes text)[pos + 1]? = some Alphabet.bytes.star then
    commentStop (bytes text) pos
  else
    match Alphabet.bytes.quote? b with
    | some q => literalStop text q (pos + 1)
    | none => codeStop (bytes text) pos

/-! ## Steps -/

/-- The segment at `pos`, if the text goes on there. It has to end behind `pos`. -/
def next (text : String) (pos : Nat) : Except Fault (Option Segment) :=
  if (bytes text).length ≤ pos then return none
  else do
    let b ← byteAt (bytes text) pos
    let (kind, stop) ← segmentStop text pos b
    if stop ≤ pos then throw (.stuck pos)
    return some ⟨kind, pos, stop⟩

/-- The answers of `n` steps, the first at `pos`, each other one where the step before it ended. -/
def calls (text : String) : (n : Nat) → (pos : Nat) → Except Fault (List (Option Segment))
  | 0, _ => return []
  | n + 1, pos => do
    match ← next text pos with
    | none => return none :: (← calls text n pos)
    | some s => return some s :: (← calls text n s.stop)

/-! ## What the searches find -/

/-- Kind and end of a segment whose closing mark is searched for from `i` on. -/
def closing (kind : Bool → SegmentKind) (i size : Nat) (close : Option Nat) : SegmentKind × Nat :=
  close.elim (kind false, size) fun n => (kind true, i + n)

theorem closing_map (kind : Bool → SegmentKind) (i size n : Nat) (close : Option Nat) :
    closing kind i size (close.map (· + n)) = closing kind (i + n) size close := by
  cases close with
  | none => rfl
  | some m =>
    show (kind true, i + (m + n)) = (kind true, i + n + m)
    rw [Nat.add_comm m, Nat.add_assoc]

theorem closing_eq (kind : Bool → SegmentKind) {i size : Nat} {close : Option Nat} {rest : Bytes}
    (h : size = i + rest.length) :
    closing kind i size close = (kind close.isSome, i + close.getD rest.length) := by
  rw [h]
  cases close <;> rfl

theorem codeStop_eq {bs : Bytes} {start : Nat} (h : start < bs.length) :
    codeStop bs start =
      .ok (.code, start + Alphabet.bytes.codeLength (bs.drop (start + 1))) := by
  have hlen : (bs.drop (start + 1)).length = bs.length - (start + 1) := List.length_drop
  rw [codeStop, bytesFrom_eq h, Alphabet.codeLength, List.findIdx_eq_getD_findIdx?]
  show Except.ok _ = _
  congr 2
  cases (bs.drop (start + 1)).findIdx? Alphabet.bytes.isStop with
  | none =>
    show bs.length = start + (1 + (bs.drop (start + 1)).length)
    omega
  | some n =>
    show start + 1 + n = start + (1 + n)
    omega

theorem commentClose_eq_findIdx? (bs : Bytes) :
    Alphabet.bytes.commentClose bs =
      ((bs.zip bs.tail).findIdx?
        (· = (Alphabet.bytes.star, Alphabet.bytes.slash))).map (· + 2) := by
  induction bs with
  | nil => rfl
  | cons b rest ih =>
    rw [Alphabet.commentClose]
    cases rest with
    | nil => simp [Alphabet.commentClose]
    | cons c rest =>
      rw [List.tail_cons, List.zip_cons_cons, List.findIdx?_cons, ih]
      by_cases h : b = Alphabet.bytes.star ∧ c = Alphabet.bytes.slash
      · obtain ⟨rfl, rfl⟩ := h
        rfl
      · rw [if_neg (by simpa using h), if_neg (by simpa using h), Option.map_map, Option.map_map]
        rfl

theorem commentStop_eq {bs : Bytes} {start : Nat} (h : start + 2 ≤ bs.length) :
    commentStop bs start =
      .ok (closing .comment (start + 2) bs.length
        (Alphabet.bytes.commentClose (bs.drop (start + 2)))) := by
  rw [commentStop, bytesFrom_eq h, commentClose_eq_findIdx?, closing_map]
  show (match ((bs.drop (start + 2)).zip (bs.drop (start + 2)).tail).findIdx? _ with
    | some n => Except.ok (SegmentKind.comment true, start + 2 + n + 2)
    | none => Except.ok (SegmentKind.comment false, bs.length)) = _
  cases ((bs.drop (start + 2)).zip (bs.drop (start + 2)).tail).findIdx?
    (· = (Alphabet.bytes.star, Alphabet.bytes.slash)) with
  | none => rfl
  | some n =>
    show _ = Except.ok (SegmentKind.comment true, start + 2 + 2 + n)
    rw [Nat.add_right_comm]

/-- The character behind a backslash is passed over as a whole, without a look inside. -/
theorem literalClose_escaped (q : Quote) (after : List Char) :
    Alphabet.bytes.literalClose q.byte ((charsBytes after).head?.elim 0 Alphabet.bytes.width)
        (charsBytes after) =
      (Alphabet.bytes.literalClose q.byte 0
        ((charsBytes after).drop (after.head?.elim 0 Char.utf8Size))).map
          (· + after.head?.elim 0 Char.utf8Size) := by
  cases after with
  | nil => rfl
  | cons c after =>
    obtain ⟨lead, more, hc, hwidth⟩ := leadWidth_of_bytes c
    have hlen : (String.utf8EncodeChar c).length = c.utf8Size := String.length_utf8EncodeChar c
    have hlead : Alphabet.bytes.width lead = (String.utf8EncodeChar c).length := by
      rw [hlen]
      exact hwidth
    have hhead : (charsBytes (c :: after)).head? = some lead := by
      rw [charsBytes_cons, hc]
      rfl
    rw [hhead, Option.elim_some, List.head?_cons, Option.elim_some, hlead, ← hlen, charsBytes_cons,
      List.drop_left]
    exact Alphabet.literalClose_append (B := Alphabet.bytes) q (Nat.le_refl _)
      (by rw [List.drop_length]; exact List.forall_mem_nil _) (charsBytes after)

theorem literalStop_eq (text : String) (q : Quote) (i : Nat) :
    literalStop text q i =
      .ok (closing (.literal q) i (bytes text).length
        (Alphabet.bytes.literalClose q.byte 0 ((bytes text).drop i))) := by
  fun_induction literalStop text q i with
  | case1 i hlt ihescape ihplain =>
    have hget := List.getElem?_eq_getElem hlt
    rw [byteAt_eq hlt, List.drop_eq_getElem_cons hlt, Alphabet.literalClose]
    generalize (bytes text)[i] = b at hget ⊢
    show (if b = q.byte then _ else _) = _
    by_cases hq : b = q.byte
    · rw [if_pos hq, if_pos hq]
      rfl
    · rw [if_neg hq, if_neg hq]
      by_cases hb : b = Alphabet.bytes.backslash
      · -- the bytes passed one by one may be parts of characters, but a backslash is not
        subst hb
        obtain ⟨after, hafter, hslice⟩ := slice_behind_backslash hget
        have ih := ihescape (String.ofList after)
        rw [String.toList_ofList, ← List.drop_drop, hafter] at ih
        rw [if_pos rfl, if_pos rfl, hslice, hafter, literalClose_escaped, closing_map,
          closing_map]
        show literalStop text q (i + 1 + (String.ofList after).toList.head?.elim 0 _) = _
        rw [String.toList_ofList]
        exact ih
      · rw [if_neg hb, if_neg hb, ihplain, closing_map]
  | case2 i hge =>
    rw [List.drop_eq_nil_of_le (Nat.le_of_not_lt hge)]
    rfl

theorem segmentStop_eq {text : String} {pos : Nat} (h : pos < (bytes text).length) :
    segmentStop text pos (bytes text)[pos] =
      .ok ((Alphabet.bytes.front (bytes text)[pos] ((bytes text).drop (pos + 1))).1,
        pos + (Alphabet.bytes.front (bytes text)[pos] ((bytes text).drop (pos + 1))).2) := by
  have hlen : ((bytes text).drop (pos + 1)).length = (bytes text).length - (pos + 1) :=
    List.length_drop
  have htail : ((bytes text).drop (pos + 1)).tail = (bytes text).drop (pos + 2) := List.tail_drop
  unfold segmentStop Alphabet.front
  rw [← List.head?_drop]
  by_cases hopen : (bytes text)[pos] = Alphabet.bytes.slash ∧
      ((bytes text).drop (pos + 1)).head? = some Alphabet.bytes.star
  · have hfit : pos + 2 ≤ (bytes text).length := by
      obtain ⟨rest, hrest⟩ := List.head?_eq_some_iff.1 hopen.2
      rw [hrest, List.length_cons] at hlen
      omega
    have hsize : (bytes text).length = pos + 2 + ((bytes text).drop (pos + 2)).length := by
      rw [List.length_drop]
      omega
    rw [if_pos hopen, if_pos hopen, commentStop_eq hfit, closing_eq _ hsize, htail, Nat.add_assoc]
  · rw [if_neg hopen, if_neg hopen]
    cases Alphabet.bytes.quote? (bytes text)[pos] with
    | none => exact codeStop_eq h
    | some q =>
      have hsize : (bytes text).length = pos + 1 + ((bytes text).drop (pos + 1)).length := by
        omega
      show literalStop text q (pos + 1) = _
      rw [literalStop_eq, closing_eq _ hsize, Nat.add_assoc]
      rfl

/-! ## What the steps answer -/

/-- The cursor at an offset. -/
def cursorAt (text : String) (pos : Nat) : Cursor := ⟨pos, (bytes text).drop pos⟩

theorem eq_cursorAt_of_next? {text : String} {pos : Nat} {s : Segment} {d : Cursor}
    (h : (cursorAt text pos).next? = some (s, d)) : d = cursorAt text s.stop := by
  unfold cursorAt at h ⊢
  cases hrest : (bytes text).drop pos with
  | nil =>
    rw [hrest] at h
    cases h
  | cons b rest =>
    rw [hrest] at h
    obtain ⟨rfl, rfl⟩ := Prod.mk.inj (Option.some.inj h)
    rw [← hrest, List.drop_drop]

theorem next_eq (text : String) (pos : Nat) :
    next text pos = .ok ((cursorAt text pos).next?.map Prod.fst) := by
  unfold cursorAt
  by_cases hlt : pos < (bytes text).length
  · have hpos := Alphabet.bytes.front_pos (bytes text)[pos] ((bytes text).drop (pos + 1))
    rw [next, if_neg (by omega), byteAt_eq hlt, List.drop_eq_getElem_cons hlt, Cursor.next?]
    show (segmentStop text pos (bytes text)[pos] >>= _) = _
    rw [segmentStop_eq hlt]
    show (if _ ≤ pos then _ else _) = _
    rw [if_neg (by omega)]
    rfl
  · rw [next, if_pos (by omega), List.drop_eq_nil_of_le (by omega)]
    rfl

theorem calls_eq (text : String) (n pos : Nat) :
    calls text n pos =
      .ok ((List.range n).map fun i => (cursorAt text pos).segments[i]?) := by
  induction n generalizing pos with
  | zero => rfl
  | succ n ih =>
    rw [calls, next_eq, List.range_succ_eq_map, List.map_cons, List.map_map]
    cases hnext : (cursorAt text pos).next? with
    | none =>
      have hnil := Cursor.segments_eq_nil hnext
      show (calls text n pos >>= fun answers => .ok (none :: answers)) = _
      rw [ih, hnil]
      rfl
    | some sd =>
      obtain ⟨s, d⟩ := sd
      rw [Cursor.segments_eq_cons hnext]
      obtain rfl := eq_cursorAt_of_next? hnext
      show (calls text n s.stop >>= fun answers => .ok (some s :: answers)) = _
      rw [ih]
      rfl

theorem slice_of_mem_segments {text : String} {s : Segment} (h : s ∈ segments text) :
    slice text s.start s.stop = .ok (s.text text) := by
  obtain ⟨hstart, hstop⟩ := boundaries_of_mem_segments h
  exact slice_eq (Nat.le_of_lt (start_lt_stop_of_mem_segments h)) hstart hstop

/-- However often a scan by offsets is asked for the next segment, no look at the text goes wrong:
    it answers the segments of the text, of which there are no more than bytes, and from then on
    that there are none. Each of them can be cut out of the text, and together they are a partition
    of it. -/
theorem calls_eq_segments (text : String) :
    (∀ n, calls text n 0 = .ok ((List.range n).map fun i => (segments text)[i]?)) ∧
      (segments text).length ≤ text.utf8ByteSize ∧
      (∀ s ∈ segments text, slice text s.start s.stop = .ok (s.text text)) ∧
      Partition text (segments text) := by
  refine ⟨fun n => ?_, (partition_segments text).length_le, fun s => slice_of_mem_segments,
    partition_segments text⟩
  have h := calls_eq text n 0
  rwa [cursorAt, List.drop_zero] at h

end Uncomment.Offset
