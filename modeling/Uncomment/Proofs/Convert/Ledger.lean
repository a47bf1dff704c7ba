import Uncomment.Proofs.Convert.Counters
import Uncomment.Proofs.Scan.Partition

/-!
# The ledger of a conversion

A conversion can be run in one pass over the segments: each one is either written to the output or
counted. When all are done, the output is normalized, and what it lost in length is the number of
CRs that were collapsed. Every byte of the text is then accounted for: it was written, or it was
counted once.

Results:
* `Pass.accounts_step`, `Pass.accounts_foldl`: what is written and counted is what the segments done
  so far hold, and the two together are as long as these.
* `Pass.convert_eq`: the pass is the conversion, and the output is never longer than what was
  written.
* `four_mul_length_commentPieces_le`: only the last comment can be shorter than its two delimiters.
* `convert_ledger`: the text and all counters of a conversion, and how they balance.
-/

namespace Uncomment

open Text LineEnding

/-! ## One pass -/

namespace Pass

/-- Writes a segment to the output, or counts it. -/
def step (input : String) (c : Conversion) (s : Segment) : Conversion :=
  if s.kind.isKept then { c with text := c.text ++ s.text input }
  else
    { c with
      stats :=
        { c.stats with
          commentsRemoved := c.stats.commentsRemoved + 1
          commentBytes := c.stats.commentBytes + s.length } }

/-- Normalizes the output, if the options ask for it. The CRs that were collapsed are what it is
    shorter; if it were longer, they could not be told. -/
def finish (options : ConvertOptions) (c : Conversion) : Option Conversion :=
  if options.normalize then
    let normalized := normalize c.text
    let text := if normalized.unchanged then c.text else normalized.text
    if c.text.utf8ByteSize < text.utf8ByteSize then none
    else
      some ⟨text, { c.stats with crlfCollapsed := c.text.utf8ByteSize - text.utf8ByteSize }⟩
  else some c

/-- The conversion of a text in one pass, beginning with nothing written and nothing counted. -/
def convert (text : String) (options : ConvertOptions) : Option Conversion :=
  finish options ((segments text).foldl (step text) ⟨"", ⟨0, 0, 0⟩⟩)

/-- What was written and counted when some segments are done. -/
structure Accounts (input : String) (done : List Segment) (c : Conversion) : Prop where
  text : c.text = String.join ((done.filter (·.kind.isKept)).map (·.text input))
  commentsRemoved : c.stats.commentsRemoved = (done.filter (!·.kind.isKept)).length
  commentBytes : c.stats.commentBytes = ((done.filter (!·.kind.isKept)).map Segment.length).sum
  crlfCollapsed : c.stats.crlfCollapsed = 0
  balance : c.text.utf8ByteSize + c.stats.commentBytes = (done.map Segment.length).sum

theorem accounts_empty (input : String) : Accounts input [] ⟨"", ⟨0, 0, 0⟩⟩ where
  text := rfl
  commentsRemoved := rfl
  commentBytes := rfl
  crlfCollapsed := rfl
  balance := rfl

theorem accounts_step {input : String} {done : List Segment} {c : Conversion}
    (h : Accounts input done c) {s : Segment} (hs : (s.text input).utf8ByteSize = s.length) :
    Accounts input (done ++ [s]) (step input c s) := by
  have hbalance := h.balance
  unfold step
  cases hk : s.kind.isKept with
  | true =>
    refine ⟨?_, ?_, ?_, h.crlfCollapsed, ?_⟩
    · simp [hk, h.text]
    · simp [hk, h.commentsRemoved]
    · simp [hk, h.commentBytes]
    · show (c.text ++ s.text input).utf8ByteSize + c.stats.commentBytes = _
      rw [String.utf8ByteSize_append, hs, List.map_append, List.sum_append, ← hbalance]
      simp only [List.map_cons, List.map_nil, List.sum_cons, List.sum_nil]
      omega
  | false =>
    refine ⟨?_, ?_, ?_, h.crlfCollapsed, ?_⟩
    · simp [hk, h.text]
    · simp [hk, h.commentsRemoved]
    · simp [hk, h.commentBytes]
    · show c.text.utf8ByteSize + (c.stats.commentBytes + s.length) = _
      rw [List.map_append, List.sum_append, ← hbalance]
      simp only [List.map_cons, List.map_nil, List.sum_cons, List.sum_nil]
      omega

theorem accounts_foldl {input : String} {done : List Segment} {c : Conversion}
    (h : Accounts input done c) {ss : List Segment}
    (hss : ∀ s ∈ ss, (s.text input).utf8ByteSize = s.length) :
    Accounts input (done ++ ss) (ss.foldl (step input) c) := by
  induction ss generalizing done c with
  | nil => rwa [List.append_nil]
  | cons s ss ih =>
    rw [List.forall_mem_cons] at hss
    rw [List.foldl_cons, List.append_cons]
    exact ih (accounts_step h hss.1) hss.2

theorem accounts_segments (text : String) :
    Accounts text (segments text) ((segments text).foldl (step text) ⟨"", ⟨0, 0, 0⟩⟩) :=
  accounts_foldl (accounts_empty text) fun _ => utf8ByteSize_text_of_mem_segments

/-- When all segments are done, the conversion without normalization is done. -/
theorem foldl_segments (text : String) :
    (segments text).foldl (step text) ⟨"", ⟨0, 0, 0⟩⟩ =
      Uncomment.convert text { normalize := false } := by
  have h := accounts_segments text
  generalize (segments text).foldl (step text) ⟨"", ⟨0, 0, 0⟩⟩ = c at h ⊢
  obtain ⟨written, ⟨removed, length, collapsed⟩⟩ := c
  obtain rfl : written = strip text := h.text
  obtain rfl : removed = (comments text).length := h.commentsRemoved
  obtain rfl : length = ((comments text).map Segment.length).sum := h.commentBytes
  obtain rfl : collapsed = 0 := h.crlfCollapsed
  have hnone := crlfCollapsed_convert text { normalize := false }
  rw [if_neg (by simp)] at hnone
  rw [← hnone]
  rfl

/-- A text that is used as it is was its own normal form. -/
theorem reused_normalize (text : String) :
    (if (normalize text).unchanged then text else (normalize text).text) =
      (normalize text).text := by
  split
  next h => exact (normalize_unchanged_iff.1 h).symm
  next => rfl

theorem convert_eq (text : String) (options : ConvertOptions) :
    convert text options = some (Uncomment.convert text options) := by
  have hlen := utf8ByteSize_normalize_add (strip text)
  rw [convert, foldl_segments, finish]
  obtain ⟨_ | _⟩ := options
  · rfl
  · have hwritten : (Uncomment.convert text { normalize := false }).text = strip text := rfl
    simp only [hwritten, reused_normalize]
    rw [if_pos trivial, if_neg (by omega)]
    rfl

end Pass

/-! ## Lengths of comments -/

theorem length_le_utf8ByteSize_ofList (cs : List Char) :
    cs.length ≤ (String.ofList cs).utf8ByteSize := by
  rw [← length_charsBytes]
  induction cs with
  | nil => exact Nat.zero_le _
  | cons c cs ih =>
    have hpos := c.utf8Size_pos
    rw [charsBytes_cons, List.length_append, String.length_utf8EncodeChar, List.length_cons]
    omega

theorem four_mul_length_commentPieces_le {ps : List (Piece Char)} (h : Tokens ps) :
    4 * (commentPieces ps).length ≤
      ((commentPieces ps).map (·.text.utf8ByteSize)).sum + 2 := by
  induction h with
  | nil => exact Nat.zero_le _
  | @cons p after hp _ ih =>
    have hlen : p.symbols.length ≤ p.text.utf8ByteSize :=
      length_le_utf8ByteSize_ofList p.symbols
    cases hp with
    | code | literal | openLiteral => exact ih
    | @comment body =>
      have hcons : commentPieces (⟨.comment true, '/' :: '*' :: (body ++ ['*', '/'])⟩ :: after) =
          ⟨.comment true, '/' :: '*' :: (body ++ ['*', '/'])⟩ :: commentPieces after := rfl
      simp only [List.length_cons, List.length_append, List.length_nil] at hlen
      rw [hcons, List.length_cons, List.map_cons, List.sum_cons]
      omega
    | @openComment body hnil =>
      subst hnil
      have hlast : commentPieces [(⟨.comment false, '/' :: '*' :: body⟩ : Piece Char)] =
          [⟨.comment false, '/' :: '*' :: body⟩] := rfl
      simp only [List.length_cons] at hlen
      rw [hlast, List.length_singleton, List.map_singleton, List.sum_singleton]
      omega

/-! ## The whole ledger -/

theorem strip_add_commentBytes (text : String) (options : ConvertOptions) :
    (strip text).utf8ByteSize + (convert text options).stats.commentBytes = text.utf8ByteSize := by
  have h := (Pass.accounts_segments text).balance
  rw [Pass.foldl_segments, sum_length_segments] at h
  exact h

theorem text_add_crlfCollapsed (text : String) (options : ConvertOptions) :
    (convert text options).text.utf8ByteSize + (convert text options).stats.crlfCollapsed =
      (strip text).utf8ByteSize := by
  rw [crlfCollapsed_convert]
  obtain ⟨_ | _⟩ := options
  · rfl
  · exact utf8ByteSize_normalize_add (strip text)

/-- The conversion in one pass never fails to tell how many CRs it collapsed, and is the conversion.
    Its text is the stripped text, normalized if the options ask for it. The counters are the number
    of segments that are comments and the length of their ranges, of four bytes each but for the two
    that an open one may lack, and the number of places with LF right behind CR in the stripped
    text, or zero without normalization. Together with the text that is left they make up the length
    of the text. -/
theorem convert_ledger (text : String) (options : ConvertOptions) :
    Pass.convert text options = some (convert text options) ∧
      (convert text options).text =
        (if options.normalize then (normalize (strip text)).text else strip text) ∧
      (convert text options).stats.commentsRemoved =
        (segments text).countP (fun s => ∃ terminated, s.kind = .comment terminated) ∧
      (convert text options).stats.commentBytes =
        (((segments text).filter fun s => ∃ terminated, s.kind = .comment terminated).map
          fun s => s.stop - s.start).sum ∧
      4 * (convert text options).stats.commentsRemoved ≤
        (convert text options).stats.commentBytes + 2 ∧
      (convert text options).stats.crlfCollapsed =
        (if options.normalize then
          ((strip text).toList.zip (strip text).toList.tail).count ('\r', '\n') else 0) ∧
      (convert text options).text.utf8ByteSize + (convert text options).stats.commentBytes +
        (convert text options).stats.crlfCollapsed = text.utf8ByteSize := by
  have hcomment : (fun s : Segment => decide (∃ terminated, s.kind = .comment terminated)) =
      fun s => !s.kind.isKept := by
    funext s
    simp only [← SegmentKind.isKept_eq_false_iff]
    cases s.kind.isKept <;> rfl
  have hstrip := strip_add_commentBytes text options
  have hcollapsed := text_add_crlfCollapsed text options
  refine ⟨Pass.convert_eq text options, rfl, ?_, ?_, ?_, ?_, by omega⟩
  · rw [hcomment, List.countP_eq_length_filter]
    rfl
  · rw [hcomment]
    rfl
  · rw [commentsRemoved_convert, commentBytes_convert]
    exact four_mul_length_commentPieces_le (tokens_of_text text)
  · rw [crlfCollapsed_convert, pairs_eq_count]

end Uncomment
