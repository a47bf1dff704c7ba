import Uncomment.Proofs.Scan.Token

/-!
# Scans of texts laid end to end

When one row of characters is written behind another, the tokens of the two are those of the whole,
but for one place: a run of code at the end of the first row goes on in the second. This holds as
long as the first row leaves nothing open, and no opener of a comment comes about at the seam.

Results:
* `Shaped.tokens_attach`: a complete token in front of a row of tokens makes up a row of tokens.
* `pieces_append`: the pieces of two rows of characters laid end to end.
* `Tokens.of_append_left`, `Tokens.of_append_right`: the halves of a row of tokens are such rows.
* `shaped_of_pieces`, `toList_of_pieces`: a piece of a text is a token, with the rest around it.
* `Tokens.isTerminated_of_append`: only the last token can be incomplete.
-/

namespace Uncomment

/-! ## A token in front of others -/

/-- Lays a token in front of a row of tokens. Code in front of code makes up one run with it, unless
    the second begins with a stop and so is a run of its own. -/
def Piece.attach (p : Piece Char) : List (Piece Char) → List (Piece Char)
  | ⟨.code, c :: run⟩ :: after =>
    if p.kind = .code ∧ c ∉ stops then ⟨.code, p.symbols ++ c :: run⟩ :: after
    else p :: ⟨.code, c :: run⟩ :: after
  | after => p :: after

theorem Piece.attach_of_ne_code {p : Piece Char} (h : p.kind ≠ .code) (after : List (Piece Char)) :
    p.attach after = p :: after := by
  unfold attach
  split
  · rw [if_neg fun hp => h hp.1]
  · rfl

theorem Piece.flatMap_attach (p : Piece Char) (after : List (Piece Char)) :
    (p.attach after).flatMap Piece.symbols = p.symbols ++ after.flatMap Piece.symbols := by
  unfold attach
  split
  · split <;> simp
  · rfl

/-- The tokens of some kinds other than code are those of the two rows. -/
theorem Piece.filter_attach (wanted : SegmentKind → Bool) (hcode : wanted .code = false)
    (p : Piece Char) (after : List (Piece Char)) :
    (p.attach after).filter (wanted ·.kind) =
      [p].filter (wanted ·.kind) ++ after.filter (wanted ·.kind) := by
  rw [← List.filter_append, List.singleton_append]
  unfold attach
  split
  · split
    next h => simp [h.1, hcode]
    next => rfl
  · rfl

/-- The characters of the tokens of some kinds are those of the two rows. -/
theorem Piece.flatMap_filter_attach (wanted : SegmentKind → Bool) (p : Piece Char)
    (after : List (Piece Char)) :
    ((p.attach after).filter (wanted ·.kind)).flatMap Piece.symbols =
      ([p].filter (wanted ·.kind)).flatMap Piece.symbols ++
        (after.filter (wanted ·.kind)).flatMap Piece.symbols := by
  rw [← List.flatMap_append, ← List.filter_append, List.singleton_append]
  unfold attach
  split
  · split
    next h => cases hcode : wanted .code <;> simp [h.1, hcode]
    next => rfl
  · rfl

/-- What adds up over rows of tokens and does not tell a run of code from its two halves adds up
    over a row that is laid in front of another. -/
theorem Piece.foldr_attach {β : Type} {f : List (Piece Char) → List β}
    (happend : ∀ ps qs, f (ps ++ qs) = f ps ++ f qs)
    (hattach : ∀ p after, f (p.attach after) = f [p] ++ f after) (ps qs : List (Piece Char)) :
    f (ps.foldr Piece.attach qs) = f ps ++ f qs := by
  induction ps with
  | nil => exact happend [] qs
  | cons p ps ih =>
    rw [List.foldr_cons, hattach, ih, ← List.append_assoc, ← happend, List.singleton_append]

/-! ## Code in front of others -/

section Code

variable {c : Char} {run : List Char} {after : List (Piece Char)}
  (hq : ∀ q : Quote, c ≠ q.char) (hrun : ∀ d ∈ run, d ∉ stops)
  (hopen : c = '/' → (run ++ after.flatMap Piece.symbols).head? ≠ some '*')
include hq hrun hopen

/-- Code that goes on behind the seam is one run: the stop behind its second half is the stop behind
    the whole. -/
theorem Tokens.code_append {d : Char} {rest : List Char} {after' : List (Piece Char)}
    (hafter : Tokens after) (heq : after = ⟨.code, d :: rest⟩ :: after') (hd : d ∉ stops) :
    Tokens (⟨.code, c :: (run ++ d :: rest)⟩ :: after') := by
  subst heq
  cases hafter with
  | cons ht hrest =>
    cases ht with
    | code _ hrest' hnext _ =>
      refine .cons (.code hq ?_ hnext ?_) hrest
      · intro e he
        rcases List.mem_append.1 he with he | he
        · exact hrun e he
        · rcases List.mem_cons.1 he with rfl | he
          · exact hd
          · exact hrest' e he
      · rw [List.append_assoc]
        simpa using hopen

/-- Code in front of anything else than code that goes on is a token of its own. -/
theorem Tokens.code_cons (hafter : Tokens after)
    (hnew : ∀ d rest after', after = ⟨.code, d :: rest⟩ :: after' → d ∈ stops) :
    Tokens (⟨.code, c :: run⟩ :: after) := by
  refine .cons (.code hq hrun (fun t ht => ?_) hopen) hafter
  obtain ⟨after', rfl⟩ := List.head?_eq_some_iff.1 ht
  cases hafter with
  | cons htok _ =>
    cases htok with
    | code => exact ⟨_, rfl, hnew _ _ _ rfl⟩
    | comment | openComment => exact ⟨'/', rfl, by decide⟩
    | literal | openLiteral => exact ⟨_, rfl, Quote.char_mem_stops _⟩

theorem Tokens.attach_code (hafter : Tokens after) :
    Tokens (Piece.attach ⟨.code, c :: run⟩ after) := by
  unfold Piece.attach
  split
  next d rest after' =>
    split
    next h => exact Tokens.code_append hq hrun hopen hafter rfl h.2
    next h =>
      refine Tokens.code_cons hq hrun hopen hafter fun e _ _ heq => ?_
      obtain ⟨rfl, -⟩ := List.cons.inj (Piece.mk.inj (List.cons.inj heq).1).2
      by_contra he
      exact h ⟨rfl, he⟩
  next hcode =>
    exact Tokens.code_cons hq hrun hopen hafter fun d rest after' heq =>
      absurd heq (hcode d rest after')

end Code

/-- The token in front has to be complete, and it must not end in a slash to which an asterisk
    behind it would be added. -/
theorem Shaped.tokens_attach {p : Piece Char} {before after : List (Piece Char)}
    (hp : Shaped before p) (hterm : p.kind.isTerminated = true) (hafter : Tokens after)
    (hseam : p.kind = .code → p.symbols.getLast? = some '/' →
      (after.flatMap Piece.symbols).head? ≠ some '*') :
    Tokens (p.attach after) := by
  cases hp with
  | @code c run hq hrun _ hslash =>
    refine Tokens.attach_code hq hrun ?_ hafter
    -- behind a slash that begins the run stands the rest of the run, or what is behind the seam
    rintro rfl
    cases run with
    | nil => exact hseam rfl rfl
    | cons d run => exact hslash rfl
  | comment hb =>
    rw [Piece.attach_of_ne_code (by simp)]
    exact .cons (.comment hb) hafter
  | literal hi =>
    rw [Piece.attach_of_ne_code (by simp)]
    exact .cons (.literal hi) hafter
  | openComment | openLiteral => cases hterm

/-! ## Rows of tokens that are cut -/

/-- Nothing stands behind a token that is incomplete. -/
theorem Shaped.eq_nil_of_not_isTerminated {p : Piece Char} {after : List (Piece Char)}
    (h : Shaped after p) (hopen : ¬ p.kind.isTerminated = true) : after = [] := by
  cases h with
  | code | comment | literal => exact absurd rfl hopen
  | openComment hnil | openLiteral hnil => exact hnil

/-- Only the last token can be incomplete. -/
theorem Tokens.isTerminated_of_append {ps : List (Piece Char)} {q : Piece Char}
    {qs : List (Piece Char)} (h : Tokens (ps ++ q :: qs)) :
    ∀ p ∈ ps, p.kind.isTerminated = true := by
  induction ps with
  | nil => simp
  | cons p ps ih =>
    cases h with
    | cons hp hrest =>
      rw [List.forall_mem_cons]
      refine ⟨?_, ih hrest⟩
      by_contra hopen
      have hnil := hp.eq_nil_of_not_isTerminated hopen
      simp at hnil

theorem Tokens.of_append_left {ps qs : List (Piece Char)} (h : Tokens (ps ++ qs)) : Tokens ps := by
  induction ps with
  | nil => exact .nil
  | cons p ps ih =>
    rw [List.cons_append] at h
    cases h with
    | cons hp hrest =>
      refine .cons ?_ (ih hrest)
      cases hp with
      | code hq hrun hnext hslash =>
        refine .code hq hrun (fun t ht => hnext t (List.mem_head?_append_of_mem_head? ht))
          fun hc hstar => hslash hc ?_
        rw [List.flatMap_append, ← List.append_assoc, List.head?_append, hstar, Option.some_or]
      | comment hb => exact .comment hb
      | openComment hnil hb => exact .openComment (List.append_eq_nil_iff.1 hnil).1 hb
      | literal hi => exact .literal hi
      | openLiteral hnil hi ht => exact .openLiteral (List.append_eq_nil_iff.1 hnil).1 hi ht

theorem Tokens.of_append_right {ps qs : List (Piece Char)} (h : Tokens (ps ++ qs)) : Tokens qs := by
  induction ps with
  | nil => exact h
  | cons p ps ih =>
    rw [List.cons_append] at h
    cases h with
    | cons _ hrest => exact ih hrest

theorem shaped_of_pieces {text : String} {before after : List (Piece Char)} {p : Piece Char}
    (h : pieces text = before ++ p :: after) : Shaped after p := by
  have htokens := tokens_of_text text
  rw [h] at htokens
  cases htokens.of_append_right with
  | cons hp _ => exact hp

theorem toList_of_pieces {text : String} {before after : List (Piece Char)} {p : Piece Char}
    (h : pieces text = before ++ p :: after) :
    text.toList =
      before.flatMap Piece.symbols ++ (p.symbols ++ after.flatMap Piece.symbols) := by
  rw [← flatMap_pieces, h, List.flatMap_append, List.flatMap_cons]

/-! ## Two rows of characters -/

theorem pieces_append {ps : List (Piece Char)} (h : Tokens ps)
    (hterm : ∀ p ∈ ps, p.kind.isTerminated = true) (cs : List Char)
    (hseam : ∀ p ∈ ps.getLast?, p.kind = .code → p.symbols.getLast? = some '/' →
      cs.head? ≠ some '*') :
    Alphabet.chars.pieces (ps.flatMap Piece.symbols ++ cs) =
      ps.foldr Piece.attach (Alphabet.chars.pieces cs) := by
  induction h with
  | nil => rfl
  | @cons p after hp hafter ih =>
    rw [List.forall_mem_cons] at hterm
    have hrest : Alphabet.chars.pieces (after.flatMap Piece.symbols ++ cs) =
        after.foldr Piece.attach (Alphabet.chars.pieces cs) := by
      refine ih hterm.2 fun t ht => hseam t ?_
      rw [List.getLast?_cons, Option.mem_def.1 ht]
      rfl
    have hflat := Alphabet.chars.pieces_flatten (after.flatMap Piece.symbols ++ cs)
    have htokens := tokens_pieces (after.flatMap Piece.symbols ++ cs)
    -- inside the first row, the token itself says that no opener follows a slash
    have hslash : p.kind = .code → p.symbols.getLast? = some '/' →
        (after.flatMap Piece.symbols ++ cs).head? ≠ some '*' := by
      intro hcode hlast
      cases hafter with
      | nil => exact hseam p rfl hcode hlast
      | @cons t after ht _ =>
        obtain ⟨d, w, hw⟩ := List.exists_cons_of_ne_nil ht.ne_nil
        have hsymbols := hp.symbols_eq_slash hcode hlast
        cases hp with
        | code _ _ _ hopen =>
          obtain ⟨rfl, rfl⟩ := List.cons.inj hsymbols
          simpa [hw] using hopen rfl
        | comment | openComment | literal | openLiteral => cases hcode
    rw [List.flatMap_cons, List.append_assoc, List.foldr_cons, ← hrest]
    have hattach := hp.tokens_attach hterm.1 htokens (by rwa [hflat])
    have hpieces := pieces_of_tokens hattach
    rwa [Piece.flatMap_attach, hflat] at hpieces

end Uncomment
