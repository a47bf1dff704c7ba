import Uncomment.Command.Run
import Uncomment.Proofs.Command.Grammar

/-!
# Which command lines are accepted

The reader of arguments takes the items of a command line one by one. As long as it takes them
without a fault they are items of parts, and what it knows of these does not depend on where the
options stand: the paths, the encoding, and which flags are set. So the accepted command lines are
those of the grammar, and the order of options makes no difference.

Results:
* `Draft.take_item_eq_ok_iff`: the item of a part is taken exactly if the draft admits the part.
* `Draft.takeAll_items_eq_ok_iff`: those of many are taken exactly if the parts fit together.
* `exists_parse_eq_ok_iff`: the accepted command lines are those of well-formed lines.
* `accepted_iff_wellFormed`: the same for a run, and what it depends on.
-/

namespace Uncomment.Command

namespace Draft

/-! ## Taking one item -/

/-- The part can come behind what was read. -/
def Admits (d : Draft) : Part → Prop
  | .path text => text ≠ "" ∧ d.paths.length < 2
  | .keepCrlf => d.keepCrlf = false
  | .verbose _ => d.verbose = false
  | .encoding _ _ => d.encoding = none

/-- What is known with one more part. -/
def add (d : Draft) : Part → Draft
  | .path text => { d with paths := d.paths ++ [text] }
  | .keepCrlf => { d with keepCrlf := true, options := d.options ++ [Flag.keepCrlf.long] }
  | .verbose _ => { d with verbose := true, options := d.options ++ [Flag.verbose.long] }
  | .encoding _ e =>
    { d with encoding := some e, options := d.options ++ [encodingOption] }

theorem encodingOfValue?_eq_some_iff {value : String} {e : TextEncoding} :
    encodingOfValue? value = some e ↔ value = e.label := by
  constructor
  · intro h
    have hlabel := List.find?_some h
    exact (of_decide_eq_true hlabel).symm
  · rintro rfl
    cases e <;> decide

theorem readEncoding_eq_ok_iff {d : Draft} {value : Option String} {e : TextEncoding} :
    d.readEncoding value = .ok e ↔ d.encoding = none ∧ value = some e.label := by
  have hlabel : e.label ≠ "" := by cases e <;> decide
  cases value with
  | none => simp [readEncoding]
  | some value =>
    rw [readEncoding]
    split_ifs with hgiven hempty
    · simp [Option.isSome_iff_ne_none.1 hgiven]
    · subst hempty
      simp [hlabel.symm]
    · have hnone : d.encoding = none := by simpa using hgiven
      rw [Option.some_inj, ← encodingOfValue?_eq_some_iff]
      cases encodingOfValue? value <;> simp [hnone]

/-- The fault of a value in a word of its own does not end the reading, but it is due. -/
theorem exists_of_takeEncoding {d d' : Draft} {attached : Bool} {value : Option String}
    (hdue : d'.due = none) (h : d.takeEncoding attached value = .ok d') :
    ∃ e : TextEncoding, value = some e.label ∧ d.encoding = none ∧
      d' = d.add (.encoding attached e) := by
  unfold takeEncoding at h
  split at h
  next e hread =>
    obtain ⟨hnone, rfl⟩ := readEncoding_eq_ok_iff.1 hread
    exact ⟨e, rfl, hnone, (Except.ok.inj h).symm⟩
  next fault hread =>
    split_ifs at h
    obtain rfl := Except.ok.inj h
    cases hdue

theorem takePath_eq_add {d : Draft} {text : String} (hd : d.due = none) (htext : text ≠ "") :
    d.takePath text = d.add (.path text) := by
  obtain ⟨paths, encoding, keepCrlf, verbose, options, due⟩ := d
  obtain rfl : due = none := hd
  simp only [takePath, add, if_neg htext]

theorem refusal?_item_eq_none_iff {paths : Nat} {part : Part} :
    refusal? paths part.item = none ↔ ∀ text, part = .path text → paths < 2 := by
  cases part <;> simp [Part.item, refusal?]

theorem not_refused_of_take {d d' : Draft} {item : Item} (h : d.take item = .ok d') :
    refusal? d.paths.length item = none ∧ d.due = none := by
  unfold take at h
  split at h
  next => cases h
  next => cases h
  next hrefusal hd => exact ⟨hrefusal, hd⟩

theorem take_item {d : Draft} {part : Part} (hd : d.due = none) (h : d.Admits part) :
    d.take part.item = .ok (d.add part) := by
  have hrefusal : refusal? d.paths.length part.item = none := by
    rw [refusal?_item_eq_none_iff]
    rintro text rfl
    exact h.2
  simp only [take, hrefusal, hd]
  cases part with
  | path text => exact congrArg Except.ok (takePath_eq_add hd h.1)
  | keepCrlf =>
    have hset : d.keepCrlf = false := h
    simp only [Part.item, takeFlag, hset, Bool.false_eq_true, if_false, add]
  | verbose short =>
    have hset : d.verbose = false := h
    simp only [Part.item, takeFlag, hset, Bool.false_eq_true, if_false, add]
  | encoding attached e =>
    simp only [Part.item, takeEncoding, readEncoding_eq_ok_iff.2 ⟨h, rfl⟩, add]

/-- The item of a part is taken, with nothing due, exactly if the part can come here. -/
theorem take_item_eq_ok_iff {d d' : Draft} {part : Part} (hdue : d'.due = none) :
    d.take part.item = .ok d' ↔ d.due = none ∧ d.Admits part ∧ d' = d.add part := by
  constructor
  · intro h
    obtain ⟨hrefusal, hd⟩ := not_refused_of_take h
    refine ⟨hd, ?_⟩
    simp only [take, hrefusal, hd] at h
    cases part with
    | path text =>
      obtain rfl := Except.ok.inj h
      have htext : text ≠ "" := by
        rintro rfl
        cases hdue
      exact ⟨⟨htext, refusal?_item_eq_none_iff.1 hrefusal text rfl⟩, takePath_eq_add hd htext⟩
    | keepCrlf =>
      simp only [Part.item, takeFlag] at h
      split_ifs at h with hset
      exact ⟨Bool.eq_false_of_not_eq_true hset, (Except.ok.inj h).symm⟩
    | verbose short =>
      simp only [Part.item, takeFlag] at h
      split_ifs at h with hset
      exact ⟨Bool.eq_false_of_not_eq_true hset, (Except.ok.inj h).symm⟩
    | encoding attached e =>
      obtain ⟨other, hlabel, hnone, rfl⟩ := exists_of_takeEncoding hdue h
      rw [TextEncoding.label_injective (Option.some.inj hlabel)]
      exact ⟨hnone, rfl⟩
  · rintro ⟨hd, hadmits, rfl⟩
    exact take_item hd hadmits

/-- An item that is no part's is refused, or ends the reading, or leaves a fault. -/
theorem exists_part_of_take {d d' : Draft} {item : Item} (hdue : d'.due = none)
    (h : d.take item = .ok d') : d.due = none ∧ ∃ part : Part, part.item = item := by
  obtain ⟨hrefusal, hd⟩ := not_refused_of_take h
  refine ⟨hd, ?_⟩
  simp only [take, hrefusal, hd] at h
  cases item with
  | path text => exact ⟨.path text, rfl⟩
  | encoding attached value =>
    obtain ⟨e, rfl, -⟩ := exists_of_takeEncoding hdue h
    exact ⟨.encoding attached e, rfl⟩
  | flag flag value =>
    cases value with
    | none =>
      cases flag with
      | keepCrlf => exact ⟨.keepCrlf, rfl⟩
      | verbose => exact ⟨.verbose true, rfl⟩
    | some value => cases hrefusal
  | shortHelp => cases h
  | longHelp value => cases h
  | version value => cases h
  | unknown option => cases h

/-! ## Taking all items -/

/-- The parts can be read one after the other: no path is empty, there are at most two, and no
    option is given twice. -/
@[mk_iff] structure Fits (parts : List Part) : Prop where
  nonempty : "" ∉ Part.paths parts
  paths : (Part.paths parts).length ≤ 2
  flags : (Part.flags parts).Nodup
  encodings : (Part.encodings parts).length ≤ 1

/-- What is known of parts that fit. -/
def ofParts (parts : List Part) : Draft :=
  { paths := Part.paths parts
    encoding := (Part.encodings parts).head?
    keepCrlf := decide (.keepCrlf ∈ Part.flags parts)
    verbose := decide (.verbose ∈ Part.flags parts)
    options := Part.options parts }

theorem fits_nil : Fits [] := ⟨List.not_mem_nil, by decide, List.nodup_nil, by decide⟩

/-- Parts fit as long as each is admitted behind those before it. -/
theorem fits_concat_iff {parts : List Part} {part : Part} :
    Fits (parts ++ [part]) ↔ Fits parts ∧ (ofParts parts).Admits part := by
  rw [fits_iff, fits_iff, Part.paths_concat, Part.flags_concat, Part.encodings_concat]
  unfold Admits ofParts
  generalize Part.paths parts = ps
  generalize Part.flags parts = fs
  generalize Part.encodings parts = es
  -- only one of the three rows grows, and what it grows by is what has to be admitted
  cases part with
  | path text =>
    simp only [Part.path?, Part.flag?, Part.encoding?, Option.toList, List.append_nil]
    grind
  | keepCrlf =>
    simp only [Part.path?, Part.flag?, Part.encoding?, Option.toList, List.append_nil]
    grind
  | verbose short =>
    simp only [Part.path?, Part.flag?, Part.encoding?, Option.toList, List.append_nil]
    grind
  | encoding attached e =>
    have hfirst : es.head? = none ↔ es.length = 0 := by
      rw [List.head?_eq_none_iff, List.length_eq_zero_iff]
    simp only [Part.path?, Part.flag?, Part.encoding?, Option.toList, List.append_nil, hfirst]
    grind

theorem ofParts_concat {parts : List Part} {part : Part} (h : (ofParts parts).Admits part) :
    ofParts (parts ++ [part]) = (ofParts parts).add part := by
  rw [ofParts, Part.paths_concat, Part.flags_concat, Part.encodings_concat, Part.options_concat]
  cases part with
  | path text => simp [ofParts, add, Part.path?, Part.flag?, Part.encoding?, Part.option?]
  | keepCrlf => simp [ofParts, add, Part.path?, Part.flag?, Part.encoding?, Part.option?]
  | verbose short => simp [ofParts, add, Part.path?, Part.flag?, Part.encoding?, Part.option?]
  | encoding attached e =>
    have hnone : Part.encodings parts = [] := List.head?_eq_none_iff.1 h
    simp [ofParts, add, Part.path?, Part.flag?, Part.encoding?, Part.option?, hnone]

theorem takeAll_concat_eq_ok_iff {d d' : Draft} {items : List Item} {item : Item} :
    d.takeAll (items ++ [item]) = .ok d' ↔
      ∃ before, d.takeAll items = .ok before ∧ before.take item = .ok d' := by
  have hone (before : Draft) : before.takeAll [item] = before.take item := by
    simp only [takeAll]
    cases before.take item <;> rfl
  rw [takeAll_append]
  cases d.takeAll items with
  | error halt => simp [bind, Except.bind]
  | ok before => simp [bind, Except.bind, hone]

/-- The items of parts are taken, with nothing due, exactly if the parts fit. -/
theorem takeAll_items_eq_ok_iff {parts : List Part} {d : Draft} (hdue : d.due = none) :
    ({} : Draft).takeAll (parts.map Part.item) = .ok d ↔ Fits parts ∧ d = ofParts parts := by
  -- from the end, as what is known of all parts but the last decides whether that is admitted
  induction parts using List.reverseRecOn generalizing d with
  | nil =>
    constructor
    · intro h
      exact ⟨fits_nil, (Except.ok.inj h).symm⟩
    · rintro ⟨-, rfl⟩
      rfl
  | append_singleton parts part ih =>
    rw [List.map_append, List.map_singleton, takeAll_concat_eq_ok_iff, fits_concat_iff]
    constructor
    · rintro ⟨before, hbefore, htake⟩
      obtain ⟨hdue', hadmits, rfl⟩ := (take_item_eq_ok_iff hdue).1 htake
      obtain ⟨hfits, rfl⟩ := (ih hdue').1 hbefore
      exact ⟨⟨hfits, hadmits⟩, (ofParts_concat hadmits).symm⟩
    · rintro ⟨⟨hfits, hadmits⟩, rfl⟩
      refine ⟨ofParts parts, (ih rfl).2 ⟨hfits, rfl⟩, ?_⟩
      exact (take_item_eq_ok_iff rfl).2 ⟨rfl, hadmits, ofParts_concat hadmits⟩

theorem exists_parts_of_takeAll {items : List Item} {d : Draft} (hdue : d.due = none)
    (h : ({} : Draft).takeAll items = .ok d) :
    ∃ parts : List Part, parts.map Part.item = items := by
  induction items using List.reverseRecOn generalizing d with
  | nil => exact ⟨[], rfl⟩
  | append_singleton items item ih =>
    obtain ⟨before, hbefore, htake⟩ := takeAll_concat_eq_ok_iff.1 h
    obtain ⟨hdue', part, rfl⟩ := exists_part_of_take hdue htake
    obtain ⟨parts, rfl⟩ := ih hdue' hbefore
    exact ⟨parts ++ [part], by rw [List.map_append, List.map_singleton]⟩

theorem finish_eq_ok_iff {d : Draft} {i : Invocation} :
    d.finish = .ok i ↔
      d.due = none ∧ d.paths = [i.input, i.output] ∧ i.encoding = d.encoding.getD .standard ∧
        i.keepCrlf = d.keepCrlf ∧ i.verbose = d.verbose := by
  obtain ⟨paths, encoding, keepCrlf, verbose, options, due⟩ := d
  obtain ⟨input, output, encoding', keepCrlf', verbose'⟩ := i
  constructor
  · intro h
    unfold finish at h
    split at h
    next => cases h
    next input output hdue hpaths =>
      cases h
      exact ⟨hdue, hpaths, rfl, rfl, rfl⟩
    next => cases h
  · rintro ⟨hdue, hpaths, hencoding, hkeepCrlf, hverbose⟩
    simp only at hdue hpaths hencoding hkeepCrlf hverbose
    subst hdue hpaths hencoding hkeepCrlf hverbose
    rfl

end Draft

/-! ## Reading a command line -/

theorem parse_eq_ok_iff {words : List String} {i : Invocation} :
    parse words = .ok i ↔
      ∃ d, ({} : Draft).takeAll (Item.ofWords words) = .ok d ∧ d.finish = .ok i := by
  unfold parse
  cases ({} : Draft).takeAll (Item.ofWords words) with
  | error halt => simp [bind, Except.bind]
  | ok d => simp [bind, Except.bind]

theorem parse_eq_ok_iff_of_items {words : List String} {parts : List Part}
    (h : Item.ofWords words = parts.map Part.item) {i : Invocation} :
    parse words = .ok i ↔
      Draft.Fits parts ∧ Part.paths parts = [i.input, i.output] ∧
        i.encoding = (Part.encodings parts).head?.getD .latin1 ∧
        i.keepCrlf = decide (.keepCrlf ∈ Part.flags parts) ∧
        i.verbose = decide (.verbose ∈ Part.flags parts) := by
  rw [parse_eq_ok_iff, h]
  constructor
  · rintro ⟨d, htake, hfinish⟩
    obtain ⟨hdue, hsays⟩ := Draft.finish_eq_ok_iff.1 hfinish
    obtain ⟨hfits, rfl⟩ := (Draft.takeAll_items_eq_ok_iff hdue).1 htake
    exact ⟨hfits, hsays⟩
  · rintro ⟨hfits, hsays⟩
    refine ⟨Draft.ofParts parts, (Draft.takeAll_items_eq_ok_iff rfl).2 ⟨hfits, rfl⟩, ?_⟩
    exact Draft.finish_eq_ok_iff.2 ⟨rfl, hsays⟩

theorem exists_parts_of_parse {words : List String} {i : Invocation} (h : parse words = .ok i) :
    ∃ parts : List Part, parts.map Part.item = Item.ofWords words := by
  obtain ⟨d, htake, hfinish⟩ := parse_eq_ok_iff.1 h
  exact Draft.exists_parts_of_takeAll (Draft.finish_eq_ok_iff.1 hfinish).1 htake

/-! ## Lines -/

namespace Line

/-- What a line says if it is accepted. -/
structure Says (l : Line) (i : Invocation) : Prop where
  paths : l.paths = [i.input, i.output]
  encoding : i.encoding = l.encoding
  keepCrlf : i.keepCrlf = true ↔ .keepCrlf ∈ l.flags
  verbose : i.verbose = true ↔ .verbose ∈ l.flags

theorem WellFormed.exists_says {l : Line} (h : l.WellFormed) : ∃ i, l.Says i := by
  obtain ⟨input, output, hpaths⟩ := List.length_eq_two.1 h.two
  exact ⟨⟨input, output, l.encoding, decide (.keepCrlf ∈ l.flags), decide (.verbose ∈ l.flags)⟩,
    hpaths, rfl, decide_eq_true_iff, decide_eq_true_iff⟩

/-- Lines with the same paths in order and the same options say the same. -/
theorem Says.unique {l l' : Line} {i i' : Invocation} (h : l.Says i) (h' : l'.Says i')
    (hpaths : l.paths = l'.paths) (hencoding : l.encoding = l'.encoding)
    (hflags : ∀ flag, flag ∈ l.flags ↔ flag ∈ l'.flags) : i = i' := by
  obtain ⟨input, output, encoding, keepCrlf, verbose⟩ := i
  obtain ⟨input', output', encoding', keepCrlf', verbose'⟩ := i'
  have htwo : [input, output] = [input', output'] := h.paths.symm.trans (hpaths.trans h'.paths)
  have hkeepCrlf := h.keepCrlf.trans ((hflags .keepCrlf).trans h'.keepCrlf.symm)
  have hverbose := h.verbose.trans ((hflags .verbose).trans h'.verbose.symm)
  obtain ⟨rfl, rfl⟩ : input = input' ∧ output = output' := by simpa using htwo
  obtain rfl : encoding = encoding' := h.encoding.trans (hencoding.trans h'.encoding.symm)
  obtain rfl : keepCrlf = keepCrlf' := Bool.eq_iff_iff.2 hkeepCrlf
  obtain rfl : verbose = verbose' := Bool.eq_iff_iff.2 hverbose
  rfl

theorem WellFormed.isPlain {l : Line} (h : l.WellFormed) :
    ∀ text, .path text ∈ l.parts → Item.isPlain text :=
  fun text ht => Item.isPlain_iff.2 (h.plain text ht)

/-- A line whose paths do not look like options is accepted exactly if it is well-formed. -/
theorem parse_words_eq_ok_iff {l : Line} {i : Invocation}
    (hplain : ∀ text, .path text ∈ l.parts → Item.isPlain text) :
    parse l.words = .ok i ↔ l.WellFormed ∧ l.Says i := by
  rw [parse_eq_ok_iff_of_items (Item.ofWords_words hplain), Draft.fits_iff, paths_all, flags_all,
    encodings_all]
  constructor
  · rintro ⟨⟨hnonempty, -, hflags, hencodings⟩, hpaths, hencoding, hkeepCrlf, hverbose⟩
    have hwellFormed : l.WellFormed :=
      ⟨fun text ht => Item.isPlain_iff.1 (hplain text ht), hnonempty, by rw [hpaths]; rfl, hflags,
        hencodings⟩
    refine ⟨hwellFormed, hpaths, hencoding, ?_, ?_⟩
    · rw [hkeepCrlf, decide_eq_true_iff]
    · rw [hverbose, decide_eq_true_iff]
  · rintro ⟨h, hsays⟩
    refine ⟨⟨h.nonempty, h.two.le, h.flags, h.encodings⟩, hsays.paths, hsays.encoding, ?_, ?_⟩
    · rw [Bool.eq_iff_iff, hsays.keepCrlf, decide_eq_true_iff]
    · rw [Bool.eq_iff_iff, hsays.verbose, decide_eq_true_iff]

end Line

theorem exists_parse_eq_ok_iff {words : List String} :
    (∃ i, parse words = .ok i) ↔ ∃ l : Line, l.WellFormed ∧ l.words = words := by
  constructor
  · rintro ⟨i, hi⟩
    obtain ⟨parts, hitems⟩ := exists_parts_of_parse hi
    have hfits := ((parse_eq_ok_iff_of_items hitems.symm).1 hi).1
    obtain ⟨l, hplain, rfl⟩ := Item.exists_line hitems hfits.flags
    exact ⟨l, ((Line.parse_words_eq_ok_iff hplain).1 hi).1, rfl⟩
  · rintro ⟨l, hl, rfl⟩
    obtain ⟨i, hi⟩ := hl.exists_says
    exact ⟨i, (Line.parse_words_eq_ok_iff hl.isPlain).2 ⟨hl, hi⟩⟩

/-! ## Runs -/

variable {m : Type → Type} [Monad m]

/-- The command lines that are accepted are exactly those of well-formed lines: any order of paths
    that do not look like options and of options of which none is given twice, then, if `--` is
    given, paths in any form; two paths in all, and none of them empty. The run goes on with the
    first path as input and the second as output, in the encoding that is given or in Latin-1, and
    with the flags that are given. Any other command line ends the run before it comes to a file.
    Nothing else about an accepted command line matters: the whole run, with what it does to files,
    its code and what it prints, is the same for lines with the same paths in the same order, the
    same encoding and the same flags. -/
theorem accepted_iff_wellFormed (files : FileAccess m) (logSetting : Option String) :
    (∀ words, (∃ i, parse words = .ok i) ↔ ∃ l : Line, l.WellFormed ∧ l.words = words) ∧
      (∀ l : Line, l.WellFormed → ∃ i, parse l.words = .ok i ∧ l.Says i ∧
        run files logSetting l.words =
          i.outcome (Log.Setting.ofString? logSetting) <$> i.perform files) ∧
      (∀ words, (¬ ∃ l : Line, l.WellFormed ∧ l.words = words) →
        ∃ halt, parse words = .error halt ∧
          run files logSetting words =
            pure (halt.outcome (Log.Setting.ofString? logSetting).warnings)) ∧
      ∀ l l' : Line, l.WellFormed → l'.WellFormed → l.paths = l'.paths →
        l.encoding = l'.encoding → (∀ flag, flag ∈ l.flags ↔ flag ∈ l'.flags) →
        run files logSetting l.words = run files logSetting l'.words := by
  have hreads {l : Line} (hl : l.WellFormed) : ∃ i, parse l.words = .ok i ∧ l.Says i := by
    obtain ⟨i, hi⟩ := hl.exists_says
    exact ⟨i, (Line.parse_words_eq_ok_iff hl.isPlain).2 ⟨hl, hi⟩, hi⟩
  refine ⟨fun words => exists_parse_eq_ok_iff, ?_, ?_, ?_⟩
  · intro l hl
    obtain ⟨i, hparse, hi⟩ := hreads hl
    exact ⟨i, hparse, hi, by rw [run, hparse]⟩
  · intro words hnone
    cases hparse : parse words with
    | error halt => exact ⟨halt, rfl, by rw [run, hparse]⟩
    | ok i => exact absurd (exists_parse_eq_ok_iff.1 ⟨i, hparse⟩) hnone
  · intro l l' hl hl' hpaths hencoding hflags
    obtain ⟨i, hparse, hi⟩ := hreads hl
    obtain ⟨i', hparse', hi'⟩ := hreads hl'
    rw [run, run, hparse, hparse', hi.unique hi' hpaths hencoding hflags]

/-- Behind `--` a path may look like an option. -/
example : parse ["-v", "--", "-a", "--"] = .ok ⟨"-a", "--", .latin1, false, true⟩ := by
  decide +kernel

/-- A cluster of letters does not get by with a flag given twice. -/
example : parse ["-vv", "a", "b"] = .error (.usage (.repeated "--verbose")) := by
  decide +kernel

end Uncomment.Command
