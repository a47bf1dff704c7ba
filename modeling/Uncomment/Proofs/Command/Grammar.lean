import Mathlib
import Uncomment.Command.Argument
import Uncomment.TextEncoding

/-!
# The grammar of command lines

A command line has parts in any order: paths, which may not look like options, and options. Behind
`--` there may be further paths, in any form. The grammar is given by how such a line is written. It
says nothing of items, into which the reader of arguments divides the words; but the items of a line
are those of its parts, one each, and words with such items are those of a line, unless a flag is
repeated: letters may share a word, so that `-vv` is two items that no part spells.

Results:
* `Item.ofWords_part`: the words of a part are read as its item, whatever stands behind them.
* `Item.ofWords_words`: the words of a line are read as the items of its parts.
* `Item.exists_of_ofOption`: a word that is read as items of parts is that of one part.
* `Item.exists_line`: words that are read as items of parts are those of a line.
-/

namespace Uncomment.Command

/-! ## Parts -/

/-- A part of a command line, apart from what stands behind `--`. -/
inductive Part where
  | path (text : String)
  | keepCrlf
  /-- The flag for the summary, by its letter if it is `short`. -/
  | verbose (short : Bool)
  /-- The option for the encoding, with its value `attached` or in a word of its own. -/
  | encoding (attached : Bool) (encoding : TextEncoding)
deriving DecidableEq, Repr

namespace Part

/-- How a part is written. -/
def words : Part → List String
  | path text => [text]
  | keepCrlf => ["--keep-crlf"]
  | verbose true => ["-v"]
  | verbose false => ["--verbose"]
  | encoding true e => ["--input-encoding=" ++ e.label]
  | encoding false e => ["--input-encoding", e.label]

/-- The path that a part is. -/
def path? : Part → Option String
  | path text => some text
  | _ => none

/-- The flag that a part sets. -/
def flag? : Part → Option Flag
  | keepCrlf => some .keepCrlf
  | verbose _ => some .verbose
  | _ => none

/-- The encoding that a part chooses. -/
def encoding? : Part → Option TextEncoding
  | encoding _ e => some e
  | _ => none

/-- The option that a part is, as messages name it. -/
def option? : Part → Option String
  | path _ => none
  | keepCrlf => some Flag.keepCrlf.long
  | verbose _ => some Flag.verbose.long
  | encoding _ _ => some encodingOption

/-- The paths among parts, in their order. -/
def paths (parts : List Part) : List String := parts.filterMap path?

/-- The flags that parts set, as often as they are given. -/
def flags (parts : List Part) : List Flag := parts.filterMap flag?

/-- The encodings that parts choose, as often as one is given. -/
def encodings (parts : List Part) : List TextEncoding := parts.filterMap encoding?

/-- The options among parts, in their order, as messages name them. -/
def options (parts : List Part) : List String := parts.filterMap option?

/-- What a part means to the reader of arguments. -/
def item : Part → Item
  | path text => .path text
  | keepCrlf => .flag .keepCrlf none
  | verbose _ => .flag .verbose none
  | encoding attached e => .encoding attached (some e.label)

theorem flags_append (a b : List Part) : flags (a ++ b) = flags a ++ flags b :=
  List.filterMap_append

theorem filterMap_concat {α : Type} (gives? : Part → Option α) (parts : List Part) (part : Part) :
    (parts ++ [part]).filterMap gives? = parts.filterMap gives? ++ (gives? part).toList := by
  rw [List.filterMap_append]
  cases hgives : gives? part <;> simp [hgives]

theorem paths_concat (parts : List Part) (part : Part) :
    paths (parts ++ [part]) = paths parts ++ part.path?.toList :=
  filterMap_concat path? parts part

theorem flags_concat (parts : List Part) (part : Part) :
    flags (parts ++ [part]) = flags parts ++ part.flag?.toList :=
  filterMap_concat flag? parts part

theorem encodings_concat (parts : List Part) (part : Part) :
    encodings (parts ++ [part]) = encodings parts ++ part.encoding?.toList :=
  filterMap_concat encoding? parts part

theorem options_concat (parts : List Part) (part : Part) :
    options (parts ++ [part]) = options parts ++ part.option?.toList :=
  filterMap_concat option? parts part

end Part

/-! ## Lines -/

/-- A command line. -/
structure Line where
  parts : List Part
  /-- The paths behind `--`, if that is given. -/
  behind : Option (List String)
deriving DecidableEq, Repr

namespace Line

/-- How a line is written. -/
def words (l : Line) : List String :=
  l.parts.flatMap Part.words ++
    match l.behind with
    | none => []
    | some paths => "--" :: paths

/-- All paths, in their order. -/
def paths (l : Line) : List String := Part.paths l.parts ++ l.behind.getD []

/-- The flags, as often as they are given. -/
def flags (l : Line) : List Flag := Part.flags l.parts

/-- The encodings, as often as one is given. -/
def encodings (l : Line) : List TextEncoding := Part.encodings l.parts

/-- The encoding that is given, or else the one that needs no mention. -/
def encoding (l : Line) : TextEncoding := l.encodings.head?.getD .latin1

/-- Two paths that are not empty, and no option twice. -/
structure WellFormed (l : Line) : Prop where
  /-- Only behind `--` may a path look like an option. -/
  plain : ∀ text, .path text ∈ l.parts → text = "-" ∨ text.toList.head? ≠ some '-'
  nonempty : "" ∉ l.paths
  two : l.paths.length = 2
  flags : l.flags.Nodup
  encodings : l.encodings.length ≤ 1

/-- All parts of a line, where the paths behind `--` are parts like others. -/
def all (l : Line) : List Part := l.parts ++ (l.behind.getD []).map .path

theorem words_cons (part : Part) (parts : List Part) (behind : Option (List String)) :
    words ⟨part :: parts, behind⟩ = part.words ++ words ⟨parts, behind⟩ := by
  rw [words, words, List.flatMap_cons, List.append_assoc]

theorem paths_all (l : Line) : Part.paths l.all = l.paths := by
  have hbehind (texts : List String) : (texts.map Part.path).filterMap Part.path? = texts := by
    rw [List.filterMap_map]
    exact List.filterMap_some
  rw [Part.paths, all, List.filterMap_append, hbehind]
  rfl

/-- Behind `--` there are no options. -/
theorem filterMap_all {α : Type} {gives? : Part → Option α}
    (h : ∀ text, gives? (.path text) = none) (l : Line) :
    l.all.filterMap gives? = l.parts.filterMap gives? := by
  have hbehind (texts : List String) : (texts.map Part.path).filterMap gives? = [] := by
    rw [List.filterMap_map, List.filterMap_eq_nil_iff]
    exact fun text _ => h text
  rw [all, List.filterMap_append, hbehind, List.append_nil]

theorem flags_all (l : Line) : Part.flags l.all = l.flags := filterMap_all (fun _ => rfl) l

theorem encodings_all (l : Line) : Part.encodings l.all = l.encodings :=
  filterMap_all (fun _ => rfl) l

end Line

/-! ## The items of a line -/

namespace Item

theorem isPlain_iff {word : String} :
    isPlain word ↔ word = "-" ∨ word.toList.head? ≠ some '-' := by
  rw [isPlain, Bool.or_eq_true, bne_iff_ne, decide_eq_true_iff, or_comm]

theorem ofWords_plain {word : String} (h : isPlain word) (rest : List String) :
    ofWords (word :: rest) = path word :: ofWords rest := by
  rw [ofWords, if_pos h]

theorem ofWords_behind (rest : List String) : ofWords ("--" :: rest) = rest.map path := by
  rw [ofWords, if_neg (by decide), if_pos rfl]

theorem ofWords_encoding (rest : List String) :
    ofWords ("--input-encoding" :: rest) =
      encoding false (takeValue rest).1 :: ofWords (takeValue rest).2 := by
  rw [ofWords, if_neg (by decide), if_neg (by decide), if_pos rfl]

theorem ofWords_option {word : String} (hplain : ¬ isPlain word) (hbehind : word ≠ "--")
    (hencoding : word ≠ "--input-encoding") (rest : List String) :
    ofWords (word :: rest) = ofOption word ++ ofWords rest := by
  rw [ofWords, if_neg hplain, if_neg hbehind, if_neg hencoding]

theorem ofWords_part {part : Part} (h : ∀ text, part = .path text → isPlain text)
    (rest : List String) : ofWords (part.words ++ rest) = part.item :: ofWords rest := by
  cases part with
  | path text => exact ofWords_plain (h text rfl) rest
  | keepCrlf => exact ofWords_option (by decide) (by decide) (by decide) rest
  | verbose short =>
    cases short with
    | true => exact ofWords_option (by decide) (by decide) (by decide) rest
    | false => exact ofWords_option (by decide) (by decide) (by decide) rest
  | encoding attached e =>
    cases attached with
    | true => cases e <;> exact ofWords_option (by decide) (by decide) (by decide) rest
    | false =>
      have hplain : isPlain e.label := by cases e <;> decide
      have hvalue : takeValue (e.label :: rest) = (some e.label, rest) := by
        rw [takeValue, if_pos hplain]
      refine (ofWords_encoding (e.label :: rest)).trans ?_
      rw [hvalue]
      rfl

theorem ofWords_words {l : Line} (h : ∀ text, .path text ∈ l.parts → isPlain text) :
    ofWords l.words = l.all.map Part.item := by
  obtain ⟨parts, behind⟩ := l
  induction parts with
  | nil =>
    cases behind with
    | none => exact ofWords.eq_1
    | some paths =>
      refine (ofWords_behind paths).trans ?_
      simp only [Line.all, List.nil_append, Option.getD_some, List.map_map]
      rfl
  | cons part parts ih =>
    have hpart : ∀ text, part = .path text → isPlain text := by
      rintro text rfl
      exact h text List.mem_cons_self
    have hparts : ∀ text, .path text ∈ parts → isPlain text :=
      fun text ht => h text (List.mem_cons_of_mem _ ht)
    rw [Line.words_cons, ofWords_part hpart, ih hparts]
    rfl

/-! ## One word -/

theorem not_isPlain_iff {word : String} :
    ¬ isPlain word ↔ ∃ c cs, word.toList = '-' :: c :: cs := by
  have hdash : word = "-" ↔ word.toList = ['-'] := by
    rw [← String.toList_inj]
    rfl
  rw [isPlain_iff, hdash]
  rcases word.toList with _ | ⟨d, _ | ⟨c, cs⟩⟩ <;> simp

theorem ofOption_long {word : String} {long : List Char} (h : word.toList = '-' :: '-' :: long) :
    ofOption word = [ofName (splitValue long).1 (splitValue long).2] := by
  rw [ofOption, h]
  rfl

theorem ofOption_letters {word : String} {c : Char} {cs : List Char}
    (h : word.toList = '-' :: c :: cs) (hc : c ≠ '-') :
    ofOption word = (c :: cs).map ofLetter := by
  rw [ofOption, h]
  split
  next heq =>
    cases heq
    exact absurd rfl hc
  next => rfl

/-- A long option is its name, and behind an equals sign the value, if it has one. -/
theorem splitValue_append (word : List Char) :
    (splitValue word).1.toList ++
        (match (splitValue word).2 with
          | none => []
          | some value => '=' :: value.toList) = word := by
  conv_rhs => rw [← List.takeWhile_append_dropWhile (p := (· ≠ '=')) (l := word)]
  have hhead := List.head?_dropWhile_not (· ≠ '=') word
  unfold splitValue
  rw [String.toList_ofList]
  cases hvalue : word.dropWhile (· ≠ '=') with
  | nil => rfl
  | cons c value =>
    rw [hvalue] at hhead
    obtain rfl : c = '=' := by simpa using hhead
    simp

theorem eq_of_ofLetter {c : Char} {part : Part} (h : part.item = ofLetter c) :
    c = 'v' ∧ part.flag? = some .verbose := by
  unfold ofLetter at h
  split at h
  next =>
    cases part <;> cases h
    exact ⟨rfl, rfl⟩
  all_goals cases part <;> cases h

theorem eq_of_ofName {name : String} {value : Option String} {part : Part}
    (h : part.item = ofName name value) :
    (∃ e : TextEncoding, name = "input-encoding" ∧ value = some e.label) ∨
      name = "keep-crlf" ∧ value = none ∨ name = "verbose" ∧ value = none := by
  unfold ofName at h
  split_ifs at h with hencoding hkeepCrlf hverbose
  · cases part <;> cases h
    exact .inl ⟨_, hencoding, rfl⟩
  · cases part <;> cases h
    exact .inr (.inl ⟨hkeepCrlf, rfl⟩)
  · cases part <;> cases h
    exact .inr (.inr ⟨hverbose, rfl⟩)
  all_goals cases part <;> cases h

theorem exists_of_encoding {attached : Bool} {value : Option String} {part : Part}
    (h : part.item = encoding attached value) :
    ∃ e : TextEncoding, part = .encoding attached e ∧ value = some e.label := by
  cases part <;> cases h
  exact ⟨_, rfl, rfl⟩

theorem eq_cons_of_takeValue {words : List String} {value : String}
    (h : (takeValue words).1 = some value) : words = value :: (takeValue words).2 := by
  cases words with
  | nil => cases h
  | cons word rest =>
    rw [takeValue] at h ⊢
    split_ifs at h ⊢
    cases h
    rfl

theorem exists_of_long {word : String} {long : List Char} {part : Part}
    (hword : word.toList = '-' :: '-' :: long)
    (h : part.item = ofName (splitValue long).1 (splitValue long).2) :
    ∃ spelled : Part, spelled.words = [word] ∧ ∀ text, spelled ≠ .path text := by
  have hspelled := splitValue_append long
  have heq {text : String} (h : text.toList = '-' :: '-' :: long) : [text] = [word] := by
    rw [← String.toList_inj.1 (h.trans hword.symm)]
  obtain ⟨e, hname, hvalue⟩ | ⟨hname, hvalue⟩ | ⟨hname, hvalue⟩ := eq_of_ofName h
  · rw [hname, hvalue] at hspelled
    refine ⟨.encoding true e, heq ?_, by rintro _ ⟨⟩⟩
    rw [← hspelled]
    cases e <;> rfl
  · rw [hname, hvalue] at hspelled
    refine ⟨.keepCrlf, heq ?_, by rintro _ ⟨⟩⟩
    rw [← hspelled]
    rfl
  · rw [hname, hvalue] at hspelled
    refine ⟨.verbose false, heq ?_, by rintro _ ⟨⟩⟩
    rw [← hspelled]
    rfl

theorem exists_of_letters {word : String} {c : Char} {cs : List Char} {parts : List Part}
    (hword : word.toList = '-' :: c :: cs) (h : parts.map Part.item = (c :: cs).map ofLetter)
    (hflags : (Part.flags parts).Nodup) :
    ∃ spelled : Part, spelled.words = [word] ∧ ∀ text, spelled ≠ .path text := by
  obtain ⟨part, parts, rfl, hpart, hparts⟩ := List.map_eq_cons_iff.1 h
  obtain ⟨rfl, hflag⟩ := eq_of_ofLetter hpart
  cases cs with
  | nil =>
    refine ⟨.verbose true, ?_, by rintro _ ⟨⟩⟩
    rw [← String.ofList_toList (s := word), hword]
    rfl
  | cons d cs =>
    -- the second letter would be the same flag again
    obtain ⟨other, parts, rfl, hother, -⟩ := List.map_eq_cons_iff.1 hparts
    obtain ⟨-, hagain⟩ := eq_of_ofLetter hother
    simp [Part.flags, hflag, hagain] at hflags

theorem exists_of_ofOption {word : String} {parts : List Part} (hplain : ¬ isPlain word)
    (hitems : parts.map Part.item = ofOption word) (hflags : (Part.flags parts).Nodup) :
    ∃ spelled : Part, spelled.words = [word] ∧ ∀ text, spelled ≠ .path text := by
  obtain ⟨c, cs, hword⟩ := not_isPlain_iff.1 hplain
  by_cases hc : c = '-'
  · subst hc
    rw [ofOption_long hword] at hitems
    obtain ⟨part, -, hpart⟩ := List.map_eq_singleton_iff.1 hitems
    exact exists_of_long hword hpart
  · rw [ofOption_letters hword hc] at hitems
    exact exists_of_letters hword hitems hflags

/-! ## All words -/

theorem exists_line_cons (part : Part) {rest : List String}
    (hpart : ∀ text, part = .path text → isPlain text)
    (h : ∃ l : Line, (∀ text, .path text ∈ l.parts → isPlain text) ∧ l.words = rest) :
    ∃ l : Line, (∀ text, .path text ∈ l.parts → isPlain text) ∧ l.words = part.words ++ rest := by
  obtain ⟨⟨parts, behind⟩, hplain, rfl⟩ := h
  refine ⟨⟨part :: parts, behind⟩, fun text ht => ?_, Line.words_cons part parts behind⟩
  obtain heq | hmem := List.mem_cons.1 ht
  · exact hpart text heq.symm
  · exact hplain text hmem

theorem exists_line {words : List String} {parts : List Part}
    (hitems : parts.map Part.item = ofWords words) (hflags : (Part.flags parts).Nodup) :
    ∃ l : Line, (∀ text, .path text ∈ l.parts → isPlain text) ∧ l.words = words := by
  fun_induction ofWords words generalizing parts with
  | case1 => exact ⟨⟨[], none⟩, by rintro _ ⟨⟩, rfl⟩
  | case2 word rest hplain ih =>
    obtain ⟨part, parts, rfl, -, hrest⟩ := List.map_eq_cons_iff.1 hitems
    have hflags' := Part.flags_append [part] parts ▸ hflags
    refine exists_line_cons (.path word) ?_ (ih hrest hflags'.of_append_right)
    rintro _ ⟨⟩
    exact hplain
  | case3 rest _ => exact ⟨⟨[], some rest⟩, by rintro _ ⟨⟩, rfl⟩
  | case4 rest _ _ _ ih =>
    obtain ⟨part, parts, rfl, hpart, hrest⟩ := List.map_eq_cons_iff.1 hitems
    obtain ⟨e, rfl, hvalue⟩ := exists_of_encoding hpart
    have hflags' := Part.flags_append [.encoding false e] parts ▸ hflags
    rw [eq_cons_of_takeValue hvalue]
    exact exists_line_cons (.encoding false e) (by rintro _ ⟨⟩)
      (ih hrest hflags'.of_append_right)
  | case5 word rest hplain _ _ ih =>
    obtain ⟨front, back, rfl, hfront, hback⟩ := List.map_eq_append_iff.1 hitems
    rw [Part.flags_append] at hflags
    obtain ⟨part, hword, hpath⟩ := exists_of_ofOption hplain hfront hflags.of_append_left
    rw [← List.singleton_append, ← hword]
    exact exists_line_cons part (fun text h => absurd h (hpath text))
      (ih hback hflags.of_append_right)

end Item

end Uncomment.Command
