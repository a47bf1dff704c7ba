import Uncomment.Log.Record
import Uncomment.Pattern
import Uncomment.Text.Blank

/-!
# Log filters

A filter decides which records are shown. It is a list of directives, each a threshold for the
sources whose name starts with a given text, and possibly a pattern that messages must hold. What
cannot be understood in the text of a setting is left out, with a complaint.

Results:
* `find?_put`: the last directive for a source holds, and no other source is touched.
* `standard_not_shows_debug`: what is logged at level debug is not shown by default.
-/

namespace Uncomment.Log

/-! ## Directives -/

/-- How many levels to show, counted from the most important, for the sources whose name starts
    with `source`; without it, for all. -/
structure Directive where
  source : Option String
  threshold : Nat
deriving DecidableEq, Repr

/-- The number of levels that a threshold's name lets pass, in any mix of upper and lower case. -/
def threshold? (name : String) : Option Nat :=
  let name := name.toUpper
  if name = "OFF" then some 0 else (Level.all.find? (·.name = name)).map Level.rank

/-- What cannot be understood in the text of a setting. -/
inductive Complaint where
  /-- A word that is no directive, or the part of it that is no level. -/
  | malformed (word : String)
  /-- More than one slash in the whole text. -/
  | manySlashes (text : String)
  /-- A pattern that cannot be used. -/
  | pattern (refusal : Pattern.Refusal)
deriving DecidableEq, Repr

/-- The complaint as it is shown. -/
def Complaint.line (c : Complaint) : String :=
  "warning: " ++ reason c ++ ", ignoring it\n"
where
  /-- What is wrong. -/
  reason : Complaint → String
    | malformed word => "invalid logging spec '" ++ word ++ "'"
    | manySlashes text => "invalid logging spec '" ++ text ++ "' (too many '/'s)"
    | pattern refusal => "invalid regex filter - " ++ refusal.message

namespace Directive

/-- Reads `level`, `source` or `source=level`; a source by itself shows all its records. -/
def ofString (s : String) : Except Complaint Directive :=
  match s.splitOn "=" with
  | [word] =>
    match threshold? word with
    | some n => .ok ⟨none, n⟩
    | none => .ok ⟨some word, Level.trace.rank⟩
  | [source, level] =>
    let level := Text.trimBlank level
    if level = "" then .ok ⟨some source, Level.trace.rank⟩
    else
      match threshold? level with
      | some n => .ok ⟨some source, n⟩
      | none => .error (.malformed level)
  | _ => .error (.malformed s)

/-- What a directive names of a source. -/
def named (d : Directive) : String := d.source.getD ""

/-- Puts a directive in the place of the one for the same source, or at the end. -/
def put (d : Directive) : List Directive → List Directive
  | [] => [d]
  | e :: es => if e.source = d.source then d :: es else e :: d.put es

theorem find?_put (d : Directive) (ds : List Directive) (source : Option String) :
    (d.put ds).find? (·.source = source) =
      if d.source = source then some d else ds.find? (·.source = source) := by
  induction ds with
  | nil => by_cases h : d.source = source <;> simp [put, h]
  | cons e es ih =>
    rw [put]
    split
    next he => by_cases h : d.source = source <;> simp [he, h]
    next he =>
      by_cases h : d.source = source
      · subst h
        simp [he, ih]
      · by_cases hs : e.source = source <;> simp [hs, ih, h]

end Directive

/-! ## Filters -/

/-- Directives, no two of them for the same source, and a pattern for the messages. -/
structure Filter where
  directives : List Directive
  pattern : Option Pattern := none
deriving DecidableEq, Repr

namespace Filter

/-- A filter with these directives, of which the last for each source holds; with none at all,
    errors alone are shown. -/
def ofDirectives (directives : List Directive) (pattern : Option Pattern) : Filter :=
  match directives.foldl (fun ds d => d.put ds) [] with
  | [] => ⟨[⟨none, Level.error.rank⟩], pattern⟩
  | ds => ⟨ds, pattern⟩

/-- The filter in force where none is given: warnings and errors. -/
def standard : Filter := { directives := [⟨none, Level.warn.rank⟩] }

/-- The directive for a source: of those that apply the one that names most of it, of equals the
    last. -/
def directiveFor? (f : Filter) (source : Source) : Option Directive :=
  (f.directives.filter fun d => d.named.toList.isPrefixOf source.name.toList).foldl
    (fun best d => if best.any (d.named.length < ·.named.length) then best else some d) none

/-- Whether the filter shows a record. -/
def shows (f : Filter) (r : Record) : Bool :=
  (f.directiveFor? r.source).any (r.level.rank ≤ ·.threshold) &&
    f.pattern.all (·.occursIn r.message)

theorem standard_not_shows_debug (source : Source) (message : String) :
    standard.shows ⟨source, .debug, message⟩ = false := by
  cases source <;> rfl

end Filter

/-- What is shown of a list of records. -/
def render (f : Filter) (records : List Record) : String :=
  String.join ((records.filter f.shows).map Record.line)

/-! ## Settings -/

/-- The filter that a setting asks for, and the complaints about what it does not say well. -/
structure Setting where
  complaints : List Complaint := []
  filter : Filter
deriving DecidableEq, Repr

namespace Setting

/-- Reads directives separated by commas. -/
def readDirectives (s : String) : List Complaint × List Directive :=
  let words := ((s.splitOn ",").map Text.trimBlank).filter (· ≠ "")
  let read := words.map Directive.ofString
  (read.filterMap fun r => match r with | .error c => some c | .ok _ => none,
    read.filterMap Except.toOption)

/-- Reads a setting: directives, and possibly a slash and a pattern behind them. A text with more
    slashes is left out as a whole. -/
def ofString (s : String) : Setting :=
  match s.splitOn "/" with
  | [directives] =>
    let (complaints, ds) := readDirectives directives
    ⟨complaints, .ofDirectives ds none⟩
  | [directives, pattern] =>
    let (complaints, ds) := readDirectives directives
    match Pattern.ofString pattern with
    | .ok p => ⟨complaints, .ofDirectives ds (some p)⟩
    | .error refusal => ⟨complaints ++ [.pattern refusal], .ofDirectives ds none⟩
  | _ => ⟨[.manySlashes s], .ofDirectives [] none⟩

/-- Reads a setting that may be absent. -/
def ofString? (s : Option String) : Setting := s.elim { filter := .standard } ofString

/-- The complaints as they are shown. -/
def warnings (s : Setting) : String := String.join (s.complaints.map Complaint.line)

end Setting

end Uncomment.Log
