import Uncomment.Pattern.Fault

/-!
# Trees of patterns

What is written in a pattern, part by part, before it has a meaning. Every part knows its place, so
that a fault that is found later can still be shown.

Results:
* `ofName?_name`: a named class is found by its name.
-/

namespace Uncomment.Pattern

/-! ## Words of the pattern language -/

/-- The flags that a group may set or clear. -/
inductive Flag where
  /-- Upper and lower case match each other. -/
  | caseless
  /-- The assertions `^` and `$` hold at every line. -/
  | multiLine
  /-- A dot matches a line ending too. -/
  | dotAll
  /-- Repetitions prefer few instead of many, and many where they would prefer few. -/
  | swapGreed
  /-- Classes mean all characters instead of ASCII. -/
  | unicode
  /-- Lines may end with CR LF. -/
  | crlf
  /-- The pattern may hold space and comments. -/
  | spacing
deriving DecidableEq, Repr

/-- The flag with a letter. -/
def Flag.ofChar? : Char → Option Flag
  | 'i' => some caseless
  | 'm' => some multiLine
  | 's' => some dotAll
  | 'U' => some swapGreed
  | 'u' => some unicode
  | 'R' => some crlf
  | 'x' => some spacing
  | _ => none

/-- Flags that are set or cleared. -/
abbrev FlagChanges := List (Flag × Bool)

/-- What changes make of a flag. -/
def FlagChanges.apply (changes : FlagChanges) (flag : Flag) (before : Bool) : Bool :=
  (changes.lookup flag).getD before

/-- Places that an assertion can ask for. -/
inductive Assertion where
  | startLine | endLine | startText | endText
  | wordBoundary | notWordBoundary
  | wordStart | wordEnd | wordStartHalf | wordEndHalf
deriving DecidableEq, Repr

/-- The classes with a name between colons, as in `[:alpha:]`. -/
inductive NamedClass where
  | alnum | alpha | ascii | blank | cntrl | digit | graph
  | lower | print | punct | space | upper | word | xdigit
deriving DecidableEq, Repr

namespace NamedClass

/-- All classes with a name. -/
def all : List NamedClass :=
  [alnum, alpha, ascii, blank, cntrl, digit, graph, lower, print, punct, space, upper, word, xdigit]

/-- The name of the class. -/
def name : NamedClass → String
  | alnum => "alnum"
  | alpha => "alpha"
  | ascii => "ascii"
  | blank => "blank"
  | cntrl => "cntrl"
  | digit => "digit"
  | graph => "graph"
  | lower => "lower"
  | print => "print"
  | punct => "punct"
  | space => "space"
  | upper => "upper"
  | word => "word"
  | xdigit => "xdigit"

/-- The class with a name. -/
def ofName? (name : String) : Option NamedClass := all.find? (·.name = name)

theorem ofName?_name (kind : NamedClass) : ofName? kind.name = some kind := by
  cases kind <;> rfl

end NamedClass

/-- The classes that a letter behind a backslash stands for. -/
inductive Shorthand where
  | digit | space | word
deriving DecidableEq, Repr

/-- What two classes can be joined to. -/
inductive ClassOperation where
  | intersection | difference | symmetricDifference
deriving DecidableEq, Repr

/-! ## Parts -/

/-- A character that stands for itself. -/
structure Literal where
  char : Char
  span : Span
  /-- Whether it is written as a byte, by two hexadecimal digits. -/
  byte : Bool := false
deriving DecidableEq, Repr

/-- What stands between brackets. -/
inductive ClassTree where
  | nothing (span : Span)
  | literal (l : Literal)
  | range (first last : Literal) (span : Span)
  | named (kind : NamedClass) (negated : Bool) (span : Span)
  | shorthand (kind : Shorthand) (negated : Bool) (span : Span)
  | property (name : String) (negated : Bool) (span : Span)
  | bracketed (negated : Bool) (body : ClassTree) (span : Span)
  | union (items : List ClassTree) (span : Span)
  | operation (op : ClassOperation) (left right : ClassTree) (span : Span)
deriving Repr

mutual

/-- Whether nothing is named in a class: it is made of what is empty. -/
def ClassTree.isBlank : ClassTree → Bool
  | nothing _ => true
  | literal _ | range _ _ _ | named _ _ _ | shorthand _ _ _ | property _ _ _ => false
  | bracketed _ body _ => body.isBlank
  | union items _ => ClassTree.areBlank items
  | operation _ left right _ => left.isBlank && right.isBlank

/-- Whether nothing is named in some parts of a class. -/
def ClassTree.areBlank : List ClassTree → Bool
  | [] => true
  | item :: items => item.isBlank && ClassTree.areBlank items

end

/-- The place of a part of a class. -/
def ClassTree.span : ClassTree → Span
  | nothing s | range _ _ s | named _ _ s | shorthand _ _ s | property _ _ s | bracketed _ _ s
  | union _ s | operation _ _ _ s => s
  | literal l => l.span

/-- A pattern or a part of one. -/
inductive Tree where
  | empty (span : Span)
  /-- Flags for what follows. -/
  | flags (changes : FlagChanges) (span : Span)
  | literal (l : Literal)
  | dot (span : Span)
  | assertion (kind : Assertion) (span : Span)
  | shorthand (kind : Shorthand) (negated : Bool) (span : Span)
  | property (name : String) (negated : Bool) (span : Span)
  | bracketed (negated : Bool) (body : ClassTree) (span : Span)
  /-- At least and at most so many times, and whether many are preferred; without a second number,
      any number of times. -/
  | repetition (body : Tree) (least : Nat) (most : Option Nat) (greedy : Bool) (span : Span)
  /-- A part in parentheses, which may be captured, under flags of its own. -/
  | group (captured : Bool) (changes : FlagChanges) (body : Tree) (span : Span)
  | alternation (branches : List Tree) (span : Span)
  | concatenation (items : List Tree) (span : Span)
deriving Repr

/-- The place of a part. -/
def Tree.span : Tree → Span
  | empty s | flags _ s | dot s | assertion _ s | shorthand _ _ s | property _ _ s
  | bracketed _ _ s | repetition _ _ _ _ s | group _ _ _ s | alternation _ s
  | concatenation _ s => s
  | literal l => l.span

/-- Parts one after the other; a part alone is the whole. -/
def Tree.ofItems (items : List Tree) (span : Span) : Tree :=
  match items with
  | [] => .empty span
  | [item] => item
  | _ => .concatenation items span

/-- Parts of a class beside each other; a part alone is the whole. -/
def ClassTree.ofItems (items : List ClassTree) (span : Span) : ClassTree :=
  match items with
  | [] => .nothing span
  | [item] => item
  | _ => .union items span

/-! ## Nesting -/

/-- How deep parts may stand in each other. -/
def nestLimit : Nat := 250

mutual

/-- The first part of a class that stands deeper than allowed, below so many others. -/
def ClassTree.excess? (depth : Nat) : ClassTree → Option Span
  | bracketed _ body s => if nestLimit ≤ depth then some s else body.excess? (depth + 1)
  | union items s => if nestLimit ≤ depth then some s else ClassTree.excessOf? (depth + 1) items
  | operation _ left right s =>
    if nestLimit ≤ depth then some s
    else
      match left.excess? (depth + 1) with
      | some s => some s
      | none => right.excess? (depth + 1)
  | _ => none

/-- The first of several parts of a class that stands deeper than allowed. -/
def ClassTree.excessOf? (depth : Nat) : List ClassTree → Option Span
  | [] => none
  | item :: items =>
    match item.excess? depth with
    | some s => some s
    | none => ClassTree.excessOf? depth items

end

mutual

/-- The first part of a pattern that stands deeper than allowed, below so many others. -/
def Tree.excess? (depth : Nat) : Tree → Option Span
  | bracketed _ body s => if nestLimit ≤ depth then some s else body.excess? (depth + 1)
  | repetition body _ _ _ s | group _ _ body s =>
    if nestLimit ≤ depth then some s else body.excess? (depth + 1)
  | alternation items s | concatenation items s =>
    if nestLimit ≤ depth then some s else Tree.excessOf? (depth + 1) items
  | _ => none

/-- The first of several parts of a pattern that stands deeper than allowed. -/
def Tree.excessOf? (depth : Nat) : List Tree → Option Span
  | [] => none
  | item :: items =>
    match item.excess? depth with
    | some s => some s
    | none => Tree.excessOf? depth items

end

end Uncomment.Pattern
