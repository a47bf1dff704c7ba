import Uncomment.Pattern.Expression
import Uncomment.Pattern.Tree

/-!
# What a pattern means

A tree is given its meaning as an expression, from left to right, under the flags that hold at each
part. Flags in a group end with it. There are no tables of case, properties or words of all scripts,
so a part that would need one is a fault; without the flag `u` only ASCII is meant, and a class that
would hold single bytes beyond it is a fault too.
-/

namespace Uncomment.Pattern

/-! ## Flags -/

/-- The flags that matter to the meaning. -/
structure Modes where
  caseless : Bool := false
  multiLine : Bool := false
  dotAll : Bool := false
  swapGreed : Bool := false
  unicode : Bool := true
  crlf : Bool := false
deriving DecidableEq, Repr

/-- The flags after changes. -/
def Modes.change (m : Modes) (changes : FlagChanges) : Modes :=
  { caseless := changes.apply .caseless m.caseless
    multiLine := changes.apply .multiLine m.multiLine
    dotAll := changes.apply .dotAll m.dotAll
    swapGreed := changes.apply .swapGreed m.swapGreed
    unicode := changes.apply .unicode m.unicode
    crlf := changes.apply .crlf m.crlf }

/-- The fault that a part has for a cause. -/
def faulty {α : Type} (cause : Cause) (span : Span) : Except Fault α := .error { cause, span }

/-! ## Classes -/

/-- The members of a class with a name. -/
def NamedClass.set (kind : NamedClass) : CharSet :=
  .ofRanges <| (ends kind).map fun (first, last) => .between first last
where
  /-- The first and the last character of each range of the class. -/
  ends : NamedClass → List (Char × Char)
    | alnum => [('0', '9'), ('A', 'Z'), ('a', 'z')]
    | alpha => [('A', 'Z'), ('a', 'z')]
    | ascii => [('\x00', '\x7f')]
    | blank => [('\t', '\t'), (' ', ' ')]
    | cntrl => [('\x00', '\x1f'), ('\x7f', '\x7f')]
    | digit => [('0', '9')]
    | graph => [('!', '~')]
    | lower => [('a', 'z')]
    | print => [(' ', '~')]
    | punct => [('!', '/'), (':', '@'), ('[', '\x60'), ('\x7b', '~')]
    | space => [('\t', '\r'), (' ', ' ')]
    | upper => [('A', 'Z')]
    | word => [('0', '9'), ('A', 'Z'), ('_', '_'), ('a', 'z')]
    | xdigit => [('0', '9'), ('A', 'F'), ('a', 'f')]

/-- The members of a shorthand class in ASCII. -/
def Shorthand.set : Shorthand → CharSet
  | digit => NamedClass.digit.set
  | space => NamedClass.space.set
  | word => NamedClass.word.set

/-- A set with the other case of its members where case does not matter. With `u` there is no table
    for this, which is a fault unless nothing was named in the set. -/
def Modes.fold (m : Modes) (span : Span) (blank : Bool) (s : CharSet) : Except Fault CharSet :=
  if !m.caseless then .ok s
  else if !m.unicode then .ok s.caseless
  else if blank then .ok s
  else faulty .caseUnavailable span

/-- A set or its complement; without `u` it must be one of ASCII. -/
def Modes.negate (m : Modes) (span : Span) (negated : Bool) (s : CharSet) :
    Except Fault CharSet :=
  let s := if negated then s.complement else s
  if !m.unicode && !s.isAscii then faulty .brokenUtf8 span else .ok s

/-- A character; a byte beyond ASCII is none without `u`. -/
def Modes.char (m : Modes) (l : Literal) : Except Fault Char :=
  if !m.unicode && l.byte && 0x80 ≤ l.char.toNat then faulty .brokenUtf8 l.span else .ok l.char

/-- A member of a class, which without `u` must be ASCII. -/
def Modes.member (m : Modes) (l : Literal) : Except Fault Char := do
  let c ← m.char l
  if !m.unicode && 0x80 ≤ c.toNat then faulty .notAscii l.span else pure c

/-- A shorthand class, for which there is a table in ASCII only. -/
def Modes.shorthand (m : Modes) (kind : Shorthand) (negated : Bool) (span : Span) :
    Except Fault CharSet :=
  if m.unicode then faulty .shorthandUnavailable span else m.negate span negated kind.set

/-- A name as names of properties are compared: in lower case, without spaces, hyphens,
    underscores, characters that are not ASCII, and `is` at the front. -/
def looseName (name : String) : List Char :=
  let cs := name.toList
  let cs := if (cs.take 2).map Char.toLower = ['i', 's'] then cs.drop 2 else cs
  (cs.filter fun c => c ≠ ' ' && c ≠ '_' && c ≠ '-' && c.toNat < 0x80).map Char.toLower

/-- A class by a property, for which there is no table. Three names are looked for among the values
    of a property only. -/
def Modes.property (m : Modes) (name : String) (span : Span) : Except Fault CharSet :=
  if !m.unicode then faulty .notAscii span
  else if [['c', 'f'], ['s', 'c'], ['l', 'c']].contains (looseName name) then
    faulty .propertyValueUnknown span
  else faulty .propertyUnknown span

/-- What two sets are joined to. -/
def ClassOperation.join : ClassOperation → CharSet → CharSet → CharSet
  | intersection => .intersection
  | difference => .difference
  | symmetricDifference => .symmetricDifference

mutual

/-- The members of a class. -/
def ClassTree.set (m : Modes) : ClassTree → Except Fault CharSet
  | nothing _ => .ok {}
  | literal l => do pure (.single (← m.member l))
  | range first last _ => do pure ⟨[.between (← m.member first) (← m.member last)]⟩
  | named kind negated span => do m.negate span negated (← m.fold span false kind.set)
  | shorthand kind negated span => m.shorthand kind negated span
  | property name _ span => m.property name span
  | bracketed negated body span => do
    m.negate span negated (← m.fold span body.isBlank (← body.set m))
  | union items _ => do pure (.ofRanges (← ClassTree.ranges m [] items))
  | operation op left right _ => do
    let a ← left.set m
    let b ← right.set m
    let b ← m.fold right.span right.isBlank b
    let a ← m.fold left.span left.isBlank a
    pure (op.join a b)

/-- The ranges of some parts of a class, beside others. -/
def ClassTree.ranges (m : Modes) (done : List CharRange) :
    List ClassTree → Except Fault (List CharRange)
  | [] => .ok done
  | item :: items => do ClassTree.ranges m ((← item.set m).ranges ++ done) items

end

/-! ## Single parts -/

/-- The set that a dot means. -/
def Modes.dot (m : Modes) (span : Span) : Except Fault CharSet :=
  if !m.unicode then faulty .brokenUtf8 span
  else if m.dotAll then .ok .all
  else if m.crlf then .ok (CharSet.complement (.union (.single '\n') (.single '\r')))
  else .ok (CharSet.complement (.single '\n'))

/-- The set that a character means. -/
def Modes.literal (m : Modes) (l : Literal) : Except Fault CharSet := do
  m.fold l.span false (.single (← m.char l))

/-- The condition that an assertion makes. -/
def Modes.condition (m : Modes) : Assertion → Condition
  | .startLine =>
    if !m.multiLine then .textStart else if m.crlf then .lineStartCrlf else .lineStart
  | .endLine => if !m.multiLine then .textEnd else if m.crlf then .lineEndCrlf else .lineEnd
  | .startText => .textStart
  | .endText => .textEnd
  | .wordBoundary => word .boundary
  | .notWordBoundary => word .noBoundary
  | .wordStart => word .start
  | .wordEnd => word .stop
  | .wordStartHalf => word .startHalf
  | .wordEndHalf => word .stopHalf
where
  /-- The condition on words of ASCII or of all scripts. -/
  word (w : WordCondition) : Condition := if m.unicode then .unicodeWord w else .word w

/-! ## Patterns -/

/-- The expression of a set under the flags. -/
def Modes.expression (m : Modes) (s : CharSet) : Expression := .ofSet s m.unicode

mutual

/-- The meaning of a part, and the flags behind it. -/
def Tree.meaning (m : Modes) : Tree → Except Fault (Expression × Modes)
  | empty _ => .ok (.empty, m)
  | flags changes _ => .ok (.empty, m.change changes)
  | literal l => do pure (m.expression (← m.literal l), m)
  | dot span => do pure (m.expression (← m.dot span), m)
  | assertion kind _ => .ok (.condition (m.condition kind), m)
  | shorthand kind negated span => do
    pure (m.expression (← m.shorthand kind negated span), m)
  | property name _ span => do pure (m.expression (← m.property name span), m)
  | bracketed negated body span => do
    let s ← m.negate span negated (← m.fold span body.isBlank (← body.set m))
    pure (m.expression s, m)
  | repetition body least most greedy _ => do
    let (e, m) ← body.meaning m
    pure (e.times least most (greedy ^^ m.swapGreed), m)
  | group captured changes body span => do
    let (e, _) ← body.meaning (m.change changes)
    pure (if captured then .captured e span.start else e, m)
  | alternation branches _ => do
    let (es, m) ← Tree.meanings m [] branches
    pure (.ofAlternatives es, m)
  | concatenation items _ => do
    let (es, m) ← Tree.meanings m [] items
    pure (.ofSequence es, m)

/-- The meanings of parts, each under the flags behind the one before. What was done is given in
    reverse. -/
def Tree.meanings (m : Modes) (done : List Expression) :
    List Tree → Except Fault (List Expression × Modes)
  | [] => .ok (done.reverse, m)
  | item :: items => do
    let (e, m) ← item.meaning m
    Tree.meanings m (e :: done) items

end

end Uncomment.Pattern
