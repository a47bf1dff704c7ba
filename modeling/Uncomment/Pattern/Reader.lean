import Uncomment.Pattern.Bracket
import Uncomment.Text.Letter

/-!
# Reading whole patterns

The pattern is read from left to right; parts that are begun wait on a stack until they are closed,
so the first fault from the left is the one that is found. How deep parts stand in each other is
examined at the end.
-/

namespace Uncomment.Pattern

open Text

/-! ## Flags -/

/-- Reads flags up to the colon or parenthesis that ends them. A sign of negation clears all flags
    behind it. -/
def readFlags (c : Cursor) : Except Fault (FlagChanges × Cursor) := do
  let (items, length) ← go [] c.index c.rest
  pure (changes true (items.map Prod.fst), c.advance length)
where
  /-- The flags and the sign of negation, each with its place. -/
  go (items : List (Option Flag × Nat)) (index : Nat) :
      List Char → Except Fault (List (Option Flag × Nat) × Nat)
    | [] => fail .flagUnexpectedEnd index index
    | x :: xs =>
      if x = ':' ∨ x = ')' then
        match items.getLast? with
        | some (none, place) => fail .flagDanglingNegation place (place + 1)
        | _ => .ok (items, items.length)
      else
        let item := if x = '-' then some none else (Flag.ofChar? x).map some
        match item with
        | none => fail .flagUnrecognized index (index + 1)
        | some item =>
          match items.lookup item with
          | some place =>
            .error
              { cause := if item.isNone then .flagRepeatedNegation else .flagDuplicate
                span := ⟨index, index + 1⟩
                first := some ⟨place, place + 1⟩ }
          | none => go (items ++ [(item, index)]) (index + 1) xs
  /-- What the flags amount to. -/
  changes (on : Bool) : List (Option Flag) → FlagChanges
    | [] => []
    | none :: items => changes false items
    | some flag :: items => (flag, on) :: changes on items

/-! ## Groups -/

/-- Whether a character can begin or continue the name of a group. -/
def isNameChar (first : Bool) (c : Char) : Bool :=
  if first then c = '_' || isLetter c
  else c = '_' || c = '.' || c = '[' || c = ']' || isLetter c || isNumber c

/-- The names of groups that were given so far, each with its place, the last one first. -/
abbrev GroupNames := List (String × Span)

/-- Reads the name of a group and the bracket behind it. -/
def readName (names : GroupNames) (c : Cursor) : Except Fault (GroupNames × Cursor) :=
  let start := c.index
  let name := match c.rest with
    | [] => []
    | x :: xs => if isNameChar true x then x :: xs.takeWhile (isNameChar false) else []
  let c := c.advance name.length
  match c.next? with
  | none => c.failHere .groupNameUnexpectedEnd
  | some '>' =>
    if name.isEmpty then fail .groupNameEmpty start start
    else
      let name := String.ofList name
      let span : Span := ⟨start, c.index⟩
      match names.lookup name with
      | some first => .error { cause := .groupNameDuplicate, span, first := some first }
      | none => .ok ((name, span) :: names, c.advance 1)
  | some _ => c.failNext .groupNameInvalid

/-- What an opening parenthesis begins. -/
inductive GroupStart where
  /-- Only flags, which hold from here on. -/
  | flags (changes : FlagChanges) (span : Span)
  /-- A group. -/
  | group (captured : Bool) (changes : FlagChanges) (span : Span)
deriving Repr

/-- Whether a parenthesis with these characters looks around. -/
def lookAroundLength? (c : Cursor) : Option Nat :=
  if c.startsWith "?=" ∨ c.startsWith "?!" then some 2
  else if c.startsWith "?<=" ∨ c.startsWith "?<!" then some 3
  else none

/-- Reads what an opening parenthesis begins. -/
def readGroupStart (names : GroupNames) (c : Cursor) :
    Except Fault (GroupStart × GroupNames × Cursor) := do
  let opened := c.nextSpan
  let c := (c.advance 1).skipSpace
  match lookAroundLength? c with
  | some n => fail .lookAround opened.start (c.index + n)
  | none =>
    if c.startsWith "?P<" then
      let (names, c) ← readName names (c.advance 3)
      pure (.group true [] opened, names, c)
    else if c.startsWith "?<" then
      let (names, c) ← readName names (c.advance 2)
      pure (.group true [] opened, names, c)
    else if c.startsWith "?" then
      let question := c.here
      let c := c.advance 1
      if c.atEnd then fail .groupUnclosed opened.start opened.stop
      else
        let (changes, c) ← readFlags c
        let behind := c.advance 1
        if c.next? = some ':' then pure (.group false changes opened, names, behind)
        else if changes.isEmpty then fail .repetitionMissing question.start question.stop
        else pure (.flags changes ⟨opened.start, behind.index⟩, names, behind)
    else pure (.group true [] opened, names, c)

/-! ## Levels -/

/-- What was read of a group or of the whole pattern: finished branches, and the parts of the
    branch that is read, with the places where both begin. What was read last stands first. -/
structure Level where
  start : Nat := 0
  branches : List Tree := []
  branchStart : Nat := 0
  items : List Tree := []
deriving Repr

namespace Level

/-- A level that begins at a place. -/
def startingAt (start : Nat) : Level := { start, branchStart := start }

/-- Adds a part to the branch. -/
def push (l : Level) (item : Tree) : Level := { l with items := item :: l.items }

/-- The branch, which ends at a place. -/
def branch (l : Level) (stop : Nat) : Tree := .ofItems l.items.reverse ⟨l.branchStart, stop⟩

/-- Ends the branch at a place; the next one begins behind the bar. -/
def endBranch (l : Level) (stop : Nat) : Level :=
  { l with branches := l.branch stop :: l.branches, branchStart := stop + 1, items := [] }

/-- The whole level, which ends at a place. -/
def tree (l : Level) (stop : Nat) : Tree :=
  if l.branches.isEmpty then l.branch stop
  else .alternation (l.branch stop :: l.branches).reverse ⟨l.start, stop⟩

/-- Takes off the part that is to be repeated. -/
def popRepeatable (l : Level) (c : Cursor) : Except Fault (Level × Tree) :=
  match l.items with
  | [] | .empty _ :: _ | .flags _ _ :: _ => c.failHere .repetitionMissing
  | item :: items => .ok ({ l with items }, item)

end Level

/-- A group that is open: what was read around it, how it began, and whether spacing was free
    before. -/
structure GroupFrame where
  outer : Level
  captured : Bool
  changes : FlagChanges
  span : Span
  spaced : Bool
deriving Repr

/-! ## Patterns -/

/-- Adds a part that is repeated so often; the sign of repetition ends at the cursor. -/
def pushRepeated (l : Level) (item : Tree) (n : Count) (c : Cursor) : Level :=
  l.push (.repetition item n.least n.most n.greedy ⟨item.span.start, c.index⟩)

/-- Reads a part that is no group, class or repetition. -/
def readAtom (x : Char) (c : Cursor) : Except Fault (Tree × Cursor) :=
  let span := c.nextSpan
  match x with
  | '\\' => readEscape c
  | '.' => .ok (.dot span, c.advance 1)
  | '^' => .ok (.assertion .startLine span, c.advance 1)
  | '$' => .ok (.assertion .endLine span, c.advance 1)
  | x => .ok (.literal { char := x, span }, c.advance 1)

/-- Reads the rest of a pattern. Every turn moves on, so as many turns as there are characters are
    enough. -/
def readRest : Nat → List GroupFrame → Level → GroupNames → Cursor → Except Fault Tree
  | 0, _, level, _, c => .ok (level.tree c.index)
  | fuel + 1, frames, level, names, c => do
    let c := c.skipSpace
    match c.next? with
    | none =>
      match frames with
      | [] => pure (level.tree c.index)
      | frame :: _ => fail .groupUnclosed frame.span.start frame.span.stop
    | some '(' =>
      let spaced := c.spaced
      let (start, names, c) ← readGroupStart names c
      match start with
      | .flags changes span =>
        let c := { c with spaced := changes.apply .spacing spaced }
        readRest fuel frames (level.push (.flags changes span)) names c
      | .group captured changes span =>
        let c := { c with spaced := changes.apply .spacing spaced }
        readRest fuel (⟨level, captured, changes, span, spaced⟩ :: frames)
          (.startingAt c.index) names c
    | some ')' =>
      match frames with
      | [] => c.failNext .groupUnopened
      | frame :: frames =>
        let body := level.tree c.index
        let c := { c.advance 1 with spaced := frame.spaced }
        let group := Tree.group frame.captured frame.changes body ⟨frame.span.start, c.index⟩
        readRest fuel frames (frame.outer.push group) names c
    | some '|' => readRest fuel frames (level.endBranch c.index) names (c.advance 1)
    | some '[' =>
      let (item, c) ← readClass (fuel + 1) c
      readRest fuel frames (level.push item) names c
    | some '\x7b' =>
      let (level, item) ← level.popRepeatable c
      let (count, c) ← readCount c
      readRest fuel frames (pushRepeated level item count c) names c
    | some x =>
      match Count.ofChar? x with
      | some count =>
        let (level, item) ← level.popRepeatable c
        let (count, c) := count.readGreed (c.advance 1)
        readRest fuel frames (pushRepeated level item count c) names c
      | none =>
        let (item, c) ← readAtom x c
        readRest fuel frames (level.push item) names c

/-- Reads a pattern. -/
def readTree (pattern : List Char) : Except Fault Tree := do
  let tree ← readRest (pattern.length + 1) [] {} [] { rest := pattern }
  match tree.excess? 0 with
  | some span => .error { cause := .nestedTooDeep nestLimit, span }
  | none => pure tree

end Uncomment.Pattern
