import Uncomment.Pattern.Escape

/-!
# Classes in brackets

A class lists characters, ranges and other classes. Classes can stand in each other and can be
joined by `&&`, `--` and `~~`, from left to right.
-/

namespace Uncomment.Pattern

/-! ## Parts side by side -/

/-- Parts of a class that stand beside each other, the last one first, and their place. -/
structure ClassItems where
  items : List ClassTree := []
  span : Span
deriving Repr

namespace ClassItems

/-- Adds a part at the end. -/
def push (u : ClassItems) (item : ClassTree) : ClassItems :=
  { items := item :: u.items
    span := ⟨if u.items.isEmpty then item.span.start else u.span.start, item.span.stop⟩ }

/-- The parts as one. -/
def tree (u : ClassItems) : ClassTree := .ofItems u.items.reverse u.span

end ClassItems

/-! ## Simple parts -/

/-- Reads a class with a name, such as `[:alpha:]` or `[:^alpha:]`, if there is one. -/
def readNamedClass? (c : Cursor) : Option (ClassTree × Cursor) :=
  if !c.startsWith "[:" then none
  else
    let inside := c.advance 2
    let negated := inside.startsWith "^"
    let inside := if negated then inside.advance 1 else inside
    let name := inside.rest.takeWhile (· ≠ ':')
    let behind := inside.advance name.length
    if !behind.startsWith ":]" then none
    else
      let behind := behind.advance 2
      (NamedClass.ofName? (String.ofList name)).map fun kind =>
        (.named kind negated ⟨c.index, behind.index⟩, behind)

/-- Reads one character or an escape. -/
def readClassAtom (c : Cursor) : Except Fault (Tree × Cursor) :=
  match c.next? with
  | none => c.failHere .classUnclosed
  | some '\\' => readEscape c
  | some x => .ok (.literal { char := x, span := c.nextSpan }, c.advance 1)

/-- What was read as a part of a class; an assertion cannot be one. -/
def classItem : Tree → Except Fault ClassTree
  | .literal l => .ok (.literal l)
  | .shorthand kind negated s => .ok (.shorthand kind negated s)
  | .property name negated s => .ok (.property name negated s)
  | t => fail .classEscapeInvalid t.span.start t.span.stop

/-- What was read as an end of a range, which must be a character. -/
def rangeEnd : Tree → Except Fault Literal
  | .literal l => .ok l
  | t => fail .classRangeLiteral t.span.start t.span.stop

/-- Reads a part of a class that is no class in brackets: an item, or a range of two. A hyphen
    before the closing bracket or another hyphen makes no range. -/
def readRange (unclosed : Fault) (c : Cursor) : Except Fault (ClassTree × Cursor) := do
  let (first, c) ← readClassAtom c
  let c := c.skipSpace
  if c.atEnd then .error unclosed
  else if c.next? ≠ some '-' ∨ c.secondSpaced? = some ']' ∨ c.secondSpaced? = some '-' then
    pure (← classItem first, c)
  else
    let c := c.step
    if c.atEnd then .error unclosed
    else
      let (last, c) ← readClassAtom c
      let span : Span := ⟨first.span.start, last.span.stop⟩
      let first ← rangeEnd first
      let last ← rangeEnd last
      if last.char < first.char then fail .classRangeInvalid span.start span.stop
      else pure (.range first last span, c)

/-! ## Opening -/

/-- Reads at most so many hyphens that stand for themselves; answers `none` at the end of the
    pattern. -/
def readHyphens : Nat → ClassItems → Cursor → Option (ClassItems × Cursor)
  | 0, u, c => some (u, c)
  | fuel + 1, u, c =>
    if c.next? ≠ some '-' then some (u, c)
    else
      let u := u.push (.literal { char := '-', span := c.nextSpan })
      let c := c.step
      if c.atEnd then none else readHyphens fuel u c

/-- An opened class: whether it is negated, the place of its opening and the parts read with it. -/
structure Opening where
  negated : Bool
  span : Span
  parts : ClassItems
deriving Repr

/-- Reads the opening of a class: the bracket, the sign of negation, hyphens, and a closing bracket
    that comes first and so stands for itself. At most `fuel` characters are left behind the
    bracket. -/
def readOpening (fuel : Nat) (c : Cursor) : Except Fault (Opening × Cursor) :=
  let start := c.index
  let c := c.step
  if c.atEnd then fail .classUnclosed start c.index
  else
    let negated := c.next? = some '^'
    let c := if negated then c.step else c
    if c.atEnd then fail .classUnclosed start c.index
    else
      match readHyphens fuel { span := c.here } c with
      | none => fail .classUnclosed start start
      | some (parts, c) =>
        if parts.items.isEmpty ∧ c.next? = some ']' then
          let parts := parts.push (.literal { char := ']', span := c.nextSpan })
          let c := c.step
          if c.atEnd then fail .classUnclosed start c.index
          else .ok (⟨negated, ⟨start, c.index⟩, parts⟩, c)
        else .ok (⟨negated, ⟨start, c.index⟩, parts⟩, c)

/-! ## Whole classes -/

/-- What is begun around the place that is read. -/
inductive ClassFrame where
  /-- A class whose brackets are open, with the parts before it in the class around it. -/
  | opened (outer : ClassItems) (negated : Bool) (span : Span)
  /-- The left side of an operation. -/
  | operand (op : ClassOperation) (left : ClassTree)
deriving Repr

/-- Completes an operation whose right side was read. -/
def closeOperand (frames : List ClassFrame) (right : ClassTree) : ClassTree × List ClassFrame :=
  match frames with
  | .operand op left :: frames =>
    (.operation op left right ⟨left.span.start, right.span.stop⟩, frames)
  | _ => (right, frames)

/-- The fault of a class that is still open at the end of the pattern. -/
def unclosedClass : List ClassFrame → Fault
  | .opened _ _ span :: _ => { cause := .classUnclosed, span }
  | _ :: frames => unclosedClass frames
  | [] => { cause := .classUnclosed, span := ⟨0, 0⟩ }

/-- The operation whose sign is next. -/
def classOperation? (c : Cursor) : Option ClassOperation :=
  if c.startsWith "&&" then some .intersection
  else if c.startsWith "--" then some .difference
  else if c.startsWith "~~" then some .symmetricDifference
  else none

/-- Reads the class that begins at the cursor. Every turn moves on, so one turn more than there are
    characters is enough. -/
def readClass (turns : Nat) (c : Cursor) : Except Fault (Tree × Cursor) :=
  go turns [] { span := c.here } c
where
  /-- Reads on inside of what is begun. -/
  go : Nat → List ClassFrame → ClassItems → Cursor → Except Fault (Tree × Cursor)
    | 0, frames, _, _ => .error (unclosedClass frames)
    | fuel + 1, frames, parts, c => do
      let c := c.skipSpace
      match c.next? with
      | none => .error (unclosedClass frames)
      | some '[' =>
        match if frames.isEmpty then none else readNamedClass? c with
        | some (item, c) => go fuel frames (parts.push item) c
        | none =>
          let (opening, c) ← readOpening fuel c
          go fuel (.opened parts opening.negated opening.span :: frames) opening.parts c
      | some ']' =>
        let (body, frames) := closeOperand frames parts.tree
        match frames with
        | .opened outer negated span :: frames =>
          let c := c.advance 1
          let span : Span := ⟨span.start, c.index⟩
          if frames.isEmpty then pure (.bracketed negated body span, c)
          else go fuel frames (outer.push (.bracketed negated body span)) c
        | _ => .error (unclosedClass frames)
      | some _ =>
        match classOperation? c with
        | some op =>
          let (left, frames) := closeOperand frames parts.tree
          let c := c.advance 2
          go fuel (.operand op left :: frames) { span := c.here } c
        | none =>
          let (item, c) ← readRange (unclosedClass frames) c
          go fuel frames (parts.push item) c

end Uncomment.Pattern
