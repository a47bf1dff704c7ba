import Uncomment.Pattern.Tree
import Uncomment.Text.Blank

/-!
# Reading a pattern

A cursor stands before a character of a pattern or at its end. Under free spacing it can look over
white space and over comments, which begin with `#` and end with the line.

Results:
* `length_rest_step_lt`: a step from a character leaves less of the pattern.
-/

namespace Uncomment.Pattern

open Text

/-- A place in a pattern: what is left, how many characters are before it, and whether spacing is
    free here. -/
structure Cursor where
  rest : List Char
  index : Nat := 0
  spaced : Bool := false
deriving Repr

/-- How much space and comment a text begins with, behind so much before it; it may begin inside a
    comment. -/
def spaceLength (n : Nat) (inComment : Bool) : List Char → Nat
  | [] => n
  | c :: cs =>
    if inComment then spaceLength (n + 1) (c ≠ '\n') cs
    else if isBlank c then spaceLength (n + 1) false cs
    else if c = '#' then spaceLength (n + 1) true cs
    else n

/-- The first character behind space and at most the sign that begins a comment. -/
def afterSpace? (inComment : Bool) : List Char → Option Char
  | [] => none
  | c :: cs =>
    if isBlank c then afterSpace? inComment cs
    else if !inComment && c = '#' then afterSpace? true cs
    else some c

namespace Cursor

/-- The character behind the cursor. -/
def next? (c : Cursor) : Option Char := c.rest.head?

/-- Whether the cursor is at the end of the pattern. -/
def atEnd (c : Cursor) : Bool := c.rest.isEmpty

/-- The character behind the next one. -/
def second? (c : Cursor) : Option Char := c.rest.tail.head?

/-- The character behind the next one; free space between the two is looked over. -/
def secondSpaced? (c : Cursor) : Option Char :=
  if c.spaced then (afterSpace? false c.rest.tail).or c.second? else c.second?

/-- Whether the pattern goes on with a text. -/
def startsWith (c : Cursor) (text : String) : Bool := text.toList.isPrefixOf c.rest

/-- Moves on by so many characters, at most to the end. -/
def advance (c : Cursor) (n : Nat) : Cursor :=
  { c with rest := c.rest.drop n, index := c.index + (c.rest.take n).length }

/-- Moves over free space. -/
def skipSpace (c : Cursor) : Cursor :=
  if c.spaced then c.advance (spaceLength 0 false c.rest) else c

/-- Moves over a character and the free space behind it. -/
def step (c : Cursor) : Cursor := (c.advance 1).skipSpace

theorem length_rest_step_lt {c : Cursor} {x : Char} {xs : List Char} (h : c.rest = x :: xs) :
    c.step.rest.length < c.rest.length := by
  simp only [step, skipSpace, advance, h]
  split
  · simp only [List.drop_succ_cons, List.drop_zero, List.length_drop, List.length_cons]
    omega
  · simp

/-- The longest run of characters with a property, free space between them left out, and the
    cursor behind it. -/
def run (p : Char → Bool) (c : Cursor) : List Char × Cursor :=
  go [] c
where
  /-- The run behind characters that are given in reverse. -/
  go (done : List Char) (c : Cursor) : List Char × Cursor :=
    match _h : c.rest with
    | [] => (done.reverse, c)
    | x :: _ => if p x then go (x :: done) c.step else (done.reverse, c)
  termination_by c.rest.length
  decreasing_by exact length_rest_step_lt _h

/-- The place of the cursor, without length. -/
def here (c : Cursor) : Span := ⟨c.index, c.index⟩

/-- The place of the next character. -/
def nextSpan (c : Cursor) : Span := ⟨c.index, c.index + 1⟩

/-- Fails at the cursor. -/
def failHere {α : Type} (c : Cursor) (cause : Cause) : Except Fault α :=
  fail cause c.index c.index

/-- Fails at the next character. -/
def failNext {α : Type} (c : Cursor) (cause : Cause) : Except Fault α :=
  fail cause c.index (c.index + 1)

end Cursor

end Uncomment.Pattern
