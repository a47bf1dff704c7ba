import Uncomment.Pattern.Cursor

/-!
# Numbers and escapes

The small parts of a pattern: decimal and hexadecimal numbers, what stands behind a backslash, and
how often a part is repeated.
-/

namespace Uncomment.Pattern

open Text

/-! ## Characters -/

/-- A decimal digit. -/
def isDecimal (c : Char) : Bool := '0' ≤ c ∧ c ≤ '9'

/-- The value of a hexadecimal digit. -/
def hexValue? (c : Char) : Option Nat :=
  if isDecimal c then some (c.toNat - '0'.toNat)
  else if 'a' ≤ c ∧ c ≤ 'f' then some (c.toNat - 'a'.toNat + 10)
  else if 'A' ≤ c ∧ c ≤ 'F' then some (c.toNat - 'A'.toNat + 10)
  else none

/-- The number that digits in a base stand for. -/
def numeral (base : Nat) (digits : List Nat) : Nat := digits.foldl (fun n d => base * n + d) 0

/-- A character with a meaning of its own somewhere in a pattern. -/
def isMeta (c : Char) : Bool := "\\.+*?()|[]\x7b\x7d^$#&-~".toList.contains c

/-- A character that a backslash makes stand for itself: ASCII, but no letter, digit or angle
    bracket. -/
def isEscapable (c : Char) : Bool := c.toNat < 0x80 && !c.isAlphanum && c ≠ '<' && c ≠ '>'

/-! ## Numbers -/

/-- Reads a decimal number of 32 bits, with any space around it. The cursor moves on in any case. -/
def readDecimal (c : Cursor) : Except Fault Nat × Cursor :=
  let c := c.advance (c.rest.takeWhile isBlank).length
  let start := c.index
  let (digits, c) := c.run isDecimal
  let stop := c.index
  let value := numeral 10 (digits.filterMap hexValue?)
  let result :=
    if digits.isEmpty then fail .repetitionCountEmpty start stop
    else if value < UInt32.size then .ok value
    else fail .decimalInvalid start stop
  (result, (c.run isBlank).2)

/-- The character with a code point that is written in hexadecimal. -/
def charOfHex? (digits : List Char) : Option Char :=
  let n := numeral 16 (digits.filterMap hexValue?)
  if n.isValidChar then some (Char.ofNat n) else none

/-- Reads so many hexadecimal digits. -/
def readHexDigits : Nat → Cursor → Except Fault (List Char × Cursor)
  | 0, c => .ok ([], c)
  | n + 1, c =>
    match c.next? with
    | none => c.failHere .escapeUnexpectedEnd
    | some d =>
      if (hexValue? d).isSome then do
        let (digits, c) ← readHexDigits n c.step
        pure (d :: digits, c)
      else c.failNext .hexInvalidDigit

/-- Reads a character by its code point, from the letter behind the backslash at `start` on: two,
    four or eight digits by that letter, or any number of them in braces. -/
def readHex (start : Nat) (c : Cursor) : Except Fault (Literal × Cursor) := do
  let width := match c.next? with
    | some 'x' => 2
    | some 'u' => 4
    | _ => 8
  let c := c.step
  if c.atEnd then c.failHere .escapeUnexpectedEnd
  else if c.next? = some '\x7b' then
    let brace := c.index
    let (digits, c) := c.step.run fun d => (hexValue? d).isSome
    if c.atEnd then fail .escapeUnexpectedEnd brace c.index
    else if c.next? ≠ some '\x7d' then c.failNext .hexInvalidDigit
    else
      let stop := c.index
      let c := c.step
      if digits.isEmpty then fail .hexEmpty brace c.index
      else
        match charOfHex? digits with
        | none => fail .hexInvalid (brace + 1) stop
        | some x => pure ({ char := x, span := ⟨start, c.index⟩ }, c)
  else
    let first := c.index
    let (digits, c) ← readHexDigits width c
    match charOfHex? digits with
    | none => fail .hexInvalid first c.index
    | some x => pure ({ char := x, span := ⟨start, c.index⟩, byte := width = 2 }, c)

/-! ## Classes by a letter -/

/-- Reads the name of a property, from the letter behind the backslash at `start` on: one letter,
    or a name in braces. -/
def readProperty (start : Nat) (c : Cursor) : Except Fault (Tree × Cursor) :=
  let negated : Bool := c.next? = some 'P'
  let c := c.step
  match c.next? with
  | none => c.failHere .escapeUnexpectedEnd
  | some '\x7b' =>
    let (name, c) := c.step.run (· ≠ '\x7d')
    if c.atEnd then c.failHere .escapeUnexpectedEnd
    else
      let c := c.advance 1
      .ok (.property (String.ofList name) negated ⟨start, c.index⟩, c)
  | some '\\' => c.failNext .propertyInvalid
  | some letter =>
    let c := c.step
    .ok (.property (String.ofList [letter]) negated ⟨start, c.index⟩, c)

/-- The class that a letter stands for, and whether it stands for all but this class. -/
def Shorthand.ofChar? : Char → Option (Shorthand × Bool)
  | 'd' => some (digit, false)
  | 's' => some (space, false)
  | 'w' => some (word, false)
  | 'D' => some (digit, true)
  | 'S' => some (space, true)
  | 'W' => some (word, true)
  | _ => none

/-! ## Word boundaries -/

/-- The assertion with a name in braces behind `\b`. -/
def Assertion.ofName? : String → Option Assertion
  | "start" => some wordStart
  | "end" => some wordEnd
  | "start-half" => some wordStartHalf
  | "end-half" => some wordEndHalf
  | _ => none

/-- Reads what is behind `\b`, which begins at `start`. A brace that no name follows belongs to a
    repetition. -/
def readWordBoundary (start : Nat) (c : Cursor) : Except Fault (Tree × Cursor) :=
  let plain := (Tree.assertion .wordBoundary ⟨start, c.index⟩, c)
  if c.next? ≠ some '\x7b' then .ok plain
  else
    let brace := c.index
    let inside := c.step
    let isNameChar (d : Char) : Bool := d.isAlpha || d = '-'
    match inside.next? with
    | none => fail .wordBoundaryUnexpectedEnd start inside.index
    | some d =>
      if !isNameChar d then .ok plain
      else
        let (name, c) := inside.run isNameChar
        if c.next? ≠ some '\x7d' then fail .wordBoundaryUnclosed brace c.index
        else
          match Assertion.ofName? (String.ofList name) with
          | none => fail .wordBoundaryUnrecognized inside.index c.index
          | some kind =>
            let c := c.advance 1
            .ok (.assertion kind ⟨start, c.index⟩, c)

/-! ## Escapes -/

/-- The character that a letter behind a backslash stands for. -/
def controlOfChar? : Char → Option Char
  | 'a' => some '\x07'
  | 'f' => some '\x0c'
  | 't' => some '\t'
  | 'n' => some '\n'
  | 'r' => some '\r'
  | 'v' => some '\x0b'
  | _ => none

/-- Reads what begins with a backslash. -/
def readEscape (c : Cursor) : Except Fault (Tree × Cursor) :=
  let start := c.index
  let c := c.advance 1
  match c.next? with
  | none => fail .escapeUnexpectedEnd start c.index
  | some letter =>
    let behind := c.advance 1
    let span : Span := ⟨start, behind.index⟩
    if isDecimal letter then fail .backreference start behind.index
    else if letter = 'x' ∨ letter = 'u' ∨ letter = 'U' then
      (readHex start c).map fun (l, c) => (.literal l, c)
    else if letter = 'p' ∨ letter = 'P' then readProperty start c
    else if isEscapable letter then .ok (.literal { char := letter, span }, behind)
    else
      match Shorthand.ofChar? letter, controlOfChar? letter, letter with
      | some (kind, negated), _, _ => .ok (.shorthand kind negated span, behind)
      | _, some x, _ => .ok (.literal { char := x, span }, behind)
      | _, _, 'A' => .ok (.assertion .startText span, behind)
      | _, _, 'z' => .ok (.assertion .endText span, behind)
      | _, _, 'b' => readWordBoundary start behind
      | _, _, 'B' => .ok (.assertion .notWordBoundary span, behind)
      | _, _, '<' => .ok (.assertion .wordStart span, behind)
      | _, _, '>' => .ok (.assertion .wordEnd span, behind)
      | _, _, _ => fail .escapeUnrecognized start behind.index

/-! ## Repetitions -/

/-- How often a part is repeated: at least and at most so many times, without a second number any
    number of times; and whether many are preferred. -/
structure Count where
  least : Nat
  most : Option Nat
  greedy : Bool := true
deriving DecidableEq, Repr

/-- Reads the question mark behind a count, if there is one, which makes a repetition prefer few. -/
def Count.readGreed (n : Count) (c : Cursor) : Count × Cursor :=
  if c.next? = some '?' then ({ n with greedy := false }, c.advance 1) else (n, c)

/-- The count that a sign of repetition stands for. -/
def Count.ofChar? : Char → Option Count
  | '?' => some ⟨0, some 1, true⟩
  | '*' => some ⟨0, none, true⟩
  | '+' => some ⟨1, none, true⟩
  | _ => none

/-- Reads how often a part is repeated, from the opening brace on: a number, a least one, or two. -/
def readCount (c : Cursor) : Except Fault (Count × Cursor) := do
  let start := c.index
  let unclosed (c : Cursor) : Except Fault (Count × Cursor) :=
    fail .repetitionCountUnclosed start c.index
  let finish (least : Nat) (most : Option Nat) (c : Cursor) : Except Fault (Count × Cursor) :=
    if c.next? ≠ some '\x7d' then unclosed c
    else
      let (count, c) := Count.readGreed ⟨least, most, true⟩ c.step
      if most.any (· < least) then fail .repetitionCountInvalid start c.index else .ok (count, c)
  let c := c.step
  if c.atEnd then unclosed c
  else
    let (least, c) := readDecimal c
    if c.atEnd then unclosed c
    else if c.next? = some ',' then
      let c := c.step
      if c.atEnd then unclosed c
      else if c.next? = some '\x7d' then finish (← least) none c
      else
        let least ← least
        let (most, c) := readDecimal c
        finish least (some (← most)) c
    else
      let least ← least
      finish least (some least) c

end Uncomment.Pattern
