/-!
# Texts without terminal controls

A text that is meant for a terminal may hold controls: single control characters, and sequences that
begin with the escape character and go on with visible ones. Where no terminal reads the text it is
given plain, without all of these. Tab, line feed, form feed and carriage return are layout, not
control; they stay, unless a string that a sequence carries has them inside.

A layout character inside an unfinished sequence shows that the sequence was none: from there on
the text is given as if it stood outside, up to the next control. The sequence is then taken up
again where it was left.

Results:
* `plain_eq_self`: a text without controls is plain as it is.
* `isVisible_of_mem_plain`: a plain text holds no control but layout.
-/

namespace Uncomment.Text.Terminal

/-! ## Characters -/

/-- Layout: tab, line feed, form feed, carriage return. -/
def isLayout (c : Char) : Bool := c = '\t' ∨ c = '\n' ∨ c = '\x0c' ∨ c = '\r'

/-- A character that is seen on a terminal outside of all sequences, and layout. -/
def isVisible (c : Char) : Bool := isLayout c ∨ 0x20 ≤ c.toNat ∧ c ≠ '\x7f'

/-- Whether the code point of a character lies between two others, these included. -/
def between (first last : Nat) (c : Char) : Bool := first ≤ c.toNat ∧ c.toNat ≤ last

/-! ## Sequences -/

/-- Where in a sequence a text stands. -/
inductive Place where
  /-- In none. -/
  | outside
  /-- Behind the escape character. -/
  | escape
  /-- Behind the escape character and one of the characters from U+0020 to U+002F. -/
  | escapeMiddle
  /-- In a control sequence, which begins with a bracket. -/
  | control
  /-- At the start of a device control string. -/
  | deviceStart
  /-- In the parameters of a device control string. -/
  | deviceParameters
  /-- In the part between the parameters and the kind of a device control string. -/
  | deviceMiddle
  /-- In a string that ends with U+009C: of a device, of the application, a message. -/
  | string
  /-- In a command to the operating system, which ends with the bell. -/
  | command
deriving DecidableEq, Repr

/-- Whether the byte 0x9C is part of a character's UTF-8 form; it ends a string even there. -/
def holdsTerminator (c : Char) : Bool := (String.utf8EncodeChar c).contains 0x9C

/-- The place behind a character. Three characters act everywhere: U+0018 and U+001A end what is
    begun, and the escape character begins anew. -/
def Place.next (p : Place) (c : Char) : Place :=
  if c = '\x18' ∨ c = '\x1a' then outside
  else if c = '\x1b' then escape
  else
    match p with
    | outside => outside
    | escape =>
      if c = '[' then control
      else if c = ']' then command
      else if c = 'P' then deviceStart
      else if c = 'X' ∨ c = '^' ∨ c = '_' then string
      else if between 0x20 0x2F c then escapeMiddle
      else if between 0x30 0x7E c then outside
      else escape
    | escapeMiddle => if between 0x30 0x7E c then outside else escapeMiddle
    | control => if between 0x40 0x7E c then outside else control
    | deviceStart =>
      if between 0x20 0x2F c then deviceMiddle
      else if between 0x30 0x3F c then deviceParameters
      else if between 0x40 0x7E c then string
      else deviceStart
    | deviceParameters =>
      if between 0x20 0x2F c then deviceMiddle
      else if between 0x3C 0x7E c then string
      else deviceParameters
    | deviceMiddle => if between 0x30 0x7E c then string else deviceMiddle
    | string => if holdsTerminator c then outside else string
    | command => if c = '\x07' then outside else command

/-- Whether a character that stands at a place is part of the plain text. -/
def Place.shows (p : Place) (c : Char) : Bool :=
  match p with
  | outside => isVisible c
  | escape | escapeMiddle | control => isLayout c
  | _ => false

/-! ## Plain texts -/

/-- What a reader keeps in mind: its place, and whether it gives characters as if it were outside
    of all sequences. -/
structure Reader where
  place : Place := .outside
  giving : Bool := false
deriving DecidableEq, Repr

/-- Reads a character; answers whether it is part of the plain text. A character that is not ASCII
    ends a sequence that was left. -/
def Reader.read (r : Reader) (c : Char) : Reader × Bool :=
  if r.giving then
    if isVisible c then (⟨if c.toNat < 0x80 then r.place else .outside, true⟩, true)
    else (⟨r.place.next c, false⟩, false)
  else (⟨r.place.next c, r.place.shows c⟩, r.place.shows c)

/-- The characters of the plain text. -/
def Reader.plain : Reader → List Char → List Char
  | _, [] => []
  | r, c :: cs =>
    match r.read c with
    | (r, true) => c :: r.plain cs
    | (r, false) => r.plain cs

/-- The text without terminal controls. -/
def plain (text : String) : String := String.ofList (Reader.plain {} text.toList)

/-! ## Laws -/

theorem isVisible_of_shows {p : Place} {c : Char} (h : p.shows c = true) : isVisible c = true := by
  cases p <;> simp_all [Place.shows, isVisible]

theorem isVisible_of_read {r : Reader} {c : Char} (h : (r.read c).2 = true) :
    isVisible c = true := by
  unfold Reader.read at h
  split at h
  · split at h <;> simp_all
  · exact isVisible_of_shows h

theorem next_outside {c : Char} (h : isVisible c = true) : Place.next .outside c = .outside := by
  have ne (d : Char) (hd : isVisible d = false) : c ≠ d := by
    rintro rfl; rw [h] at hd; cases hd
  simp [Place.next, ne '\x1b' (by decide)]

theorem Reader.mem_plain {r : Reader} {cs : List Char} {c : Char} (h : c ∈ r.plain cs) :
    isVisible c = true := by
  induction cs generalizing r with
  | nil => cases h
  | cons d cs ih =>
    rw [Reader.plain] at h
    cases hr : r.read d with
    | mk r' shown =>
      rw [hr] at h
      cases shown with
      | false => exact ih h
      | true =>
        rcases List.mem_cons.1 h with rfl | h
        · exact isVisible_of_read (congrArg Prod.snd hr)
        · exact ih h

theorem isVisible_of_mem_plain {text : String} {c : Char} (h : c ∈ (plain text).toList) :
    isVisible c = true := by
  rw [plain, String.toList_ofList] at h
  exact Reader.mem_plain h

theorem Reader.plain_eq_self (giving : Bool) {cs : List Char} (h : ∀ c ∈ cs, isVisible c = true) :
    Reader.plain ⟨.outside, giving⟩ cs = cs := by
  induction cs generalizing giving with
  | nil => rfl
  | cons c cs ih =>
    have hc := h c List.mem_cons_self
    have hcs := fun d hd => h d (List.mem_cons_of_mem c hd)
    have : Reader.read ⟨.outside, giving⟩ c = (⟨.outside, true⟩, true) := by
      cases giving <;> simp [Reader.read, Place.shows, hc, next_outside hc]
    rw [Reader.plain, this]
    simp only
    rw [ih true hcs]

theorem plain_eq_self {text : String} (h : ∀ c ∈ text.toList, isVisible c = true) :
    plain text = text := by
  rw [plain, Reader.plain_eq_self false h, String.ofList_toList]

end Uncomment.Text.Terminal
