import Uncomment.Text.Blank
import Uncomment.Text.Derived
import Uncomment.Text.Utf8

/-!
# Text encodings

Stored bytes are read as Latin-1, where every byte is one character, or as strict UTF-8, where bytes
that are no encoding of a text are refused with the place of the first fault. Nothing is done about
byte order marks: U+FEFF at the front is a character like any other.

Results:
* `decode_utf8_bytes`: reading the UTF-8 form of a text gives the text.
* `bytes_of_decode_utf8`: what is read as UTF-8 has exactly the given bytes as its UTF-8 form.
* `decode_latin1_append`: Latin-1 is read byte by byte.
-/

namespace Uncomment

open Text

/-- How stored bytes spell a text. -/
inductive TextEncoding where
  /-- ISO-8859-1: byte `b` is the character U+00`b`. -/
  | latin1
  /-- Strict UTF-8. -/
  | utf8
deriving DecidableEq, Repr

namespace TextEncoding

/-- The encoding that is used where none is named. -/
def standard : TextEncoding := latin1

/-! ## Labels -/

/-- The label that is written for an encoding. -/
def label : TextEncoding → String
  | latin1 => "latin1"
  | utf8 => "utf8"

theorem label_injective {a b : TextEncoding} (h : a.label = b.label) : a = b := by
  revert h
  cases a <;> cases b <;> decide

/-- A label that names no encoding. -/
structure UnknownLabel where
  label : String
deriving DecidableEq, Repr

/-- What is said about a label that names no encoding. -/
def UnknownLabel.message (e : UnknownLabel) : String :=
  "unknown encoding: " ++ e.label ++ " (expected latin1 or utf8)"

/-- All labels that are read, in lower case. -/
def labels : List (String × TextEncoding) :=
  [("latin1", latin1), ("latin-1", latin1), ("iso-8859-1", latin1), ("iso8859-1", latin1),
   ("l1", latin1), ("utf8", utf8), ("utf-8", utf8)]

/-- The encoding that a label names; white space around it and the case of ASCII letters do not
    matter. -/
def ofLabel (label : String) : Except UnknownLabel TextEncoding :=
  match labels.lookup (trimBlank label).toLower with
  | some encoding => .ok encoding
  | none => .error ⟨label⟩

/-! ## Decoding -/

/-- Why bytes are not a text. -/
inductive DecodeError where
  /-- The bytes are not UTF-8; their longest part from the front that is has length
      `validUpTo`. -/
  | invalidUtf8 (validUpTo : Nat)
deriving DecidableEq, Repr

/-- What is said about bytes that are not a text. -/
def DecodeError.message : DecodeError → String
  | invalidUtf8 validUpTo => s!"invalid UTF-8 after byte {validUpTo}"

/-- Byte `b` as the character U+00`b`. -/
def latin1Char (b : UInt8) : Char := Char.ofNat b.toNat

/-- The text that the bytes spell. It is unchanged if its UTF-8 form is known to be the bytes
    themselves: always for UTF-8, for Latin-1 if all bytes are ASCII. -/
def decode : TextEncoding → Bytes → Except DecodeError Derived
  | latin1, bs => .ok ⟨String.ofList (bs.map latin1Char), bs.all (· < 0x80)⟩
  | utf8, bs =>
    match Utf8.split bs with
    | (cs, []) => .ok ⟨String.ofList cs, true⟩
    | (_, left@(_ :: _)) => .error (.invalidUtf8 (bs.length - left.length))

theorem decode_utf8_bytes (text : String) : decode utf8 (bytes text) = .ok ⟨text, true⟩ := by
  rw [bytes_eq]
  simp only [decode, Utf8.split_charsBytes, String.ofList_toList]

theorem bytes_of_decode_utf8 {bs : Bytes} {d : Derived} (h : decode utf8 bs = .ok d) :
    bytes d.text = bs ∧ d.unchanged = true := by
  have hs := Utf8.split_eq bs
  simp only [decode] at h
  split at h
  next cs heq =>
    obtain rfl := Except.ok.inj h
    rw [heq] at hs
    exact ⟨by simpa [bytes_ofList] using hs, rfl⟩
  next => cases h

theorem decode_latin1_append (a b : Bytes) :
    ∃ da db, decode latin1 a = .ok da ∧ decode latin1 b = .ok db ∧
      decode latin1 (a ++ b) = .ok ⟨da.text ++ db.text, da.unchanged && db.unchanged⟩ :=
  ⟨_, _, rfl, rfl, by simp [decode, String.ofList_append]⟩

end TextEncoding

end Uncomment
