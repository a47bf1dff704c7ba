import Uncomment.File.Access
import Uncomment.Log.Record
import Uncomment.TextEncoding

/-!
# Text files

A text file is read in a given encoding and always written as UTF-8, byte for byte and without any
change to line endings. Both work over any file access: a directory tree, or the files of the
system.

Results:
* `TextFile.run_read`: on stored files, reading is decoding what the path reads as.
* `TextFile.run_write`: on stored files, writing is one write of the UTF-8 form of the text.
-/

namespace Uncomment

open Text

namespace TextFile

/-! ## Errors -/

/-- Why a text file cannot be read or written, and which one. -/
inductive Error where
  | read (path : String) (cause : OsError)
  | write (path : String) (cause : OsError)
  /-- The file was read, but its bytes are no text in the encoding asked for. -/
  | decode (path : String) (cause : TextEncoding.DecodeError)
deriving DecidableEq, Repr

namespace Error

/-- The path of the file, as it was given. -/
def path : Error → String
  | read path _ => path
  | write path _ => path
  | decode path _ => path

/-- What could not be done. -/
def message : Error → String
  | read path _ => "failed to read " ++ path
  | write path _ => "failed to write " ++ path
  | decode path _ => "failed to decode " ++ path

/-- What is said about the cause. -/
def cause : Error → String
  | read _ cause => cause.message
  | write _ cause => cause.message
  | decode _ cause => cause.message

end Error

/-! ## Reading and writing -/

/-- The log record of a file that was read. -/
def readRecord (path : String) (encoding : TextEncoding) (content : Bytes) : Log.Record :=
  { source := .textFile
    level := .debug
    message := s!"read {content.length} bytes from " ++ path ++ " as " ++ encoding.label }

/-- The log record of a file that was written. -/
def wroteRecord (path : String) (text : String) : Log.Record :=
  { source := .textFile
    level := .debug
    message := s!"wrote {text.utf8ByteSize} bytes to " ++ path }

variable {m : Type → Type} [Monad m]

/-- Reads and decodes a file. It is logged as soon as it is read, whether or not it can be
    decoded. -/
def read (files : FileAccess m) (path : String) (encoding : TextEncoding) :
    m (List Log.Record × Except Error String) := do
  match ← files.read path with
  | .error cause => pure ([], .error (.read path cause))
  | .ok content =>
    let result := match encoding.decode content with
      | .ok d => .ok d.text
      | .error cause => .error (.decode path cause)
    pure ([readRecord path encoding content], result)

/-- Writes a text as UTF-8, replacing the file if there is one. -/
def write (files : FileAccess m) (path : String) (text : String) :
    m (List Log.Record × Except Error Unit) := do
  match ← files.write path (bytes text) with
  | .error cause => pure ([], .error (.write path cause))
  | .ok () => pure ([wroteRecord path text], .ok ())

/-! ## On stored files -/

section

variable {σ : Type} [FileStore σ]

theorem run_read (s : σ) (path : String) (encoding : TextEncoding) :
    (read FileStore.access path encoding).run s =
      (match FileStore.content s path with
        | .error cause => ([], .error (.read path cause))
        | .ok content =>
          ([readRecord path encoding content],
            match encoding.decode content with
            | .ok d => .ok d.text
            | .error cause => .error (.decode path cause)),
        s) := by
  rw [read, StateT.run_bind, FileStore.run_read]
  cases FileStore.content s path <;> rfl

theorem run_write (s : σ) (path text : String) :
    (write FileStore.access path text).run s =
      match (FileStore.access.write path (bytes text)).run s with
      | (.error cause, s') => (([], .error (.write path cause)), s')
      | (.ok (), s') => (([wroteRecord path text], .ok ()), s') := by
  rw [write, StateT.run_bind]
  cases (FileStore.access.write path (bytes text)).run s with
  | mk result s' => cases result <;> rfl

end

end TextFile

end Uncomment
