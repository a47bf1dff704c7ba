/-!
# Refusals of the file system

Why the file system refuses to open a file, and how it says so: the text of the error with its
number in parentheses.
-/

namespace Uncomment

/-- Why a file cannot be read or written. -/
inductive OsError where
  /-- A name on the way does not exist. -/
  | notFound
  /-- A name on the way is that of a file. -/
  | notDirectory
  /-- The path leads to a directory. -/
  | isDirectory
  /-- A name on the way, or the whole path, is too long. -/
  | nameTooLong
  /-- The path contains the character U+0000, which no file name can. -/
  | nulInPath
  /-- Any other refusal, with its text. -/
  | other (text : String)
deriving DecidableEq, Repr

/-- What is said about a refusal. -/
def OsError.message : OsError → String
  | notFound => "No such file or directory (os error 2)"
  | notDirectory => "Not a directory (os error 20)"
  | isDirectory => "Is a directory (os error 21)"
  | nameTooLong => "File name too long (os error 36)"
  | nulInPath => "file name contained an unexpected NUL byte"
  | other text => text

end Uncomment
