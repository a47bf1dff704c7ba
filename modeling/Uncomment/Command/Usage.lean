import Uncomment.Text.Terminal

/-!
# Usage: what the command says about itself

The texts of help and version, and the complaints about arguments that the command does not accept.

Results:
* `UsageError.exists_message_eq`: a complaint that has a usage line shows it.
-/

namespace Uncomment.Command

open Text

/-! ## Names -/

/-- The paths that the command takes, in their order. -/
inductive Role where
  | input | output
deriving DecidableEq, Repr

/-- How a path is named in messages. -/
def Role.placeholder : Role → String
  | input => "<INPUT>"
  | output => "<OUTPUT>"

/-- The options that take no value. -/
inductive Flag where
  | keepCrlf | verbose
deriving DecidableEq, Repr

/-- How a flag is named in messages. -/
def Flag.long : Flag → String
  | keepCrlf => "--keep-crlf"
  | verbose => "--verbose"

/-- How the option that takes an encoding is named in messages. -/
def encodingOption : String := "--input-encoding <INPUT_ENCODING>"

/-! ## Complaints -/

/-- The usage line. Of the options it names those in use, or that there are some. -/
def usageLine (options : List String) : String :=
  "Usage: " ++ String.intercalate " " ("cstrip" :: options ++ ["<INPUT>", "<OUTPUT>"])

/-- What is wrong with a row of arguments. -/
inductive UsageError where
  /-- An option that does not exist. -/
  | unknownOption (option : String)
  /-- One path too many. -/
  | extraPath (text : String)
  /-- A value for an option that takes none. -/
  | unexpectedValue (value option : String)
  /-- An option without its value, or an empty path or value; by the name of what lacks it. -/
  | valueRequired (name : String)
  /-- An option given again. -/
  | repeated (option : String)
  /-- An encoding that does not exist. -/
  | invalidEncoding (value : String)
  /-- Fewer than two paths; with the options that were given, in their order. -/
  | missingPaths (options : List String) (missing : List Role)
deriving DecidableEq, Repr

namespace UsageError

/-- The first line. What it quotes is shown without terminal controls. -/
def complaint : UsageError → String
  | unknownOption text | extraPath text =>
    "error: unexpected argument '" ++ Terminal.plain text ++ "' found"
  | unexpectedValue value option =>
    "error: unexpected value '" ++ Terminal.plain value ++ "' for '" ++ option ++
      "' found; no more were expected"
  | valueRequired name => "error: a value is required for '" ++ name ++ "' but none was supplied"
  | repeated option =>
    "error: the argument '" ++ option ++ "' cannot be used multiple times"
  | invalidEncoding value =>
    "error: invalid value '" ++ Terminal.plain value ++ "' for '" ++ encodingOption ++ "'"
  | missingPaths _ _ => "error: the following required arguments were not provided:"

/-- What is listed below the first line, or a tip. -/
def details : UsageError → String
  | unknownOption option =>
    "\n\n  tip: to pass '" ++ Terminal.plain option ++ "' as a value, use '-- " ++
      Terminal.plain option ++ "'"
  | valueRequired name => if name = encodingOption then values else ""
  | invalidEncoding _ => values
  | missingPaths _ missing => String.join (missing.map ("\n  " ++ ·.placeholder))
  | extraPath _ | unexpectedValue _ _ | repeated _ => ""
where
  /-- The encodings that can be asked for. -/
  values : String := "\n  [possible values: latin1, utf8]"

/-- The usage line; a value that is absent or wrong is complained about without it. -/
def usageLine? : UsageError → Option String
  | valueRequired _ | invalidEncoding _ => none
  | missingPaths options _ => some (usageLine options)
  | unknownOption _ | extraPath _ | unexpectedValue _ _ | repeated _ =>
    some (usageLine ["[OPTIONS]"])

/-- The whole complaint. Left out are tips at options and values of a similar name, and that the
    usage line can name the options in use where one is unknown or has a value it does not take. -/
def message (e : UsageError) : String :=
  e.complaint ++ e.details ++ (e.usageLine?.elim "" ("\n\n" ++ ·)) ++
    "\n\nFor more information, try '--help'.\n"

theorem exists_message_eq {e : UsageError} {line : String} (h : e.usageLine? = some line) :
    ∃ before behind, e.message = before ++ line ++ behind := by
  refine ⟨e.complaint ++ e.details ++ "\n\n", "\n\nFor more information, try '--help'.\n", ?_⟩
  simp only [message, h, Option.elim_some, String.append_assoc]

end UsageError

/-! ## Help and version -/

/-- Name and version. -/
def version : String := "cstrip 0.1.0\n"

/-- Joins lines, each with its line end. -/
def lines (ls : List String) : String := String.join (ls.map (· ++ "\n"))

/-- What the first lines of both help texts say. -/
def about : List String :=
  ["Remove /* ... */ comments from a C source file, keeping string and char literals intact",
   "",
   usageLine ["[OPTIONS]"],
   "",
   "Arguments:"]

/-- The summary of arguments and options. -/
def shortHelp : String :=
  lines <| about ++
    ["  <INPUT>   Source file to read",
     "  <OUTPUT>  File to write the stripped UTF-8 text to (overwritten)",
     "",
     "Options:",
     "      --input-encoding <INPUT_ENCODING>",
     "          Encoding of the input file. `latin1` accepts any byte sequence " ++
       "[default: latin1] [possible values: latin1, utf8]",
     "      --keep-crlf",
     "          Keep CR+LF line endings instead of converting them to LF",
     "  -v, --verbose",
     "          Print a one-line summary to stderr",
     "  -h, --help",
     "          Print help (see more with '--help')",
     "  -V, --version",
     "          Print version"]

/-- The full description of arguments and options. -/
def longHelp : String :=
  lines <| about ++
    ["  <INPUT>",
     "          Source file to read",
     "",
     "  <OUTPUT>",
     "          File to write the stripped UTF-8 text to (overwritten)",
     "",
     "Options:",
     "      --input-encoding <INPUT_ENCODING>",
     "          Encoding of the input file. `latin1` accepts any byte sequence",
     "",
     "          Possible values:",
     "          - latin1: ISO-8859-1: every byte is one character",
     "          - utf8:   Strict UTF-8; invalid input is an error",
     "          ",
     "          [default: latin1]",
     "",
     "      --keep-crlf",
     "          Keep CR+LF line endings instead of converting them to LF",
     "",
     "  -v, --verbose",
     "          Print a one-line summary to stderr",
     "",
     "  -h, --help",
     "          Print help (see a summary with '-h')",
     "",
     "  -V, --version",
     "          Print version"]

end Uncomment.Command
