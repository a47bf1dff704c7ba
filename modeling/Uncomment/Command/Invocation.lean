import Uncomment.Command.Argument
import Uncomment.TextEncoding

/-!
# Invocations

The items of a command line are taken from left to right, and the first fault ends the reading. The
values of paths, and those of the option for the encoding where they stand in a word of their own,
are examined only when the next item is taken; so a next item that is refused on sight (an option
that does not exist, a value for an option that takes none, a third path) is complained about
first. Help and version answer as soon as they are reached. That too few paths were given is seen at
the end.

Results:
* `Draft.takeAll_append`: a longer row of items is read by going on where the shorter one ended.
* `parse_paths`: two paths by themselves are accepted, with all options as they are by default.
* `exists_parse_eq_error`: any other number of paths is answered by a complaint with a usage line.
-/

namespace Uncomment.Command

/-! ## What is read -/

/-- A command line that the command accepts. -/
structure Invocation where
  input : String
  output : String
  encoding : TextEncoding
  keepCrlf : Bool
  verbose : Bool
deriving DecidableEq, Repr

/-- Why a command line leads to no conversion. -/
inductive Halt where
  | shortHelp
  | longHelp
  | version
  | usage (error : UsageError)
deriving DecidableEq, Repr

/-- What is known of a command line after some of its items. -/
structure Draft where
  /-- The paths so far, in their order. -/
  paths : List String := []
  /-- The encoding, if one was given. -/
  encoding : Option TextEncoding := none
  keepCrlf : Bool := false
  verbose : Bool := false
  /-- The options so far, in their order, as messages name them. -/
  options : List String := []
  /-- The fault of the last value, if it has one and has not been examined yet. -/
  due : Option UsageError := none
deriving DecidableEq, Repr

namespace Draft

/-! ## One item -/

/-- What the command line calls the encodings; only these spellings count. -/
def encodingOfValue? (value : String) : Option TextEncoding :=
  [TextEncoding.latin1, .utf8].find? (·.label = value)

/-- The complaint about an item that is refused on sight when `paths` paths were read before. -/
def refusal? (paths : Nat) : Item → Option UsageError
  | .path text => if 2 ≤ paths then some (.extraPath text) else none
  | .flag flag (some value) => some (.unexpectedValue value flag.long)
  | .longHelp (some value) => some (.unexpectedValue value "--help")
  | .version (some value) => some (.unexpectedValue value "--version")
  | .unknown option => some (.unknownOption option)
  | _ => none

/-- The encoding that a value asks for, or what is wrong with it. -/
def readEncoding (d : Draft) : Option String → Except UsageError TextEncoding
  | none => .error (.valueRequired encodingOption)
  | some value =>
    if d.encoding.isSome then .error (.repeated encodingOption)
    else if value = "" then .error (.valueRequired encodingOption)
    else
      match encodingOfValue? value with
      | some encoding => .ok encoding
      | none => .error (.invalidEncoding value)

/-- Takes a path; that it is empty is a fault to be complained about later. -/
def takePath (d : Draft) (text : String) : Draft :=
  let role := if d.paths.isEmpty then Role.input else .output
  { d with
    paths := d.paths ++ [text]
    due := if text = "" then some (.valueRequired role.placeholder) else none }

/-- Takes the option for the encoding. -/
def takeEncoding (d : Draft) (attached : Bool) (value : Option String) : Except Halt Draft :=
  match d.readEncoding value with
  | .ok encoding =>
    .ok { d with encoding := some encoding, options := d.options ++ [encodingOption] }
  | .error e => if attached then .error (.usage e) else .ok { d with due := some e }

/-- Takes a flag. -/
def takeFlag (d : Draft) : Flag → Except Halt Draft
  | .keepCrlf =>
    if d.keepCrlf then .error (.usage (.repeated Flag.keepCrlf.long))
    else .ok { d with keepCrlf := true, options := d.options ++ [Flag.keepCrlf.long] }
  | .verbose =>
    if d.verbose then .error (.usage (.repeated Flag.verbose.long))
    else .ok { d with verbose := true, options := d.options ++ [Flag.verbose.long] }

/-- Takes one item. -/
def take (d : Draft) (item : Item) : Except Halt Draft :=
  match refusal? d.paths.length item, d.due with
  | some e, _ => .error (.usage e)
  | none, some e => .error (.usage e)
  | none, none =>
    match item with
    | .path text => .ok (d.takePath text)
    | .encoding attached value => d.takeEncoding attached value
    | .flag flag _ => d.takeFlag flag
    | .shortHelp => .error .shortHelp
    | .longHelp _ => .error .longHelp
    | .version _ => .error .version
    | .unknown option => .error (.usage (.unknownOption option))

/-! ## All items -/

/-- Takes items from left to right, up to the first that ends the reading. -/
def takeAll (d : Draft) : List Item → Except Halt Draft
  | [] => .ok d
  | item :: items =>
    match d.take item with
    | .ok d => d.takeAll items
    | .error halt => .error halt

/-- The invocation that a complete draft stands for. -/
def finish (d : Draft) : Except Halt Invocation :=
  match d.due, d.paths with
  | some e, _ => .error (.usage e)
  | none, [input, output] =>
    .ok
      { input, output
        encoding := d.encoding.getD .standard
        keepCrlf := d.keepCrlf
        verbose := d.verbose }
  | none, paths => .error (.usage (.missingPaths d.options ([.input, .output].drop paths.length)))

theorem takeAll_append (d : Draft) (a b : List Item) :
    d.takeAll (a ++ b) = d.takeAll a >>= fun d => d.takeAll b := by
  induction a generalizing d with
  | nil => rfl
  | cons item a ih =>
    simp only [List.cons_append, takeAll]
    cases d.take item with
    | error => rfl
    | ok d => exact ih d

end Draft

/-- Reads a command line. -/
def parse (words : List String) : Except Halt Invocation :=
  ({} : Draft).takeAll (Item.ofWords words) >>= Draft.finish

theorem parse_paths {input output : String} (hi : Item.isPlain input) (ho : Item.isPlain output)
    (ni : input ≠ "") (no : output ≠ "") :
    parse [input, output] = .ok ⟨input, output, .standard, false, false⟩ := by
  have : Item.ofWords [input, output] = [.path input, .path output] :=
    Item.ofWords_map_path (by simp [hi, ho])
  simp [parse, this, Draft.takeAll, Draft.take, Draft.refusal?, Draft.takePath, ni, no,
    Draft.finish, bind, Except.bind]

theorem exists_parse_eq_error {paths : List String} (hplain : ∀ text ∈ paths, Item.isPlain text)
    (hempty : "" ∉ paths) (hcount : paths.length ≠ 2) :
    ∃ e options, parse paths = .error (.usage e) ∧ e.usageLine? = some (usageLine options) := by
  rw [parse, Item.ofWords_map_path hplain]
  match paths with
  | [] => exact ⟨.missingPaths [] [.input, .output], [], rfl, rfl⟩
  | [input] =>
    have hinput : input ≠ "" := by simpa [eq_comm] using hempty
    refine ⟨.missingPaths [] [.output], [], ?_, rfl⟩
    simp [Draft.takeAll, Draft.take, Draft.refusal?, Draft.takePath, hinput, Draft.finish, bind,
      Except.bind]
  | [_, _] => exact absurd rfl hcount
  | input :: output :: extra :: rest =>
    have hinput : input ≠ "" := by
      rintro rfl
      exact hempty List.mem_cons_self
    -- the third path is refused on sight, before the value of the second is examined
    refine ⟨.extraPath extra, ["[OPTIONS]"], ?_, rfl⟩
    simp [Draft.takeAll, Draft.take, Draft.refusal?, Draft.takePath, hinput, bind, Except.bind]

end Uncomment.Command
