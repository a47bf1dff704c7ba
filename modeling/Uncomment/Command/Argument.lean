import Uncomment.Command.Usage

/-!
# Arguments

The words of a command line fall into items: paths, options with or without a value, and words that
name no option. An item does not depend on the items before it, except that an option that takes a
value may have it in the next word and that `--` turns all words behind it into paths.

Results:
* `Item.ofWords_map_path`: a path that does not look like an option is a path.
-/

namespace Uncomment.Command

/-- What one word, or an option and the word that is its value, means. -/
inductive Item where
  | path (text : String)
  /-- The option for the encoding. Its value is `attached` by an equals sign, or else is the next
      word, unless that is an option or there is none. -/
  | encoding (attached : Bool) (value : Option String)
  /-- A flag, and the value that was given to it although it takes none. -/
  | flag (flag : Flag) (value : Option String)
  | shortHelp
  | longHelp (value : Option String)
  | version (value : Option String)
  /-- An option that does not exist. -/
  | unknown (option : String)
deriving DecidableEq, Repr

namespace Item

/-- Whether a word is a path or a value by its form: it does not begin with a dash, or is a single
    dash. -/
def isPlain (word : String) : Bool := word.toList.head? != some '-' || word = "-"

/-- An option of one letter. -/
def ofLetter : Char → Item
  | 'v' => flag .verbose none
  | 'h' => shortHelp
  | 'V' => version none
  | c => unknown (String.ofList ['-', c])

/-- A long option by its name, and the value attached to it; the option for the encoding is not
    among them if it comes without a value. -/
def ofName (name : String) (value : Option String) : Item :=
  if name = "input-encoding" then encoding true value
  else if name = "keep-crlf" then flag .keepCrlf value
  else if name = "verbose" then flag .verbose value
  else if name = "help" then longHelp value
  else if name = "version" then version value
  else unknown ("--" ++ name)

/-- The name and the attached value of a long option, given without its dashes. -/
def splitValue (word : List Char) : String × Option String :=
  let value := word.dropWhile (· ≠ '=')
  (String.ofList (word.takeWhile (· ≠ '=')), value.head?.map fun _ => String.ofList value.tail)

/-- The items of a word that begins with a dash and has no value in the next word: one long option,
    or any number of options of one letter. -/
def ofOption (word : String) : List Item :=
  match word.toList with
  | '-' :: '-' :: long => [ofName (splitValue long).1 (splitValue long).2]
  | letters => letters.tail.map ofLetter

/-- The value at the front of a row of words, if there is one, and the words that are left. -/
def takeValue : List String → Option String × List String
  | [] => (none, [])
  | word :: rest => if isPlain word then (some word, rest) else (none, word :: rest)

theorem length_takeValue_le (words : List String) :
    (takeValue words).2.length ≤ words.length := by
  cases words with
  | nil => simp [takeValue]
  | cons word rest => rw [takeValue]; split <;> simp

/-- The items of a row of words. -/
def ofWords : List String → List Item
  | [] => []
  | word :: rest =>
    if isPlain word then path word :: ofWords rest
    else if word = "--" then rest.map path
    else if word = "--input-encoding" then
      have := length_takeValue_le rest
      encoding false (takeValue rest).1 :: ofWords (takeValue rest).2
    else ofOption word ++ ofWords rest
termination_by words => words.length
decreasing_by all_goals simp; try omega

theorem ofWords_map_path {words : List String} (h : ∀ w ∈ words, isPlain w) :
    ofWords words = words.map path := by
  induction words with
  | nil => rw [ofWords, List.map_nil]
  | cons w words ih =>
    rw [ofWords, if_pos (h w (by simp)), ih fun v hv => h v (by simp [hv]), List.map_cons]

end Item

end Uncomment.Command
