import Uncomment.File.OsError
import Uncomment.Text.Bytes

/-!
# Directory trees

A tree of directories and files, with the paths that lead through it. A path is a row of names
between slashes, taken from the root if it starts with a slash and from the working directory
otherwise; empty names count for nothing, `.` stays where it is and `..` goes one level up, at the
root to the root itself.

Results:
* `FileTree.find?_set`: setting a node changes what is found there and nowhere else.
* `FileTree.read_eq_ok_iff`: a path reads as a file's bytes exactly if it leads to that file.
* `FileTree.write_eq_ok_iff`: a write that succeeds puts one file where the path leads.
-/

namespace Uncomment

/-! ## Locations and nodes -/

/-- A place in the tree: the names from the place up to the root, the innermost first. -/
abbrev Location := List String

/-- What is at a place. -/
inductive Node where
  | file (content : Bytes)
  | directory
deriving DecidableEq, Repr

/-- The tree below the root, and the directory that relative paths start from. -/
structure FileTree where
  nodes : List (Location × Node)
  workingDirectory : Location
deriving DecidableEq, Repr

namespace FileTree

/-- What is at a place; the root is a directory. -/
def find? (t : FileTree) (place : Location) : Option Node :=
  if place = [] then some .directory else t.nodes.lookup place

/-- Puts a node at a place, instead of what was there. -/
def set (t : FileTree) (place : Location) (node : Node) : FileTree :=
  { t with nodes := (place, node) :: t.nodes.filter (·.1 ≠ place) }

theorem find?_set (t : FileTree) {place : Location} (node : Node) (h : place ≠ [])
    (other : Location) :
    (t.set place node).find? other = if other = place then some node else t.find? other := by
  have lookup_filter (nodes : List (Location × Node)) (ne : other ≠ place) :
      (nodes.filter (·.1 ≠ place)).lookup other = nodes.lookup other := by
    induction nodes with
    | nil => rfl
    | cons n nodes ih =>
      by_cases hn : n.1 = place
      · simp only [List.filter_cons, hn, ne_eq, not_true_eq_false, decide_false,
          Bool.false_eq_true, if_false, ih]
        rw [List.lookup_cons, hn, beq_false_of_ne ne]
      · simp only [List.filter_cons, ne_eq, hn, not_false_eq_true, decide_true, if_true]
        rw [List.lookup_cons, List.lookup_cons, ih]
  by_cases he : other = place
  · subst he
    simp [find?, set, h]
  · unfold find? set
    by_cases hr : other = []
    · simp [hr, Ne.symm h]
    · simp only [hr, he, if_false, List.lookup_cons, beq_false_of_ne he]
      exact lookup_filter _ he

/-! ## Paths -/

/-- The longest path, in bytes. -/
def maxPath : Nat := 4095

/-- The longest name, in bytes. -/
def maxName : Nat := 255

/-- The names of a path. -/
def names (path : String) : List String := (path.splitOn "/").filter (· ≠ "")

/-- Whether a path ends in a slash, so that it can only mean a directory. -/
def isDirectoryPath (path : String) : Bool := path.toList.getLast? == some '/'

/-- The place that a path starts from. -/
def origin (t : FileTree) (path : String) : Location :=
  if path.toList.head? = some '/' then [] else t.workingDirectory

/-- Follows names from a place; each must be looked up in a directory and be there. -/
def follow (t : FileTree) : Location → List String → Except OsError Location
  | place, [] => .ok place
  | place, name :: rest =>
    if t.find? place ≠ some .directory then .error .notDirectory
    else if name = "." then follow t place rest
    else if name = ".." then follow t place.tail rest
    else if maxName < name.utf8ByteSize then .error .nameTooLong
    else if t.find? (name :: place) = none then .error .notFound
    else follow t (name :: place) rest

/-- What rules a path out before anything is looked up. -/
def pathFault? (path : String) : Option OsError :=
  if path.toList.contains '\x00' then some .nulInPath
  else if path = "" then some .notFound
  else if maxPath < path.utf8ByteSize then some .nameTooLong
  else none

/-! ## Reading -/

/-- The bytes of the file that a path leads to. -/
def read (t : FileTree) (path : String) : Except OsError Bytes :=
  match pathFault? path with
  | some fault => .error fault
  | none =>
    match t.follow (t.origin path) (names path) with
    | .error e => .error e
    | .ok place =>
      match t.find? place with
      | some (.file content) =>
        if isDirectoryPath path then .error .notDirectory else .ok content
      | some .directory => .error .isDirectory
      | none => .error .notFound

/-! ## Writing -/

/-- Where a file would be written that a path names: the place of an existing file, or a new one in
    an existing directory. -/
def target (t : FileTree) (path : String) : Except OsError Location :=
  match pathFault? path with
  | some fault => .error fault
  | none =>
    match (names path).getLast? with
    | none => .error .isDirectory
    | some name =>
      match t.follow (t.origin path) (names path).dropLast with
      | .error e => .error e
      | .ok directory =>
        if t.find? directory ≠ some .directory then .error .notDirectory
        else if name = "." ∨ name = ".." ∨ isDirectoryPath path then .error .isDirectory
        else if maxName < name.utf8ByteSize then .error .nameTooLong
        else if t.find? (name :: directory) = some .directory then .error .isDirectory
        else .ok (name :: directory)

/-- The tree after `content` is written to the file that a path names. -/
def write (t : FileTree) (path : String) (content : Bytes) : Except OsError FileTree :=
  (t.target path).map fun place => t.set place (.file content)

/-! ## Setting up and listing -/

/-- The tree with all directories on the way of a row of names; what is there already stays. -/
def ensureDirectories (t : FileTree) : Location → List String → FileTree
  | _, [] => t
  | place, name :: rest =>
    if name = "." then t.ensureDirectories place rest
    else if name = ".." then t.ensureDirectories place.tail rest
    else
      let t := if t.find? (name :: place) = none then t.set (name :: place) .directory else t
      t.ensureDirectories (name :: place) rest

/-- The tree with a directory at a path, and those on the way to it. -/
def makeDirectory (t : FileTree) (path : String) : FileTree :=
  t.ensureDirectories (t.origin path) (names path)

/-- A tree with nothing in it but an empty working directory and those it lies in. -/
def empty (workingDirectory : Location) : FileTree :=
  ensureDirectories ⟨[], workingDirectory⟩ [] workingDirectory.reverse

/-- All that lies below the working directory, by paths relative to it. -/
def listing (t : FileTree) : List (String × Node) :=
  t.nodes.filterMap fun (place, node) =>
    if t.workingDirectory.isSuffixOf place ∧ t.workingDirectory ≠ place then
      let inner := place.take (place.length - t.workingDirectory.length)
      some (String.intercalate "/" inner.reverse, node)
    else none

/-! ## Laws -/

theorem read_eq_ok_iff {t : FileTree} {path : String} {content : Bytes} :
    t.read path = .ok content ↔
      pathFault? path = none ∧ isDirectoryPath path = false ∧
        ∃ place, t.follow (t.origin path) (names path) = .ok place ∧
          t.find? place = some (.file content) := by
  unfold read
  constructor
  · intro h
    split at h
    next => cases h
    next hf =>
      split at h
      next => cases h
      next place hp =>
        split at h
        next c hc =>
          split at h
          next => cases h
          next hd =>
            obtain rfl := Except.ok.inj h
            exact ⟨hf, by simpa using hd, place, hp, hc⟩
        next => cases h
        next => cases h
  · rintro ⟨hf, hd, place, hp, hc⟩
    simp only [hf, hp, hc, hd, Bool.false_eq_true, if_false]

theorem write_eq_ok_iff {t t' : FileTree} {path : String} {content : Bytes} :
    t.write path content = .ok t' ↔
      ∃ place, t.target path = .ok place ∧ t' = t.set place (.file content) := by
  unfold write
  cases t.target path <;> simp [Except.map, eq_comm]

end FileTree

end Uncomment
