import Uncomment.File.Tree

/-!
# Access to files

The program reads and replaces whole files. Whose files these are is left open: those of the system,
or those of a directory tree. What is relied on is stated as laws, for files that are kept in a
state. The laws say nothing of why a path is refused, so permissions may play a part, and nothing of
how many paths lead to a place, so there may be links. A file that keeps nothing of what is written
to it, as a device does, has no place in the second kind of store.

Results:
* `FileStore`: what one read and one write do to the state.
* `PathStore`: what a write does to all that can be read.
-/

namespace Uncomment

/-- How whole files are read and replaced. -/
structure FileAccess (m : Type → Type) where
  read : String → m (Except OsError Bytes)
  write : String → Bytes → m (Except OsError Unit)

/-- Access to the files of a directory tree; a refused write leaves the tree as it is. -/
def FileTree.access : FileAccess (StateM FileTree) where
  read path := fun t => (t.read path, t)
  write path content := fun t =>
    match t.write path content with
    | .ok t' => (.ok (), t')
    | .error e => (.error e, t)

/-! ## Laws -/

/-- Files that are kept in a state. A write is refused or not before any of it is done. -/
class FileStore (σ : Type) where
  access : FileAccess (StateM σ)
  /-- Where a file is, by whichever path it is reached. -/
  Place : Type
  /-- What a path reads as, or why it is refused. -/
  content : σ → String → Except OsError Bytes
  /-- The place that is written to through a path, or why that is refused. -/
  target : σ → String → Except OsError Place
  /-- The second state is what a write of the bytes to the place makes of the first. -/
  Written : σ → Place → Bytes → σ → Prop
  /-- Reading changes nothing. -/
  run_read (s : σ) (path : String) : (access.read path).run s = (content s path, s)
  /-- A refused write changes nothing, whatever was to be written. -/
  run_write_of_error {s : σ} {path : String} {e : OsError} (h : target s path = .error e)
    (bytes : Bytes) : (access.write path bytes).run s = (.error e, s)
  /-- A write that is not refused is done. -/
  exists_run_write {s : σ} {path : String} {place : Place} (h : target s path = .ok place)
    (bytes : Bytes) :
    ∃ s', (access.write path bytes).run s = (.ok (), s') ∧ Written s place bytes s'

/-- Stored files, with the paths that a write to a place has to do with. -/
class PathStore (σ : Type) extends FileStore σ where
  /-- The path leads to the place or beyond it. -/
  Reaches : σ → String → Place → Prop
  /-- What was written can be read back. -/
  content_of_target {s s' : σ} {path : String} {place : Place} {bytes : Bytes}
    (h : Written s place bytes s') (htarget : target s path = .ok place) :
    content s' path = .ok bytes
  /-- Paths that do not come to the place read as before, or are refused as before. -/
  content_of_not_reaches {s s' : σ} {path : String} {place : Place} {bytes : Bytes}
    (h : Written s place bytes s') (hpath : ¬ Reaches s' path place) :
    content s' path = content s path
  /-- Those that do come to it read as what was written, if they can be read at all. -/
  content_of_reaches {s s' : σ} {path : String} {place : Place} {bytes : Bytes}
    (h : Written s place bytes s') (hpath : Reaches s' path place) :
    content s' path = .ok bytes ∨ ∀ old, content s path ≠ .ok old ∧ content s' path ≠ .ok old

end Uncomment
