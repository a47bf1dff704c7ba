import Mathlib
import Uncomment.File.Access

/-!
# What a write changes

A write changes what is at one place, which was no directory before. So every way through the tree
still leads where it led, and what is read at its end is the same as before, or what was written.

Results:
* `follow_cons`, `follow_append`: a way is gone name by name.
* `target_eq_ok_iff`, `exists_written_of_target`: which place is written to, and what changes.
* `Written.follow_eq_ok`: all ways lead where they led.
* `Written.read_of_target`: the path that was written to reads as what was written.
* `Written.read_of_read`: so do all paths to the place, and all others read as before.
* `Written.read_of_not_reaches`: what does not come to the place is refused as before, too.
* `Written.read_of_reaches`: what does come to the place is a path to the file, or to none at all.
* `fileStore`, `pathStore`: a tree obeys the laws of stored files and of the paths to them.
-/

namespace Uncomment.FileTree

/-! ## Ways through the tree -/

section

variable {t : FileTree} {place stop : Location}

/-- Where one name leads from a place. -/
def enter (t : FileTree) (place : Location) (name : String) : Except OsError Location :=
  if t.find? place ≠ some .directory then .error .notDirectory
  else if name = "." then .ok place
  else if name = ".." then .ok place.tail
  else if maxName < name.utf8ByteSize then .error .nameTooLong
  else if t.find? (name :: place) = none then .error .notFound
  else .ok (name :: place)

/-- A way is gone name by name. -/
theorem follow_cons (t : FileTree) (place : Location) (name : String) (way : List String) :
    t.follow place (name :: way) = (t.enter place name).bind fun next => t.follow next way := by
  rw [follow, enter]
  split_ifs <;> rfl

theorem follow_append (t : FileTree) (place : Location) (front rest : List String) :
    t.follow place (front ++ rest) =
      (t.follow place front).bind fun middle => t.follow middle rest := by
  induction front generalizing place with
  | nil => rfl
  | cons name front ih =>
    rw [List.cons_append, follow_cons, follow_cons]
    cases t.enter place name with
    | error e => rfl
    | ok next => exact ih next

theorem enter_eq_ok_iff {name : String} :
    t.enter place name = .ok stop ↔
      t.find? place = some .directory ∧
        (name = "." ∧ place = stop ∨ name = ".." ∧ place.tail = stop ∨
          (name ≠ "." ∧ name ≠ "..") ∧ name.utf8ByteSize ≤ maxName ∧
            t.find? (name :: place) ≠ none ∧ name :: place = stop) := by
  unfold enter
  split_ifs with hdir hdot hup hlong hnone
  · simp [hdir]
  · simp [not_not.1 hdir, hdot]
  · simp [not_not.1 hdir, hup]
  · simp [hdot, hup, Nat.not_le.2 hlong]
  · simp [hdot, hup, hnone]
  · simp [not_not.1 hdir, hdot, hup, hnone, Nat.not_lt.1 hlong]

/-- No way goes on from a file. -/
theorem follow_of_file {content : Bytes} (h : t.find? place = some (.file content))
    {way : List String} (hway : way ≠ []) : t.follow place way = .error .notDirectory := by
  obtain ⟨name, way, rfl⟩ := List.exists_cons_of_ne_nil hway
  have hdir : t.find? place ≠ some .directory := by
    rw [h]
    exact fun heq => Node.noConfusion (Option.some.inj heq)
  rw [follow, if_pos hdir]

/-- A write goes to the last name of the path, in the directory that the names before it lead to. -/
theorem target_eq_ok_iff {path : String} :
    t.target path = .ok place ↔
      pathFault? path = none ∧ isDirectoryPath path = false ∧
        ∃ way name directory, names path = way ++ [name] ∧
          t.follow (t.origin path) way = .ok directory ∧ t.find? directory = some .directory ∧
          (name ≠ "." ∧ name ≠ "..") ∧ name.utf8ByteSize ≤ maxName ∧
          place = name :: directory ∧ t.find? place ≠ some .directory := by
  constructor
  · intro h
    unfold target at h
    split at h
    next => cases h
    next hfault =>
      split at h
      next => cases h
      next name hlast =>
        obtain ⟨way, hway⟩ := List.getLast?_eq_some_iff.1 hlast
        rw [hway, List.dropLast_concat] at h
        split at h
        next => cases h
        next directory hfollow =>
          split at h
          next => cases h
          next hdir =>
            split at h
            next => cases h
            next hname =>
              split at h
              next => cases h
              next hshort =>
                split at h
                next => cases h
                next hplace =>
                  obtain rfl := Except.ok.inj h
                  simp only [not_or, Bool.not_eq_true] at hname
                  exact ⟨hfault, hname.2.2, way, name, directory, hway, hfollow, not_not.1 hdir,
                    ⟨hname.1, hname.2.1⟩, Nat.not_lt.1 hshort, rfl, hplace⟩
  · rintro ⟨hfault, hslash, way, name, directory, hway, hfollow, hdir, ⟨hdot, hup⟩, hshort, rfl,
      hplace⟩
    unfold target
    simp only [hfault, hway, List.getLast?_concat, List.dropLast_concat, hfollow]
    rw [if_neg (not_not.2 hdir), if_neg (by simp [hdot, hup, hslash]),
      if_neg (Nat.not_lt.2 hshort), if_neg hplace]

end

/-! ## What a write leaves -/

/-- `t'` is `t` but for the file at `place`, where no directory was, and which holds `content`. -/
structure Written (t : FileTree) (place : Location) (content : Bytes) (t' : FileTree) : Prop where
  old : t.find? place ≠ some .directory
  new : t'.find? place = some (.file content)
  frame : ∀ other, other ≠ place → t'.find? other = t.find? other
  workingDirectory : t'.workingDirectory = t.workingDirectory

/-- What is written to a place that can be written to gets there. -/
theorem exists_written_of_target {t : FileTree} {path : String} {place : Location}
    (h : t.target path = .ok place) (content : Bytes) :
    ∃ t', t.write path content = .ok t' ∧ Written t place content t' := by
  obtain ⟨-, -, way, name, directory, -, -, -, -, -, hplace, hold⟩ := target_eq_ok_iff.1 h
  have hne : place ≠ [] := by
    rw [hplace]
    exact List.cons_ne_nil name directory
  refine ⟨t.set place (.file content), write_eq_ok_iff.2 ⟨place, h, rfl⟩, hold, ?_, ?_, rfl⟩
  · rw [find?_set t _ hne, if_pos rfl]
  · intro other hother
    rw [find?_set t _ hne, if_neg hother]

theorem write_of_target_error {t : FileTree} {path : String} {e : OsError}
    (h : t.target path = .error e) (content : Bytes) : t.write path content = .error e := by
  rw [write, h]
  rfl

/-- The path leads to the place, and the place is there. -/
def LeadsTo (t : FileTree) (path : String) (place : Location) : Prop :=
  t.follow (t.origin path) (names path) = .ok place

/-- The path leads to the place or beyond it: some of its first names lead there. -/
def Reaches (t : FileTree) (path : String) (place : Location) : Prop :=
  ∃ front, front <+: names path ∧ t.follow (t.origin path) front = .ok place

theorem LeadsTo.reaches {t : FileTree} {path : String} {place : Location}
    (h : t.LeadsTo path place) : t.Reaches path place :=
  ⟨names path, List.prefix_rfl, h⟩

/-- A path that leads to a file leads nowhere beyond it. -/
theorem not_reaches_of_leadsTo {t : FileTree} {path : String} {place stop : Location}
    {content : Bytes} (h : t.LeadsTo path stop) (hplace : t.find? place = some (.file content))
    (hne : stop ≠ place) : ¬ t.Reaches path place := by
  rintro ⟨front, ⟨rest, hnames⟩, hfront⟩
  rw [LeadsTo, ← hnames, follow_append, hfront] at h
  change t.follow place rest = .ok stop at h
  cases rest with
  | nil => exact hne (Except.ok.inj h).symm
  | cons name rest =>
    rw [follow_of_file hplace (List.cons_ne_nil name rest)] at h
    cases h

namespace Written

variable {t t' : FileTree} {place : Location} {content : Bytes} {path : String}

theorem origin (h : Written t place content t') (path : String) :
    t'.origin path = t.origin path := by
  rw [FileTree.origin, FileTree.origin, h.workingDirectory]

theorem find?_ne_none (h : Written t place content t') : t'.find? place ≠ none := by
  rw [h.new]
  exact Option.some_ne_none _

/-- A step that leads somewhere still leads there: it starts from a directory, and what it leads to
    is there still. -/
theorem enter_eq_ok (h : Written t place content t') {start stop : Location} {name : String}
    (hstep : t.enter start name = .ok stop) : t'.enter start name = .ok stop := by
  obtain ⟨hdir, hstep⟩ := enter_eq_ok_iff.1 hstep
  have hstart : start ≠ place := by
    rintro rfl
    exact h.old hdir
  have hthere (hsome : t.find? (name :: start) ≠ none) : t'.find? (name :: start) ≠ none := by
    by_cases hplace : name :: start = place
    · rw [hplace]
      exact h.find?_ne_none
    · rw [h.frame _ hplace]
      exact hsome
  rw [enter_eq_ok_iff, h.frame start hstart]
  refine ⟨hdir, ?_⟩
  obtain hdot | hup | ⟨hname, hshort, hsome, hstop⟩ := hstep
  · exact .inl hdot
  · exact .inr (.inl hup)
  · exact .inr (.inr ⟨hname, hshort, hthere hsome, hstop⟩)

/-- A way that leads somewhere still leads there, as all that is passed on it are directories. -/
theorem follow_eq_ok (h : Written t place content t') {start stop : Location} {way : List String}
    (hway : t.follow start way = .ok stop) : t'.follow start way = .ok stop := by
  induction way generalizing start with
  | nil => exact hway
  | cons name way ih =>
    rw [follow_cons] at hway ⊢
    cases hstep : t.enter start name with
    | error e =>
      rw [hstep] at hway
      cases hway
    | ok next =>
      rw [hstep] at hway
      rw [h.enter_eq_ok hstep]
      exact ih hway

/-- The path that was written to leads to the place, whether or not the file was there. -/
theorem leadsTo_of_target (h : Written t place content t') (htarget : t.target path = .ok place) :
    t'.LeadsTo path place := by
  obtain ⟨-, -, way, name, directory, hnames, hway, hdir, hname, hshort, rfl, -⟩ :=
    target_eq_ok_iff.1 htarget
  have hdir' : t'.find? directory = some .directory := by
    rw [h.frame directory (List.cons_ne_self name directory).symm, hdir]
  have hlast : t'.enter directory name = .ok (name :: directory) :=
    enter_eq_ok_iff.2 ⟨hdir', .inr (.inr ⟨hname, hshort, h.find?_ne_none, rfl⟩)⟩
  rw [LeadsTo, h.origin, hnames, follow_append, h.follow_eq_ok hway]
  show t'.follow directory [name] = .ok (name :: directory)
  rw [follow_cons, hlast]
  rfl

/-- The path that was written to reads as what was written. -/
theorem read_of_target (h : Written t place content t') (htarget : t.target path = .ok place) :
    t'.read path = .ok content := by
  obtain ⟨hfault, hslash, -⟩ := target_eq_ok_iff.1 htarget
  exact read_eq_ok_iff.2 ⟨hfault, hslash, place, h.leadsTo_of_target htarget, h.new⟩

/-- Of all paths that read as something, those to the place read as what was written, and all others
    read as before. -/
theorem read_of_read (h : Written t place content t') {old : Bytes}
    (hread : t.read path = .ok old) :
    (t.LeadsTo path place → t'.read path = .ok content) ∧
      (¬ t.LeadsTo path place → t'.read path = .ok old) := by
  obtain ⟨hfault, hslash, stop, hway, hfile⟩ := read_eq_ok_iff.1 hread
  rw [read_eq_ok_iff, read_eq_ok_iff, h.origin]
  constructor
  · intro hplace
    exact ⟨hfault, hslash, place, h.follow_eq_ok hplace, h.new⟩
  · intro hne
    have hstop : stop ≠ place := by
      rintro rfl
      exact hne hway
    exact ⟨hfault, hslash, stop, h.follow_eq_ok hway, by rw [h.frame stop hstop, hfile]⟩

/-- A step between other places is as before, whether it leads somewhere or is refused. -/
theorem enter_eq (h : Written t place content t') {start : Location} {name : String}
    (hstart : start ≠ place) (hstep : t'.enter start name ≠ .ok place) :
    t'.enter start name = t.enter start name := by
  unfold enter at hstep ⊢
  rw [h.frame start hstart] at hstep ⊢
  by_cases hplace : name :: start = place
  · -- then the name is one that is not looked up, or the step leads to the place
    rw [hplace, if_neg h.find?_ne_none] at hstep
    split_ifs at hstep ⊢ <;> first | rfl | exact absurd rfl hstep
  · rw [h.frame _ hplace]

/-- A way that does not come to the place is gone as before, to its end or to where it is
    refused. -/
theorem follow_eq (h : Written t place content t') {start : Location} {way : List String}
    (hway : ∀ front, front <+: way → t'.follow start front ≠ .ok place) :
    t'.follow start way = t.follow start way := by
  induction way generalizing start with
  | nil => rfl
  | cons name way ih =>
    have hstart : start ≠ place := by
      rintro rfl
      exact hway [] List.nil_prefix rfl
    have hfront (front : List String) (hpart : front <+: way) :
        ((t'.enter start name).bind fun next => t'.follow next front) ≠ .ok place := by
      rw [← follow_cons]
      exact hway _ (List.cons_prefix_cons.2 ⟨rfl, hpart⟩)
    have hstep : t'.enter start name ≠ .ok place := by
      intro heq
      apply hfront [] List.nil_prefix
      rw [heq]
      rfl
    rw [follow_cons, follow_cons, ← h.enter_eq hstart hstep]
    cases hnext : t'.enter start name with
    | error e => rfl
    | ok next =>
      rw [hnext] at hfront
      exact ih hfront

/-- A path that does not come to the place reads as before, or is refused as before. -/
theorem read_of_not_reaches (h : Written t place content t') (hpath : ¬ t'.Reaches path place) :
    t'.read path = t.read path := by
  have hway : t'.follow (t'.origin path) (names path) = t.follow (t'.origin path) (names path) :=
    h.follow_eq fun front hpart heq => hpath ⟨front, hpart, heq⟩
  unfold read
  rw [hway, h.origin]
  cases pathFault? path with
  | some fault => rfl
  | none =>
    cases hstop : t.follow (t.origin path) (names path) with
    | error e => rfl
    | ok stop =>
      have hne : stop ≠ place := by
        rintro rfl
        apply hpath
        apply LeadsTo.reaches
        rw [LeadsTo, hway, h.origin, hstop]
      simp only [h.frame stop hne]

/-- A path that does come to the place is now one to the file there, or else it is no path to any
    file, and was none before: it goes on as if the file were a directory, or is not to be opened at
    all. -/
theorem read_of_reaches (h : Written t place content t') (hpath : t'.Reaches path place) :
    t'.read path = .ok content ∨ ∀ old, t.read path ≠ .ok old ∧ t'.read path ≠ .ok old := by
  by_cases hnow : ∃ old, t'.read path = .ok old
  · obtain ⟨old, hread⟩ := hnow
    left
    obtain ⟨hfault, hslash, stop, hway, hfile⟩ := read_eq_ok_iff.1 hread
    have hstop : stop = place := by
      by_contra hne
      exact not_reaches_of_leadsTo hway h.new hne hpath
    rw [hstop] at hway
    exact read_eq_ok_iff.2 ⟨hfault, hslash, place, hway, h.new⟩
  · right
    intro old
    refine ⟨fun hread => hnow ?_, fun hread => hnow ⟨old, hread⟩⟩
    by_cases hleads : t.LeadsTo path place
    · exact ⟨content, (h.read_of_read hread).1 hleads⟩
    · exact ⟨old, (h.read_of_read hread).2 hleads⟩

end Written

/-! ## A tree as a store -/

instance fileStore : FileStore FileTree where
  access := access
  Place := Location
  content := read
  target := target
  Written := Written
  run_read t path := rfl
  run_write_of_error := by
    intro t path e h bytes
    simp only [access, StateT.run, write_of_target_error h bytes]
  exists_run_write := by
    intro t path place h bytes
    obtain ⟨t', hwrite, hwritten⟩ := exists_written_of_target h bytes
    refine ⟨t', ?_, hwritten⟩
    simp only [access, StateT.run, hwrite]

instance pathStore : PathStore FileTree where
  Reaches := Reaches
  content_of_target := Written.read_of_target
  content_of_not_reaches := Written.read_of_not_reaches
  content_of_reaches := Written.read_of_reaches

end Uncomment.FileTree
