import Uncomment.File.TextFile
import Uncomment.Proofs.File.Tree
import Uncomment.Proofs.Text.Utf8

/-!
# Reading back what was written

A text that is written to a path reads there as itself, and in Latin-1 as one character for each of
its bytes. All other files read as before, under all paths that lead to them, and so does everything
if nothing could be written. Reading changes nothing. A file that cannot be decoded can be read all
the same, so that the two errors of reading exclude each other.

All of this follows from the laws of stored files and the paths to them.

Results:
* `readIn_eq_read_iff`, `readIn_eq_decode_iff`: when reading fails, and how.
* `readsAlike_of_content_eq`, `readsAs_of_content_bytes`: what a path reads as depends on its
  content.
* `reads_of_run_write`: wherever files are stored, what can be read after a text was written.
* `read_write`: on a directory tree, what can be read after a text was written, or was not.
-/

namespace Uncomment.TextFile

open Text

/-! ## Reading -/

section

variable {σ : Type} [FileStore σ]

/-- What reading a path comes to, without what is logged. -/
def readIn (s : σ) (path : String) (encoding : TextEncoding) : Except Error String :=
  ((read FileStore.access path encoding).run s).1.2

/-- The path reads in both states as the same text, or fails with the same error, whichever encoding
    it is read in. -/
def ReadsAlike (s s' : σ) (path : String) : Prop :=
  ∀ encoding, readIn s' path encoding = readIn s path encoding

/-- The path reads as the text, and in Latin-1 as one character for each byte of its UTF-8 form. -/
structure ReadsAs (s : σ) (path : String) (text : String) : Prop where
  utf8 : readIn s path .utf8 = .ok text
  latin1 : readIn s path .latin1 = .ok (String.ofList ((bytes text).map TextEncoding.latin1Char))

variable {s s' : σ} {path : String} {encoding : TextEncoding}

theorem readIn_eq (s : σ) (path : String) (encoding : TextEncoding) :
    readIn s path encoding =
      match FileStore.content s path with
      | .error cause => .error (.read path cause)
      | .ok content =>
        match encoding.decode content with
        | .ok d => .ok d.text
        | .error cause => .error (.decode path cause) := by
  rw [readIn, run_read]
  cases FileStore.content s path <;> rfl

theorem run_read_snd (s : σ) (path : String) (encoding : TextEncoding) :
    ((read FileStore.access path encoding).run s).2 = s := by
  rw [run_read]

theorem readsAlike_of_content_eq (h : FileStore.content s' path = FileStore.content s path) :
    ReadsAlike s s' path := by
  intro encoding
  rw [readIn_eq, readIn_eq, h]

/-- What is written is a text, so it is read back in both encodings. -/
theorem readsAs_of_content_bytes {text : String} (h : FileStore.content s path = .ok (bytes text)) :
    ReadsAs s path text := by
  constructor
  · rw [readIn_eq, h]
    simp only [TextEncoding.decode_utf8_bytes]
  · rw [readIn_eq, h]
    rfl

/-- Latin-1 has a character for every byte, so only UTF-8 refuses what is there. -/
theorem exists_decode_error_iff (encoding : TextEncoding) (content : Bytes) :
    (∃ cause, encoding.decode content = .error cause) ↔
      encoding = .utf8 ∧ ¬ Utf8.Valid content := by
  cases encoding with
  | latin1 => simp [TextEncoding.decode]
  | utf8 =>
    rw [← TextEncoding.exists_decode_utf8_iff]
    cases TextEncoding.decode .utf8 content <;> simp

/-- Reading fails before decoding exactly if the path is refused, and with the cause of this. -/
theorem readIn_eq_read_iff {cause : OsError} :
    readIn s path encoding = .error (.read path cause) ↔
      FileStore.content s path = .error cause := by
  rw [readIn_eq]
  cases FileStore.content s path with
  | error e => simp
  | ok content => cases hdecode : encoding.decode content <;> simp [hdecode]

/-- Reading fails at decoding exactly if the path reads as bytes that are no text in the strict
    encoding that was asked for. -/
theorem readIn_eq_decode_iff :
    (∃ cause, readIn s path encoding = .error (.decode path cause)) ↔
      encoding = .utf8 ∧
        ∃ content, FileStore.content s path = .ok content ∧ ¬ Utf8.Valid content := by
  rw [readIn_eq]
  cases FileStore.content s path with
  | error e => simp
  | ok content =>
    have herror := exists_decode_error_iff encoding content
    cases hdecode : encoding.decode content <;> simpa [hdecode] using herror

/-- A path that is refused fails to read in every encoding. -/
theorem readIn_of_forall_ne (h : ∀ content, FileStore.content s path ≠ .ok content)
    (encoding : TextEncoding) : ∃ cause, readIn s path encoding = .error (.read path cause) := by
  cases hread : FileStore.content s path with
  | error cause => exact ⟨cause, readIn_eq_read_iff.2 hread⟩
  | ok content => exact absurd hread (h content)

theorem exists_readIn_eq_read_iff :
    (∃ cause, readIn s path encoding = .error (.read path cause)) ↔
      ∀ content, FileStore.content s path ≠ .ok content := by
  constructor
  · rintro ⟨cause, hread⟩ content hcontent
    rw [readIn_eq_read_iff.1 hread] at hcontent
    cases hcontent
  · exact fun h => readIn_of_forall_ne h encoding

end

/-! ## After writing -/

section

variable {σ : Type} [FileStore σ] {s s' : σ} {path text : String} {place : FileStore.Place σ}

theorem run_write_of_target (h : FileStore.target s path = .ok place) (text : String) :
    ∃ s', (write FileStore.access path text).run s = (([wroteRecord path text], .ok ()), s') ∧
      FileStore.Written s place (bytes text) s' := by
  obtain ⟨s', hwrite, hwritten⟩ := FileStore.exists_run_write h (bytes text)
  refine ⟨s', ?_, hwritten⟩
  rw [run_write, hwrite]

theorem run_write_of_target_error {cause : OsError} (h : FileStore.target s path = .error cause)
    (text : String) :
    (write FileStore.access path text).run s = (([], .error (.write path cause)), s) := by
  rw [run_write, FileStore.run_write_of_error h]

/-- A write that is done has found a place to write to. -/
theorem exists_target_of_run_write {log : List Log.Record}
    (h : (write FileStore.access path text).run s = ((log, .ok ()), s')) :
    ∃ place, FileStore.target s path = .ok place ∧
      FileStore.Written s place (bytes text) s' := by
  cases htarget : FileStore.target s path with
  | error cause =>
    rw [run_write_of_target_error htarget] at h
    cases h
  | ok place =>
    obtain ⟨s₁, hwrite, hwritten⟩ := run_write_of_target htarget text
    rw [hwrite] at h
    cases h
    exact ⟨place, rfl, hwritten⟩

/-- A write that fails leaves the state as it was. -/
theorem eq_of_run_write_error {log : List Log.Record} {e : Error}
    (h : (write FileStore.access path text).run s = ((log, .error e), s')) : s' = s := by
  cases htarget : FileStore.target s path with
  | error cause =>
    rw [run_write_of_target_error htarget] at h
    cases h
    rfl
  | ok place =>
    obtain ⟨s₁, hwrite, -⟩ := run_write_of_target htarget text
    rw [hwrite] at h
    cases h

end

/-- Wherever files are stored: after a write that succeeds, the path reads as the text, and in
    Latin-1 as one character for each byte of its UTF-8 form. All paths that do not come to the
    place read as before, in both encodings and with the same error, and those that do read as the
    text, or fail, as they did before. A write that fails changes nothing, and no more does reading.
    That fails at decoding exactly if the path can be read, the encoding is UTF-8, and the bytes are
    not, and before decoding exactly if the path cannot be read. -/
theorem reads_of_run_write {σ : Type} [PathStore σ] (s : σ) (path text : String) :
    (∀ log s', (write FileStore.access path text).run s = ((log, .ok ()), s') →
        ReadsAs s' path text ∧
        ∃ place, FileStore.target s path = .ok place ∧
          FileStore.Written s place (bytes text) s' ∧
          (∀ other, ¬ PathStore.Reaches s' other place → ReadsAlike s s' other) ∧
          ∀ other, PathStore.Reaches s' other place →
            ReadsAs s' other text ∨
              ∀ encoding, (∃ e, readIn s other encoding = .error (.read other e)) ∧
                ∃ e, readIn s' other encoding = .error (.read other e)) ∧
      (∀ log e s', (write FileStore.access path text).run s = ((log, .error e), s') → s' = s) ∧
      ∀ other encoding,
        ((read FileStore.access other encoding).run s).2 = s ∧
        ((∃ cause, readIn s other encoding = .error (.decode other cause)) ↔
          encoding = .utf8 ∧
            ∃ content, FileStore.content s other = .ok content ∧ ¬ Utf8.Valid content) ∧
        ((∃ cause, readIn s other encoding = .error (.read other cause)) ↔
          ∀ content, FileStore.content s other ≠ .ok content) := by
  refine ⟨?_, fun log e s' => eq_of_run_write_error, ?_⟩
  · intro log s' hwrite
    obtain ⟨place, htarget, h⟩ := exists_target_of_run_write hwrite
    refine ⟨readsAs_of_content_bytes (PathStore.content_of_target h htarget), place, htarget, h,
      ?_, ?_⟩
    · intro other hother
      exact readsAlike_of_content_eq (PathStore.content_of_not_reaches h hother)
    · intro other hother
      obtain hread | hnone := PathStore.content_of_reaches h hother
      · exact .inl (readsAs_of_content_bytes hread)
      · right
        intro encoding
        exact ⟨readIn_of_forall_ne (fun old => (hnone old).1) encoding,
          readIn_of_forall_ne (fun old => (hnone old).2) encoding⟩
  · intro other encoding
    exact ⟨run_read_snd s other encoding, readIn_eq_decode_iff, exists_readIn_eq_read_iff⟩

/-! ## On a directory tree -/

/-- Whatever the tree, the path and the text are: after a write that succeeds, the path leads to a
    file that reads as the text, and in Latin-1 as one character for each byte of its UTF-8 form.
    All paths to other files read as before, in both encodings, and so does every other path that
    does not come to the file, with the same error. Of the paths that do come to it, all read as the
    text that can be read at all: the others go on as if the file were a directory, and are paths to
    no file, as they were before. After a write that fails, all paths read as before. Reading
    changes no file. It fails at decoding exactly if the path can be read, the encoding is UTF-8,
    and the bytes are not, and before decoding exactly if the path cannot be read. -/
theorem read_write (t : FileTree) (path text : String) :
    (∀ log t', (write FileTree.access path text).run t = ((log, .ok ()), t') →
        ReadsAs t' path text ∧
        ∃ place, t'.LeadsTo path place ∧
          (∀ other stop, t'.LeadsTo other stop → stop ≠ place → ReadsAlike t t' other) ∧
          (∀ other, ¬ t'.Reaches other place → ReadsAlike t t' other) ∧
          ∀ other, t'.Reaches other place →
            ReadsAs t' other text ∨
              ∀ encoding, (∃ e, readIn t other encoding = .error (.read other e)) ∧
                ∃ e, readIn t' other encoding = .error (.read other e)) ∧
      (∀ log e t', (write FileTree.access path text).run t = ((log, .error e), t') →
        ∀ other, ReadsAlike t t' other) ∧
      ∀ other encoding,
        ((read FileTree.access other encoding).run t).2 = t ∧
        ((∃ cause, readIn t other encoding = .error (.decode other cause)) ↔
          encoding = .utf8 ∧ ∃ content, t.read other = .ok content ∧ ¬ Utf8.Valid content) ∧
        ((∃ cause, readIn t other encoding = .error (.read other cause)) ↔
          ∀ content, t.read other ≠ .ok content) := by
  obtain ⟨hdone, hfailed, hreads⟩ := reads_of_run_write t path text
  refine ⟨?_, ?_, hreads⟩
  · intro log t' hwrite
    obtain ⟨hback, place, htarget, hwritten, hothers, hreached⟩ := hdone log t' hwrite
    have h : FileTree.Written t place (bytes text) t' := hwritten
    refine ⟨hback, place, h.leadsTo_of_target htarget, ?_, hothers, hreached⟩
    intro other stop hleads hne
    exact hothers other (FileTree.not_reaches_of_leadsTo hleads h.new hne)
  · intro log e t' hwrite other
    rw [hfailed log e t' hwrite]
    exact fun encoding => rfl

/-- A text is written over a file, under another path to it, and beside a file that is no UTF-8. -/
theorem read_write_beside :
    let t : FileTree := ⟨[(["a"], .file []), (["b"], .file [0xFF])], []⟩
    ∃ t', (write FileTree.access "./a" "é").run t = (([wroteRecord "./a" "é"], .ok ()), t') ∧
      ReadsAs t' "./a" "é" ∧ ReadsAlike t t' "b" ∧
      ∃ cause, readIn t' "b" .utf8 = .error (.decode "b" cause) := by
  intro t
  have htarget : t.target "./a" = .ok ["a"] := by cbv
  have hleads : t.LeadsTo "b" ["b"] := by
    unfold FileTree.LeadsTo
    cbv
  have hread : t.read "b" = .ok [0xFF] := by cbv
  have hinvalid : ¬ Utf8.Valid [0xFF] := by
    rw [Utf8.valid_iff_split]
    decide +kernel
  obtain ⟨t', hwrite, hwritten⟩ := run_write_of_target (s := t) htarget "é"
  have h : FileTree.Written t ["a"] (bytes "é") t' := hwritten
  obtain ⟨hback, place, hplace, hothers, -, -⟩ := (read_write t "./a" "é").1 _ t' hwrite
  have hbeside : ReadsAlike t t' "b" := by
    apply hothers "b" ["b"]
    · rw [FileTree.LeadsTo, h.origin]
      exact h.follow_eq_ok hleads
    · obtain rfl := Except.ok.inj (hplace.symm.trans (h.leadsTo_of_target htarget))
      decide
  refine ⟨t', hwrite, hback, hbeside, ?_⟩
  rw [hbeside .utf8]
  exact ((read_write t "./a" "é").2.2 "b" .utf8).2.1.2 ⟨rfl, [0xFF], hread, hinvalid⟩

end Uncomment.TextFile
