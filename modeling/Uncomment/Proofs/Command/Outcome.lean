import Uncomment.Command.Run
import Uncomment.Proofs.Convert.Ledger
import Uncomment.Proofs.File.Tree
import Uncomment.Proofs.Text.Utf8

/-!
# How a run ends

A run stops where its arguments are not accepted, where its input cannot be read or decoded, or
where its output cannot be written; each time all files are as they were. Otherwise it has written
the converted input, and has changed nothing else. Which of these it is can be told from the exit
code and the report. This is so wherever files are stored, and in particular on a directory tree.

Results:
* `Invocation.perform_of_unloadable`, `Invocation.perform_of_unsaveable`,
  `Invocation.perform_of_target`: what is performed, stage by stage.
* `run_of_failed`, `run_of_done`: what is said about it.
* `Outcome.Reports.unique`: a report names one step.
* `run_ending`: an accepted command line ends in one of three ways.
* `run_writes`, `run_converts`: what a successful run does, on stored files and on a tree.
* `run_stops_iff`, `run_fails_iff`: which runs are not successful, and that these change nothing.
-/

namespace Uncomment.Command

open Text

variable {σ : Type} [FileStore σ]

/-! ## What is performed -/

namespace Invocation

variable {i : Invocation} {s : σ}

/-- The input cannot be read, or its bytes are no text in the encoding it is to be read in. -/
def Unloadable (i : Invocation) (s : σ) : Prop :=
  (∀ content, FileStore.content s i.input ≠ .ok content) ∨
    i.encoding = .utf8 ∧ ∃ content, FileStore.content s i.input = .ok content ∧ ¬ Utf8.Valid content

/-- There is no place that the output could be written to. -/
def Unsaveable (i : Invocation) (s : σ) : Prop :=
  ∀ place, FileStore.target s i.output ≠ .ok place

theorem exists_loaded_of_not_unloadable (h : ¬ i.Unloadable s) :
    ∃ content d, FileStore.content s i.input = .ok content ∧
      i.encoding.decode content = .ok d := by
  rw [Unloadable, not_or, not_forall] at h
  obtain ⟨⟨content, hcontent⟩, hvalid⟩ := h
  have hread := not_not.1 hcontent
  cases hencoding : i.encoding with
  | latin1 => exact ⟨content, _, hread, rfl⟩
  | utf8 =>
    have hutf8 : Utf8.Valid content := by
      by_contra hinvalid
      exact hvalid ⟨hencoding, content, hread, hinvalid⟩
    obtain ⟨d, hd⟩ := TextEncoding.exists_decode_utf8_iff.2 hutf8
    exact ⟨content, d, hread, hd⟩

theorem not_unloadable_of_decode {content : Bytes} {d : Derived}
    (hread : FileStore.content s i.input = .ok content)
    (hdecode : i.encoding.decode content = .ok d) : ¬ i.Unloadable s := by
  rintro (hnone | ⟨hencoding, other, hother, hinvalid⟩)
  · exact hnone content hread
  · obtain rfl := Except.ok.inj (hread.symm.trans hother)
    rw [hencoding] at hdecode
    exact hinvalid (TextEncoding.exists_decode_utf8_iff.1 ⟨d, hdecode⟩)

/-- Whatever a file holds is a text in Latin-1. -/
theorem not_unloadable_latin1 (h : i.encoding = .latin1) :
    ¬ i.Unloadable s ↔ ∃ content, FileStore.content s i.input = .ok content := by
  constructor
  · intro hload
    obtain ⟨content, d, hread, -⟩ := exists_loaded_of_not_unloadable hload
    exact ⟨content, hread⟩
  · rintro ⟨content, hread⟩
    apply not_unloadable_of_decode hread
    rw [h]
    rfl

theorem perform_of_unloadable (h : i.Unloadable s) :
    ∃ log cause, (i.perform FileStore.access).run s = ((log, .error (.load cause)), s) := by
  rw [run_perform]
  cases hread : FileStore.content s i.input with
  | error cause => exact ⟨_, _, rfl⟩
  | ok content =>
    cases hdecode : i.encoding.decode content with
    | error cause =>
      simp only [hdecode]
      exact ⟨_, _, rfl⟩
    | ok d => exact absurd h (not_unloadable_of_decode hread hdecode)

theorem perform_of_unsaveable (hload : ¬ i.Unloadable s) (hsave : i.Unsaveable s) :
    ∃ log cause, (i.perform FileStore.access).run s = ((log, .error (.save cause)), s) := by
  obtain ⟨content, d, hread, hdecode⟩ := exists_loaded_of_not_unloadable hload
  cases htarget : FileStore.target s i.output with
  | error cause =>
    rw [run_perform]
    simp only [hread, hdecode, FileStore.run_write_of_error htarget]
    exact ⟨_, _, rfl⟩
  | ok place => exact absurd htarget (hsave place)

theorem perform_of_target {content : Bytes} {d : Derived} {place : FileStore.Place σ}
    (hread : FileStore.content s i.input = .ok content)
    (hdecode : i.encoding.decode content = .ok d)
    (htarget : FileStore.target s i.output = .ok place) :
    ∃ log s',
      (i.perform FileStore.access).run s = ((log, .ok (d.text, convert d.text i.options)), s') ∧
      (FileStore.access.write i.output (bytes (convert d.text i.options).text)).run s =
        (.ok (), s') ∧
      FileStore.Written s place (bytes (convert d.text i.options).text) s' := by
  obtain ⟨s', hwrite, hwritten⟩ :=
    FileStore.exists_run_write htarget (bytes (convert d.text i.options).text)
  rw [run_perform]
  simp only [hread, hdecode, hwrite]
  exact ⟨_, _, rfl, rfl, hwritten⟩

/-- All that is logged is logged at level debug. -/
theorem level_of_mem_log (i : Invocation) (s : σ) :
    ∀ r ∈ ((i.perform FileStore.access).run s).1.1, r.level = .debug := by
  rw [run_perform]
  cases FileStore.content s i.input with
  | error cause => exact List.forall_mem_nil _
  | ok content =>
    cases hdecode : i.encoding.decode content with
    | error cause =>
      simp only [hdecode]
      exact List.forall_mem_singleton.2 rfl
    | ok d =>
      simp only [hdecode]
      cases (FileStore.access.write i.output (bytes (convert d.text i.options).text)).run s with
      | mk result s' =>
        cases result <;> simp [TextFile.readRecord, TextFile.wroteRecord, Conversion.record]

end Invocation

/-! ## What is said about it -/

theorem render_standard {records : List Log.Record} (h : ∀ r ∈ records, r.level = .debug) :
    Log.render .standard records = "" := by
  have hfilter : records.filter Log.Filter.standard.shows = [] := by
    rw [List.filter_eq_nil_iff]
    intro r hr
    obtain ⟨source, level, message⟩ := r
    obtain rfl : level = .debug := h _ hr
    rw [Log.Filter.standard_not_shows_debug]
    exact Bool.false_ne_true
  rw [Log.render, hfilter]
  rfl

/-- What is on the standard error before the report or the summary. -/
def Invocation.logged (i : Invocation) (logSetting : Option String) (s : σ) : String :=
  let setting := Log.Setting.ofString? logSetting
  setting.warnings ++
    Log.render setting.filter (i.record :: ((i.perform FileStore.access).run s).1.1)

theorem Invocation.logged_none (i : Invocation) (s : σ) : i.logged none s = "" := by
  have hdebug : ∀ r ∈ i.record :: ((i.perform FileStore.access).run s).1.1, r.level = .debug :=
    List.forall_mem_cons.2 ⟨rfl, i.level_of_mem_log s⟩
  rw [Invocation.logged]
  show "" ++ Log.render .standard _ = ""
  rw [render_standard hdebug]
  rfl

/-- The outcome says, behind what was logged, that the step failed, and why. -/
def Outcome.Reports (o : Outcome) (logged step : String) : Prop :=
  ∃ causes, o.stderr = logged ++ ("Error: " ++ step ++ "\n\nCaused by:\n" ++ causes)

/-- A report names one step, on a line of its own. -/
theorem Outcome.Reports.unique {o : Outcome} {logged s s' : String} (h : o.Reports logged s)
    (h' : o.Reports logged s') (hs : '\n' ∉ s.toList) (hs' : '\n' ∉ s'.toList) : s = s' := by
  have htake (step : String) (hstep : '\n' ∉ step.toList) (causes : List Char) :
      (step.toList ++ '\n' :: causes).takeWhile (· ≠ '\n') = step.toList := by
    rw [List.takeWhile_append_of_pos, List.takeWhile_cons_of_neg (by simp), List.append_nil]
    intro c hc
    simp only [ne_eq, decide_not, Bool.not_eq_true', decide_eq_false_iff_not]
    rintro rfl
    exact hstep hc
  obtain ⟨causes, h⟩ := h
  obtain ⟨causes', h'⟩ := h'
  rw [h, String.append_right_inj] at h'
  simp only [String.append_assoc, String.append_right_inj] at h'
  have hlist := congrArg (fun text => text.toList.takeWhile (· ≠ '\n')) h'
  simp only [String.toList_append] at hlist
  have h1 := htake s hs ("\nCaused by:\n".toList ++ causes.toList)
  have h2 := htake s' hs' ("\nCaused by:\n".toList ++ causes'.toList)
  rw [← String.toList_inj, ← h1, ← h2]
  exact hlist

/-- The step of a run that failed, as a report names it. -/
def Failure.step : Failure → String
  | load _ => "could not load input file"
  | save _ => "could not save output file"

theorem Failure.reports (failure : Failure) (logged : String) :
    Outcome.Reports ⟨1, "", logged ++ failure.report⟩ logged failure.step := by
  cases failure with
  | load cause | save cause =>
    refine ⟨causeLine 0 cause.message ++ causeLine 1 cause.cause, ?_⟩
    simp only [report, report.render, step, String.append_assoc]

/-! ## Accepted command lines -/

section Accepted

variable {words : List String} {i : Invocation}

theorem run_of_parse (hwords : parse words = .ok i) (logSetting : Option String) (s : σ) :
    (run FileStore.access logSetting words).run s =
      (i.outcome (Log.Setting.ofString? logSetting) ((i.perform FileStore.access).run s).1,
        ((i.perform FileStore.access).run s).2) := by
  rw [run, hwords]
  rfl

theorem run_of_failed (hwords : parse words = .ok i) {s s' : σ} {log : List Log.Record}
    {failure : Failure} (h : (i.perform FileStore.access).run s = ((log, .error failure), s'))
    (logSetting : Option String) :
    (run FileStore.access logSetting words).run s =
      (⟨1, "", i.logged logSetting s ++ failure.report⟩, s') := by
  rw [run_of_parse hwords, Invocation.logged, h]
  rfl

theorem run_of_done (hwords : parse words = .ok i) {s s' : σ} {log : List Log.Record}
    {text : String} {c : Conversion}
    (h : (i.perform FileStore.access).run s = ((log, .ok (text, c)), s'))
    (logSetting : Option String) :
    (run FileStore.access logSetting words).run s =
      (⟨0, "", i.logged logSetting s ++ if i.verbose then i.summary text c else ""⟩, s') := by
  rw [run_of_parse hwords, Invocation.logged, h]
  rfl

/-- The ways in which an accepted command line can end, by what `logged` precedes on the standard
    error. -/
inductive Ending (i : Invocation) (logged : String) (s : σ) (o : Outcome) (s' : σ) : Prop where
  | unloaded (why : i.Unloadable s) (code : o.code = 1) (unchanged : s' = s)
      (reports : o.Reports logged "could not load input file")
  | unsaved (loads : ¬ i.Unloadable s) (why : i.Unsaveable s) (code : o.code = 1)
      (unchanged : s' = s) (reports : o.Reports logged "could not save output file")
  | done (loads : ¬ i.Unloadable s) (saves : ¬ i.Unsaveable s) (code : o.code = 0)

theorem run_ending (hwords : parse words = .ok i) (logSetting : Option String) (s : σ) :
    ∃ o s', (run FileStore.access logSetting words).run s = (o, s') ∧ o.stdout = "" ∧
      Ending i (i.logged logSetting s) s o s' := by
  by_cases hload : i.Unloadable s
  · obtain ⟨log, cause, h⟩ := Invocation.perform_of_unloadable hload
    exact ⟨_, _, run_of_failed hwords h logSetting, rfl,
      .unloaded hload rfl rfl ((Failure.load cause).reports _)⟩
  · by_cases hsave : i.Unsaveable s
    · obtain ⟨log, cause, h⟩ := Invocation.perform_of_unsaveable hload hsave
      exact ⟨_, _, run_of_failed hwords h logSetting, rfl,
        .unsaved hload hsave rfl rfl ((Failure.save cause).reports _)⟩
    · obtain ⟨content, d, hread, hdecode⟩ := Invocation.exists_loaded_of_not_unloadable hload
      obtain ⟨place, htarget⟩ := not_forall.1 hsave
      obtain ⟨log, s', h, -⟩ := Invocation.perform_of_target hread hdecode (not_not.1 htarget)
      exact ⟨_, _, run_of_done hwords h logSetting, rfl, .done hload hsave rfl⟩

namespace Ending

variable {logged : String} {s s' : σ} {o : Outcome}

theorem eq_of_code_ne_zero (h : Ending i logged s o s') (hcode : o.code ≠ 0) : s' = s := by
  cases h with
  | unloaded _ _ unchanged _ => exact unchanged
  | unsaved _ _ _ unchanged _ => exact unchanged
  | done _ _ code => exact absurd code hcode

theorem code_eq_zero_iff (h : Ending i logged s o s') :
    o.code = 0 ↔ ¬ i.Unloadable s ∧ ¬ i.Unsaveable s := by
  cases h with
  | unloaded why code _ _ => exact ⟨fun h => by omega, fun h => absurd why h.1⟩
  | unsaved _ why code _ _ => exact ⟨fun h => by omega, fun h => absurd why h.2⟩
  | done loads saves code => exact ⟨fun _ => ⟨loads, saves⟩, fun _ => code⟩

/-- No outcome has both reports. -/
theorem not_reports_both (hload : o.Reports logged "could not load input file")
    (hsave : o.Reports logged "could not save output file") : False :=
  absurd (hload.unique hsave (by decide) (by decide)) (by decide)

theorem reports_load_iff (h : Ending i logged s o s') :
    o.code = 1 ∧ o.Reports logged "could not load input file" ↔ i.Unloadable s := by
  cases h with
  | unloaded why code _ reports => exact ⟨fun _ => why, fun _ => ⟨code, reports⟩⟩
  | unsaved loads _ _ _ reports =>
    exact ⟨fun h => (not_reports_both h.2 reports).elim, fun h => absurd h loads⟩
  | done loads _ code => exact ⟨fun h => by omega, fun h => absurd h loads⟩

theorem reports_save_iff (h : Ending i logged s o s') :
    o.code = 1 ∧ o.Reports logged "could not save output file" ↔
      ¬ i.Unloadable s ∧ i.Unsaveable s := by
  cases h with
  | unloaded why _ _ reports =>
    exact ⟨fun h => (not_reports_both reports h.2).elim, fun h => absurd why h.1⟩
  | unsaved loads why code _ reports => exact ⟨fun _ => ⟨loads, why⟩, fun _ => ⟨code, reports⟩⟩
  | done _ saves code => exact ⟨fun h => by omega, fun h => absurd h.2 saves⟩

end Ending

/-- Wherever files are stored, a run whose input can be read and decoded, and whose output can be
    opened, does one write of the converted text and changes nothing else. It ends with code 0 and
    prints nothing on the standard output. Where no log setting is given, the standard error holds
    the summary, if it was asked for, and nothing else; its three numbers are the comments that were
    removed and the lengths before and after, which differ by the bytes of the comments and the CRs
    that were collapsed. -/
theorem run_writes (hwords : parse words = .ok i) {s : σ} {content : Bytes} {d : Derived}
    {place : FileStore.Place σ} (hread : FileStore.content s i.input = .ok content)
    (hdecode : i.encoding.decode content = .ok d)
    (hopen : FileStore.target s i.output = .ok place) {c : Conversion}
    (hc : c = convert d.text { normalize := !i.keepCrlf }) (logSetting : Option String) :
    ∃ o s', (run FileStore.access logSetting words).run s = (o, s') ∧
      o.code = 0 ∧ o.stdout = "" ∧
      (FileStore.access.write i.output (bytes c.text)).run s = (.ok (), s') ∧
      FileStore.Written s place (bytes c.text) s' ∧
      (logSetting = none → i.verbose = false → o.stderr = "") ∧
      (logSetting = none → i.verbose = true → ∃ n a b : Nat,
        o.stderr =
          i.input ++ " -> " ++ i.output ++ s!": {n} comment(s) removed, {a} -> {b} bytes\n" ∧
        n = c.stats.commentsRemoved ∧ a = d.text.utf8ByteSize ∧ b = c.text.utf8ByteSize ∧
        a = b + (c.stats.commentBytes + c.stats.crlfCollapsed)) := by
  obtain ⟨log, s', hperform, hwrite, hwritten⟩ :=
    Invocation.perform_of_target hread hdecode hopen
  have hoptions : convert d.text i.options = c := hc.symm
  rw [hoptions] at hperform hwrite hwritten
  refine ⟨_, s', run_of_done hwords hperform logSetting, rfl, rfl, hwrite, hwritten, ?_, ?_⟩
  · rintro rfl hquiet
    rw [Invocation.logged_none, hquiet]
    rfl
  · rintro rfl hverbose
    have hledger := strip_add_commentBytes d.text { normalize := !i.keepCrlf }
    have hcollapsed := text_add_crlfCollapsed d.text { normalize := !i.keepCrlf }
    rw [← hc] at hledger hcollapsed
    refine ⟨c.stats.commentsRemoved, d.text.utf8ByteSize, c.text.utf8ByteSize, ?_, rfl, rfl, rfl,
      ?_⟩
    · rw [Invocation.logged_none, hverbose, if_pos rfl, Invocation.summary, String.empty_append]
      simp [String.append_assoc]
    · omega

/-- A run whose input can be read and decoded, and whose output can be opened, does the conversion
    and nothing else. It ends with code 0 and prints nothing on the standard output. The output
    reads as the converted text, and so does every path to the same file, such as that of the input
    if they are the same; all other paths that could be read read as before, and what was at other
    places is there still. Where no log setting is given, the standard error holds the summary, if
    it was asked for, and nothing else; its three numbers are the comments that were removed and the
    lengths before and after, which differ by the bytes of the comments and the CRs that were
    collapsed. -/
theorem run_converts (hwords : parse words = .ok i) {t : FileTree} {content : Bytes}
    {d : Derived} {place : Location} (hread : t.read i.input = .ok content)
    (hdecode : i.encoding.decode content = .ok d) (hopen : t.target i.output = .ok place)
    {c : Conversion} (hc : c = convert d.text { normalize := !i.keepCrlf })
    (logSetting : Option String) :
    ∃ o t', (run FileTree.access logSetting words).run t = (o, t') ∧
      o.code = 0 ∧ o.stdout = "" ∧
      t'.read i.output = .ok (bytes c.text) ∧
      (∀ path old, t.read path = .ok old →
        (t.LeadsTo path place → t'.read path = .ok (bytes c.text)) ∧
          (¬ t.LeadsTo path place → t'.read path = .ok old)) ∧
      t'.find? place = some (.file (bytes c.text)) ∧
      (∀ other, other ≠ place → t'.find? other = t.find? other) ∧
      t'.workingDirectory = t.workingDirectory ∧
      (logSetting = none → i.verbose = false → o.stderr = "") ∧
      (logSetting = none → i.verbose = true → ∃ n a b : Nat,
        o.stderr =
          i.input ++ " -> " ++ i.output ++ s!": {n} comment(s) removed, {a} -> {b} bytes\n" ∧
        n = c.stats.commentsRemoved ∧ a = d.text.utf8ByteSize ∧ b = c.text.utf8ByteSize ∧
        a = b + (c.stats.commentBytes + c.stats.crlfCollapsed)) := by
  obtain ⟨o, t', hrun, hcode, hstdout, -, hwritten, hquiet, hsummary⟩ :=
    run_writes (s := t) hwords hread hdecode hopen hc logSetting
  have h : t.Written place (bytes c.text) t' := hwritten
  exact ⟨o, t', hrun, hcode, hstdout, h.read_of_target hopen, fun path old => h.read_of_read, h.new,
    h.frame, h.workingDirectory, hquiet, hsummary⟩

/-- A file is converted in place, under another path to it. -/
theorem run_converts_in_place :
    let t : FileTree := ⟨[(["a"], .file (bytes "x/*é*/\r\n"))], []⟩
    let words := ["-v", "a", "./a", "--input-encoding=utf8"]
    parse words = .ok ⟨"a", "./a", .utf8, false, true⟩ ∧
      t.read "a" = .ok (bytes "x/*é*/\r\n") ∧
      TextEncoding.decode .utf8 (bytes "x/*é*/\r\n") = .ok ⟨"x/*é*/\r\n", true⟩ ∧
      t.target "./a" = .ok ["a"] ∧
      ∃ o t', (run FileTree.access none words).run t = (o, t') ∧ o.code = 0 ∧
        t'.read "a" = .ok (bytes "x\n") ∧
        ∃ n a b : Nat,
          o.stderr = "a" ++ " -> " ++ "./a" ++ s!": {n} comment(s) removed, {a} -> {b} bytes\n" ∧
          n = 1 ∧ a = b + (6 + 1) := by
  intro t words
  have hwords : parse words = .ok ⟨"a", "./a", .utf8, false, true⟩ := by decide +kernel
  have hread : t.read "a" = .ok (bytes "x/*é*/\r\n") := by cbv
  have hdecode := TextEncoding.decode_utf8_bytes "x/*é*/\r\n"
  have hopen : t.target "./a" = .ok ["a"] := by cbv
  have hc : (⟨"x\n", ⟨1, 6, 1⟩⟩ : Conversion) = convert "x/*é*/\r\n" { normalize := !false } := by
    decide +kernel
  have hleads : t.LeadsTo "a" ["a"] := by
    unfold FileTree.LeadsTo
    cbv
  obtain ⟨o, t', hrun, hcode, -, -, hpaths, -, -, -, -, hsummary⟩ :=
    run_converts hwords hread hdecode hopen hc none
  obtain ⟨n, a, b, hstderr, hn, -, -, hlen⟩ := hsummary rfl rfl
  exact ⟨hwords, hread, hdecode, hopen, o, t', hrun, hcode, (hpaths "a" _ hread).1 hleads,
    n, a, b, hstderr, hn, hlen⟩

end Accepted

/-! ## All command lines -/

/-- A command line that is not accepted is answered by one of three texts, or ends with code 2. -/
theorem halt_cases (warnings : String) (halt : Halt) :
    (halt.outcome warnings).code = 0 ∨
      (halt.outcome warnings).code = 2 ∧ (halt.outcome warnings).stdout = "" := by
  cases halt with
  | shortHelp => exact .inl rfl
  | longHelp => exact .inl rfl
  | version => exact .inl rfl
  | usage error => exact .inr ⟨rfl, rfl⟩

/-- Whatever the arguments, and wherever files are stored: a run that ends with code 1 or 2, or
    prints the help or the version, changes nothing, and with these codes nothing is printed on the
    standard output. With accepted arguments the code is 1, behind what was logged with the report
    that the input could not be loaded, exactly if the input cannot be read or is to be read as
    UTF-8 and is none; it is 1 with the report that the output could not be saved exactly if that is
    not so and the output cannot be opened; and it is 0 exactly if neither is so. -/
theorem run_stops_iff (logSetting : Option String) (words : List String) (s : σ) :
    ∃ o s', (run FileStore.access logSetting words).run s = (o, s') ∧
      (o.code = 1 ∨ o.code = 2 ∨ o.stdout ∈ [shortHelp, longHelp, version] → s' = s) ∧
      (o.code = 1 ∨ o.code = 2 → o.stdout = "") ∧
      ∀ i, parse words = .ok i →
        (o.code = 1 ∧ o.Reports (i.logged logSetting s) "could not load input file" ↔
          i.Unloadable s) ∧
        (o.code = 1 ∧ o.Reports (i.logged logSetting s) "could not save output file" ↔
          ¬ i.Unloadable s ∧ i.Unsaveable s) ∧
        (o.code = 0 ↔ ¬ i.Unloadable s ∧ ¬ i.Unsaveable s) ∧
        (i.encoding = .latin1 →
          (o.code = 0 ↔ (∃ content, FileStore.content s i.input = .ok content) ∧
            ∃ place, FileStore.target s i.output = .ok place)) ∧
        (logSetting = none → i.logged logSetting s = "") := by
  cases hwords : parse words with
  | error halt =>
    refine ⟨_, s, run_of_halt hwords logSetting s, fun _ => rfl, ?_, fun i hi => by cases hi⟩
    intro hcode
    obtain hzero | ⟨-, hstdout⟩ := halt_cases (Log.Setting.ofString? logSetting).warnings halt
    · omega
    · exact hstdout
  | ok j =>
    obtain ⟨o, s', hrun, hstdout, hending⟩ := run_ending hwords logSetting s
    refine ⟨o, s', hrun, ?_, fun _ => hstdout, ?_⟩
    · intro hfailed
      apply hending.eq_of_code_ne_zero
      intro hzero
      have hquiet : "" ∉ [shortHelp, longHelp, version] := by decide +kernel
      rw [hzero, hstdout] at hfailed
      obtain hone | htwo | hprinted := hfailed
      · omega
      · omega
      · exact hquiet hprinted
    · intro i hi
      obtain rfl := Except.ok.inj hi
      refine ⟨hending.reports_load_iff, hending.reports_save_iff, hending.code_eq_zero_iff, ?_, ?_⟩
      · intro hlatin1
        rw [hending.code_eq_zero_iff, Invocation.not_unloadable_latin1 hlatin1,
          Invocation.Unsaveable, not_forall]
        simp only [not_not]
      · rintro rfl
        exact j.logged_none s

/-- Whatever the arguments and the files, a run that ends with code 1 or 2, or prints the help or
    the version, leaves all files and directories as they were, and with these codes nothing is
    printed on the standard output. With accepted arguments the code is 1, behind what was logged
    with the report that the input could not be loaded, exactly if the input cannot be read or is to
    be read as UTF-8 and is none; it is 1 with the report that the output could not be saved exactly
    if that is not so and the output cannot be opened; and it is 0 exactly if neither is so. Read as
    Latin-1, no content of the input makes a difference. Where no log setting is given, nothing is
    logged. -/
theorem run_fails_iff (logSetting : Option String) (words : List String) (t : FileTree) :
    ∃ o t', (run FileTree.access logSetting words).run t = (o, t') ∧
      (o.code = 1 ∨ o.code = 2 ∨ o.stdout ∈ [shortHelp, longHelp, version] → t' = t) ∧
      (o.code = 1 ∨ o.code = 2 → o.stdout = "") ∧
      ∀ i, parse words = .ok i →
        (o.code = 1 ∧ o.Reports (i.logged logSetting t) "could not load input file" ↔
          i.Unloadable t) ∧
        (o.code = 1 ∧ o.Reports (i.logged logSetting t) "could not save output file" ↔
          ¬ i.Unloadable t ∧ i.Unsaveable t) ∧
        (o.code = 0 ↔ ¬ i.Unloadable t ∧ ¬ i.Unsaveable t) ∧
        (i.encoding = .latin1 →
          (o.code = 0 ↔ (∃ content, t.read i.input = .ok content) ∧
            ∃ place, t.target i.output = .ok place)) ∧
        (logSetting = none → i.logged logSetting t = "") :=
  run_stops_iff logSetting words t

/-- A file that is no UTF-8, without another one and without a directory: the run fails for want of
    its input, for the encoding of it, and for want of the directory of its output. -/
theorem run_fails_at_each_step :
    let t : FileTree := ⟨[(["a"], .file [0xFF])], []⟩
    (∃ o, (run FileTree.access none ["b", "c"]).run t = (o, t) ∧ o.code = 1 ∧ o.stdout = "" ∧
      o.Reports "" "could not load input file") ∧
    (∃ o, (run FileTree.access none ["a", "c", "--input-encoding=utf8"]).run t = (o, t) ∧
      o.code = 1 ∧ o.stdout = "" ∧ o.Reports "" "could not load input file") ∧
    ∃ o, (run FileTree.access none ["a", "b/c"]).run t = (o, t) ∧ o.code = 1 ∧ o.stdout = "" ∧
      o.Reports "" "could not save output file" := by
  intro t
  have hfile : t.read "a" = .ok [0xFF] := by cbv
  have hmissing : t.read "b" = .error .notFound := by cbv
  have hnowhere : t.target "b/c" = .error .notFound := by cbv
  have hinvalid : ¬ Utf8.Valid [0xFF] := by
    rw [Utf8.valid_iff_split]
    decide +kernel
  -- a run that failed has left the tree alone, and nothing stands before its report
  have ended {words : List String} {i : Invocation} {step : String} {o : Outcome} {t' : FileTree}
      (hrun : (run FileTree.access none words).run t = (o, t'))
      (hsame : o.code = 1 ∨ o.code = 2 ∨ o.stdout ∈ [shortHelp, longHelp, version] → t' = t)
      (hstdout : o.code = 1 ∨ o.code = 2 → o.stdout = "")
      (hfailed : o.code = 1 ∧ o.Reports (i.logged none t) step) :
      ∃ o, (run FileTree.access none words).run t = (o, t) ∧ o.code = 1 ∧ o.stdout = "" ∧
        o.Reports "" step := by
    obtain ⟨hcode, hreports⟩ := hfailed
    rw [Invocation.logged_none] at hreports
    rw [hsame (.inl hcode)] at hrun
    exact ⟨o, hrun, hcode, hstdout (.inl hcode), hreports⟩
  refine ⟨?_, ?_, ?_⟩
  · obtain ⟨o, t', hrun, hsame, hstdout, hends⟩ := run_fails_iff none ["b", "c"] t
    obtain ⟨hload, -⟩ := hends ⟨"b", "c", .latin1, false, false⟩ (by decide +kernel)
    have hwhy : Invocation.Unloadable ⟨"b", "c", .latin1, false, false⟩ t :=
      .inl fun content hcontent => by cases hmissing.symm.trans hcontent
    exact ended hrun hsame hstdout (hload.2 hwhy)
  · obtain ⟨o, t', hrun, hsame, hstdout, hends⟩ :=
      run_fails_iff none ["a", "c", "--input-encoding=utf8"] t
    obtain ⟨hload, -⟩ := hends ⟨"a", "c", .utf8, false, false⟩ (by decide +kernel)
    have hwhy : Invocation.Unloadable ⟨"a", "c", .utf8, false, false⟩ t :=
      .inr ⟨rfl, [0xFF], hfile, hinvalid⟩
    exact ended hrun hsame hstdout (hload.2 hwhy)
  · obtain ⟨o, t', hrun, hsame, hstdout, hends⟩ := run_fails_iff none ["a", "b/c"] t
    obtain ⟨-, hsave, -⟩ := hends ⟨"a", "b/c", .latin1, false, false⟩ (by decide +kernel)
    have hloads : ¬ Invocation.Unloadable ⟨"a", "b/c", .latin1, false, false⟩ t :=
      (Invocation.not_unloadable_latin1 rfl).2 ⟨[0xFF], hfile⟩
    have hwhy : Invocation.Unsaveable ⟨"a", "b/c", .latin1, false, false⟩ t :=
      fun place hplace => by cases hnowhere.symm.trans hplace
    exact ended hrun hsame hstdout (hsave.2 ⟨hloads, hwhy⟩)

end Uncomment.Command
