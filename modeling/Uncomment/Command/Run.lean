import Uncomment.Command.Invocation
import Uncomment.Convert
import Uncomment.File.TextFile
import Uncomment.Log.Filter
import Uncomment.Text.Quoted

/-!
# Running the command

The command reads its input, converts it and writes the result as UTF-8. Input and output may be the
same file. Nothing is written unless the whole input was read and decoded.

Results:
* `run_of_wrong_count`: a number of paths that is not right is answered with the usage line.
* `Invocation.run_perform`: an accepted command line does one read, one conversion and one write, in
  this order.
* `run_of_halt`: a command line that is not accepted leaves all files alone.
-/

namespace Uncomment.Command

/-! ## Outcomes -/

/-- What a run leaves behind besides files. -/
structure Outcome where
  code : Nat
  stdout : String := ""
  stderr : String := ""
deriving DecidableEq, Repr

/-- The step of a run that failed, with what went wrong. -/
inductive Failure where
  | load (cause : TextFile.Error)
  | save (cause : TextFile.Error)
deriving DecidableEq, Repr

/-- A numbered cause in the report of a failure; its further lines are aligned with the first. -/
def causeLine (number : Nat) (text : String) : String :=
  s!"    {number}: " ++ String.intercalate "\n       " (text.splitOn "\n") ++ "\n"

/-- The report of a failure: the step, and below it its causes. -/
def Failure.report : Failure → String
  | load cause => render "could not load input file" cause
  | save cause => render "could not save output file" cause
where
  render (step : String) (cause : TextFile.Error) : String :=
    "Error: " ++ step ++ "\n\nCaused by:\n" ++ causeLine 0 cause.message ++ causeLine 1 cause.cause

/-! ## Accepted command lines -/

/-- The log record of an accepted command line. -/
def Invocation.record (i : Invocation) : Log.Record :=
  { source := .command
    level := .debug
    message :=
      "Cli \x7b input: " ++ Text.quoted i.input ++ ", output: " ++ Text.quoted i.output ++
        ", input_encoding: " ++ (match i.encoding with | .latin1 => "Latin1" | .utf8 => "Utf8") ++
        s!", keep_crlf: {i.keepCrlf}, verbose: {i.verbose} \x7d" }

/-- What a conversion does under an invocation. -/
def Invocation.options (i : Invocation) : ConvertOptions := { normalize := !i.keepCrlf }

/-- The summary of a successful run. -/
def Invocation.summary (i : Invocation) (text : String) (c : Conversion) : String :=
  i.input ++ " -> " ++ i.output ++
    s!": {c.stats.commentsRemoved} comment(s) removed, {text.utf8ByteSize} -> " ++
    s!"{c.text.utf8ByteSize} bytes\n"

variable {m : Type → Type} [Monad m]

/-- Reads, converts and writes; answers what was logged, and the text that was read with its
    conversion or the failure. -/
def Invocation.perform (files : FileAccess m) (i : Invocation) :
    m (List Log.Record × Except Failure (String × Conversion)) := do
  let (readLog, loaded) ← TextFile.read files i.input i.encoding
  match loaded with
  | .error e => pure (readLog, .error (.load e))
  | .ok text =>
    let c := convert text i.options
    let log := readLog ++ [c.record text]
    let (writeLog, saved) ← TextFile.write files i.output c.text
    match saved with
    | .error e => pure (log ++ writeLog, .error (.save e))
    | .ok () => pure (log ++ writeLog, .ok (text, c))

/-- The outcome of what was performed; warnings come first, then records, then the summary or the
    report. -/
def Invocation.outcome (setting : Log.Setting) (i : Invocation) :
    List Log.Record × Except Failure (String × Conversion) → Outcome
  | (log, .error failure) =>
    { code := 1
      stderr := setting.warnings ++ Log.render setting.filter (i.record :: log) ++ failure.report }
  | (log, .ok (text, c)) =>
    { code := 0
      stderr :=
        setting.warnings ++ Log.render setting.filter (i.record :: log) ++
          if i.verbose then i.summary text c else "" }

/-! ## All command lines -/

/-- The outcome of a command line that leads to no conversion. -/
def Halt.outcome (warnings : String) : Halt → Outcome
  | shortHelp => { code := 0, stdout := Command.shortHelp, stderr := warnings }
  | longHelp => { code := 0, stdout := Command.longHelp, stderr := warnings }
  | version => { code := 0, stdout := Command.version, stderr := warnings }
  | usage error => { code := 2, stderr := warnings ++ error.message }

/-- Runs the command. Complaints about the log setting come first. -/
def run (files : FileAccess m) (logSetting : Option String) (words : List String) : m Outcome :=
  let setting := Log.Setting.ofString? logSetting
  match parse words with
  | .error halt => pure (halt.outcome setting.warnings)
  | .ok i => i.outcome setting <$> i.perform files

/-- A number of paths that is not right is answered with the usage line. -/
theorem run_of_wrong_count (files : FileAccess m) (logSetting : Option String)
    {paths : List String} (hplain : ∀ text ∈ paths, Item.isPlain text) (hempty : "" ∉ paths)
    (hcount : paths.length ≠ 2) :
    ∃ o options before behind, run files logSetting paths = pure o ∧ o.code = 2 ∧ o.stdout = "" ∧
      o.stderr = before ++ usageLine options ++ behind := by
  obtain ⟨e, options, hparse, hline⟩ := exists_parse_eq_error hplain hempty hcount
  obtain ⟨before, behind, hmessage⟩ := UsageError.exists_message_eq hline
  refine ⟨_, options, (Log.Setting.ofString? logSetting).warnings ++ before, behind,
    by rw [run, hparse], rfl, rfl, ?_⟩
  simp only [Halt.outcome, hmessage, String.append_assoc]

/-! ## On stored files -/

section

variable {σ : Type} [FileStore σ]

theorem Invocation.run_perform (i : Invocation) (s : σ) :
    (i.perform FileStore.access).run s =
      match FileStore.content s i.input with
      | .error cause => (([], .error (.load (.read i.input cause))), s)
      | .ok content =>
        let readRecord := TextFile.readRecord i.input i.encoding content
        match i.encoding.decode content with
        | .error cause => (([readRecord], .error (.load (.decode i.input cause))), s)
        | .ok d =>
          let c := convert d.text i.options
          match (FileStore.access.write i.output (Text.bytes c.text)).run s with
          | (.error cause, s') =>
            (([readRecord, c.record d.text], .error (.save (.write i.output cause))), s')
          | (.ok (), s') =>
            (([readRecord, c.record d.text, TextFile.wroteRecord i.output c.text],
              .ok (d.text, c)), s') := by
  rw [perform, StateT.run_bind, TextFile.run_read]
  cases FileStore.content s i.input with
  | error cause => rfl
  | ok content =>
    cases hdecode : i.encoding.decode content with
    | error cause =>
      simp only [hdecode]
      rfl
    | ok d =>
      simp only [hdecode]
      change StateT.run (TextFile.write _ i.output (convert d.text i.options).text >>= _) s = _
      rw [StateT.run_bind, TextFile.run_write]
      generalize convert d.text i.options = c
      cases (FileStore.access.write i.output (Text.bytes c.text)).run s with
      | mk result s' => cases result <;> rfl

theorem run_of_halt {words : List String} {halt : Halt} (h : parse words = .error halt)
    (logSetting : Option String) (s : σ) :
    (run FileStore.access logSetting words).run s =
      (halt.outcome (Log.Setting.ofString? logSetting).warnings, s) := by
  rw [run, h]
  rfl

end

end Uncomment.Command
