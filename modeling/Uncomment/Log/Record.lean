import Uncomment.Text.Terminal

/-!
# Log records

Every stage reports what it did as a log record.

Results:
* `rank_injective`: no two levels matter equally much.
-/

namespace Uncomment.Log

/-! ## Levels and sources -/

/-- How much a record matters, most important first. -/
inductive Level where
  | error | warn | info | debug | trace
deriving DecidableEq, Repr

namespace Level

/-- All levels, most important first. -/
def all : List Level := [error, warn, info, debug, trace]

/-- The level's name in a record. -/
def name : Level → String
  | error => "ERROR"
  | warn => "WARN"
  | info => "INFO"
  | debug => "DEBUG"
  | trace => "TRACE"

/-- How many levels matter at least as much. -/
def rank (level : Level) : Nat := all.idxOf level + 1

theorem rank_injective {a b : Level} (h : a.rank = b.rank) : a = b := by
  cases a <;> cases b <;> first | rfl | cases h

end Level

/-- The part of the program that a record comes from. -/
inductive Source where
  | command | textFile | converter
deriving DecidableEq, Repr

/-- The source's name in a record. -/
def Source.name : Source → String
  | command => "cstrip"
  | textFile => "cstrip_textio"
  | converter => "cstrip_core"

/-! ## Records -/

/-- One report of one stage. -/
structure Record where
  source : Source
  level : Level
  message : String
deriving DecidableEq, Repr

namespace Record

/-- Level and message, without the source. -/
def brief (r : Record) : String := r.level.name ++ " " ++ r.message

/-- The record as it is shown, without terminal controls; the further lines of a message are
    indented by four spaces. The time that a logger puts before the level is left out, as nothing
    here depends on a clock. -/
def line (r : Record) : String :=
  Text.Terminal.plain <|
    "[" ++ r.level.name ++ " " ++ r.source.name ++ "] " ++
      String.intercalate "\n    " (r.message.splitOn "\n") ++ "\n"

end Record

end Uncomment.Log
