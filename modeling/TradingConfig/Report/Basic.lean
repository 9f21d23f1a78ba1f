/-
  TradingConfig.Report.Basic
  ────────────────────────────────
  **WHAT THE PROGRAM REPORTS ABOUT ITSELF.**

  A report has a level, a message and named fields.
-/
import TradingConfig.Json.Value

namespace TradingConfig

/-- How important a report is. -/
inductive ReportLevel where
  /-- The program cannot go on. -/
  | error
  /-- Something deserves attention. -/
  | warn
  /-- What the program does. -/
  | info
  /-- Details of what the program does. -/
  | debug
  /-- Every detail. -/
  | trace
  deriving DecidableEq, Repr

namespace ReportLevel

/-- The levels by detail: a filter shows reports up to its own. -/
def detail : ReportLevel → Nat
  | .error => 1
  | .warn => 2
  | .info => 3
  | .debug => 4
  | .trace => 5

/-- The name of a level. -/
def name : ReportLevel → String
  | .error => "ERROR"
  | .warn => "WARN"
  | .info => "INFO"
  | .debug => "DEBUG"
  | .trace => "TRACE"

end ReportLevel

/-- A report. -/
structure Report where
  /-- How important it is. -/
  level : ReportLevel
  /-- What it says. -/
  message : String
  /-- Its fields, by name. -/
  fields : List (String × Json)
  deriving Repr

/-- The names of what a report holds besides its level. -/
def Report.names (report : Report) : List String :=
  "message" :: report.fields.map Prod.fst

/-- A report as one object: its level, its message and its fields. -/
def Report.toJson (report : Report) : Json :=
  .obj (("level", .str report.level.name) :: ("message", .str report.message) :: report.fields)

end TradingConfig
