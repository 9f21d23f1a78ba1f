/-
  TradingConfig.Report.Filter
  ────────────────────────────────
  **WHICH REPORTS ARE SHOWN.**

  A filter is a list of directives between commas.  Of the directives that
  cover a report the most specific one says up to which detail it is shown.
  A piece that is no directive is ignored with a complaint.  Without any
  directive only errors are shown.
-/
import TradingConfig.Report.Directive

namespace TradingConfig

/-- The line about a piece that is no directive.  A torn one ends the
program after an empty line. -/
def DirectiveFault.complaint (piece : String) : DirectiveFault → String
  | .form => "ignoring `" ++ piece ++ "`: invalid filter directive"
  | .level => "ignoring `" ++ piece ++ "`: error parsing level filter: expected one of \"off\", "
      ++ "\"error\", \"warn\", \"info\", \"debug\", \"trace\", or a number 0-5"
  | .pattern fault => "ignoring `" ++ piece ++ "`: invalid field filter: " ++ fault.message
  | .torn => ""

/-- A filter: its directives in the order in which they are written. -/
structure ReportFilter where
  /-- The directives. -/
  directives : List Directive
  deriving DecidableEq, Repr

namespace ReportFilter

/-! ## §1. Reading. -/

/-- The pieces of a filter's text that are not empty. -/
def pieces (text : String) : List (List Char) :=
  (piecesBetween ',' text.toList).filter fun piece => !piece.isEmpty

/-- The faults of a filter's text with the pieces that they are in; nothing
is read after a torn piece. -/
def faults (text : String) : List (String × DirectiveFault) :=
  collect (pieces text)
where
  /-- The faults of pieces. -/
  collect : List (List Char) → List (String × DirectiveFault)
    | [] => []
    | piece :: rest => match Directive.parse piece with
      | .ok _ => collect rest
      | .error .torn => [(String.ofList piece, .torn)]
      | .error fault => (String.ofList piece, fault) :: collect rest

/-- What is said about the pieces that are no directives. -/
def complaints (text : String) : List String :=
  (faults text).map fun fault => fault.2.complaint fault.1

/-- Whether a piece of the text is torn, so that there is no filter. -/
def isTorn (text : String) : Bool :=
  (faults text).any fun fault => fault.2 = .torn

/-- The filter that a text stands for. -/
def parse (text : String) : ReportFilter :=
  let directives := (pieces text).filterMap fun piece => (Directive.parse piece).toOption
  if directives.isEmpty then ⟨[⟨none, none, false, ReportLevel.error.detail⟩]⟩ else ⟨directives⟩

/-! ## §2. Showing. -/

/-- The directive that counts for a report of a source. -/
def directive? (filter : ReportFilter) (source : String) (report : Report) : Option Directive :=
  (filter.directives.filter fun directive => directive.covers source report).foldl
    (fun best directive => match best with
      | none => some directive
      | some first => if first.upTo directive then some directive else some first) none

/-- Whether a report of a source is shown. -/
def shows (filter : ReportFilter) (source : String) (report : Report) : Bool :=
  (filter.directive? source report).any fun directive => report.level.detail ≤ directive.detail

end ReportFilter

end TradingConfig
