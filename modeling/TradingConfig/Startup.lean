/-
  TradingConfig.Startup
  ────────────────────────────────
  **FROM THE COMMAND LINE TO A RUNNING WATCHER.**

  The program reads its options, then all documents; with the watcher
  enabled it then watches until it is interrupted.  Everything but the
  waiting is decided here: what is reported, what goes to the error output,
  and the exit code.
-/
import TradingConfig.Options.Loader
import TradingConfig.Report.Filter
import TradingConfig.Watcher

namespace TradingConfig.Startup

/-- The version of the program. -/
def version : String := "0.3.0"

/-- The name under which the program's own reports are filtered. -/
def source : String := "tradebot_config_store"

/-- The options file that a command line names first, or `config.toml`. -/
def optionsPath (arguments : List String) : Path :=
  ⟨arguments.headD "config.toml"⟩

/-- How a start ends: with a reason to stop, or with a watcher to run. -/
inductive Stage where
  /-- The program stops here with an exit code. -/
  | stopped (exitCode : Nat)
  /-- The watcher runs until the program is interrupted. -/
  | watching (options : Options) (watcher : Watcher)

/-- What a start has come to. -/
structure Progress where
  /-- The reports that are shown. -/
  reports : List Report
  /-- The lines on the error output. -/
  errors : List String
  /-- How it goes on. -/
  stage : Stage

/-! ## §1. Reports. -/

/-- A report of what the program does. -/
def info (message : String) (fields : List (String × Json)) : Report :=
  ⟨.info, message, fields⟩

/-- The first report. -/
def starting (options : Options) : Report :=
  info "Starting configuration store" [
    ("name", .str options.service.name), ("version", .str version),
    ("datastore", .str options.datastore.directory)]

/-- The report on the documents. -/
def validated (snapshot : Snapshot) : Report :=
  info "Configuration documents validated" [
    ("strategies", .num (.int snapshot.strategies.length)),
    ("markets", .num (.int snapshot.markets.length)),
    ("enabled_markets", .num (.int snapshot.enabledMarkets.length)),
    ("exchange", .str snapshot.exchange.name)]

/-- The report of a start without a watcher. -/
def unwatched : Report :=
  ⟨.warn, "Document watcher disabled, exiting after validation", []⟩

/-- The report of a start with a watcher. -/
def watching : Report := info "Document watcher running" []

/-- The reports of an interrupted watcher. -/
def interrupted : List Report :=
  [info "SIGINT received, initiating graceful shutdown" [], info "Shutdown complete" []]

/-- The reports that the options show. -/
def shown (options : Options) (reports : List Report) : List Report :=
  let filter := ReportFilter.parse options.service.logLevel
  reports.filter fun report => filter.shows source report

/-! ## §2. The start. -/

/-- The program from its arguments up to the point where it stops or waits. -/
def begin (files : Store.Files) (arguments : List String) : Progress :=
  match Options.load files (optionsPath arguments) with
  | .error _ => ⟨[], ["Error: Failed to load configuration"], .stopped 1⟩
  | .ok options =>
    let complaints := ReportFilter.complaints options.service.logLevel
    if ReportFilter.isTorn options.service.logLevel then ⟨[], complaints, .stopped 101⟩
    else
      let datastore := Datastore.ofOptions options.datastore
      match datastore.snapshot files with
      | .error _ =>
        ⟨shown options [starting options],
          complaints ++ ["Error: Configuration documents failed to load"], .stopped 1⟩
      | .ok snapshot =>
        let reports := [starting options, validated snapshot]
        if options.watcher.enabled then
          ⟨shown options (reports ++ [watching]), complaints,
            .watching options (Watcher.create datastore snapshot)⟩
        else ⟨shown options (reports ++ [unwatched]), complaints, .stopped 0⟩

/-- How a program ended. -/
structure Ended where
  /-- The exit code. -/
  exitCode : Nat
  /-- Whether it had to be interrupted. -/
  wasInterrupted : Bool
  /-- The lines on the error output. -/
  errors : List String
  /-- The reports that were shown. -/
  reports : List Report

/-- The whole run of a program that is interrupted once it waits. -/
def run (files : Store.Files) (arguments : List String) : Ended :=
  let progress := begin files arguments
  match progress.stage with
  | .stopped exitCode => ⟨exitCode, false, progress.errors, progress.reports⟩
  | .watching options _ =>
    ⟨0, true, progress.errors, progress.reports ++ shown options interrupted⟩

end TradingConfig.Startup
