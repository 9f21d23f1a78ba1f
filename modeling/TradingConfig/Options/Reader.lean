/-
  TradingConfig.Options.Reader
  ────────────────────────────────
  **READING THE OPTIONS FROM A TOML TEXT.**

  A section is a table, or an array of its values in order; options that
  are left out have their defaults, and unknown ones are ignored.  What was
  read must satisfy the rules of `validate`, in their order.
-/
import TradingConfig.Options.Basic
import TradingConfig.Text.Blank
import TradingConfig.Toml.Reader

namespace TradingConfig

/-- The reason why a text gives no options. -/
inductive OptionsFault where
  /-- The text is not TOML, or a value is of the wrong type. -/
  | unreadable
  /-- The name of the program is blank. -/
  | blankName
  /-- The directory is blank. -/
  | blankDirectory
  /-- The name of a file is blank. -/
  | blankFile (option : String)
  /-- Two documents have the same data file. -/
  | sharedDataFile
  /-- The time between two looks is zero. -/
  | zeroInterval
  deriving DecidableEq, Repr

/-- The wording of a fault. -/
def OptionsFault.message : OptionsFault → String
  | .unreadable => "Failed to parse config.toml"
  | .blankName => "Service name must not be empty"
  | .blankDirectory => "Datastore dir must not be empty"
  | .blankFile option => "Datastore " ++ option ++ " must not be empty"
  | .sharedDataFile => "Strategies, markets and exchange must use distinct data files"
  | .zeroInterval => "Watcher poll_interval_seconds must be positive, got 0"

namespace Options

open Toml (Value Entries)

/-! ## §1. Reading. -/

/-- The values of a section, by position and key. -/
abbrev Section := Nat → String → Option Value

/-- A section of the document; without it nothing is set. -/
def section? (entries : Entries) (key : String) : Option Section :=
  match KeyedList.get? key entries with
  | none => some fun _ _ => none
  | some (.table _ inner) => some fun _ name => KeyedList.get? name inner
  | some (.array items) => some fun index _ => items[index]?
  | some (.tables items) => some fun index _ => (items[index]?).map (.table .opened)
  | some .moment => some fun _ _ => none
  | some _ => none

/-- A string option. -/
def text (found : Option Value) (default : String) : Option String :=
  match found with
  | none => some default
  | some (.string text) => some text
  | some _ => none

/-- A truth value. -/
def truth (found : Option Value) (default : Bool) : Option Bool :=
  match found with
  | none => some default
  | some (.boolean value) => some value
  | some _ => none

/-- A natural number. -/
def natural (found : Option Value) (default : Nat) : Option Nat :=
  match found with
  | none => some default
  | some (.integer value) => if 0 ≤ value then some value.toNat else none
  | some _ => none

/-- The options that the entries of a document set. -/
def ofEntries? (entries : Entries) : Option Options := do
  let options : Options := {}
  let service ← section? entries "service"
  let datastore ← section? entries "datastore"
  let watcher ← section? entries "watcher"
  let name ← text (service 0 "name") options.service.name
  let logLevel ← text (service 1 "log_level") options.service.logLevel
  let directory ← text (datastore 0 "dir") options.datastore.directory
  let strategiesFile ← text (datastore 1 "strategies_file") options.datastore.strategiesFile
  let strategiesSchema ← text (datastore 2 "strategies_schema") options.datastore.strategiesSchema
  let marketsFile ← text (datastore 3 "markets_file") options.datastore.marketsFile
  let marketsSchema ← text (datastore 4 "markets_schema") options.datastore.marketsSchema
  let exchangeFile ← text (datastore 5 "exchange_file") options.datastore.exchangeFile
  let exchangeSchema ← text (datastore 6 "exchange_schema") options.datastore.exchangeSchema
  let enabled ← truth (watcher 0 "enabled") options.watcher.enabled
  let pollSeconds ← natural (watcher 1 "poll_interval_seconds") options.watcher.pollSeconds
  some {
    service := ⟨name, logLevel⟩
    datastore := ⟨directory, strategiesFile, strategiesSchema, marketsFile, marketsSchema,
      exchangeFile, exchangeSchema⟩
    watcher := ⟨enabled, pollSeconds⟩ }

/-! ## §2. Rules. -/

/-- The file options by their names, in the order in which they are checked. -/
def fileOptions (options : DatastoreOptions) : List (String × String) := [
  ("strategies_file", options.strategiesFile), ("strategies_schema", options.strategiesSchema),
  ("markets_file", options.marketsFile), ("markets_schema", options.marketsSchema),
  ("exchange_file", options.exchangeFile), ("exchange_schema", options.exchangeSchema)]

/-- The first rule that options break. -/
def validate (options : Options) : Except OptionsFault Unit := do
  if isBlankText options.service.name then .error .blankName
  else if isBlankText options.datastore.directory then .error .blankDirectory
  else match (fileOptions options.datastore).find? fun option => isBlankText option.2 with
    | some option => .error (.blankFile option.1)
    | none =>
      let files := options.datastore
      if files.strategiesFile = files.marketsFile ∨ files.strategiesFile = files.exchangeFile
          ∨ files.marketsFile = files.exchangeFile then .error .sharedDataFile
      else if options.watcher.pollSeconds = 0 then .error .zeroInterval
      else .ok ()

/-- The options that a text gives. -/
def parse (content : String) : Except OptionsFault Options :=
  match (Toml.ofText? content).bind ofEntries? with
  | none => .error .unreadable
  | some options => do
    options.validate
    .ok options

end Options

end TradingConfig
