/-
  TradingConfig.Options.Basic
  ────────────────────────────────
  **THE OPTIONS OF THE PROGRAM.**

  Where the documents are, how the program is called, and whether it
  watches its files.  Every option has a default.
-/
import TradingConfig.File.Path

namespace TradingConfig

/-- Options about the program itself. -/
structure ServiceOptions where
  /-- The name under which the program reports. -/
  name : String := "tradebot-config-store"
  /-- Which reports are shown. -/
  logLevel : String := "info"
  deriving DecidableEq, Repr

/-- The names of the files, all relative to one directory. -/
structure DatastoreOptions where
  /-- The directory. -/
  directory : String := "datastore"
  /-- The data file of the strategies. -/
  strategiesFile : String := "strategies.json"
  /-- The schema file of the strategies. -/
  strategiesSchema : String := "strategies.schema.json"
  /-- The data file of the markets. -/
  marketsFile : String := "markets.json"
  /-- The schema file of the markets. -/
  marketsSchema : String := "markets.schema.json"
  /-- The data file of the exchange. -/
  exchangeFile : String := "exchange.json"
  /-- The schema file of the exchange. -/
  exchangeSchema : String := "exchange.schema.json"
  deriving DecidableEq, Repr

/-- Options about watching the data files. -/
structure WatcherOptions where
  /-- Whether the files are watched. -/
  enabled : Bool := true
  /-- The seconds between two looks at the files. -/
  pollSeconds : Nat := 60
  deriving DecidableEq, Repr

/-- All options. -/
structure Options where
  /-- About the program. -/
  service : ServiceOptions := {}
  /-- About the files. -/
  datastore : DatastoreOptions := {}
  /-- About watching. -/
  watcher : WatcherOptions := {}
  deriving DecidableEq, Repr

namespace DatastoreOptions

/-- The files of the strategies. -/
def strategies (options : DatastoreOptions) : Location :=
  .inDirectory ⟨options.directory⟩ ⟨options.strategiesFile⟩ ⟨options.strategiesSchema⟩

/-- The files of the markets. -/
def markets (options : DatastoreOptions) : Location :=
  .inDirectory ⟨options.directory⟩ ⟨options.marketsFile⟩ ⟨options.marketsSchema⟩

/-- The files of the exchange. -/
def exchange (options : DatastoreOptions) : Location :=
  .inDirectory ⟨options.directory⟩ ⟨options.exchangeFile⟩ ⟨options.exchangeSchema⟩

end DatastoreOptions

end TradingConfig
