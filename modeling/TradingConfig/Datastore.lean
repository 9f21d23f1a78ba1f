/-
  TradingConfig.Datastore
  ────────────────────────────────
  **THE THREE DOCUMENTS AND THEIR REPOSITORIES.**

  A datastore knows the files of the strategies, the markets and the
  exchange, and who decides about their schemas; each class has a repository
  over the store of JSON files.
-/
import TradingConfig.Options.Basic
import TradingConfig.Repository.DocumentClass
import TradingConfig.Repository.Lock
import TradingConfig.Snapshot
import TradingConfig.Store.Checked

namespace TradingConfig

/-- The files of the three documents, with the validator of their schemas. -/
structure Datastore where
  /-- The files of the strategies. -/
  strategies : Location
  /-- The files of the markets. -/
  markets : Location
  /-- The files of the exchange. -/
  exchange : Location
  /-- The validator. -/
  validator : Validator

namespace Datastore

/-- The datastore that options describe. -/
def ofOptions (options : DatastoreOptions) (validator : Validator := .keywords) : Datastore :=
  ⟨options.strategies, options.markets, options.exchange, validator⟩

/-- The data files. -/
def dataPaths (datastore : Datastore) : List Path :=
  [datastore.strategies.data, datastore.markets.data, datastore.exchange.data]

/-- The schema files. -/
def schemaPaths (datastore : Datastore) : List Path :=
  [datastore.strategies.schema, datastore.markets.schema, datastore.exchange.schema]

/-- The repository of the strategies. -/
def strategyRepository (datastore : Datastore) (home : Place) :
    Repository FileTree (List StrategyRecord) :=
  .ofLocation (.checked StrategyRecord.documentCodec datastore.validator) home datastore.strategies

/-- The repository of the markets. -/
def marketRepository (datastore : Datastore) (home : Place) :
    Repository FileTree (List MarketRecord) :=
  .ofLocation (.checked MarketRecord.documentCodec datastore.validator) home datastore.markets

/-- The repository of the exchange. -/
def exchangeRepository (datastore : Datastore) (home : Place) :
    Repository FileTree ExchangeRecord :=
  .ofLocation (.checked ExchangeRecord.documentCodec datastore.validator) home datastore.exchange

/-- The files of the documents of a class. -/
def location (datastore : Datastore) : DocumentClass → Location
  | .strategies => datastore.strategies
  | .markets => datastore.markets
  | .exchange => datastore.exchange

/-- The repository of a class. -/
def repository (datastore : Datastore) (home : Place) (documentClass : DocumentClass) :
    Repository FileTree documentClass.Document :=
  .ofLocation (.checked documentClass.codec datastore.validator) home
    (datastore.location documentClass)

theorem repository_strategies (datastore : Datastore) (home : Place) :
    datastore.repository home .strategies = datastore.strategyRepository home := rfl

theorem repository_markets (datastore : Datastore) (home : Place) :
    datastore.repository home .markets = datastore.marketRepository home := rfl

theorem repository_exchange (datastore : Datastore) (home : Place) :
    datastore.repository home .exchange = datastore.exchangeRepository home := rfl

/-! ## Reading. -/

/-- The strategies as the files hold them. -/
def readStrategies (datastore : Datastore) (files : Store.Files) :
    Except RepositoryFault (List Strategy) :=
  Program.seen Collection.strategies.entities
    (Store.loadDocument StrategyRecord.documentCodec datastore.strategies files datastore.validator)

/-- The markets as the files hold them. -/
def readMarkets (datastore : Datastore) (files : Store.Files) :
    Except RepositoryFault (List Market) :=
  Program.seen Collection.markets.entities
    (Store.loadDocument MarketRecord.documentCodec datastore.markets files datastore.validator)

/-- The exchange as the files hold it. -/
def readExchange (datastore : Datastore) (files : Store.Files) :
    Except RepositoryFault Exchange :=
  Program.seen ExchangeRecord.toExchange
    (Store.loadDocument ExchangeRecord.documentCodec datastore.exchange files datastore.validator)

/-- The snapshot of the files: the strategies are read first, then the
markets, then the exchange. -/
def snapshot (datastore : Datastore) (files : Store.Files) : Except RepositoryFault Snapshot :=
  Snapshot.gather (datastore.readStrategies files) (datastore.readMarkets files)
    (datastore.readExchange files)

end Datastore

end TradingConfig
