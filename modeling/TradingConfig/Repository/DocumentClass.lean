/-
  TradingConfig.Repository.DocumentClass
  ────────────────────────────────
  **THE THREE CLASSES OF DOCUMENTS.**

  Strategies and markets are collections, the exchange is a single record.
  The class of a document fixes its type and its JSON form, the calls of
  its repositories and what they answer.
-/
import TradingConfig.Repository.Collection
import TradingConfig.Repository.Exchange

namespace TradingConfig

/-- The classes of documents. -/
inductive DocumentClass where
  /-- The trading strategies. -/
  | strategies
  /-- The markets to trade on. -/
  | markets
  /-- The exchange to trade on. -/
  | exchange
  deriving DecidableEq, Repr

namespace DocumentClass

/-- The documents of a class. -/
def Document : DocumentClass → Type
  | .strategies => List StrategyRecord
  | .markets => List MarketRecord
  | .exchange => ExchangeRecord

/-- The JSON form of the documents of a class. -/
def codec : (documentClass : DocumentClass) → Codec documentClass.Document
  | .strategies => StrategyRecord.documentCodec
  | .markets => MarketRecord.documentCodec
  | .exchange => ExchangeRecord.documentCodec

/-- The calls of the repositories of a class. -/
def Call : DocumentClass → Type
  | .strategies => CollectionCall Strategy
  | .markets => CollectionCall Market
  | .exchange => ExchangeCall

/-- What the calls of a class answer. -/
def Answer : DocumentClass → Type
  | .strategies => CollectionAnswer Strategy
  | .markets => CollectionAnswer Market
  | .exchange => Exchange

/-- Whether a call is made under the write lock of its document. -/
def writes : (documentClass : DocumentClass) → documentClass.Call → Bool
  | .strategies => CollectionCall.writes
  | .markets => CollectionCall.writes
  | .exchange => ExchangeCall.writes

/-- The program of a call. -/
def program : (documentClass : DocumentClass) → documentClass.Call →
    Program documentClass.Document (Except RepositoryFault documentClass.Answer)
  | .strategies => CollectionCall.program Collection.strategies
  | .markets => CollectionCall.program Collection.markets
  | .exchange => ExchangeCall.program

end DocumentClass

end TradingConfig
