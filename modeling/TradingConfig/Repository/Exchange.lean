/-
  TradingConfig.Repository.Exchange
  ────────────────────────────────
  **THE REPOSITORY OF THE EXCHANGE.**

  The document holds exactly one record.  A save replaces what callers see
  and carries the stored credentials over, which callers never see.
-/
import TradingConfig.Repository.Program

namespace TradingConfig

namespace Exchange

/-- Reads the exchange. -/
def get : Program ExchangeRecord (Except RepositoryFault Exchange) :=
  .reading ExchangeRecord.toExchange

/-- Replaces the exchange and answers with what is stored now. -/
def save (exchange : Exchange) : Program ExchangeRecord (Except RepositoryFault Exchange) :=
  .loading fun document => .saving (exchange.toRecord document.credentials) get

end Exchange

/-- A call of the repository of the exchange. -/
inductive ExchangeCall where
  /-- Reads the exchange. -/
  | get
  /-- Replaces the exchange. -/
  | save (exchange : Exchange)
  deriving DecidableEq

namespace ExchangeCall

/-- Whether a call is made under the write lock of its document. -/
def writes : ExchangeCall → Bool
  | .get => false
  | .save _ => true

/-- The program of a call. -/
def program : ExchangeCall → Program ExchangeRecord (Except RepositoryFault Exchange)
  | .get => Exchange.get
  | .save exchange => exchange.save

end ExchangeCall

end TradingConfig
