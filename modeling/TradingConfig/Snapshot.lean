/-
  TradingConfig.Snapshot
  ────────────────────────────────
  **ALL CONFIGURATION AT ONCE.**

  A snapshot holds the entities of all three documents.  It answers what no
  single document can: which markets refer to a strategy that is not there.
-/
import TradingConfig.Repository.Collection
import TradingConfig.Repository.Exchange

namespace TradingConfig

/-- The entities of the three documents. -/
structure Snapshot where
  /-- All strategies in order. -/
  strategies : List Strategy
  /-- All markets in order. -/
  markets : List Market
  /-- The exchange. -/
  exchange : Exchange
  deriving DecidableEq, Inhabited

namespace Snapshot

/-- The snapshot of three readings; the first fault counts. -/
def gather (strategies : Except RepositoryFault (List Strategy))
    (markets : Except RepositoryFault (List Market))
    (exchange : Except RepositoryFault Exchange) : Except RepositoryFault Snapshot := do
  let strategies ← strategies
  let markets ← markets
  let exchange ← exchange
  .ok ⟨strategies, markets, exchange⟩

/-- Whether a strategy has an identifier. -/
def knows (snapshot : Snapshot) (id : String) : Bool :=
  snapshot.strategies.any fun strategy => strategy.id = id

/-- The markets that refer to a strategy that is not there. -/
def dangling (snapshot : Snapshot) : List Market :=
  snapshot.markets.filter fun market => !snapshot.knows market.strategyId

/-- The markets to trade on. -/
def enabledMarkets (snapshot : Snapshot) : List Market :=
  snapshot.markets.filter Market.enabled

end Snapshot

end TradingConfig
