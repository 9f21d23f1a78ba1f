/-
  TradingConfig.Record.Mapping
  ────────────────────────────────
  **BETWEEN STORED RECORDS AND ENTITIES.**

  On the way out a settings block becomes a map, and an absent block an
  empty one; a block that repeats a name would lose a value and is refused.
  On the way in a map becomes a block that is always present and lists the
  settings in ascending order of their names.  The credentials of the
  exchange never leave its record.
-/
import TradingConfig.Entity.Basic
import TradingConfig.Record.Basic

namespace TradingConfig

/-- A record whose settings block repeats a name. -/
structure Malformed where
  /-- The record, by its identifier or name. -/
  owner : String
  /-- The first name that repeats an earlier one. -/
  repeated : String
  deriving DecidableEq, Repr

namespace Malformed

/-- What is wrong with the record. -/
def reason (fault : Malformed) : String :=
  "duplicate config item '" ++ fault.repeated ++ "'"

/-- The wording of the fault. -/
def message (fault : Malformed) : String :=
  "entry '" ++ fault.owner ++ "' is malformed: " ++ fault.reason

end Malformed

/-! ## §1. Settings. -/

namespace Settings

/-- The settings extended by stored ones, up to the first that repeats a
name. -/
def extend (owner : String) : List Setting → Settings → Except Malformed Settings
  | [], settings => .ok settings
  | item :: rest, settings =>
    if settings.contains item.name then .error ⟨owner, item.name⟩
    else extend owner rest (settings.insert item.name item.value)

/-- The settings of a block that may be absent. -/
def ofBlock (owner : String) (block : Option SettingsBlock) : Except Malformed Settings :=
  extend owner ((block.map SettingsBlock.items).getD []) .empty

/-- The block that settings are stored as. -/
def toBlock (settings : Settings) : SettingsBlock :=
  ⟨settings.toList.map fun binding => ⟨binding.1, binding.2⟩⟩

end Settings

/-! ## §2. Strategies. -/

/-- The strategy that a record holds. -/
def StrategyRecord.toStrategy (stored : StrategyRecord) : Except Malformed Strategy := do
  let settings ← Settings.ofBlock stored.id stored.settings
  .ok ⟨stored.id, stored.name, stored.description, stored.className, settings⟩

/-- The record that a strategy is stored as. -/
def Strategy.toRecord (strategy : Strategy) : StrategyRecord :=
  ⟨strategy.id, strategy.name, strategy.description, strategy.className,
    some strategy.settings.toBlock⟩

/-- The record with everything but its identifier taken from a strategy. -/
def StrategyRecord.revise (stored : StrategyRecord) (strategy : Strategy) : StrategyRecord :=
  { strategy.toRecord with id := stored.id }

/-! ## §3. Markets. -/

/-- The market that a record holds. -/
def MarketRecord.toMarket (stored : MarketRecord) : Market :=
  ⟨stored.id, stored.name, stored.baseCurrency, stored.counterCurrency, stored.enabled,
    stored.strategyId⟩

/-- The record that a market is stored as. -/
def Market.toRecord (market : Market) : MarketRecord :=
  ⟨market.id, market.name, market.baseCurrency, market.counterCurrency, market.enabled,
    market.strategyId⟩

/-- The record with everything but its identifier taken from a market. -/
def MarketRecord.revise (stored : MarketRecord) (market : Market) : MarketRecord :=
  { market.toRecord with id := stored.id }

/-! ## §4. The exchange. -/

/-- The exchange that a record holds, without its credentials. -/
def ExchangeRecord.toExchange (stored : ExchangeRecord) : Except Malformed Exchange := do
  let settings ← Settings.ofBlock stored.name stored.settings
  .ok ⟨stored.name, stored.adapter,
    ⟨stored.network.connectionTimeout, stored.network.nonFatalCodes,
      stored.network.nonFatalMessages⟩, settings⟩

/-- The record that an exchange is stored as, with the given credentials. -/
def Exchange.toRecord (exchange : Exchange) (credentials : Option SettingsBlock) :
    ExchangeRecord :=
  ⟨exchange.name, exchange.className, credentials,
    ⟨exchange.network.connectionTimeout, exchange.network.nonFatalCodes,
      exchange.network.nonFatalMessages⟩, some exchange.settings.toBlock⟩

end TradingConfig
