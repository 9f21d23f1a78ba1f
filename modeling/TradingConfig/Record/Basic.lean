/-
  TradingConfig.Record.Basic
  ────────────────────────────────
  **THE CONFIGURATION AS IT IS STORED.**

  Stored records list their settings in a block, in any order and possibly
  with repeated names, or have no block at all.  The record of the exchange
  holds the credentials.  The JSON form has kebab-case keys.

  A document of strategies or of markets is the list of its records; the
  document of the exchange is one record.
-/
import TradingConfig.Codec.Record

namespace TradingConfig

open Codec

/-! ## §1. Settings blocks. -/

/-- One stored setting. -/
structure Setting where
  /-- The name. -/
  name : String
  /-- The value. -/
  value : String
  deriving DecidableEq, Inhabited

/-- The JSON form. -/
def Setting.codec : Codec Setting :=
  record "ConfigItem"
    (.cons (.required "name" string) <| .cons (.required "value" string) .nil)
    (fun (name, value, ()) => ⟨name, value⟩)
    (fun s => (s.name, s.value, ()))

/-- A block of stored settings. -/
structure SettingsBlock where
  /-- The settings in the order in which they are stored. -/
  items : List Setting
  deriving DecidableEq, Inhabited

/-- The JSON form. -/
def SettingsBlock.codec : Codec SettingsBlock :=
  record "ConfigItems"
    (.cons (.withDefault "config-items" (list Setting.codec) []) .nil)
    (fun (items, ()) => ⟨items⟩)
    (fun b => (b.items, ()))

/-! ## §2. Strategies. -/

/-- A stored strategy. -/
structure StrategyRecord where
  /-- The identifier. -/
  id : String
  /-- The name to show. -/
  name : String
  /-- What the strategy does. -/
  description : String
  /-- The class that implements it. -/
  className : String
  /-- Its settings, if it has a block. -/
  settings : Option SettingsBlock
  deriving DecidableEq, Inhabited

namespace StrategyRecord

/-- The JSON form. -/
def codec : Codec StrategyRecord :=
  record "StrategyEntry"
    (.cons (.required "id" string) <| .cons (.required "name" string) <|
      .cons (.required "description" string) <| .cons (.required "class-name" string) <|
      .cons (.optional "optional-config" SettingsBlock.codec) .nil)
    (fun (id, name, description, className, settings, ()) =>
      ⟨id, name, description, className, settings⟩)
    (fun s => (s.id, s.name, s.description, s.className, s.settings, ()))

/-- The JSON form of a document of strategies. -/
def documentCodec : Codec (List StrategyRecord) :=
  record "StrategiesDocument"
    (.cons (.withDefault "strategies" (list codec) []) .nil)
    (fun (strategies, ()) => strategies)
    (fun strategies => (strategies, ()))

end StrategyRecord

/-! ## §3. Markets. -/

/-- A stored market. -/
structure MarketRecord where
  /-- The identifier. -/
  id : String
  /-- The name to show. -/
  name : String
  /-- The currency that is traded. -/
  baseCurrency : String
  /-- The currency that it is traded for. -/
  counterCurrency : String
  /-- Whether the bot trades on this market. -/
  enabled : Bool
  /-- The identifier of the strategy to trade with. -/
  strategyId : String
  deriving DecidableEq, Inhabited

namespace MarketRecord

/-- The JSON form. -/
def codec : Codec MarketRecord :=
  record "MarketEntry"
    (.cons (.required "id" string) <| .cons (.required "name" string) <|
      .cons (.required "base-currency" string) <| .cons (.required "counter-currency" string) <|
      .cons (.required "enabled" bool) <| .cons (.required "trading-strategy-id" string) .nil)
    (fun (id, name, baseCurrency, counterCurrency, enabled, strategyId, ()) =>
      ⟨id, name, baseCurrency, counterCurrency, enabled, strategyId⟩)
    (fun m => (m.id, m.name, m.baseCurrency, m.counterCurrency, m.enabled, m.strategyId, ()))

/-- The JSON form of a document of markets. -/
def documentCodec : Codec (List MarketRecord) :=
  record "MarketsDocument"
    (.cons (.withDefault "markets" (list codec) []) .nil)
    (fun (markets, ()) => markets)
    (fun markets => (markets, ()))

end MarketRecord

/-! ## §4. The exchange. -/

/-- How the bot deals with the network, as it is stored. -/
structure NetworkRecord where
  /-- The time-out of a connection in seconds. -/
  connectionTimeout : UInt32
  /-- The status codes of errors that are not fatal. -/
  nonFatalCodes : List UInt16
  /-- The messages of errors that are not fatal. -/
  nonFatalMessages : List String
  deriving DecidableEq, Inhabited

/-- The JSON form. -/
def NetworkRecord.codec : Codec NetworkRecord :=
  record "NetworkConfigEntry"
    (.cons (.required "connection-timeout" u32) <|
      .cons (.withDefault "non-fatal-error-codes" (list u16) []) <|
      .cons (.withDefault "non-fatal-error-messages" (list string) []) .nil)
    (fun (connectionTimeout, codes, messages, ()) => ⟨connectionTimeout, codes, messages⟩)
    (fun n => (n.connectionTimeout, n.nonFatalCodes, n.nonFatalMessages, ()))

/-- The stored exchange. -/
structure ExchangeRecord where
  /-- The name to show. -/
  name : String
  /-- The class that implements the connection. -/
  adapter : String
  /-- The credentials, if there is a block of them. -/
  credentials : Option SettingsBlock
  /-- How to deal with the network. -/
  network : NetworkRecord
  /-- Further settings, if there is a block of them. -/
  settings : Option SettingsBlock
  deriving DecidableEq, Inhabited

namespace ExchangeRecord

/-- The JSON form. -/
def codec : Codec ExchangeRecord :=
  record "ExchangeEntry"
    (.cons (.required "name" string) <| .cons (.required "adapter" string) <|
      .cons (.optional "authentication-config" SettingsBlock.codec) <|
      .cons (.required "network-config" NetworkRecord.codec) <|
      .cons (.optional "other-config" SettingsBlock.codec) .nil)
    (fun (name, adapter, credentials, network, settings, ()) =>
      ⟨name, adapter, credentials, network, settings⟩)
    (fun e => (e.name, e.adapter, e.credentials, e.network, e.settings, ()))

/-- The JSON form of the document of the exchange. -/
def documentCodec : Codec ExchangeRecord :=
  record "ExchangeDocument"
    (.cons (.required "exchange" codec) .nil)
    (fun (exchange, ()) => exchange)
    (fun exchange => (exchange, ()))

end ExchangeRecord

end TradingConfig
