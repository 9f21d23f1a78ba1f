/-
  TradingConfig.Entity.Basic
  ────────────────────────────────
  **THE CONFIGURATION AS CALLERS SEE IT.**

  Strategies, markets and the exchange connection of a trading bot, with
  their settings as maps.  Credentials are no part of it.  The JSON form
  has camel-case keys.
-/
import TradingConfig.Codec.Record

namespace TradingConfig

open Codec

/-! ## §1. Strategies. -/

/-- A trading strategy. -/
structure Strategy where
  /-- The identifier. -/
  id : String
  /-- The name to show. -/
  name : String
  /-- What the strategy does. -/
  description : String
  /-- The class that implements it. -/
  className : String
  /-- Its settings. -/
  settings : Settings
  deriving DecidableEq, Inhabited

namespace Strategy

/-- A strategy without settings. -/
def plain (id name description className : String) : Strategy :=
  ⟨id, name, description, className, .empty⟩

/-- The strategy with one more setting. -/
def withSetting (strategy : Strategy) (name value : String) : Strategy :=
  { strategy with settings := strategy.settings.insert name value }

/-- The strategy with further settings, one after the other. -/
def withSettings (strategy : Strategy) (pairs : List (String × String)) : Strategy :=
  pairs.foldl (fun strategy pair => strategy.withSetting pair.1 pair.2) strategy

/-- The JSON form. -/
def codec : Codec Strategy :=
  record "StrategyConfig"
    (.cons (.required "id" string) <| .cons (.required "name" string) <|
      .cons (.required "description" string) <| .cons (.required "className" string) <|
      .cons (.withDefault "configItems" Codec.settings .empty) .nil)
    (fun (id, name, description, className, settings, ()) =>
      ⟨id, name, description, className, settings⟩)
    (fun s => (s.id, s.name, s.description, s.className, s.settings, ()))

end Strategy

/-! ## §2. Markets. -/

/-- A market to trade on. -/
structure Market where
  /-- The identifier. -/
  id : String
  /-- The name to show. -/
  name : String
  /-- The currency that is traded. -/
  baseCurrency : String
  /-- The currency that it is traded for. -/
  counterCurrency : String
  /-- Whether the bot trades on this market. -/
  enabled : Bool
  /-- The identifier of the strategy to trade with. -/
  strategyId : String
  deriving DecidableEq, Inhabited

/-- The JSON form. -/
def Market.codec : Codec Market :=
  record "MarketConfig"
    (.cons (.required "id" string) <| .cons (.required "name" string) <|
      .cons (.required "baseCurrency" string) <| .cons (.required "counterCurrency" string) <|
      .cons (.required "enabled" bool) <| .cons (.required "tradingStrategyId" string) .nil)
    (fun (id, name, baseCurrency, counterCurrency, enabled, strategyId, ()) =>
      ⟨id, name, baseCurrency, counterCurrency, enabled, strategyId⟩)
    (fun m => (m.id, m.name, m.baseCurrency, m.counterCurrency, m.enabled, m.strategyId, ()))

/-! ## §3. The exchange. -/

/-- How the bot deals with the network. -/
structure Network where
  /-- The time-out of a connection in seconds. -/
  connectionTimeout : UInt32
  /-- The status codes of errors that are not fatal. -/
  nonFatalCodes : List UInt16
  /-- The messages of errors that are not fatal. -/
  nonFatalMessages : List String
  deriving DecidableEq, Inhabited

/-- The JSON form. -/
def Network.codec : Codec Network :=
  record "NetworkConfig"
    (.cons (.required "connectionTimeout" u32) <|
      .cons (.withDefault "nonFatalErrorHttpStatusCodes" (list u16) []) <|
      .cons (.withDefault "nonFatalErrorMessages" (list string) []) .nil)
    (fun (connectionTimeout, codes, messages, ()) => ⟨connectionTimeout, codes, messages⟩)
    (fun n => (n.connectionTimeout, n.nonFatalCodes, n.nonFatalMessages, ()))

/-- The exchange that the bot trades on. -/
structure Exchange where
  /-- The name to show. -/
  name : String
  /-- The class that implements the connection. -/
  className : String
  /-- How to deal with the network. -/
  network : Network
  /-- Further settings. -/
  settings : Settings
  deriving DecidableEq, Inhabited

/-- The JSON form. -/
def Exchange.codec : Codec Exchange :=
  record "ExchangeConfig"
    (.cons (.required "name" string) <| .cons (.required "className" string) <|
      .cons (.required "networkConfig" Network.codec) <|
      .cons (.withDefault "otherConfig" Codec.settings .empty) .nil)
    (fun (name, className, network, settings, ()) => ⟨name, className, network, settings⟩)
    (fun e => (e.name, e.className, e.network, e.settings, ()))

end TradingConfig
