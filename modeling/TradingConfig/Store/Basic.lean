/-
  TradingConfig.Store.Basic
  ────────────────────────────────
  **DOCUMENT STORES.**

  A store loads and saves one document per location.  What it does to its
  state `σ` is its own affair; a call answers, or it crashes.
-/
import TradingConfig.Store.Fault

namespace TradingConfig

/-- How a store call ends. -/
inductive Reply (α : Type) where
  /-- The store answers. -/
  | answer (result : Except StoreFault α)
  /-- The store crashes in the middle of the call. -/
  | crash

/-- A store of documents of type `D` with states of type `σ`. -/
structure Store (σ D : Type) where
  /-- Loads the document of a location. -/
  load : Location → σ → Reply D × σ
  /-- Saves a document at a location. -/
  save : D → Location → σ → Reply Unit × σ

end TradingConfig
