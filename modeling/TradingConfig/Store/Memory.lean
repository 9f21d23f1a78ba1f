/-
  TradingConfig.Store.Memory
  ────────────────────────────────
  **A STORE IN MEMORY.**

  It holds one document whatever the location, never fails, and counts the
  calls.
-/
import TradingConfig.Store.Basic

namespace TradingConfig

/-- The state of a store in memory. -/
structure Memory (D : Type) where
  /-- The document as it was saved last. -/
  document : D
  /-- The number of loads so far. -/
  loads : Nat
  /-- The number of saves so far. -/
  saves : Nat
  deriving DecidableEq

/-- A store in memory that was not called yet. -/
def Memory.holding {D : Type} (document : D) : Memory D := ⟨document, 0, 0⟩

/-- The store in memory. -/
def Store.memory (D : Type) : Store (Memory D) D where
  load _ memory := (.answer (.ok memory.document), { memory with loads := memory.loads + 1 })
  save document _ memory :=
    (.answer (.ok ()), { memory with document := document, saves := memory.saves + 1 })

end TradingConfig
