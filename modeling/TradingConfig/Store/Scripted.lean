/-
  TradingConfig.Store.Scripted
  ────────────────────────────────
  **A STORE THAT FOLLOWS A SCRIPT.**

  Its replies are given in advance, loads and saves apart; it records every
  call.  With it a repository can be run against any behaviour of a store.
-/
import TradingConfig.Store.Basic

namespace TradingConfig

/-- A call to a store. -/
inductive StoreCall (D : Type) where
  /-- A load of a location. -/
  | load (location : Location)
  /-- A save of a document at a location. -/
  | save (document : D) (location : Location)

/-- The replies that are still to come, and the calls so far, latest first. -/
structure Script (D : Type) where
  /-- The replies to loads. -/
  loads : List (Reply D)
  /-- The replies to saves. -/
  saves : List (Reply Unit)
  /-- The calls so far. -/
  calls : List (StoreCall D)

/-- The reply where the script has none left. -/
def Script.exhausted {α : Type} : Reply α :=
  .answer (.error (.unwritable "script exhausted"))

/-- The store that follows a script. -/
def Store.scripted (D : Type) : Store (Script D) D where
  load location script :=
    let calls := .load location :: script.calls
    match script.loads with
    | [] => (Script.exhausted, { script with calls := calls })
    | reply :: rest => (reply, { script with loads := rest, calls := calls })
  save document location script :=
    let calls := .save document location :: script.calls
    match script.saves with
    | [] => (Script.exhausted, { script with calls := calls })
    | reply :: rest => (reply, { script with saves := rest, calls := calls })

end TradingConfig
