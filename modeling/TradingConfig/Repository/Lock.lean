/-
  TradingConfig.Repository.Lock
  ────────────────────────────────
  **WRITE LOCKS.**

  All writers of one data file share one lock, found by the key of its
  path, and hold it from the first load to the last.  A write that crashes
  poisons its lock; later writes under it are refused before they touch the
  store.  Reads take no lock.
-/
import TradingConfig.Repository.Program

namespace TradingConfig

/-- The locks, of which only the poisoned ones are remembered. -/
structure Locks where
  /-- The keys of the poisoned locks. -/
  poisoned : List Path.Key
  deriving DecidableEq

namespace Locks

/-- No lock is poisoned. -/
def fresh : Locks := ⟨[]⟩

/-- Whether the lock of a key is poisoned. -/
def isPoisoned (locks : Locks) (key : Path.Key) : Bool :=
  locks.poisoned.contains key

/-- The locks after a crash under the lock of a key. -/
def poison (locks : Locks) (key : Path.Key) : Locks :=
  ⟨key :: locks.poisoned⟩

end Locks

namespace Program

variable {σ D R : Type}

/-- Runs a program that takes no lock. -/
def runFree (store : Store σ D) (location : Location)
    (program : Program D (Except RepositoryFault R)) (locks : Locks) (state : σ) :
    Ending (Except RepositoryFault R) × Locks × σ :=
  let (ending, state) := program.run store location state
  (ending, locks, state)

/-- Runs a program under the lock of a key. -/
def runLocked (store : Store σ D) (location : Location) (key : Path.Key)
    (program : Program D (Except RepositoryFault R)) (locks : Locks) (state : σ) :
    Ending (Except RepositoryFault R) × Locks × σ :=
  if locks.isPoisoned key then (.result (.error .poisoned), locks, state)
  else match program.run store location state with
    | (.result result, state) => (.result result, locks, state)
    | (.crash, state) => (.crash, locks.poison key, state)

end Program

/-- A repository: the store it calls, the files of its document, and the
key of its lock. -/
structure Repository (σ D : Type) where
  /-- The store. -/
  store : Store σ D
  /-- The files of the document. -/
  location : Location
  /-- The key of the write lock. -/
  key : Path.Key

namespace Repository

variable {σ D R : Type}

/-- The repository of a document, for a working directory. -/
def ofLocation (store : Store σ D) (home : Place) (location : Location) : Repository σ D :=
  ⟨store, location, location.data.key home⟩

/-- Runs a program, under the lock if it writes. -/
def call (repository : Repository σ D) (writes : Bool)
    (program : Program D (Except RepositoryFault R)) (locks : Locks) (state : σ) :
    Ending (Except RepositoryFault R) × Locks × σ :=
  if writes then program.runLocked repository.store repository.location repository.key locks state
  else program.runFree repository.store repository.location locks state

end Repository

end TradingConfig
