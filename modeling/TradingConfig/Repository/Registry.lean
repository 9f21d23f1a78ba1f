/-
  TradingConfig.Repository.Registry
  ────────────────────────────────
  **THE REGISTRY OF WRITE LOCKS.**

  One registry serves the whole process.  A lock is made when its path is
  asked for the first time, and nothing is ever taken out again.
-/
import TradingConfig.File.Absolute

namespace TradingConfig

/-- The locks that were handed out so far. -/
structure LockRegistry where
  /-- The paths with their locks, in the order in which they came. -/
  entries : List (Path × Nat)
  /-- The next lock to be made. -/
  next : Nat
  deriving Repr

namespace LockRegistry

/-- The registry before the first call. -/
def empty : LockRegistry := ⟨[], 0⟩

/-- The path under which a data file is entered: the path as it was written
where it has no absolute form. -/
def entry (home : Option Path) (path : Path) : Path :=
  (path.absolute? home).getD path

/-- The lock of a path; paths with the same components are the same. -/
def lookup? (registry : LockRegistry) (path : Path) : Option Nat :=
  (registry.entries.find? fun entered => entered.1.components = path.components).map (·.2)

/-- Asks for the lock of a data file. -/
def lock (home : Option Path) (path : Path) (registry : LockRegistry) : Nat × LockRegistry :=
  match registry.lookup? (entry home path) with
  | some lock => (lock, registry)
  | none =>
    (registry.next,
      ⟨registry.entries ++ [(entry home path, registry.next)], registry.next + 1⟩)

/-- Asks for the locks of data files, one after the other. -/
def lockEach (home : Option Path) : List Path → LockRegistry → List Nat × LockRegistry
  | [], registry => ([], registry)
  | path :: paths, registry =>
    let (lock, registry) := registry.lock home path
    let (locks, registry) := registry.lockEach home paths
    (lock :: locks, registry)

end LockRegistry

end TradingConfig
