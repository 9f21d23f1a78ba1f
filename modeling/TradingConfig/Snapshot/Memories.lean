/-
  TradingConfig.Snapshot.Memories
  ────────────────────────────────
  **THREE REPOSITORIES OVER STORES IN MEMORY.**

  Each class of documents has a store in memory of its own, and a repository
  over it.  Calls reach the store of their class alone.  A snapshot reads
  the three documents one after the other and ends with the first fault.
-/
import Mathlib.Logic.Function.Basic
import TradingConfig.Datastore
import TradingConfig.Repository.Session
import TradingConfig.Store.Memory

namespace TradingConfig

/-- The states of the stores, by the classes of their documents. -/
abbrev Memories : Type := (documentClass : DocumentClass) → Memory documentClass.Document

/-- Stores in memory that were not called yet. -/
def Memories.holding (strategies : List StrategyRecord) (markets : List MarketRecord)
    (exchange : ExchangeRecord) : Memories
  | .strategies => .holding strategies
  | .markets => .holding markets
  | .exchange => .holding exchange

namespace Memories

/-- The stored strategies. -/
def strategies (memories : Memories) : List StrategyRecord :=
  (memories .strategies).document

/-- The stored markets. -/
def markets (memories : Memories) : List MarketRecord :=
  (memories .markets).document

/-- The stored exchange. -/
def exchange (memories : Memories) : ExchangeRecord :=
  (memories .exchange).document

end Memories

/-- How something ends that is done to the stores. -/
abbrev Memories.Ended (R : Type) : Type :=
  Ending (Except RepositoryFault R) × Locks × Memories

/-- Goes on with a result; a fault or a crash is the end. -/
def Memories.Ended.andThen {Q R : Type} (first : Ended Q) (next : Q → Locks → Memories → Ended R) :
    Ended R :=
  match first with
  | (.result (.ok value), locks, memories) => next value locks memories
  | (.result (.error fault), locks, memories) => (.result (.error fault), locks, memories)
  | (.crash, locks, memories) => (.crash, locks, memories)

namespace Datastore

variable (datastore : Datastore) (home : Place)

/-- The repository of a class over its store in memory. -/
def memoryRepository (documentClass : DocumentClass) :
    Repository (Memory documentClass.Document) documentClass.Document :=
  .ofLocation (.memory documentClass.Document) home (datastore.location documentClass)

/-- Runs a program on the document of a class, under its lock if it
writes. -/
def runInMemory {R : Type} (documentClass : DocumentClass) (writes : Bool)
    (program : Program documentClass.Document (Except RepositoryFault R)) (locks : Locks)
    (memories : Memories) : Memories.Ended R :=
  let (ending, locks, memory) :=
    (datastore.memoryRepository home documentClass).call writes program locks
      (memories documentClass)
  (ending, locks, Function.update memories documentClass memory)

/-- Serves a call of the repository of a class. -/
def serveInMemory (documentClass : DocumentClass) (call : documentClass.Call) (locks : Locks)
    (memories : Memories) : Memories.Ended documentClass.Answer :=
  datastore.runInMemory home documentClass (documentClass.writes call) (documentClass.program call)
    locks memories

/-- Serves calls of any class one after the other; what they answer is left
out. -/
def memoriesAfter : List ((documentClass : DocumentClass) × documentClass.Call) → Locks →
    Memories → Locks × Memories
  | [], locks, memories => (locks, memories)
  | ⟨documentClass, call⟩ :: rest, locks, memories =>
    let (_, locks, memories) := datastore.serveInMemory home documentClass call locks memories
    memoriesAfter rest locks memories

/-- Reads a snapshot: the strategies first, then the markets, then the
exchange. -/
def snapshotInMemory (locks : Locks) (memories : Memories) : Memories.Ended Snapshot :=
  (datastore.runInMemory home .strategies false Collection.strategies.findAll locks
    memories).andThen fun strategies locks memories =>
      (datastore.runInMemory home .markets false Collection.markets.findAll locks memories).andThen
        fun markets locks memories =>
          (datastore.runInMemory home .exchange false Exchange.get locks memories).andThen
            fun exchange locks memories =>
              (.result (.ok ⟨strategies, markets, exchange⟩), locks, memories)

end Datastore

end TradingConfig
