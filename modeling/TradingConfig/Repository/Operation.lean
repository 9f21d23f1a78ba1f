/-
  TradingConfig.Repository.Operation
  ────────────────────────────────
  **CALLS THROUGH REPOSITORIES OF ANY CLASS.**

  An operation is a call of any class, together with what its repository was
  built from.  Repositories that were built one by one share nothing but the
  locks and the state of the store, and operations that are served one after
  the other pass both on.
-/
import TradingConfig.Repository.Session

namespace TradingConfig

/-- A call through a repository that was built for the files of a
document. -/
structure Operation (σ : Type) where
  /-- The class of the document. -/
  documentClass : DocumentClass
  /-- The store of the repository. -/
  store : Store σ documentClass.Document
  /-- The working directory in which the repository was built. -/
  home : Place
  /-- The files of the document. -/
  location : Location
  /-- The call. -/
  call : documentClass.Call

/-- An operation that has ended. -/
structure Served (σ : Type) where
  /-- The operation. -/
  operation : Operation σ
  /-- How it ended. -/
  ending : Ending (Except RepositoryFault operation.documentClass.Answer)

namespace Operation

variable {σ : Type}

/-- The repository of an operation. -/
def repository (operation : Operation σ) : Repository σ operation.documentClass.Document :=
  .ofLocation operation.store operation.home operation.location

/-- The key of its lock. -/
def key (operation : Operation σ) : Path.Key := operation.repository.key

/-- Whether it runs under the lock. -/
def writes (operation : Operation σ) : Bool :=
  operation.documentClass.writes operation.call

/-- The request of an operation. -/
def request (operation : Operation σ) :
    Request σ operation.documentClass.Document operation.documentClass.Answer :=
  operation.documentClass.request operation.repository operation.call

/-- Serves operations one after the other. -/
def serveEach : List (Operation σ) → Locks → σ → List (Served σ) × Locks × σ
  | [], locks, state => ([], locks, state)
  | operation :: rest, locks, state =>
    let (ending, locks, state) := operation.request.serve locks state
    let (served, locks, state) := serveEach rest locks state
    (⟨operation, ending⟩ :: served, locks, state)

end Operation

end TradingConfig
