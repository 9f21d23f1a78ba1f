/-
  TradingConfig.Repository.Session
  ────────────────────────────────
  **CALLS ONE AFTER THE OTHER.**

  A request is a call together with the repository it is made to.  Requests
  that are served one after the other pass the locks and the state of the
  store on.
-/
import TradingConfig.Repository.DocumentClass
import TradingConfig.Repository.Lock

namespace TradingConfig

/-- A call to a repository over stores with states of type `σ`. -/
structure Request (σ D R : Type) where
  /-- The repository. -/
  repository : Repository σ D
  /-- Whether the call is made under the write lock of the document. -/
  writes : Bool
  /-- The program of the call. -/
  program : Program D (Except RepositoryFault R)

namespace Request

variable {σ D R : Type}

/-- Serves a request. -/
def serve (request : Request σ D R) (locks : Locks) (state : σ) :
    Ending (Except RepositoryFault R) × Locks × σ :=
  request.repository.call request.writes request.program locks state

/-- Serves requests one after the other. -/
def serveEach : List (Request σ D R) → Locks → σ →
    List (Ending (Except RepositoryFault R)) × Locks × σ
  | [], locks, state => ([], locks, state)
  | request :: rest, locks, state =>
    let (ending, locks, state) := request.serve locks state
    let (endings, locks, state) := serveEach rest locks state
    (ending :: endings, locks, state)

end Request

/-- The request of a call. -/
def DocumentClass.request {σ : Type} (documentClass : DocumentClass)
    (repository : Repository σ documentClass.Document) (call : documentClass.Call) :
    Request σ documentClass.Document documentClass.Answer :=
  ⟨repository, documentClass.writes call, documentClass.program call⟩

end TradingConfig
