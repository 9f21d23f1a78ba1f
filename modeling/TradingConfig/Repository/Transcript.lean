/-
  TradingConfig.Repository.Transcript
  ────────────────────────────────
  **WHAT A CALL AND ITS STORE SAY TO EACH OTHER.**

  A store can be listened to: beside its state it keeps the calls that are
  made to it, with the documents that are handed over and its replies.  What
  is said while one request is served is the transcript of the request.
-/
import TradingConfig.Repository.Operation

namespace TradingConfig

/-- A call to a store of documents of type `D`, and its reply. -/
inductive StoreEvent (D : Type) where
  /-- A load. -/
  | loaded (reply : Reply D)
  /-- A save of a document. -/
  | saved (document : D) (reply : Reply Unit)

/-- Whether it is a save. -/
def StoreEvent.isSave {D : Type} : StoreEvent D → Bool
  | .loaded _ => false
  | .saved _ _ => true

/-- The store that also keeps what is said, the first in front. -/
def Store.transcribed {σ D : Type} (store : Store σ D) : Store (σ × List (StoreEvent D)) D where
  load location state :=
    let (reply, after) := store.load location state.1
    (reply, after, state.2 ++ [.loaded reply])
  save document location state :=
    let (reply, after) := store.save document location state.1
    (reply, after, state.2 ++ [.saved document reply])

namespace Request

variable {σ D R : Type}

/-- The request over the store that keeps what is said. -/
def transcribed (request : Request σ D R) : Request (σ × List (StoreEvent D)) D R :=
  { request with
    repository := { request.repository with store := request.repository.store.transcribed } }

/-- What is said while a request is served. -/
def transcript (request : Request σ D R) (locks : Locks) (state : σ) : List (StoreEvent D) :=
  (request.transcribed.serve locks (state, [])).2.2.2

end Request

end TradingConfig
