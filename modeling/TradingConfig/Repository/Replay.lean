/-
  TradingConfig.Repository.Replay
  ────────────────────────────────
  **WHAT A CALL HEARS OF THE STORE.**

  A store can be listened to: beside its state it keeps the replies that it
  gave.  The replies that one request consumes are those that its store gives
  while it is served.  A program can be replayed from replies alone, without
  a store.
-/
import TradingConfig.Repository.Operation

namespace TradingConfig

/-- A reply of a store of documents of type `D`. -/
inductive StoreReply (D : Type) where
  /-- The reply to a load. -/
  | loaded (reply : Reply D)
  /-- The reply to a save. -/
  | saved (reply : Reply Unit)

/-- The store that also keeps its replies, the first in front. -/
def Store.recorded {σ D : Type} (store : Store σ D) : Store (σ × List (StoreReply D)) D where
  load location state :=
    let (reply, after) := store.load location state.1
    (reply, after, state.2 ++ [.loaded reply])
  save document location state :=
    let (reply, after) := store.save document location state.1
    (reply, after, state.2 ++ [.saved reply])

/-- How a program ends that is given replies; none if they are not the
replies to its calls, one by one, up to its end. -/
def Program.replay {D R : Type} : Program D R → List (StoreReply D) → Option (Ending R)
  | .done result, [] => some (.result result)
  | .load next, .loaded (.answer answer) :: rest => (next answer).replay rest
  | .load _, [.loaded .crash] => some .crash
  | .save _ next, .saved (.answer answer) :: rest => (next answer).replay rest
  | .save _ _, [.saved .crash] => some .crash
  | _, _ => none

namespace Request

variable {σ D R : Type}

/-- The request over the store that keeps its replies. -/
def recorded (request : Request σ D R) : Request (σ × List (StoreReply D)) D R :=
  { request with
    repository := { request.repository with store := request.repository.store.recorded } }

/-- The replies that a request consumes. -/
def replies (request : Request σ D R) (locks : Locks) (state : σ) : List (StoreReply D) :=
  (request.recorded.serve locks (state, [])).2.2.2

end Request

end TradingConfig
