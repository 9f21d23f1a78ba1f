/-
  TradingConfig.Repository.Interleaving
  ────────────────────────────────
  **REQUESTS AT THE SAME TIME.**

  Requests that are served at the same time take their steps in turn, in any
  order.  A request under the lock takes the lock, makes its store calls one
  by one and gives the lock back; it cannot take a lock that is held.  A
  request without the lock makes its store calls and ends with the last.
  The order of the steps is a schedule: a list of the requests that step.
-/
import Mathlib.Logic.Function.Basic
import TradingConfig.Repository.Session

namespace TradingConfig

/-- How far a request has come. -/
inductive Progress (D R : Type) where
  /-- It has not taken a step. -/
  | waiting
  /-- It has taken steps; this is what is left of its program. -/
  | running (rest : Program D (Except RepositoryFault R))
  /-- It has taken its last step. -/
  | ended (ending : Ending (Except RepositoryFault R))

/-- The state of `n` requests that are served at the same time. -/
structure Traffic (n : Nat) (σ D R : Type) where
  /-- How far each request has come. -/
  progress : Fin n → Progress D R
  /-- The request that holds the lock of a key. -/
  holder : Path.Key → Option (Fin n)
  /-- The locks, of which the poisoned ones are remembered. -/
  locks : Locks
  /-- The state of the store. -/
  state : σ

/-- The next store call of a program: what is left of the program after it,
unless the store crashes. -/
def Program.advance {σ D R : Type} (store : Store σ D) (location : Location) :
    Program D R → σ → Option (Program D R) × σ
  | .done result, state => (some (.done result), state)
  | .load next, state =>
    match store.load location state with
    | (.crash, state) => (none, state)
    | (.answer answer, state) => (some (next answer), state)
  | .save document next, state =>
    match store.save document location state with
    | (.crash, state) => (none, state)
    | (.answer answer, state) => (some (next answer), state)

namespace Traffic

variable {n : Nat} {σ D R : Type}

/-- No request has taken a step. -/
def start (locks : Locks) (state : σ) : Traffic n σ D R :=
  ⟨fun _ => .waiting, fun _ => none, locks, state⟩

/-- All requests have taken their last step. -/
def Complete (traffic : Traffic n σ D R) : Prop :=
  ∀ i, ∃ ending, traffic.progress i = .ended ending

/-- The traffic after a request has come further. -/
def put (traffic : Traffic n σ D R) (i : Fin n) (progress : Progress D R) : Traffic n σ D R :=
  { traffic with progress := Function.update traffic.progress i progress }

/-- The traffic after the lock of a key was taken or given back. -/
def hold (traffic : Traffic n σ D R) (key : Path.Key) (holder : Option (Fin n)) :
    Traffic n σ D R :=
  { traffic with holder := Function.update traffic.holder key holder }

/-- Ends a request, which gives back the lock that it holds. -/
def finish (traffic : Traffic n σ D R) (request : Request σ D R) (i : Fin n)
    (ending : Ending (Except RepositoryFault R)) : Traffic n σ D R :=
  if request.writes then (traffic.put i (.ended ending)).hold request.repository.key none
  else traffic.put i (.ended ending)

/-- The traffic after a crash of a request, which poisons the lock that it
holds. -/
def crash (traffic : Traffic n σ D R) (request : Request σ D R) (i : Fin n) : Traffic n σ D R :=
  if request.writes then
    { traffic with locks := traffic.locks.poison request.repository.key }.finish request i .crash
  else traffic.finish request i .crash

/-- Makes the next store call of a program.  A request without the lock ends
with its last one. -/
def proceed (traffic : Traffic n σ D R) (request : Request σ D R) (i : Fin n)
    (program : Program D (Except RepositoryFault R)) : Traffic n σ D R :=
  match program.advance request.repository.store request.repository.location traffic.state with
  | (none, state) => { traffic with state := state }.crash request i
  | (some rest, state) =>
    { traffic with state := state }.put i <|
      match request.writes, rest with
      | false, .done result => .ended (.result result)
      | _, rest => .running rest

/-- One step of a request; none if it has ended, or if it waits for a lock
that is held. -/
def step? (requests : Fin n → Request σ D R) (i : Fin n) (traffic : Traffic n σ D R) :
    Option (Traffic n σ D R) :=
  match traffic.progress i with
  | .ended _ => none
  | .waiting =>
    -- the lock is waited for before it is known whether it is poisoned
    if (requests i).writes then
      if (traffic.holder (requests i).repository.key).isSome then none
      else if traffic.locks.isPoisoned (requests i).repository.key then
        some (traffic.put i (.ended (.result (.error .poisoned))))
      else
        some ((traffic.put i (.running (requests i).program)).hold
          (requests i).repository.key (some i))
    else some (traffic.proceed (requests i) i (requests i).program)
  | .running (.done result) => some (traffic.finish (requests i) i (.result result))
  | .running rest => some (traffic.proceed (requests i) i rest)

/-- The traffic after the steps of a schedule; none if one of them cannot be
taken. -/
def run? (requests : Fin n → Request σ D R) :
    (schedule : List (Fin n)) → Traffic n σ D R → Option (Traffic n σ D R)
  | [], traffic => some traffic
  | i :: rest, traffic => do
    let next ← traffic.step? requests i
    run? requests rest next

end Traffic

/-- In a schedule every step of one request is before every step of
another. -/
def Precedes {n : Nat} (schedule : List (Fin n)) (first second : Fin n) : Prop :=
  ∃ before after, schedule = before ++ after ∧ first ∉ after ∧ second ∉ before

end TradingConfig
