/-
  TradingConfig.Repository.Service
  ────────────────────────────────
  **CHECKS IN FRONT OF A REPOSITORY.**

  A request that adds or replaces an entity names the entity twice: in its
  address and in its payload.  A payload without identifier is refused, and
  so is one whose identifier is not the address; such a request never
  reaches the repository.
-/
import TradingConfig.Repository.Collection
import TradingConfig.Repository.Lock

namespace TradingConfig

/-- The reason why a service call fails. -/
inductive ServiceFault where
  /-- The payload has no identifier. -/
  | missingId
  /-- The payload has another identifier than its address. -/
  | idMismatch (pathId payloadId : String)
  /-- The repository failed. -/
  | repository (fault : RepositoryFault)

/-- The wording of a fault. -/
def ServiceFault.message : ServiceFault → String
  | .missingId => "payload id must not be empty"
  | .idMismatch pathId payloadId =>
    "path id '" ++ pathId ++ "' does not match payload id '" ++ payloadId ++ "'"
  | .repository fault => fault.message

/-- A request to a service. -/
inductive ServiceRequest (Entity : Type) where
  /-- Lists all entities. -/
  | findAll
  /-- Looks up an entity. -/
  | findById (id : String)
  /-- Adds the entity of the payload at an address. -/
  | create (pathId : String) (entity : Entity)
  /-- Replaces the entity at an address by that of the payload. -/
  | update (pathId : String) (entity : Entity)
  /-- Removes an entity. -/
  | delete (id : String)
  deriving DecidableEq, Repr

namespace ServiceRequest

variable {Entity : Type}

/-- Refuses a payload that does not fit its address. -/
def checkIds (pathId payloadId : String) : Except ServiceFault Unit :=
  if payloadId = "" then .error .missingId
  else if payloadId ≠ pathId then .error (.idMismatch pathId payloadId)
  else .ok ()

/-- The repository call that a request leads to, if it is not refused. -/
def toCall (entityId : Entity → String) :
    ServiceRequest Entity → Except ServiceFault (CollectionCall Entity)
  | .findAll => .ok .findAll
  | .findById id => .ok (.findById id)
  | .create pathId entity => (checkIds pathId (entityId entity)).map fun _ => .create entity
  | .update pathId entity => (checkIds pathId (entityId entity)).map fun _ => .update entity
  | .delete id => .ok (.delete id)

end ServiceRequest

/-- The ending with another form of its result. -/
def Ending.map {Q R : Type} (form : Q → R) : Ending Q → Ending R
  | .result value => .result (form value)
  | .crash => .crash

namespace ServiceRequest

variable {σ Entry Entity : Type}

/-- Serves a request in front of a repository.  One that is refused ends at
once; every other ends as the repository call does. -/
def serve (collection : Collection Entry Entity) (repository : Repository σ (List Entry))
    (request : ServiceRequest Entity) (locks : Locks) (state : σ) :
    Ending (Except ServiceFault (CollectionAnswer Entity)) × Locks × σ :=
  match request.toCall collection.entityId with
  | .error fault => (.result (.error fault), locks, state)
  | .ok call =>
    let (ending, locks, state) :=
      repository.call call.writes (call.program collection) locks state
    (ending.map (Except.mapError .repository), locks, state)

/-- Serves requests one after the other. -/
def serveEach (collection : Collection Entry Entity) (repository : Repository σ (List Entry)) :
    List (ServiceRequest Entity) → Locks → σ →
      List (Ending (Except ServiceFault (CollectionAnswer Entity))) × Locks × σ
  | [], locks, state => ([], locks, state)
  | request :: rest, locks, state =>
    let (ending, locks, state) := request.serve collection repository locks state
    let (endings, locks, state) := serveEach collection repository rest locks state
    (ending :: endings, locks, state)

end ServiceRequest

end TradingConfig
