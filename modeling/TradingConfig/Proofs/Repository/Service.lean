/-
  TradingConfig.Proofs.Repository.Service
  ────────────────────────────────
  **A REQUEST TOUCHES ONLY WHAT IT ADDRESSES.**

  A service refuses a request whose payload does not fit its address before
  the store is called, and passes every other one on (`Collection.Handled`).
  What a call does to a document goes by its answer (`Collection.Deed`), so
  records of other identifiers stay, and the list of the identifiers changes
  only where one is created or deleted.  Over runs of any length no record
  without identifier is added, nor a second one of an identifier
  (`Collection.serve_addressed`).
-/
import TradingConfig.Proofs.Repository.Upkeep
import TradingConfig.Repository.Service

namespace TradingConfig

/-! ## §1. Records of other identifiers. -/

namespace Collection

variable {Entry Entity : Type} {collection : Collection Entry Entity}

/-- The records whose identifier is another one, in order. -/
def others (collection : Collection Entry Entity) (id : String) (document : List Entry) :
    List Entry :=
  document.filter fun entry => collection.entryId entry ≠ id

theorem others_append_of_same (document : List Entry) {entry : Entry} {id : String}
    (same : collection.entryId entry = id) :
    collection.others id (document ++ [entry]) = collection.others id document := by
  unfold others
  rw [List.filter_append, List.filter_singleton]
  simp [same]

theorem others_replace (lawful : collection.Lawful) (entity : Entity) (document : List Entry) :
    collection.others (collection.entityId entity) (collection.replace entity document)
      = collection.others (collection.entityId entity) document := by
  unfold others
  -- induction on the document, up to the record that is replaced
  induction document with
  | nil => rfl
  | cons head rest ih =>
    unfold replace
    by_cases here : collection.entryId head = collection.entityId entity
    · have revised : collection.entryId (collection.revise head entity)
          = collection.entityId entity := by
        rw [lawful.revise_eq_toEntry here, lawful.entryId_toEntry]
      rw [if_pos here]
      simp [revised, here]
    · rw [if_neg here, List.filter_cons_of_pos (by simpa using here), ih,
        List.filter_cons_of_pos (by simpa using here)]

theorem others_remove (id : String) (document : List Entry) :
    collection.others id (collection.remove id document) = collection.others id document := by
  unfold others remove
  induction document with
  | nil => rfl
  | cons head rest ih =>
    by_cases here : collection.entryId head = id
    · simp [here]
    · rw [List.eraseP_cons_of_neg (by simpa using here),
        List.filter_cons_of_pos (by simpa using here), ih,
        List.filter_cons_of_pos (by simpa using here)]

theorem map_entryId_remove (id : String) (document : List Entry) :
    (collection.remove id document).map collection.entryId
      = (document.map collection.entryId).erase id := by
  unfold remove
  induction document with
  | nil => rfl
  | cons head rest ih =>
    by_cases here : collection.entryId head = id
    · simp [here]
    · rw [List.eraseP_cons_of_neg (by simpa using here), List.map_cons, List.map_cons,
        List.erase_cons_tail (by simpa using here), ih]

end Collection

/-! ## §2. What a request asks for. -/

namespace ServiceRequest

variable {Entity : Type} {entityId : Entity → String}

/-- The identifier in the address of a request, if it has one. -/
def pathId? : ServiceRequest Entity → Option String
  | .findAll => none
  | .findById id | .delete id => some id
  | .create pathId _ | .update pathId _ => some pathId

/-- The entity in the payload of a request, if it has one. -/
def payload? : ServiceRequest Entity → Option Entity
  | .create _ entity | .update _ entity => some entity
  | _ => none

/-- The repository call that a request asks for. -/
def call : ServiceRequest Entity → CollectionCall Entity
  | .findAll => .findAll
  | .findById id => .findById id
  | .create _ entity => .create entity
  | .update _ entity => .update entity
  | .delete id => .delete id

/-- The payload, if there is one, has an identifier, and it is that of the
address. -/
def Fits (entityId : Entity → String) (request : ServiceRequest Entity) : Prop :=
  ∀ entity ∈ request.payload?,
    entityId entity ≠ "" ∧ request.pathId? = some (entityId entity)

/-- The identifiers of a document after a request that ended in some way:
one more after a creation, one less after a deletion. -/
def idsAfter (ids : List String) : ServiceRequest Entity →
    Ending (Except ServiceFault (CollectionAnswer Entity)) → List String
  | .create pathId _, .result (.ok (.outcome (.found _))) => ids ++ [pathId]
  | .delete id, .result (.ok (.outcome (.found _))) => ids.erase id
  | _, _ => ids

/-- A request without payload is passed on as it is. -/
theorem toCall_of_no_payload {request : ServiceRequest Entity} (none : request.payload? = none) :
    request.toCall entityId = .ok request.call := by
  cases request with
  | create pathId entity => cases none
  | update pathId entity => cases none
  | _ => rfl

/-- The identifier of a payload is checked against the address. -/
theorem exists_pathId_of_payload (entityId : Entity → String) {request : ServiceRequest Entity} {entity : Entity}
    (payload : request.payload? = some entity) :
    ∃ pathId, request.pathId? = some pathId
      ∧ request.toCall entityId
        = (checkIds pathId (entityId entity)).map fun _ => request.call := by
  cases request with
  | create pathId other =>
    obtain rfl : other = entity := Option.some.inj payload
    exact ⟨pathId, rfl, rfl⟩
  | update pathId other =>
    obtain rfl : other = entity := Option.some.inj payload
    exact ⟨pathId, rfl, rfl⟩
  | _ => cases payload

/-- A request is refused for one of two reasons, or it is passed on. -/
theorem toCall_cases (entityId : Entity → String) (request : ServiceRequest Entity) :
    (∃ entity, request.payload? = some entity ∧ entityId entity = ""
        ∧ request.toCall entityId = .error .missingId)
      ∨ (∃ entity pathId, request.payload? = some entity ∧ request.pathId? = some pathId
        ∧ entityId entity ≠ "" ∧ entityId entity ≠ pathId
        ∧ request.toCall entityId = .error (.idMismatch pathId (entityId entity)))
      ∨ (request.Fits entityId ∧ request.toCall entityId = .ok request.call) := by
  cases payload : request.payload? with
  | none =>
    refine .inr (.inr ⟨fun entity there => ?_, toCall_of_no_payload payload⟩)
    cases payload.symm.trans there
  | some entity =>
    obtain ⟨pathId, path, checked⟩ := exists_pathId_of_payload entityId payload
    rw [checked]
    unfold checkIds
    by_cases missing : entityId entity = ""
    · rw [if_pos missing]
      exact .inl ⟨entity, rfl, missing, rfl⟩
    · rw [if_neg missing]
      by_cases same : entityId entity = pathId
      · rw [if_neg (not_not_intro same)]
        refine .inr (.inr ⟨fun other there => ?_, rfl⟩)
        obtain rfl : entity = other := Option.some.inj (payload.symm.trans there)
        exact ⟨missing, path.trans (congrArg some same.symm)⟩
      · rw [if_pos same]
        exact .inr (.inl ⟨entity, pathId, rfl, path, missing, same, rfl⟩)

end ServiceRequest

namespace Collection

variable {Entry Entity : Type} {collection : Collection Entry Entity}

/-! ## §3. How a request is dealt with. -/

/-- What one request to a service in front of a repository over the store in
memory does, and how it ends. -/
structure Handled (collection : Collection Entry Entity)
    (repository : Repository (Memory (List Entry)) (List Entry)) (locks : Locks)
    (request : ServiceRequest Entity)
    (ending : Ending (Except ServiceFault (CollectionAnswer Entity)))
    (before after : Memory (List Entry)) : Prop where
  /-- A payload without identifier is refused, and the store is not called. -/
  missingId : ∀ entity ∈ request.payload?, collection.entityId entity = "" →
    ending = .result (.error .missingId) ∧ after = before
  /-- So is one with another identifier than that of the address, and both
  are named. -/
  idMismatch : ∀ entity ∈ request.payload?, ∀ pathId ∈ request.pathId?,
    collection.entityId entity ≠ "" → collection.entityId entity ≠ pathId →
    ending = .result (.error (.idMismatch pathId (collection.entityId entity)))
      ∧ after = before
  /-- Every other request ends as the repository call does, and leaves what
  that leaves. -/
  passed : request.Fits collection.entityId →
    ∃ told, repository.call request.call.writes (request.call.program collection) locks before
        = (told, locks, after)
      ∧ ending = told.map (Except.mapError .repository)
  /-- Records of other identifiers than that of the address stay, in order. -/
  others : ∀ pathId ∈ request.pathId?,
    collection.others pathId after.document = collection.others pathId before.document
  /-- Without an address nothing changes. -/
  unaddressed : request.pathId? = none → after.document = before.document
  /-- The identifiers go by the request and its ending. -/
  ids : after.document.map collection.entryId
    = request.idsAfter (before.document.map collection.entryId) ending
  /-- An identifier that is created is none that is empty or there already. -/
  fresh : ∀ pathId entity answer, request = .create pathId entity →
    ending = .result (.ok (.outcome (.found answer))) →
    pathId ≠ "" ∧ pathId ∉ before.document.map collection.entryId

variable {repository : Repository (Memory (List Entry)) (List Entry)} {locks : Locks}
  {before : Memory (List Entry)} {request : ServiceRequest Entity}

/-- Identifiers change only where an entity is told. -/
theorem idsAfter_of_untold (ids : List String)
    {ending : Ending (Except ServiceFault (CollectionAnswer Entity))}
    (untold : ∀ entity, ending ≠ .result (.ok (.outcome (.found entity)))) :
    request.idsAfter ids ending = ids := by
  unfold ServiceRequest.idsAfter
  split
  · exact absurd rfl (untold _)
  · exact absurd rfl (untold _)
  · rfl

section Deeds

variable {document later : List Entry} {call : CollectionCall Entity}
  {result : Except RepositoryFault (CollectionAnswer Entity)}

/-- The service tells an entity where the repository does. -/
theorem told_of_mapError {entity : Entity}
    (told : Ending.result (result.mapError ServiceFault.repository)
      = .result (.ok (.outcome (.found entity)))) :
    result = .ok (.outcome (.found entity)) := by
  cases result with
  | error fault => cases told
  | ok answer => exact congrArg Except.ok (Except.ok.inj (Ending.result.inj told))

/-- A request that fits has the identifier of its payload in its address. -/
theorem pathId_of_create {pathId : String} {entity : Entity}
    (fits : (ServiceRequest.create pathId entity).Fits collection.entityId) :
    collection.entityId entity ≠ "" ∧ pathId = collection.entityId entity := by
  obtain ⟨named, same⟩ := fits entity rfl
  exact ⟨named, Option.some.inj same⟩

theorem Deed.others (deed : collection.Deed document call result later)
    (lawful : collection.Lawful) (fits : request.Fits collection.entityId)
    (asks : request.call = call) {pathId : String} (path : request.pathId? = some pathId) :
    collection.others pathId later = collection.others pathId document := by
  cases deed with
  | kept untold => rfl
  | @created entity absent =>
    cases request with
    | create other payload =>
      obtain rfl : payload = entity := CollectionCall.create.inj asks
      obtain rfl : other = pathId := Option.some.inj path
      rw [(pathId_of_create fits).2]
      exact others_append_of_same document (lawful.entryId_toEntry payload)
    | _ => cases asks
  | @updated entity =>
    cases request with
    | update other payload =>
      obtain rfl : payload = entity := CollectionCall.update.inj asks
      obtain ⟨-, same⟩ := fits payload rfl
      obtain rfl : collection.entityId payload = pathId :=
        Option.some.inj (same.symm.trans path)
      exact others_replace lawful payload document
    | _ => cases asks
  | @deleted id entity =>
    cases request with
    | delete other =>
      obtain rfl : other = id := CollectionCall.delete.inj asks
      obtain rfl : other = pathId := Option.some.inj path
      exact others_remove other document
    | _ => cases asks

theorem Deed.ids (deed : collection.Deed document call result later)
    (lawful : collection.Lawful) (fits : request.Fits collection.entityId)
    (asks : request.call = call) :
    later.map collection.entryId
      = request.idsAfter (document.map collection.entryId)
          (.result (result.mapError .repository)) := by
  cases deed with
  | kept untold =>
    exact (idsAfter_of_untold _ fun entity told => untold entity (told_of_mapError told)).symm
  | @created entity absent =>
    cases request with
    | create pathId payload =>
      obtain rfl : payload = entity := CollectionCall.create.inj asks
      show _ = document.map collection.entryId ++ [pathId]
      rw [List.map_append, (pathId_of_create fits).2, ← lawful.entryId_toEntry payload]
      rfl
    | _ => cases asks
  | @updated entity =>
    cases request with
    | update pathId payload => exact CollectionCall.map_entryId_replace lawful entity document
    | _ => cases asks
  | @deleted id entity =>
    cases request with
    | delete other =>
      obtain rfl : other = id := CollectionCall.delete.inj asks
      exact map_entryId_remove other document
    | _ => cases asks

theorem Deed.absent {entity answer : Entity}
    (deed : collection.Deed document (.create entity) (.ok (.outcome (.found answer))) later) :
    collection.entityId entity ∉ document.map collection.entryId := by
  cases deed with
  | kept untold => exact absurd rfl (untold answer)
  | created absent => exact absent

theorem Deed.unaddressed (deed : collection.Deed document call result later)
    (asks : request.call = call) (none : request.pathId? = none) : later = document := by
  cases request with
  | findAll =>
    obtain rfl : CollectionCall.findAll = call := asks
    cases deed with
    | kept untold => rfl
  | _ => cases none

end Deeds

/-- What a request that is passed on does to the document. -/
theorem handled_of_passed (lawful : collection.Lawful)
    (fits : request.Fits collection.entityId)
    {result : Except RepositoryFault (CollectionAnswer Entity)} {after : Memory (List Entry)}
    (called : repository.call request.call.writes (request.call.program collection) locks before
      = (.result result, locks, after))
    (deed : collection.Deed before.document request.call result after.document) :
    collection.Handled repository locks request
      (.result (result.mapError .repository)) before after where
  missingId entity payload empty := absurd empty (fits entity payload).1
  idMismatch entity payload pathId path _ differs :=
    absurd (Option.some.inj ((fits entity payload).2.symm.trans path)) differs
  passed _ := ⟨.result result, called, rfl⟩
  others pathId path := deed.others lawful fits rfl path
  unaddressed none := deed.unaddressed rfl none
  ids := deed.ids lawful fits rfl
  fresh pathId entity answer creates told := by
    obtain rfl := creates
    obtain rfl := told_of_mapError told
    obtain ⟨named, same⟩ := pathId_of_create fits
    rw [same]
    exact ⟨named, deed.absent⟩

/-- A request that is refused changes nothing. -/
theorem handled_of_refused {fault : ServiceFault}
    (missing : ∀ entity ∈ request.payload?, collection.entityId entity = "" →
      fault = .missingId)
    (mismatch : ∀ entity ∈ request.payload?, ∀ pathId ∈ request.pathId?,
      collection.entityId entity ≠ "" → collection.entityId entity ≠ pathId →
      fault = .idMismatch pathId (collection.entityId entity))
    (unfit : ¬ request.Fits collection.entityId) :
    collection.Handled repository locks request (.result (.error fault)) before before where
  missingId entity payload empty := by
    rw [missing entity payload empty]
    exact ⟨rfl, rfl⟩
  idMismatch entity payload pathId path named differs := by
    rw [mismatch entity payload pathId path named differs]
    exact ⟨rfl, rfl⟩
  passed fits := absurd fits unfit
  others _ _ := rfl
  unaddressed _ := rfl
  ids := (idsAfter_of_untold _ fun _ told => by cases told).symm
  fresh _ _ _ _ told := by cases told

theorem serve_of_refused {fault : ServiceFault}
    (refused : request.toCall collection.entityId = .error fault) :
    request.serve collection repository locks before = (.result (.error fault), locks, before) := by
  unfold ServiceRequest.serve
  rw [refused]

theorem serve_of_passed {call : CollectionCall Entity}
    {told : Ending (Except RepositoryFault (CollectionAnswer Entity))} {locksAfter : Locks}
    {after : Memory (List Entry)} (passed : request.toCall collection.entityId = .ok call)
    (called : repository.call call.writes (call.program collection) locks before
      = (told, locksAfter, after)) :
    request.serve collection repository locks before
      = (told.map (Except.mapError .repository), locksAfter, after) := by
  unfold ServiceRequest.serve
  simp only [passed, called]

/-- A repository call over the store in memory. -/
theorem exists_deed_call (lawful : collection.Lawful)
    (keeps : repository.store = Store.memory (List Entry)) (call : CollectionCall Entity) :
    ∃ result after, repository.call call.writes (call.program collection) locks before
        = (.result result, locks, after)
      ∧ collection.Deed before.document call result after.document := by
  let request : Request (Memory (List Entry)) (List Entry) (CollectionAnswer Entity) :=
    ⟨repository, call.writes, call.program collection⟩
  have keepsStore : request.repository.store = Store.memory (List Entry) := keeps
  obtain ⟨after, served, document⟩ :=
    (Store.memory_behavesAs (List Entry)).serve keepsStore locks before
  refine ⟨_, after, served, ?_⟩
  rw [document]
  unfold Behaviour.serve
  split
  · -- a poisoned lock: the call is not made
    exact .kept fun entity told => by cases told
  · rw [Behaviour.run_memory]
    exact deed_evaluate lawful call before.document

/-- Every request is dealt with in one of these ways. -/
theorem exists_handled_serve (lawful : collection.Lawful)
    (keeps : repository.store = Store.memory (List Entry)) (request : ServiceRequest Entity)
    (locks : Locks) (before : Memory (List Entry)) :
    ∃ ending after, request.serve collection repository locks before = (ending, locks, after)
      ∧ collection.Handled repository locks request ending before after := by
  rcases request.toCall_cases collection.entityId with
    ⟨entity, payload, missing, refused⟩ | ⟨entity, pathId, payload, path, named, differs, refused⟩
      | ⟨fits, passed⟩
  · refine ⟨_, before, serve_of_refused refused, handled_of_refused ?_ ?_ ?_⟩
    · intro other there empty
      rfl
    · intro other there pathId path named
      obtain rfl : entity = other := Option.some.inj (payload.symm.trans there)
      exact absurd missing named
    · intro fits
      exact (fits entity payload).1 missing
  · refine ⟨_, before, serve_of_refused refused, handled_of_refused ?_ ?_ ?_⟩
    · intro other there empty
      obtain rfl : entity = other := Option.some.inj (payload.symm.trans there)
      exact absurd empty named
    · intro other there otherPath pathThere _ _
      obtain rfl : entity = other := Option.some.inj (payload.symm.trans there)
      obtain rfl : pathId = otherPath := Option.some.inj (path.symm.trans pathThere)
      rfl
    · intro fits
      exact differs (Option.some.inj ((fits entity payload).2.symm.trans path))
  · obtain ⟨result, after, called, deed⟩ := exists_deed_call lawful keeps request.call
    exact ⟨_, after, serve_of_passed passed called, handled_of_passed lawful fits called deed⟩

/-! ## §4. Runs of requests. -/

/-- Requests that were dealt with one after the other, from one state of the
store to another. -/
inductive Course (collection : Collection Entry Entity)
    (repository : Repository (Memory (List Entry)) (List Entry)) (locks : Locks) :
    List (ServiceRequest Entity × Ending (Except ServiceFault (CollectionAnswer Entity))) →
      Memory (List Entry) → Memory (List Entry) → Prop where
  /-- No request. -/
  | nil {memory : Memory (List Entry)} : Course collection repository locks [] memory memory
  /-- A request in front of others. -/
  | cons {request : ServiceRequest Entity}
      {ending : Ending (Except ServiceFault (CollectionAnswer Entity))}
      {rest : List (ServiceRequest Entity
        × Ending (Except ServiceFault (CollectionAnswer Entity)))}
      {before middle after : Memory (List Entry)}
      (handled : collection.Handled repository locks request ending before middle)
      (course : Course collection repository locks rest middle after) :
      Course collection repository locks ((request, ending) :: rest) before after

theorem exists_course (lawful : collection.Lawful)
    (keeps : repository.store = Store.memory (List Entry))
    (requests : List (ServiceRequest Entity)) (locks : Locks) (before : Memory (List Entry)) :
    ∃ log after, ServiceRequest.serveEach collection repository requests locks before
        = (log.map Prod.snd, locks, after)
      ∧ log.map Prod.fst = requests
      ∧ collection.Course repository locks log before after := by
  -- induction on the requests: each starts where the one before it ended
  induction requests generalizing before with
  | nil => exact ⟨[], before, rfl, rfl, .nil⟩
  | cons request rest ih =>
    obtain ⟨ending, middle, served, handled⟩ :=
      exists_handled_serve lawful keeps request locks before
    obtain ⟨log, after, servedRest, asked, course⟩ := ih middle
    refine ⟨(request, ending) :: log, after, ?_, by rw [List.map_cons, asked],
      .cons handled course⟩
    unfold ServiceRequest.serveEach
    simp only [served, servedRest]
    rfl

/-- A request adds no record without identifier. -/
theorem Handled.count_empty {ending : Ending (Except ServiceFault (CollectionAnswer Entity))}
    {after : Memory (List Entry)}
    (handled : collection.Handled repository locks request ending before after) :
    (after.document.map collection.entryId).count ""
      ≤ (before.document.map collection.entryId).count "" := by
  have ids := handled.ids
  rw [ids]
  unfold ServiceRequest.idsAfter
  split
  next pathId entity answer =>
    obtain ⟨named, -⟩ := handled.fresh pathId entity answer rfl rfl
    rw [List.count_append, List.count_singleton]
    simp [named]
  next id answer => exact List.Sublist.count_le "" List.erase_sublist
  · exact Nat.le_refl _

theorem Course.count_empty
    {log : List (ServiceRequest Entity × Ending (Except ServiceFault (CollectionAnswer Entity)))}
    {after : Memory (List Entry)} (course : collection.Course repository locks log before after) :
    (after.document.map collection.entryId).count ""
      ≤ (before.document.map collection.entryId).count "" := by
  induction course with
  | nil => exact Nat.le_refl _
  | cons handled _ ih => exact Nat.le_trans ih handled.count_empty

/-! ## §5. Strategies and markets. -/

/-- A request to a service in front of a repository over the store in memory
touches only what it addresses, whatever the document: requests of any number
and kind are dealt with one after the other as `Handled` says, and they add no
record without identifier. -/
def TouchesAddressed (collection : Collection Entry Entity) : Prop :=
  ∀ (location : Location) (key : Path.Key) (locks : Locks) (memory : Memory (List Entry))
    (requests : List (ServiceRequest Entity)),
    ∃ log after,
      ServiceRequest.serveEach collection ⟨Store.memory (List Entry), location, key⟩ requests locks
          memory = (log.map Prod.snd, locks, after)
        ∧ log.map Prod.fst = requests
        ∧ collection.Course ⟨Store.memory (List Entry), location, key⟩ locks log memory after
        ∧ (after.document.map collection.entryId).count ""
          ≤ (memory.document.map collection.entryId).count ""

theorem Lawful.touchesAddressed (lawful : collection.Lawful) : collection.TouchesAddressed := by
  intro location key locks memory requests
  have keeps : (⟨Store.memory (List Entry), location, key⟩ :
      Repository (Memory (List Entry)) (List Entry)).store = Store.memory (List Entry) := rfl
  obtain ⟨log, after, served, asked, course⟩ := exists_course lawful keeps requests locks memory
  exact ⟨log, after, served, asked, course, course.count_empty⟩

/-- Services in front of strategies and of markets. -/
theorem serve_addressed :
    Collection.strategies.TouchesAddressed ∧ Collection.markets.TouchesAddressed :=
  ⟨strategies_lawful.touchesAddressed, markets_lawful.touchesAddressed⟩

end Collection

end TradingConfig
