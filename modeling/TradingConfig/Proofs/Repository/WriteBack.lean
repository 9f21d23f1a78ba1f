/-
  TradingConfig.Proofs.Repository.WriteBack
  ────────────────────────────────
  **WRITING BACK WHAT WAS READ, AND WRITING TWICE.**

  An entity that was read is put back in its place.  The call is accepted,
  since the record that is made of the entity meets every demand that the
  stored one meets (`DocumentClass.clean_of_tidied`); all that changes in the
  document is the settings block of the record, which is there then, in the
  order of the names; and nothing of this is seen by those who read
  (`DocumentClass.WritesBack`).  Any write that succeeded succeeds a second
  time with the same answer, and the second time changes nothing at all
  (`Request.Repeats`).

  Both are shown for a store by its behaviour: what it saves it must load
  (`Behaviour.Stores`), and save again (`Behaviour.Resaves`).
-/
import TradingConfig.Proofs.Entity.Codec
import TradingConfig.Proofs.File.Again
import TradingConfig.Proofs.Repository.Lookup
import TradingConfig.Proofs.Shipped.Tidied

namespace TradingConfig

/-! ## §1. Stores that keep what they are given. -/

namespace Behaviour

variable {V W D : Type}

/-- A document is stored: it is saved, and loaded then. -/
def Stores (behaviour : Behaviour V D) (location : Location) (seen : V) (document : D) : Prop :=
  ∃ after, behaviour.save document location seen = (.ok (), after)
    ∧ behaviour.load location after = .ok document

/-- A document that was saved is loaded, and saved again, which changes an
aspect of what is seen no more. -/
def Resaves (behaviour : Behaviour V D) (aspect : V → W) (location : Location) (seen : V) : Prop :=
  ∀ document after, behaviour.save document location seen = (.ok (), after) →
    behaviour.load location after = .ok document
      ∧ ∃ again, behaviour.save document location after = (.ok (), again)
        ∧ behaviour.load location again = .ok document ∧ aspect again = aspect after

theorem memory_stores (location : Location) (held document : D) :
    (memory D).Stores location held document :=
  ⟨document, rfl, rfl⟩

theorem memory_resaves (location : Location) (held : D) : (memory D).Resaves id location held := by
  intro document after saved
  obtain ⟨-, rfl⟩ := Prod.mk.inj saved
  exact ⟨rfl, document, rfl, rfl, rfl⟩

section Files

variable {codec : Codec D} {validator : Validator} {location : Location} {tree : FileTree}

/-- Files store every document that is clean. -/
theorem files_stores (faithful : codec.Faithful Json.nestingLimit) (apart : location.Apart tree)
    (replaceable : Store.Replaceable location.data tree) {verdict : ValueCheck}
    (usable : Store.readSchema tree.read location.schema validator = .ok verdict) {document : D}
    (clean : verdict (codec.encode document).canonical = []) :
    (files codec validator).Stores location tree document := by
  obtain ⟨after, saved⟩ := Store.exists_saved usable replaceable clean
  exact ⟨after, saved, Store.load_after_save faithful apart saved⟩

/-- Files that have saved a document save it again, and nothing changes at
any place. -/
theorem files_resaves (faithful : codec.Faithful Json.nestingLimit) (apart : location.Apart tree) :
    (files codec validator).Resaves FileTree.node? location tree := by
  intro document after saved
  have apartAfter := apart.of_sameDirectories (Store.sameDirectories_of_save saved)
  have passed := Store.checkDocument_of_saveDocument saved
  have passedAgain : Store.checkDocument codec document location after.read validator = .ok () := by
    rw [Store.checkDocument_congr (Store.read_schema_after_save apart saved)]
    exact passed
  have replaced := (Store.saveDocument_of_check passed).symm.trans saved
  obtain ⟨again, replacedAgain, -, same⟩ := Store.replaceFile_again replaced
  have savedAgain : Store.saveDocument codec document location after validator
      = (.ok (), again) := by
    rw [Store.saveDocument_of_check passedAgain]
    exact replacedAgain
  exact ⟨Store.load_after_save faithful apart saved, again, savedAgain,
    Store.load_after_save faithful apartAfter savedAgain, same⟩

end Files

end Behaviour

/-! ## §2. Collections. -/

namespace Collection

variable {Entry Entity : Type} {collection : Collection Entry Entity} {document : List Entry}
  {id : String} {entity : Entity} {entry : Entry}

/-- A record is the first one of an identifier, behind others, and holds an
entity. -/
structure Target (collection : Collection Entry Entity) (id : String) (entity : Entity)
    (before : List Entry) (stored : Entry) : Prop where
  /-- It has the identifier. -/
  named : collection.entryId stored = id
  /-- The records before it have another one. -/
  first : ∀ other ∈ before, collection.entryId other ≠ id
  /-- It holds the entity. -/
  held : collection.toEntity stored = .ok entity

/-- An entity that is looked up is held by the first record of its
identifier. -/
theorem exists_target_of_lookup (shown : collection.lookup id document = .ok (some entity)) :
    ∃ before stored later, document = before ++ stored :: later
      ∧ collection.Target id entity before stored := by
  unfold lookup at shown
  split at shown
  · cases shown
  next stored found =>
    obtain ⟨_, held, same⟩ := exists_ok_of_map shown
    obtain rfl := Option.some.inj same
    obtain ⟨before, later, rfl, named, first⟩ := exists_parts_of_find? found
    exact ⟨before, stored, later, rfl, named, first, held⟩

section Targets

variable {before : List Entry} {stored : Entry} (target : collection.Target id entity before stored)

include target

theorem Target.entityId (lawful : collection.Lawful) : collection.entityId entity = id :=
  (lawful.entityId_toEntity target.held).trans target.named

theorem Target.find? (lawful : collection.Lawful) (later : List Entry) :
    collection.find? (collection.entityId entity) (before ++ stored :: later) = some stored := by
  rw [target.entityId lawful]
  refine List.find?_eq_some_iff_append.mpr ⟨?_, before, later, rfl, fun other member => ?_⟩
  · simpa using target.named
  · simpa using target.first other member

/-- It is the one that is replaced by the entity. -/
theorem Target.replace (lawful : collection.Lawful) (later : List Entry) :
    collection.replace entity (before ++ stored :: later)
      = before ++ collection.toEntry entity :: later := by
  have same := target.entityId lawful
  exact replace_append_cons lawful (fun other member => same ▸ target.first other member)
    (target.named.trans same.symm) later

end Targets

/-- The list shows the record of an entity as any other record that holds
it. -/
theorem Lawful.entities_toEntry (lawful : collection.Lawful)
    (held : collection.toEntity entry = .ok entity) (before later : List Entry) :
    collection.entities (before ++ collection.toEntry entity :: later)
      = collection.entities (before ++ entry :: later) := by
  unfold entities
  rw [List.mapM_append, List.mapM_append, List.mapM_cons, List.mapM_cons, held,
    lawful.toEntity_toEntry]

/-- So do look-ups. -/
theorem Lawful.lookup_toEntry (lawful : collection.Lawful)
    (held : collection.toEntity entry = .ok entity) (before later : List Entry) (id : String) :
    collection.lookup id (before ++ collection.toEntry entity :: later)
      = collection.lookup id (before ++ entry :: later) := by
  have named : collection.entryId (collection.toEntry entity) = collection.entryId entry :=
    (lawful.entryId_toEntry entity).trans (lawful.entityId_toEntity held)
  unfold lookup find?
  rw [List.find?_append, List.find?_append, List.find?_cons, List.find?_cons, named]
  cases before.find? fun other => decide (collection.entryId other = id) with
  | some other => rfl
  | none =>
    cases decide (collection.entryId entry = id) with
    | false => rfl
    | true =>
      show (collection.toEntity (collection.toEntry entity)).map some
        = (collection.toEntity entry).map some
      rw [held, lawful.toEntity_toEntry]

/-- An entity replaced by itself stays. -/
theorem Lawful.replace_replace (lawful : collection.Lawful)
    (found : collection.find? (collection.entityId entity) document = some entry) :
    collection.replace entity (collection.replace entity document)
      = collection.replace entity document := by
  obtain ⟨before, later, rfl, same, others⟩ := exists_parts_of_find? found
  rw [replace_append_cons lawful others same,
    replace_append_cons lawful others (lawful.entryId_toEntry entity)]

section Calls

variable {V W : Type} {behaviour : Behaviour V (List Entry)} {location : Location}
  {seen after : V}

/-- An update whose document is saved and loads is answered with the
entity. -/
theorem Lawful.run_update (lawful : collection.Lawful)
    (loads : behaviour.load location seen = .ok document)
    (found : collection.find? (collection.entityId entity) document = some entry)
    (saves : behaviour.save (collection.replace entity document) location seen = (.ok (), after))
    (reloads : behaviour.load location after = .ok (collection.replace entity document)) :
    behaviour.run location ((CollectionCall.update entity).program collection) seen
      = (.ok (.outcome (.found entity)), after) := by
  have updated : behaviour.run location (collection.update entity) seen
      = (.ok (.found entity), after) := by
    rw [update, Behaviour.run_loading, loads]
    dsimp only
    rw [found]
    dsimp only
    rw [Behaviour.run_saving, saves]
    exact lawful.run_confirm reloads (lawful.find?_replace found)
  rw [CollectionCall.program, Behaviour.run_map, updated]
  rfl

/-- An update that succeeded succeeds again. -/
theorem Lawful.exists_run_update_again (lawful : collection.Lawful) {aspect : V → W}
    (resaves : behaviour.Resaves aspect location seen) {answer : CollectionAnswer Entity}
    (ran : behaviour.run location ((CollectionCall.update entity).program collection) seen
      = (.ok answer, after)) :
    ∃ again, behaviour.run location ((CollectionCall.update entity).program collection) after
        = (.ok answer, again) ∧ aspect again = aspect after := by
  obtain ⟨outcome, updated, rfl⟩ := Behaviour.exists_run_of_map ran
  obtain ⟨document, loads, updated⟩ := Behaviour.exists_loaded updated
  cases found : collection.find? (collection.entityId entity) document with
  | none =>
    -- nothing was saved
    rw [found] at updated
    obtain ⟨-, rfl⟩ := Prod.mk.inj updated
    exact ⟨seen, ran, rfl⟩
  | some entry =>
    rw [found] at updated
    have saves := saved_of_confirmed updated
    obtain ⟨reloads, again, savesAgain, reloadsAgain, same⟩ := resaves _ _ saves
    have first := lawful.run_update loads found saves reloads
    rw [← lawful.replace_replace found] at savesAgain reloadsAgain
    have second := lawful.run_update reloads (lawful.find?_replace found) savesAgain reloadsAgain
    obtain ⟨told, -⟩ := Prod.mk.inj (ran.symm.trans first)
    exact ⟨again, second.trans (Prod.ext told.symm rfl), same⟩

/-- A call that does not write reads the document and nothing else. -/
theorem run_of_free {call : CollectionCall Entity} (free : call.writes = false)
    (loads : behaviour.load location seen = .ok document) :
    behaviour.run location (call.program collection) seen
      = (((call.program collection).evaluate document).1, seen) := by
  cases call with
  | findAll =>
    show ((Program.seen collection.entities (behaviour.load location seen)).map _, seen) = _
    rw [loads]
    rfl
  | findById id =>
    show ((Program.seen (collection.lookup id) (behaviour.load location seen)).map _, seen) = _
    rw [loads]
    rfl
  | _ => cases free

/-- Documents that are listed and looked up alike are read alike. -/
theorem evaluate_of_free {call : CollectionCall Entity} (free : call.writes = false)
    {other : List Entry} (lists : collection.entities other = collection.entities document)
    (looksUp : ∀ id, collection.lookup id other = collection.lookup id document) :
    ((call.program collection).evaluate other).1
      = ((call.program collection).evaluate document).1 := by
  cases call with
  | findAll =>
    rw [CollectionCall.program, findAll, Program.evaluate_map, Program.evaluate_map,
      Program.evaluate_reading, Program.evaluate_reading, lists]
  | findById id =>
    rw [CollectionCall.program, findById, Program.evaluate_map, Program.evaluate_map,
      Program.evaluate_reading, Program.evaluate_reading, looksUp]
  | _ => cases free

/-- An entity is looked up where the document has it. -/
theorem exists_lookup_of_run
    (shown : (behaviour.run location ((CollectionCall.findById id).program collection) seen).1
      = .ok (.one (some entity))) :
    ∃ document, behaviour.load location seen = .ok document
      ∧ collection.lookup id document = .ok (some entity) := by
  change (Program.seen (collection.lookup id) (behaviour.load location seen)).map _ = _ at shown
  obtain ⟨_, told, same⟩ := exists_ok_of_map shown
  obtain rfl := CollectionAnswer.one.inj same
  obtain ⟨document, loads, looked⟩ := exists_ok_of_bind told
  exact ⟨document, eq_ok_of_mapError loads, eq_ok_of_mapError looked⟩

/-- An entity that was looked up can be put back wherever the document with
its record can be stored, and everything is listed and looked up as before. -/
theorem Lawful.exists_run_written_back (lawful : collection.Lawful)
    (shown : (behaviour.run location ((CollectionCall.findById id).program collection) seen).1
      = .ok (.one (some entity)))
    (stores : ∀ {before stored later},
      behaviour.load location seen = .ok (before ++ stored :: later) →
      collection.Target id entity before stored →
      behaviour.Stores location seen (before ++ collection.toEntry entity :: later)) :
    ∃ after before stored later, collection.Target id entity before stored
      ∧ behaviour.run location ((CollectionCall.update entity).program collection) seen
        = (.ok (.outcome (.found entity)), after)
      ∧ behaviour.load location seen = .ok (before ++ stored :: later)
      ∧ behaviour.load location after = .ok (before ++ collection.toEntry entity :: later)
      ∧ ∀ call : CollectionCall Entity, call.writes = false →
        (behaviour.run location (call.program collection) after).1
          = (behaviour.run location (call.program collection) seen).1 := by
  obtain ⟨document, loads, looked⟩ := exists_lookup_of_run shown
  obtain ⟨before, stored, later, rfl, target⟩ := exists_target_of_lookup looked
  obtain ⟨after, saves, reloads⟩ := stores loads target
  have replaced := target.replace lawful later
  refine ⟨after, before, stored, later, target, ?_, loads, reloads, fun call free => ?_⟩
  · rw [← replaced] at saves reloads
    exact lawful.run_update loads (target.find? lawful later) saves reloads
  · rw [run_of_free free reloads, run_of_free free loads]
    exact evaluate_of_free free (lawful.entities_toEntry target.held before later)
      (lawful.lookup_toEntry target.held before later)

end Calls

end Collection

/-! ## §3. The exchange. -/

namespace Exchange

variable {V W : Type} {behaviour : Behaviour V ExchangeRecord} {location : Location}
  {seen after : V} {exchange : Exchange} {document : ExchangeRecord}

theorem run_get_of_load (loads : behaviour.load location seen = .ok document) :
    behaviour.run location get seen
      = (document.toExchange.mapError .malformed, seen) := by
  show (Program.seen ExchangeRecord.toExchange (behaviour.load location seen), seen) = _
  rw [loads]
  rfl

/-- The exchange is read where the document holds it. -/
theorem exists_toExchange_of_run (shown : (behaviour.run location get seen).1 = .ok exchange) :
    ∃ document, behaviour.load location seen = .ok document
      ∧ document.toExchange = .ok exchange := by
  change Program.seen ExchangeRecord.toExchange (behaviour.load location seen) = _ at shown
  obtain ⟨document, loads, held⟩ := exists_ok_of_bind shown
  exact ⟨document, eq_ok_of_mapError loads, eq_ok_of_mapError held⟩

/-- A save whose document is saved and loads is answered with the
exchange. -/
theorem run_save_of_load (loads : behaviour.load location seen = .ok document)
    (saves : behaviour.save (exchange.toRecord document.credentials) location seen
      = (.ok (), after))
    (reloads : behaviour.load location after = .ok (exchange.toRecord document.credentials)) :
    behaviour.run location exchange.save seen = (.ok exchange, after) := by
  rw [save, Behaviour.run_loading, loads]
  dsimp only
  rw [Behaviour.run_saving, saves]
  dsimp only
  rw [run_get_of_load reloads, Exchange.toExchange_toRecord]
  rfl

/-- A save that succeeded succeeds again. -/
theorem exists_run_save_again {aspect : V → W} (resaves : behaviour.Resaves aspect location seen)
    {answer : Exchange} (ran : behaviour.run location exchange.save seen = (.ok answer, after)) :
    ∃ again, behaviour.run location exchange.save after = (.ok answer, again)
      ∧ aspect again = aspect after := by
  obtain ⟨document, loads, saved⟩ := Behaviour.exists_loaded ran
  obtain ⟨between, saves, got⟩ := Behaviour.exists_saved saved
  obtain rfl : between = after := congrArg Prod.snd got
  obtain ⟨reloads, again, savesAgain, reloadsAgain, same⟩ := resaves _ _ saves
  -- the credentials that are carried over are the same ones
  have second : behaviour.run location exchange.save between = (.ok exchange, again) :=
    run_save_of_load reloads savesAgain reloadsAgain
  obtain ⟨told, -⟩ := Prod.mk.inj (ran.symm.trans (run_save_of_load loads saves reloads))
  exact ⟨again, second.trans (Prod.ext told.symm rfl), same⟩

/-- The exchange that was read can be put back wherever the document can be
stored, and is read as before. -/
theorem exists_run_written_back (loads : behaviour.load location seen = .ok document)
    (held : document.toExchange = .ok exchange)
    (stores : behaviour.Stores location seen (exchange.toRecord document.credentials)) :
    ∃ after, behaviour.run location exchange.save seen = (.ok exchange, after)
      ∧ behaviour.load location after = .ok (exchange.toRecord document.credentials)
      ∧ (behaviour.run location get after).1 = (behaviour.run location get seen).1 := by
  obtain ⟨after, saves, reloads⟩ := stores
  refine ⟨after, run_save_of_load loads saves reloads, reloads, ?_⟩
  rw [run_get_of_load reloads, run_get_of_load loads, held, Exchange.toExchange_toRecord]

end Exchange

/-! ## §4. Requests. -/

/-- The store of a repository gives a document. -/
def Repository.Gives {σ D : Type} (repository : Repository σ D) (state : σ) (document : D) :
    Prop :=
  (repository.store.load repository.location state).1 = .answer (.ok document)

/-- A request that is answered is answered alike when it is served again, and
an aspect of the state is then as the first time left it. -/
def Request.Repeats {σ D R W : Type} (request : Request σ D R) (aspect : σ → W) (locks : Locks)
    (state : σ) : Prop :=
  ∀ answer locksAfter after,
    request.serve locks state = (.result (.ok answer), locksAfter, after) →
    ∃ again, request.serve locksAfter after = (.result (.ok answer), locksAfter, again)
      ∧ aspect again = aspect after

namespace Store.BehavesAs

variable {σ V W D R : Type} {store : Store σ D} {view : σ → V} {behaviour : Behaviour V D}
  {request : Request σ D R} {locks : Locks} {state : σ}

theorem gives_iff (behaves : store.BehavesAs view behaviour) {repository : Repository σ D}
    (keeps : repository.store = store) {document : D} :
    repository.Gives state document
      ↔ behaviour.load repository.location (view state) = .ok document := by
  obtain ⟨_, loaded, -⟩ := behaves.load repository.location state
  unfold Repository.Gives
  rw [keeps, loaded]
  exact ⟨Reply.answer.inj, congrArg Reply.answer⟩

/-- A request that is not refused ends as its program does. -/
theorem exists_serve (behaves : store.BehavesAs view behaviour)
    (keeps : request.repository.store = store)
    (unpoisoned : locks.isPoisoned request.repository.key = false)
    {result : Except RepositoryFault R} {seen : V}
    (ran : behaviour.run request.repository.location request.program (view state)
      = (result, seen)) :
    ∃ after, request.serve locks state = (.result result, locks, after) ∧ view after = seen := by
  have served := behaves.serve keeps locks state
  rw [Behaviour.serve_of_unpoisoned unpoisoned, ran] at served
  exact served

theorem ending_serve (behaves : store.BehavesAs view behaviour)
    (keeps : request.repository.store = store)
    (unpoisoned : locks.isPoisoned request.repository.key = false) :
    (request.serve locks state).1
      = .result (behaviour.run request.repository.location request.program (view state)).1 := by
  obtain ⟨after, served, -⟩ := behaves.exists_serve keeps unpoisoned (Prod.eta _).symm
  rw [served]

/-- A request is repeated where its program is. -/
theorem repeats (behaves : store.BehavesAs view behaviour)
    (keeps : request.repository.store = store) {aspect : V → W}
    (again : ∀ {answer seen},
      behaviour.run request.repository.location request.program (view state)
        = (.ok answer, seen) →
      ∃ last, behaviour.run request.repository.location request.program seen = (.ok answer, last)
        ∧ aspect last = aspect seen) :
    request.Repeats (fun state => aspect (view state)) locks state := by
  intro answer locksAfter after served
  obtain ⟨left, serves, sees⟩ := behaves.serve keeps locks state
  rw [serves] at served
  obtain ⟨told, rest⟩ := Prod.mk.inj served
  obtain ⟨rfl, rfl⟩ := Prod.mk.inj rest
  have told := Ending.result.inj told
  unfold Behaviour.serve at told sees
  split at told
  · cases told
  next admitted =>
    rw [if_neg admitted] at sees
    obtain ⟨last, ran, same⟩ := again (Prod.ext told sees.symm)
    obtain ⟨lastState, servesAgain, seesAgain⟩ := behaves.serve keeps locks left
    unfold Behaviour.serve at servesAgain seesAgain
    rw [if_neg admitted, ran] at servesAgain seesAgain
    exact ⟨lastState, servesAgain, (congrArg aspect seesAgain).trans same⟩

end Store.BehavesAs

/-! ## §5. All classes. -/

namespace DocumentClass

/-- The call that looks up an entity; the exchange has no identifier. -/
def lookup : (documentClass : DocumentClass) → (id : String) → documentClass.Call
  | .strategies, id => CollectionCall.findById id
  | .markets, id => CollectionCall.findById id
  | .exchange, _ => ExchangeCall.get

/-- The answer that shows an entity. -/
def showing : (documentClass : DocumentClass) → documentClass.Entity → documentClass.Answer
  | .strategies, strategy => CollectionAnswer.one (some strategy)
  | .markets, market => CollectionAnswer.one (some market)
  | .exchange, single => single

/-- The call that puts an entity in the place of the stored one. -/
def put : (documentClass : DocumentClass) → documentClass.Entity → documentClass.Call
  | .strategies, strategy => CollectionCall.update strategy
  | .markets, market => CollectionCall.update market
  | .exchange, single => ExchangeCall.save single

/-- The answer that says so. -/
def confirming : (documentClass : DocumentClass) → documentClass.Entity → documentClass.Answer
  | .strategies, strategy => CollectionAnswer.outcome (.found strategy)
  | .markets, market => CollectionAnswer.outcome (.found market)
  | .exchange, single => single

section Runs

variable {V W : Type} {documentClass : DocumentClass}
  {behaviour : Behaviour V documentClass.Document} {location : Location} {seen after : V}

/-- An entity that was looked up can be put back wherever the tidied document
can be stored; that is what is loaded then, and all is read as before. -/
theorem exists_run_written_back {id : String} {entity : documentClass.Entity}
    (shown : (behaviour.run location (documentClass.program (documentClass.lookup id)) seen).1
      = .ok (documentClass.showing entity))
    (stores : ∀ {document saved}, behaviour.load location seen = .ok document →
      documentClass.Tidied id document saved → behaviour.Stores location seen saved) :
    ∃ after document saved,
      behaviour.run location (documentClass.program (documentClass.put entity)) seen
          = (.ok (documentClass.confirming entity), after)
        ∧ behaviour.load location seen = .ok document
        ∧ behaviour.load location after = .ok saved
        ∧ documentClass.Tidied id document saved
        ∧ ∀ call, documentClass.writes call = false →
          (behaviour.run location (documentClass.program call) after).1
            = (behaviour.run location (documentClass.program call) seen).1 := by
  cases documentClass with
  | strategies =>
    have tidied {before later : List StrategyRecord} {stored : StrategyRecord}
        (target : Collection.strategies.Target id entity before stored) :
        strategies.Tidied id (before ++ stored :: later)
          (before ++ Strategy.toRecord entity :: later) :=
      ⟨before, stored, _, later, rfl, rfl, target.named, target.first,
        StrategyRecord.tidied_of_toStrategy target.held⟩
    obtain ⟨after, before, stored, later, target, ran, loads, reloads, unseen⟩ :=
      Collection.strategies_lawful.exists_run_written_back shown
        fun loads target => stores loads (tidied target)
    exact ⟨after, _, _, ran, loads, reloads, tidied target, unseen⟩
  | markets =>
    -- the record of a market that was read is the one that was stored
    have tidied {before later : List MarketRecord} {stored : MarketRecord}
        (target : Collection.markets.Target id entity before stored) :
        markets.Tidied id (before ++ stored :: later)
          (before ++ Market.toRecord entity :: later) := by
      obtain rfl := Except.ok.inj target.held
      rfl
    obtain ⟨after, before, stored, later, target, ran, loads, reloads, unseen⟩ :=
      Collection.markets_lawful.exists_run_written_back shown
        fun loads target => stores loads (tidied target)
    exact ⟨after, _, _, ran, loads, reloads, tidied target, unseen⟩
  | exchange =>
    obtain ⟨document, loads, held⟩ := Exchange.exists_toExchange_of_run shown
    have tidied : exchange.Tidied id document (Exchange.toRecord entity document.credentials) :=
      ExchangeRecord.tidied_of_toExchange held
    obtain ⟨after, ran, reloads, unseen⟩ :=
      Exchange.exists_run_written_back loads held (stores loads tidied)
    refine ⟨after, document, _, ran, loads, reloads, tidied, fun call free => ?_⟩
    cases call with
    | get => exact unseen
    | save _ => cases free

/-- A write that succeeded succeeds again. -/
theorem exists_run_put_again {aspect : V → W} (resaves : behaviour.Resaves aspect location seen)
    (entity : documentClass.Entity) {answer : documentClass.Answer}
    (ran : behaviour.run location (documentClass.program (documentClass.put entity)) seen
      = (.ok answer, after)) :
    ∃ again, behaviour.run location (documentClass.program (documentClass.put entity)) after
        = (.ok answer, again) ∧ aspect again = aspect after := by
  cases documentClass with
  | strategies => exact Collection.strategies_lawful.exists_run_update_again resaves ran
  | markets => exact Collection.markets_lawful.exists_run_update_again resaves ran
  | exchange => exact Exchange.exists_run_save_again resaves ran

end Runs

/-- An entity that was looked up has been put back. -/
structure WrittenBack {σ : Type} (documentClass : DocumentClass)
    (repository : Repository σ documentClass.Document) (locks : Locks) (id : String)
    (entity : documentClass.Entity) (state after : σ) : Prop where
  /-- The answer is the entity. -/
  answered : (documentClass.request repository (documentClass.put entity)).serve locks state
    = (.result (.ok (documentClass.confirming entity)), locks, after)
  /-- Every call that reads is answered as before. -/
  unseen : ∀ call, documentClass.writes call = false →
    ((documentClass.request repository call).serve locks after).1
      = ((documentClass.request repository call).serve locks state).1
  /-- At most the settings block of the entity has changed. -/
  tidied : ∃ document saved, repository.Gives state document ∧ repository.Gives after saved
    ∧ documentClass.Tidied id document saved

/-- Whatever entity is looked up can be put back. -/
def WritesBack {σ : Type} (documentClass : DocumentClass)
    (repository : Repository σ documentClass.Document) (locks : Locks) (state : σ) : Prop :=
  ∀ id entity,
    ((documentClass.request repository (documentClass.lookup id)).serve locks state).1
      = .result (.ok (documentClass.showing entity)) →
    ∃ after, documentClass.WrittenBack repository locks id entity state after

section Stores

variable {σ V W : Type} {documentClass : DocumentClass} {store : Store σ documentClass.Document}
  {view : σ → V} {behaviour : Behaviour V documentClass.Document}
  {repository : Repository σ documentClass.Document} {locks : Locks} {state : σ}

/-- What is read is written back wherever tidied documents can be stored. -/
theorem writesBack_of_stores (behaves : store.BehavesAs view behaviour)
    (keeps : repository.store = store) (unpoisoned : locks.isPoisoned repository.key = false)
    (stores : ∀ {id document saved},
      behaviour.load repository.location (view state) = .ok document →
      documentClass.Tidied id document saved →
      behaviour.Stores repository.location (view state) saved) :
    documentClass.WritesBack repository locks state := by
  intro id entity shown
  have keepsIn (call : documentClass.Call) :
      (documentClass.request repository call).repository.store = store := keeps
  rw [behaves.ending_serve (keepsIn _) unpoisoned] at shown
  obtain ⟨left, document, saved, ran, loads, reloads, tidied, unseen⟩ :=
    exists_run_written_back (Ending.result.inj shown) stores
  obtain ⟨after, served, sees⟩ :=
    behaves.exists_serve (keepsIn (documentClass.put entity)) unpoisoned ran
  refine ⟨after, served, fun call free => ?_, document, saved, (behaves.gives_iff keeps).mpr loads,
    (behaves.gives_iff keeps).mpr ?_, tidied⟩
  · rw [behaves.ending_serve (keepsIn call) unpoisoned,
      behaves.ending_serve (keepsIn call) unpoisoned, sees]
    exact congrArg Ending.result (unseen call free)
  · rw [sees]
    exact reloads

theorem repeats_of_resaves (behaves : store.BehavesAs view behaviour)
    (keeps : repository.store = store) {aspect : V → W}
    (resaves : behaviour.Resaves aspect repository.location (view state))
    (entity : documentClass.Entity) :
    (documentClass.request repository (documentClass.put entity)).Repeats
      (fun state => aspect (view state)) locks state :=
  behaves.repeats keeps fun ran => exists_run_put_again resaves entity ran

end Stores

/-! ## §6. Writing back, and writing twice. -/

/-- Writing back what was read, and repeating a write, changes nothing that
is seen.  It is so for every document in memory; over files apart a write
that succeeded can be repeated and leaves every place as it was, whatever
validator decided about it, and where they can be replaced and load under
the shipped schema, whatever is read can be written back. -/
theorem writes_settle (documentClass : DocumentClass) (location : Location) (key : Path.Key)
    (locks : Locks) (unpoisoned : locks.isPoisoned key = false) :
    (∀ memory, documentClass.WritesBack (documentClass.inMemory location key) locks memory
        ∧ ∀ entity, (documentClass.request (documentClass.inMemory location key)
          (documentClass.put entity)).Repeats Memory.document locks memory)
      ∧ ∀ tree : FileTree, location.Apart tree →
        (∀ validator entity, (documentClass.request (documentClass.onFiles location key validator)
            (documentClass.put entity)).Repeats FileTree.node? locks tree)
          ∧ (Store.Replaceable location.data tree →
            tree.read location.schema = .ok documentClass.shippedSchema.toUTF8 → ∀ document,
            Store.loadDocument documentClass.codec location tree.read = .ok document →
            documentClass.WritesBack (documentClass.onFiles location key) locks tree) := by
  have faithful := documentClass.codec_faithful
  constructor
  · intro memory
    have behaves := Store.memory_behavesAs documentClass.Document
    exact ⟨writesBack_of_stores behaves rfl unpoisoned
        fun _ _ => Behaviour.memory_stores location memory.document _,
      repeats_of_resaves behaves rfl (Behaviour.memory_resaves location memory.document)⟩
  · intro tree apart
    have behaves (validator : Validator) :=
      Store.checked_behavesAs documentClass.codec validator
    refine ⟨fun validator => repeats_of_resaves (behaves validator) rfl
      (Behaviour.files_resaves faithful apart), fun replaceable schema document loads => ?_⟩
    refine writesBack_of_stores (behaves .keywords) rfl unpoisoned
      fun {id other saved} loaded tidied => ?_
    have clean : documentClass.Clean other := clean_of_load schema loaded
    exact Behaviour.files_stores faithful apart replaceable (readSchema_shipped schema)
      (SchemaBook.complaints_eq_nil_iff.mpr (clean_of_tidied tidied clean))

/-- A malformed record in memory does not stand in the way of a strategy that
is written back; a strategy in a file is given a settings block; and the
exchange is written back twice. -/
theorem writes_settle_shelves :
    (∃ after, strategies.WrittenBack (strategies.inMemory ⟨⟨"data"⟩, ⟨"schema"⟩⟩ .unnamed) .fresh
        "dip" (Strategy.plain "dip" "Dip" "" "x.Dip")
        (.holding Collection.malformedStrategies) after)
      ∧ (∃ after, strategies.WrittenBack
          (strategies.onFiles Collection.strategyFiles .unnamed) .fresh "grid"
          (Strategy.plain "grid" "Grid" "" "Grid")
          (Collection.strategyShelf Collection.twoStrategies) after)
      ∧ ∃ after again,
        let saves := exchange.request (exchange.onFiles Shipped.exchangeFiles .unnamed)
          (.save soundExchange)
        saves.serve .fresh soundShelf = (.result (.ok soundExchange), .fresh, after)
          ∧ saves.serve .fresh after = (.result (.ok soundExchange), .fresh, again)
          ∧ again.node? = after.node? := by
  refine ⟨?_, ?_, ?_⟩
  · exact ((writes_settle .strategies _ _ .fresh rfl).1 _).1 "dip" _ rfl
  · have loads : Store.loadDocument StrategyRecord.documentCodec Collection.strategyFiles
        (Collection.strategyShelf Collection.twoStrategies).read = .ok Collection.twoStrategies :=
      Collection.load_strategyShelf (by cbv)
    obtain ⟨-, files⟩ := writes_settle .strategies Collection.strategyFiles .unnamed .fresh rfl
    exact (files _ (apart_strategyShelf _)).2 (fun _ => rfl) rfl _ loads "grid" _
      (congrArg Prod.fst (Collection.serve_findById loads "grid"))
  · obtain ⟨-, files⟩ := writes_settle .exchange Shipped.exchangeFiles .unnamed .fresh rfl
    obtain ⟨repeats, writesBack⟩ := files _ apart_soundShelf
    have shown : (exchange.request (exchange.onFiles Shipped.exchangeFiles .unnamed) .get).serve
        .fresh soundShelf = (.result (.ok soundExchange), .fresh, soundShelf) :=
      Request.serve_of_run (fun _ => rfl)
        (Store.run_checked_of_reads (.reading ExchangeRecord.toExchange) load_soundShelf).1
    obtain ⟨after, written⟩ := writesBack (fun _ => rfl) rfl _ load_soundShelf "" soundExchange
      (congrArg Prod.fst shown)
    obtain ⟨again, second, same⟩ := repeats .keywords soundExchange _ _ _ written.answered
    exact ⟨after, again, written.answered, second, same⟩

end DocumentClass

end TradingConfig
