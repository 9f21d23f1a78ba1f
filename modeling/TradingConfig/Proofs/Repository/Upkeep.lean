/-
  TradingConfig.Proofs.Repository.Upkeep
  ────────────────────────────────
  **WHAT EVERY CALL KEEPS OF A DOCUMENT.**

  A call of a collection leaves the document as it is, appends the record of
  an entity whose identifier is new, revises a record, or removes one
  (`Collection.Edit`), and its answer tells which (`Collection.Deed`).  None
  of these leaves a record that holds no entity where there was none before,
  and none makes an identifier occur twice
  (`DocumentClass.legible_evaluate`, `DocumentClass.nodup_ids_evaluate`).
  Over files a request makes of the document what its program makes of it,
  or nothing (`Store.exists_load_serve`).
-/
import TradingConfig.Proofs.Repository.Account
import TradingConfig.Proofs.Repository.Catalog
import TradingConfig.Proofs.Repository.Twin

namespace TradingConfig

/-! ## §1. What a call can do to a document. -/

namespace Collection

variable {Entry Entity : Type} {collection : Collection Entry Entity}
  {document after : List Entry}

/-- The documents that a call can make of a document. -/
inductive Edit (collection : Collection Entry Entity) (document : List Entry) :
    List Entry → Prop where
  /-- The document as it is. -/
  | kept : Edit collection document document
  /-- One more record, of a new identifier. -/
  | appended {entity : Entity}
      (absent : collection.find? (collection.entityId entity) document = none) :
      Edit collection document (document ++ [collection.toEntry entity])
  /-- A record revised. -/
  | replaced (entity : Entity) : Edit collection document (collection.replace entity document)
  /-- A record removed. -/
  | removed (id : String) : Edit collection document (collection.remove id document)

/-- The documents that a call can leave, with the answers it gives then. -/
inductive Deed (collection : Collection Entry Entity) (document : List Entry) :
    CollectionCall Entity → Except RepositoryFault (CollectionAnswer Entity) → List Entry →
      Prop where
  /-- The document as it is; no change is told. -/
  | kept {call : CollectionCall Entity}
      {result : Except RepositoryFault (CollectionAnswer Entity)}
      (untold : ∀ entity, result ≠ .ok (.outcome (.found entity))) :
      Deed collection document call result document
  /-- One more record, of a new identifier. -/
  | created {entity : Entity}
      (absent : collection.entityId entity ∉ document.map collection.entryId) :
      Deed collection document (.create entity) (.ok (.outcome (.found entity)))
        (document ++ [collection.toEntry entity])
  /-- A record revised. -/
  | updated {entity : Entity} :
      Deed collection document (.update entity) (.ok (.outcome (.found entity)))
        (collection.replace entity document)
  /-- A record removed. -/
  | deleted {id : String} {entity : Entity} :
      Deed collection document (.delete id) (.ok (.outcome (.found entity)))
        (collection.remove id document)

theorem deed_evaluate (lawful : collection.Lawful) (call : CollectionCall Entity)
    (document : List Entry) :
    collection.Deed document call ((call.program collection).evaluate document).1
      ((call.program collection).evaluate document).2 := by
  cases call with
  | findAll =>
    refine .kept fun entity told => ?_
    rw [CollectionCall.program, Program.evaluate_map] at told
    cases listed : (collection.findAll.evaluate document).1 <;> rw [listed] at told <;> cases told
  | findById id =>
    refine .kept fun entity told => ?_
    rw [CollectionCall.program, Program.evaluate_map] at told
    cases read : ((collection.findById id).evaluate document).1 <;> rw [read] at told <;> cases told
  | create entity =>
    rw [CollectionCall.program, Program.evaluate_map, lawful.evaluate_create]
    cases found : collection.find? (collection.entityId entity) document with
    | some entry => exact .kept fun entity told => by cases told
    | none => exact .created (CollectionCall.find?_eq_none_iff.mp found)
  | update entity =>
    rw [CollectionCall.program, Program.evaluate_map, lawful.evaluate_update]
    cases collection.find? (collection.entityId entity) document with
    | none => exact .kept fun entity told => by cases told
    | some entry => exact .updated
  | delete id =>
    rw [CollectionCall.program, Program.evaluate_map, evaluate_delete]
    cases collection.find? id document with
    | none => exact .kept fun entity told => by cases told
    | some entry =>
      simp only
      cases collection.toEntity entry with
      | error fault => exact .kept fun entity told => by cases told
      | ok entity => exact .deleted

/-- Whatever it answers, a call edits the document. -/
theorem Deed.edit {call : CollectionCall Entity}
    {result : Except RepositoryFault (CollectionAnswer Entity)}
    (deed : collection.Deed document call result after) : collection.Edit document after := by
  cases deed with
  | kept _ => exact .kept
  | created absent => exact .appended (CollectionCall.find?_eq_none_iff.mpr absent)
  | updated => exact .replaced _
  | deleted => exact .removed _

theorem edit_evaluate (lawful : collection.Lawful) (call : CollectionCall Entity)
    (document : List Entry) :
    collection.Edit document ((call.program collection).evaluate document).2 :=
  (deed_evaluate lawful call document).edit

/-! ## §2. Documents whose records hold entities. -/

/-- Every record holds an entity. -/
def Legible (collection : Collection Entry Entity) (document : List Entry) : Prop :=
  ∀ entry ∈ document, ∃ entity, collection.toEntity entry = .ok entity

theorem legible_iff :
    collection.Legible document ↔ ∃ entities, collection.entities document = .ok entities := by
  simp only [entities_eq_ok_iff]
  constructor
  · intro legible
    induction document with
    | nil => exact ⟨[], .nil⟩
    | cons entry rest ih =>
      obtain ⟨entity, held⟩ := legible entry List.mem_cons_self
      obtain ⟨entities, heldRest⟩ := ih fun other member =>
        legible other (List.mem_cons_of_mem entry member)
      exact ⟨entity :: entities, .cons held heldRest⟩
  · rintro ⟨entities, held⟩
    induction held with
    | nil => exact fun _ member => absurd member List.not_mem_nil
    | cons head _ ih =>
      intro entry member
      rcases List.mem_cons.mp member with rfl | later
      · exact ⟨_, head⟩
      · exact ih entry later

/-- The entities have the identifiers of the records. -/
theorem Lawful.map_entityId_entities (lawful : collection.Lawful) {entities : List Entity}
    (held : collection.entities document = .ok entities) :
    entities.map collection.entityId = document.map collection.entryId :=
  lawful.map_entityId (entities_eq_ok_iff.mp held)

theorem mem_replace (lawful : collection.Lawful) {entity : Entity} {entry : Entry}
    (member : entry ∈ collection.replace entity document) :
    entry ∈ document ∨ entry = collection.toEntry entity := by
  induction document with
  | nil => cases member
  | cons head rest ih =>
    unfold replace at member
    by_cases here : collection.entryId head = collection.entityId entity
    · rw [if_pos here, lawful.revise_eq_toEntry here] at member
      rcases List.mem_cons.mp member with new | old
      · exact .inr new
      · exact .inl (List.mem_cons_of_mem head old)
    · rw [if_neg here] at member
      rcases List.mem_cons.mp member with rfl | later
      · exact .inl List.mem_cons_self
      · exact (ih later).imp_left (List.mem_cons_of_mem head)

/-- Every record that an edit brings in is made for an entity. -/
theorem Edit.legible (edit : collection.Edit document after) (lawful : collection.Lawful)
    (legible : collection.Legible document) : collection.Legible after := by
  cases edit with
  | kept => exact legible
  | @appended entity absent =>
    intro entry member
    rcases List.mem_append.mp member with old | new
    · exact legible entry old
    · rw [List.mem_singleton.mp new]
      exact ⟨entity, lawful.toEntity_toEntry entity⟩
  | replaced entity =>
    intro entry member
    rcases mem_replace lawful member with old | rfl
    · exact legible entry old
    · exact ⟨entity, lawful.toEntity_toEntry entity⟩
  | removed id => exact fun entry member => legible entry (List.mem_of_mem_eraseP member)

/-! ## §3. Distinct identifiers. -/

/-- Only a creation brings an identifier in, and it is new then. -/
theorem Edit.nodup (edit : collection.Edit document after) (lawful : collection.Lawful)
    (distinct : (document.map collection.entryId).Nodup) :
    (after.map collection.entryId).Nodup := by
  cases edit with
  | kept => exact distinct
  | @appended entity absent =>
    have new := CollectionCall.find?_eq_none_iff.mp absent
    rw [List.map_append, List.nodup_append]
    refine ⟨distinct, List.nodup_singleton _, fun id old other isNew same => new ?_⟩
    rw [← lawful.entryId_toEntry entity, ← List.mem_singleton.mp isNew, ← same]
    exact old
  | replaced entity =>
    rw [CollectionCall.map_entryId_replace lawful]
    exact distinct
  | removed id => exact distinct.sublist (List.eraseP_sublist.map collection.entryId)

end Collection

/-! ## §4. Classes of documents. -/

namespace DocumentClass

/-- What a document says can be told to callers. -/
def Legible : (documentClass : DocumentClass) → documentClass.Document → Prop
  | .strategies, document => Collection.strategies.Legible document
  | .markets, document => Collection.markets.Legible document
  | .exchange, document => ∃ exchange, ExchangeRecord.toExchange document = .ok exchange

variable {documentClass : DocumentClass} {document : documentClass.Document}

theorem legible_evaluate (legible : documentClass.Legible document) (call : documentClass.Call) :
    documentClass.Legible ((documentClass.program call).evaluate document).2 := by
  cases documentClass with
  | strategies =>
    exact (Collection.edit_evaluate Collection.strategies_lawful call document).legible
      Collection.strategies_lawful legible
  | markets =>
    exact (Collection.edit_evaluate Collection.markets_lawful call document).legible
      Collection.markets_lawful legible
  | exchange =>
    cases call with
    | get => exact legible
    | save exchange =>
      have saved := congrArg (fun pair => pair.2.toExchange) (exchange.evaluate_save document)
      exact ⟨exchange, saved.trans (exchange.toExchange_toRecord _)⟩

theorem nodup_ids_evaluate (distinct : (documentClass.ids document).Nodup)
    (call : documentClass.Call) :
    (documentClass.ids ((documentClass.program call).evaluate document).2).Nodup := by
  cases documentClass with
  | strategies =>
    exact (Collection.edit_evaluate Collection.strategies_lawful call document).nodup
      Collection.strategies_lawful distinct
  | markets =>
    exact (Collection.edit_evaluate Collection.markets_lawful call document).nodup
      Collection.markets_lawful distinct
  | exchange => exact List.nodup_nil

end DocumentClass

/-! ## §5. Files. -/

/-- However a request over files ends, they load as the document that it
found there or as the one that its program makes of it. -/
theorem Store.exists_load_serve {D R : Type} {codec : Codec D} {validator : Validator}
    (faithful : codec.Faithful Json.nestingLimit) (request : Request FileTree D R)
    (keeps : request.repository.store = checked codec validator)
    (transacts : request.program.Transacts) {tree : FileTree}
    (apart : request.repository.location.Apart tree) {document : D}
    (loads : loadDocument codec request.repository.location tree.read validator = .ok document)
    (locks : Locks) :
    ∃ later,
      loadDocument codec request.repository.location (request.serve locks tree).2.2.read validator
          = .ok later
        ∧ FileTree.SameDirectories tree (request.serve locks tree).2.2
        ∧ (later = document ∨ later = (request.program.evaluate document).2) := by
  cases refused : request.writes && locks.isPoisoned request.repository.key with
  | true =>
    rw [Request.serve_of_refused refused]
    exact ⟨document, loads, .refl tree, .inl rfl⟩
  | false =>
    obtain ⟨result, after, ran, same, outcome⟩ := run_checked faithful transacts apart loads
    rw [← keeps] at ran
    have served : request.serve locks tree = (.result result, locks, after) := by
      refine Request.serve_of_run (fun writes => ?_) ran
      rw [writes] at refused
      exact refused
    rw [served]
    rcases outcome with ⟨-, loads, -⟩ | ⟨-, loads, -⟩
    · exact ⟨_, loads, same, .inr rfl⟩
    · exact ⟨document, loads, same, .inl rfl⟩

end TradingConfig
