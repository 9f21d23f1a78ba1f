/-
  TradingConfig.Proofs.Repository.Effect
  ────────────────────────────────
  **WHAT A CALL DOES TO A DOCUMENT.**

  Where no store call fails a program is a function of the document
  (`Program.evaluate`).  For each call the function is given in closed form:
  a change of a collection is answered with the entity it was made for, and
  with a conflict or a miss the document stays (`Lawful.evaluate_create`,
  `Lawful.evaluate_update`, `evaluate_delete`).  The load that confirms a
  change always finds what was saved.
-/
import TradingConfig.Proofs.Record.Mapping
import TradingConfig.Repository.Session

namespace TradingConfig

/-! ## §1. Programs as functions of the document. -/

namespace Program

variable {D Q R : Type}

/-- Runs a program on a document: a load gives it, a save replaces it. -/
def evaluate : Program D R → D → R × D
  | .done result, document => (result, document)
  | .load next, document => (next (.ok document)).evaluate document
  | .save saved next, _ => (next (.ok ())).evaluate saved

theorem evaluate_map (form : Q → R) (program : Program D (Except RepositoryFault Q))
    (document : D) :
    (program.map form).evaluate document
      = ((program.evaluate document).1.map form, (program.evaluate document).2) := by
  induction program generalizing document with
  | done result => rfl
  | load next ih => exact ih (.ok document) document
  | save saved next ih => exact ih (.ok ()) saved

@[simp] theorem evaluate_reading (view : D → Except Malformed R) (document : D) :
    (reading view).evaluate document = ((view document).mapError .malformed, document) :=
  rfl

@[simp] theorem evaluate_loading (next : D → Program D (Except RepositoryFault R)) (document : D) :
    (loading next).evaluate document = (next document).evaluate document :=
  rfl

@[simp] theorem evaluate_saving (saved : D) (next : Program D (Except RepositoryFault R))
    (document : D) : (saving saved next).evaluate document = next.evaluate saved :=
  rfl

end Program

/-! ## §2. Collections. -/

/-- A collection whose records and entities fit together. -/
structure Collection.Lawful {Entry Entity : Type} (collection : Collection Entry Entity) :
    Prop where
  /-- A record has the identifier of the entity it is made for. -/
  entryId_toEntry : ∀ entity,
    collection.entryId (collection.toEntry entity) = collection.entityId entity
  /-- The entity of a record has the identifier of the record. -/
  entityId_toEntity : ∀ {entry entity}, collection.toEntity entry = .ok entity →
    collection.entityId entity = collection.entryId entry
  /-- An entity is what its own record holds. -/
  toEntity_toEntry : ∀ entity, collection.toEntity (collection.toEntry entity) = .ok entity
  /-- A record revised by an entity of its own identifier is the record of
  the entity. -/
  revise_eq_toEntry : ∀ {entry entity}, collection.entryId entry = collection.entityId entity →
    collection.revise entry entity = collection.toEntry entity

theorem Collection.strategies_lawful : Collection.strategies.Lawful where
  entryId_toEntry _ := rfl
  entityId_toEntity := StrategyRecord.id_of_toStrategy
  toEntity_toEntry := Strategy.toStrategy_toRecord
  revise_eq_toEntry {stored strategy} same := by
    show ({ strategy.toRecord with id := stored.id } : StrategyRecord) = strategy.toRecord
    rw [show stored.id = strategy.toRecord.id from same]

theorem Collection.markets_lawful : Collection.markets.Lawful where
  entryId_toEntry _ := rfl
  entityId_toEntity held := congrArg Market.id (Except.ok.inj held).symm
  toEntity_toEntry _ := rfl
  revise_eq_toEntry {stored market} same := by
    show ({ market.toRecord with id := stored.id } : MarketRecord) = market.toRecord
    rw [show stored.id = market.toRecord.id from same]

namespace Collection

variable {Entry Entity : Type} {collection : Collection Entry Entity}

theorem find?_append {document : List Entry} {id : String}
    (missing : collection.find? id document = none) (entry : Entry)
    (same : collection.entryId entry = id) :
    collection.find? id (document ++ [entry]) = some entry := by
  unfold find? at missing ⊢
  rw [List.find?_append, missing]
  simp [same]

/-- The document with an entity in its place has the record of the entity
there. -/
theorem Lawful.find?_replace (lawful : collection.Lawful) {entity : Entity} {document : List Entry}
    {entry : Entry} (found : collection.find? (collection.entityId entity) document = some entry) :
    collection.find? (collection.entityId entity) (collection.replace entity document)
      = some (collection.toEntry entity) := by
  induction document with
  | nil => cases found
  | cons head rest ih =>
    unfold replace
    unfold find? at found ih ⊢
    -- replacing and finding stop at the same record
    by_cases here : collection.entryId head = collection.entityId entity
    · rw [if_pos here, lawful.revise_eq_toEntry here]
      simp [lawful.entryId_toEntry]
    · rw [if_neg here]
      rw [List.find?_cons_of_neg (by simpa using here)] at found ⊢
      exact ih found

/-- The load after a change finds what was saved. -/
theorem Lawful.evaluate_confirm (lawful : collection.Lawful) {entity : Entity}
    {document : List Entry}
    (saved : collection.find? (collection.entityId entity) document
      = some (collection.toEntry entity)) :
    (collection.confirm (collection.entityId entity)).evaluate document
      = (.ok (.found entity), document) := by
  rw [confirm, Program.evaluate_loading, saved]
  show ((((collection.toEntity (collection.toEntry entity)).map Outcome.found).mapError
    RepositoryFault.malformed), document) = _
  rw [lawful.toEntity_toEntry]
  rfl

/-- A creation appends the record of the entity, or it conflicts. -/
theorem Lawful.evaluate_create (lawful : collection.Lawful) (entity : Entity)
    (document : List Entry) :
    (collection.create entity).evaluate document
      = match collection.find? (collection.entityId entity) document with
        | some _ => (.ok .conflict, document)
        | none => (.ok (.found entity), document ++ [collection.toEntry entity]) := by
  rw [create, Program.evaluate_loading]
  cases found : collection.find? (collection.entityId entity) document with
  | some entry => rfl
  | none =>
    exact lawful.evaluate_confirm (find?_append found _ (lawful.entryId_toEntry entity))

/-- An update replaces the first record of the identifier, or it misses. -/
theorem Lawful.evaluate_update (lawful : collection.Lawful) (entity : Entity)
    (document : List Entry) :
    (collection.update entity).evaluate document
      = match collection.find? (collection.entityId entity) document with
        | none => (.ok .notFound, document)
        | some _ => (.ok (.found entity), collection.replace entity document) := by
  rw [update, Program.evaluate_loading]
  cases found : collection.find? (collection.entityId entity) document with
  | none => rfl
  | some entry => exact lawful.evaluate_confirm (lawful.find?_replace found)

/-- A deletion removes the first record of the identifier and answers with
its entity, or it misses. -/
theorem evaluate_delete (id : String) (document : List Entry) :
    (collection.delete id).evaluate document
      = match collection.find? id document with
        | none => (.ok .notFound, document)
        | some entry => match collection.toEntity entry with
          | .error fault => (.error (.malformed fault), document)
          | .ok entity => (.ok (.found entity), collection.remove id document) := by
  rw [delete, Program.evaluate_loading]
  cases collection.find? id document with
  | none => rfl
  | some entry =>
    simp only
    cases collection.toEntity entry with
    | error fault => rfl
    | ok entity => rfl

end Collection

/-! ## §3. The exchange. -/

/-- A save of the exchange keeps the stored credentials and answers with
the exchange it was given. -/
theorem Exchange.evaluate_save (exchange : Exchange) (document : ExchangeRecord) :
    exchange.save.evaluate document = (.ok exchange, exchange.toRecord document.credentials) := by
  rw [save, Program.evaluate_loading, Program.evaluate_saving]
  show (((exchange.toRecord document.credentials).toExchange).mapError
    RepositoryFault.malformed, _) = _
  rw [Exchange.toExchange_toRecord]
  rfl

end TradingConfig
