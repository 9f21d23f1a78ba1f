/-
  TradingConfig.Repository.Collection
  ────────────────────────────────
  **REPOSITORIES OF IDENTIFIED RECORDS.**

  A collection is a document that lists records with identifiers:
  strategies, or markets.  Every call loads the document anew.  A change
  saves the whole document and loads it once more to confirm what was
  written; only a deletion answers with what it removed.  Where an
  identifier occurs several times the first record counts.
-/
import TradingConfig.Repository.Program

namespace TradingConfig

/-- How the records of a collection relate to the entities of its callers. -/
structure Collection (Entry Entity : Type) where
  /-- The identifier of a record. -/
  entryId : Entry → String
  /-- The identifier of an entity. -/
  entityId : Entity → String
  /-- The entity that a record holds. -/
  toEntity : Entry → Except Malformed Entity
  /-- The record that an entity is stored as. -/
  toEntry : Entity → Entry
  /-- The record with everything but its identifier taken from an entity. -/
  revise : Entry → Entity → Entry

/-- The collection of strategies. -/
def Collection.strategies : Collection StrategyRecord Strategy where
  entryId := StrategyRecord.id
  entityId := Strategy.id
  toEntity := StrategyRecord.toStrategy
  toEntry := Strategy.toRecord
  revise := StrategyRecord.revise

/-- The collection of markets. -/
def Collection.markets : Collection MarketRecord Market where
  entryId := MarketRecord.id
  entityId := Market.id
  toEntity stored := .ok stored.toMarket
  toEntry := Market.toRecord
  revise := MarketRecord.revise

/-- How a change of a collection ends. -/
inductive Outcome (Entity : Type) where
  /-- The entity as it is stored now, or as it was before its deletion. -/
  | found (entity : Entity)
  /-- There is no record with the identifier. -/
  | notFound
  /-- There is a record with the identifier already. -/
  | conflict
  deriving DecidableEq, Repr

namespace Outcome

variable {Entity : Type}

/-- Whether a change was made. -/
def isFound : Outcome Entity → Bool
  | .found _ => true
  | _ => false

/-- The entity of a change that was made. -/
def entity? : Outcome Entity → Option Entity
  | .found entity => some entity
  | _ => none

end Outcome

namespace Collection

variable {Entry Entity : Type} (collection : Collection Entry Entity)

/-! ## §1. Documents. -/

/-- The entities of a document in order. -/
def entities (document : List Entry) : Except Malformed (List Entity) :=
  document.mapM collection.toEntity

/-- The first record with an identifier. -/
def find? (id : String) (document : List Entry) : Option Entry :=
  document.find? fun entry => collection.entryId entry = id

/-- The entity of the first record with an identifier, if there is one. -/
def lookup (id : String) (document : List Entry) : Except Malformed (Option Entity) :=
  match collection.find? id document with
  | none => .ok none
  | some entry => (collection.toEntity entry).map some

/-- The document with the first record of the entity's identifier revised. -/
def replace (entity : Entity) : List Entry → List Entry
  | [] => []
  | entry :: rest =>
    if collection.entryId entry = collection.entityId entity then
      collection.revise entry entity :: rest
    else entry :: replace entity rest

/-- The document without the first record of an identifier. -/
def remove (id : String) (document : List Entry) : List Entry :=
  document.eraseP fun entry => collection.entryId entry = id

/-! ## §2. Calls. -/

/-- Lists all entities. -/
def findAll : Program (List Entry) (Except RepositoryFault (List Entity)) :=
  .reading collection.entities

/-- Looks up an entity. -/
def findById (id : String) : Program (List Entry) (Except RepositoryFault (Option Entity)) :=
  .reading (collection.lookup id)

/-- Loads the document once more and answers with the entity in it. -/
def confirm (id : String) : Program (List Entry) (Except RepositoryFault (Outcome Entity)) :=
  .loading fun document =>
    match collection.find? id document with
    | none => .fail (.unconfirmed id)
    | some entry => .done (((collection.toEntity entry).map .found).mapError .malformed)

/-- Adds an entity at the end, unless its identifier is taken. -/
def create (entity : Entity) : Program (List Entry) (Except RepositoryFault (Outcome Entity)) :=
  .loading fun document =>
    match collection.find? (collection.entityId entity) document with
    | some _ => .done (.ok .conflict)
    | none =>
      .saving (document ++ [collection.toEntry entity])
        (collection.confirm (collection.entityId entity))

/-- Replaces an entity in its place. -/
def update (entity : Entity) : Program (List Entry) (Except RepositoryFault (Outcome Entity)) :=
  .loading fun document =>
    match collection.find? (collection.entityId entity) document with
    | none => .done (.ok .notFound)
    | some _ =>
      .saving (collection.replace entity document)
        (collection.confirm (collection.entityId entity))

/-- Removes an entity and answers with it. -/
def delete (id : String) : Program (List Entry) (Except RepositoryFault (Outcome Entity)) :=
  .loading fun document =>
    match collection.find? id document with
    | none => .done (.ok .notFound)
    | some entry =>
      match collection.toEntity entry with
      | .error fault => .fail (.malformed fault)
      | .ok entity => .saving (collection.remove id document) (.done (.ok (.found entity)))

end Collection

/-- A call of a repository of a collection. -/
inductive CollectionCall (Entity : Type) where
  /-- Lists all entities. -/
  | findAll
  /-- Looks up an entity. -/
  | findById (id : String)
  /-- Adds an entity. -/
  | create (entity : Entity)
  /-- Replaces an entity. -/
  | update (entity : Entity)
  /-- Removes an entity. -/
  | delete (id : String)
  deriving DecidableEq, Repr

/-- What a call of a repository of a collection answers. -/
inductive CollectionAnswer (Entity : Type) where
  /-- All entities in order. -/
  | all (entities : List Entity)
  /-- The entity that was looked up, if there is one. -/
  | one (entity : Option Entity)
  /-- How a change ended. -/
  | outcome (outcome : Outcome Entity)
  deriving DecidableEq, Repr

namespace CollectionCall

variable {Entry Entity : Type}

/-- Whether a call is made under the write lock of its document. -/
def writes : CollectionCall Entity → Bool
  | .findAll | .findById _ => false
  | .create _ | .update _ | .delete _ => true

/-- The program of a call. -/
def program (collection : Collection Entry Entity) :
    CollectionCall Entity →
      Program (List Entry) (Except RepositoryFault (CollectionAnswer Entity))
  | .findAll => collection.findAll.map .all
  | .findById id => (collection.findById id).map .one
  | .create entity => (collection.create entity).map .outcome
  | .update entity => (collection.update entity).map .outcome
  | .delete id => (collection.delete id).map .outcome

end CollectionCall

end TradingConfig
