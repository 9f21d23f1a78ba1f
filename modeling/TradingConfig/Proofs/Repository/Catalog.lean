/-
  TradingConfig.Proofs.Repository.Catalog
  ────────────────────────────────
  **A COLLECTION IS AN ORDERED MAP.**

  A catalog is a list of entities with distinct identifiers, in the order
  in which they were added.  Its operations look at no record and at no
  store.  A document represents a catalog if its records hold the entities
  one by one; every call keeps that and answers as the catalog does
  (`Collection.Represents.step`), and so does a session of any length
  (`Collection.Represents.serveEach`).
-/
import TradingConfig.Proofs.Repository.Behaviour

namespace TradingConfig

/-! ## §1. Catalogs. -/

/-- A map from identifiers to entities that remembers in which order they
were added. -/
structure Catalog {Entity : Type} (identifier : Entity → String) where
  /-- The entities, the oldest first. -/
  entities : List Entity
  /-- Every identifier occurs once. -/
  distinct : (entities.map identifier).Nodup

namespace Catalog

variable {Entity : Type} {identifier : Entity → String}

/-- The entity of an identifier. -/
def find? (catalog : Catalog identifier) (id : String) : Option Entity :=
  catalog.entities.find? fun entity => identifier entity = id

/-- The catalog with one more entity at the end. -/
def append (catalog : Catalog identifier) (entity : Entity)
    (absent : catalog.find? (identifier entity) = none) : Catalog identifier where
  entities := catalog.entities ++ [entity]
  distinct := by
    rw [List.map_append, List.nodup_append]
    refine ⟨catalog.distinct, by simp, ?_⟩
    intro id old other new same
    obtain ⟨holder, member, rfl⟩ := List.mem_map.mp old
    have differs := List.find?_eq_none.mp absent holder member
    simp only [List.map_cons, List.map_nil, List.mem_singleton] at new
    exact differs (decide_eq_true (same.trans new))

/-- The catalog with an entity in the place of the one with its
identifier. -/
def replace (catalog : Catalog identifier) (entity : Entity) : Catalog identifier where
  entities := catalog.entities.map fun old =>
    if identifier old = identifier entity then entity else old
  distinct := by
    have kept : (catalog.entities.map fun old =>
        if identifier old = identifier entity then entity else old).map identifier
          = catalog.entities.map identifier := by
      rw [List.map_map]
      refine List.map_congr_left fun old _ => ?_
      show identifier (if identifier old = identifier entity then entity else old) = identifier old
      split
      next same => exact same.symm
      next => rfl
    rw [kept]
    exact catalog.distinct

/-- The catalog without an identifier. -/
def remove (catalog : Catalog identifier) (id : String) : Catalog identifier where
  entities := catalog.entities.filter fun entity => identifier entity ≠ id
  distinct := catalog.distinct.sublist (List.filter_sublist.map identifier)

/-- What a call answers, and the catalog after it. -/
def step (catalog : Catalog identifier) :
    CollectionCall Entity → CollectionAnswer Entity × Catalog identifier
  | .findAll => (.all catalog.entities, catalog)
  | .findById id => (.one (catalog.find? id), catalog)
  | .create entity =>
    if absent : catalog.find? (identifier entity) = none then
      (.outcome (.found entity), catalog.append entity absent)
    else (.outcome .conflict, catalog)
  | .update entity =>
    if catalog.find? (identifier entity) = none then (.outcome .notFound, catalog)
    else (.outcome (.found entity), catalog.replace entity)
  | .delete id =>
    match catalog.find? id with
    | none => (.outcome .notFound, catalog)
    | some entity => (.outcome (.found entity), catalog.remove id)

/-- What calls one after the other answer, and the catalog after them. -/
def run (catalog : Catalog identifier) :
    List (CollectionCall Entity) → List (CollectionAnswer Entity) × Catalog identifier
  | [] => ([], catalog)
  | call :: rest =>
    let (answer, next) := catalog.step call
    let (answers, last) := next.run rest
    (answer :: answers, last)

end Catalog

/-! ## §2. The catalog of a document. -/

namespace Collection

variable {Entry Entity : Type} {collection : Collection Entry Entity}

/-- The records of a document hold the entities of a catalog, one by one. -/
def Represents (collection : Collection Entry Entity) (document : List Entry)
    (catalog : Catalog collection.entityId) : Prop :=
  List.Forall₂ (fun entry entity => collection.toEntity entry = .ok entity) document
    catalog.entities

theorem entities_eq_ok_iff {document : List Entry} {entities : List Entity} :
    collection.entities document = .ok entities
      ↔ List.Forall₂ (fun entry entity => collection.toEntity entry = .ok entity) document
          entities :=
  mapM_eq_ok_iff

section Records

variable (lawful : collection.Lawful) {document : List Entry} {entities : List Entity}
  (held : List.Forall₂ (fun entry entity => collection.toEntity entry = .ok entity) document
    entities)

include lawful held

theorem Lawful.map_entityId :
    entities.map collection.entityId = document.map collection.entryId := by
  induction held with
  | nil => rfl
  | cons head _ ih => rw [List.map_cons, List.map_cons, lawful.entityId_toEntity head, ih]

/-- A record is found exactly where an entity is, and holds it. -/
theorem Lawful.find?_held (id : String) :
    (collection.find? id document = none
        ∧ entities.find? (fun entity => collection.entityId entity = id) = none)
      ∨ ∃ entry entity, collection.find? id document = some entry
        ∧ entities.find? (fun entity => collection.entityId entity = id) = some entity
        ∧ collection.toEntity entry = .ok entity := by
  unfold find?
  induction held with
  | nil => exact .inl ⟨rfl, rfl⟩
  | @cons entry entity rest others head _ ih =>
    by_cases here : collection.entryId entry = id
    · have there : collection.entityId entity = id := (lawful.entityId_toEntity head).trans here
      refine .inr ⟨entry, entity, ?_, ?_, head⟩
      · rw [List.find?_cons_of_pos (by simpa using here)]
      · rw [List.find?_cons_of_pos (by simpa using there)]
    · have there : ¬ collection.entityId entity = id := by
        rw [lawful.entityId_toEntity head]
        exact here
      rw [List.find?_cons_of_neg (by simpa using here),
        List.find?_cons_of_neg (by simpa using there)]
      exact ih

/-- Where no entity has its identifier, replacing one changes nothing. -/
theorem Lawful.map_replace_of_absent {entity : Entity}
    (absent : collection.entityId entity ∉ document.map collection.entryId) :
    entities.map (fun old =>
      if collection.entityId old = collection.entityId entity then entity else old) = entities := by
  refine (List.map_congr_left fun old member => ?_).trans (List.map_id' entities)
  rw [← lawful.map_entityId held] at absent
  have differs : collection.entityId old ≠ collection.entityId entity :=
    fun same => absent (same ▸ List.mem_map_of_mem member)
  rw [if_neg differs]

theorem Lawful.replace_held (distinct : (document.map collection.entryId).Nodup)
    (entity : Entity) :
    List.Forall₂ (fun entry entity => collection.toEntity entry = .ok entity)
      (collection.replace entity document)
      (entities.map fun old =>
        if collection.entityId old = collection.entityId entity then entity else old) := by
  induction held with
  | nil => exact .nil
  | @cons entry old rest others head tail ih =>
    rw [List.map_cons, List.nodup_cons] at distinct
    unfold replace
    rw [List.map_cons, lawful.entityId_toEntity head]
    -- the record is revised at its first place, the entity at every place: there is only one
    by_cases here : collection.entryId entry = collection.entityId entity
    · rw [if_pos here, if_pos here, lawful.revise_eq_toEntry here,
        lawful.map_replace_of_absent tail (here ▸ distinct.1)]
      exact .cons (lawful.toEntity_toEntry entity) tail
    · rw [if_neg here, if_neg here]
      exact .cons head (ih distinct.2)

theorem Lawful.remove_held (distinct : (document.map collection.entryId).Nodup) (id : String) :
    List.Forall₂ (fun entry entity => collection.toEntity entry = .ok entity)
      (collection.remove id document)
      (entities.filter fun entity => collection.entityId entity ≠ id) := by
  unfold remove
  induction held with
  | nil => exact .nil
  | @cons entry entity rest others head tail ih =>
    rw [List.map_cons, List.nodup_cons] at distinct
    -- the first record goes, and every entity with the identifier: there is only one
    by_cases here : collection.entryId entry = id
    · have others_kept :
          others.filter (fun entity => collection.entityId entity ≠ id) = others := by
        refine List.filter_eq_self.mpr fun other member => decide_eq_true fun same => ?_
        have repeated : id ∈ others.map collection.entityId := same ▸ List.mem_map_of_mem member
        rw [lawful.map_entityId tail] at repeated
        exact distinct.1 (here ▸ repeated)
      have there : collection.entityId entity = id := (lawful.entityId_toEntity head).trans here
      rw [List.eraseP_cons_of_pos (by simpa using here),
        List.filter_cons_of_neg (by simpa using there), others_kept]
      exact tail
    · have there : ¬ collection.entityId entity = id := by
        rw [lawful.entityId_toEntity head]
        exact here
      rw [List.eraseP_cons_of_neg (by simpa using here),
        List.filter_cons_of_pos (by simpa using there)]
      exact .cons head (ih distinct.2)

end Records

/-! ## §3. Calls. -/

variable {document : List Entry} {catalog : Catalog collection.entityId}

theorem Represents.nodup (represents : collection.Represents document catalog)
    (lawful : collection.Lawful) : (document.map collection.entryId).Nodup := by
  rw [← lawful.map_entityId represents]
  exact catalog.distinct

theorem Represents.append (represents : collection.Represents document catalog)
    (lawful : collection.Lawful) {entity : Entity}
    (absent : catalog.find? (collection.entityId entity) = none) :
    collection.Represents (document ++ [collection.toEntry entity])
      (catalog.append entity absent) :=
  List.rel_append represents (.cons (lawful.toEntity_toEntry entity) .nil)

/-- Every call answers as the catalog does and leaves a document that
represents the next one. -/
theorem Represents.step (represents : collection.Represents document catalog)
    (lawful : collection.Lawful) (call : CollectionCall Entity) :
    ((call.program collection).evaluate document).1 = .ok (catalog.step call).1
      ∧ collection.Represents ((call.program collection).evaluate document).2
          (catalog.step call).2 := by
  have distinct := represents.nodup lawful
  cases call with
  | findAll =>
    rw [CollectionCall.program, Program.evaluate_map, findAll, Program.evaluate_reading,
      entities_eq_ok_iff.mpr represents]
    exact ⟨rfl, represents⟩
  | findById id =>
    rw [CollectionCall.program, Program.evaluate_map, findById, Program.evaluate_reading, lookup]
    rcases lawful.find?_held represents id with
      ⟨missing, absent⟩ | ⟨entry, entity, found, present, held⟩
    · rw [missing, Catalog.step, Catalog.find?, absent]
      exact ⟨rfl, represents⟩
    · rw [found, Catalog.step, Catalog.find?, present]
      show (((((collection.toEntity entry).map some).mapError RepositoryFault.malformed).map
        CollectionAnswer.one) = _ ∧ _)
      rw [held]
      exact ⟨rfl, represents⟩
  | create entity =>
    rw [CollectionCall.program, Program.evaluate_map, lawful.evaluate_create, Catalog.step]
    rcases lawful.find?_held represents (collection.entityId entity) with
      ⟨missing, absent⟩ | ⟨entry, old, found, present, -⟩
    · have absent : catalog.find? (collection.entityId entity) = none := absent
      rw [missing, dif_pos absent]
      exact ⟨rfl, represents.append lawful absent⟩
    · have taken : ¬ catalog.find? (collection.entityId entity) = none := by
        rw [Catalog.find?, present]
        exact Option.some_ne_none old
      rw [found, dif_neg taken]
      exact ⟨rfl, represents⟩
  | update entity =>
    rw [CollectionCall.program, Program.evaluate_map, lawful.evaluate_update, Catalog.step]
    rcases lawful.find?_held represents (collection.entityId entity) with
      ⟨missing, absent⟩ | ⟨entry, old, found, present, -⟩
    · have absent : catalog.find? (collection.entityId entity) = none := absent
      rw [missing, if_pos absent]
      exact ⟨rfl, represents⟩
    · have taken : ¬ catalog.find? (collection.entityId entity) = none := by
        rw [Catalog.find?, present]
        exact Option.some_ne_none old
      rw [found, if_neg taken]
      exact ⟨rfl, lawful.replace_held represents distinct entity⟩
  | delete id =>
    rw [CollectionCall.program, Program.evaluate_map, evaluate_delete, Catalog.step]
    rcases lawful.find?_held represents id with
      ⟨missing, absent⟩ | ⟨entry, entity, found, present, held⟩
    · rw [missing, Catalog.find?, absent]
      exact ⟨rfl, represents⟩
    · rw [found, Catalog.find?, present]
      simp only [held]
      exact ⟨rfl, lawful.remove_held represents distinct id⟩

/-! ## §4. Sessions. -/

/-- The requests of calls to a repository over the store in memory. -/
def requests (collection : Collection Entry Entity) (location : Location) (key : Path.Key)
    (calls : List (CollectionCall Entity)) :
    List (Request (Memory (List Entry)) (List Entry) (CollectionAnswer Entity)) :=
  calls.map fun call =>
    ⟨⟨Store.memory (List Entry), location, key⟩, call.writes, call.program collection⟩

/-- What calls one after the other answer on a document, and the document
after them. -/
def evaluateEach (collection : Collection Entry Entity) : List (CollectionCall Entity) →
    List Entry → List (Except RepositoryFault (CollectionAnswer Entity)) × List Entry
  | [], document => ([], document)
  | call :: rest, document =>
    let (answer, next) := (call.program collection).evaluate document
    let (answers, last) := evaluateEach collection rest next
    (answer :: answers, last)

theorem evaluateEach_cons (call : CollectionCall Entity) (rest : List (CollectionCall Entity))
    (document : List Entry) :
    collection.evaluateEach (call :: rest) document
      = (((call.program collection).evaluate document).1
          :: (collection.evaluateEach rest ((call.program collection).evaluate document).2).1,
        (collection.evaluateEach rest ((call.program collection).evaluate document).2).2) :=
  rfl

theorem evaluateEach_append (calls more : List (CollectionCall Entity)) (document : List Entry) :
    collection.evaluateEach (calls ++ more) document
      = ((collection.evaluateEach calls document).1
          ++ (collection.evaluateEach more (collection.evaluateEach calls document).2).1,
        (collection.evaluateEach more (collection.evaluateEach calls document).2).2) := by
  induction calls generalizing document with
  | nil => rfl
  | cons call rest ih =>
    rw [List.cons_append, evaluateEach_cons, evaluateEach_cons, ih]
    rfl

/-- Over the store in memory a session ends as on the document. -/
theorem serveEach_requests (collection : Collection Entry Entity) (location : Location)
    {key : Path.Key} {locks : Locks} (unpoisoned : locks.isPoisoned key = false)
    (calls : List (CollectionCall Entity)) (memory : Memory (List Entry)) :
    ∃ after, Request.serveEach (collection.requests location key calls) locks memory
        = ((collection.evaluateEach calls memory.document).1.map .result, locks, after)
      ∧ after.document = (collection.evaluateEach calls memory.document).2 := by
  -- induction on the calls; what is carried from call to call is the document
  induction calls generalizing memory with
  | nil => exact ⟨memory, rfl, rfl⟩
  | cons call rest ih =>
    let request : Request (Memory (List Entry)) (List Entry) (CollectionAnswer Entity) :=
      ⟨⟨Store.memory (List Entry), location, key⟩, call.writes, call.program collection⟩
    obtain ⟨next, served, document⟩ := Store.serve_memory request rfl unpoisoned memory
    obtain ⟨after, servedRest, documentAfter⟩ := ih next
    rw [show request.program = call.program collection from rfl] at served document
    rw [document] at servedRest documentAfter
    exact ⟨after, Request.serveEach_cons served servedRest, documentAfter⟩

/-- Calls one after the other answer as the catalog does and leave a document
that represents the last one. -/
theorem Represents.evaluateEach (lawful : collection.Lawful) (calls : List (CollectionCall Entity))
    {document : List Entry} {catalog : Catalog collection.entityId}
    (represents : collection.Represents document catalog) :
    (collection.evaluateEach calls document).1 = (catalog.run calls).1.map .ok
      ∧ collection.Represents (collection.evaluateEach calls document).2
          (catalog.run calls).2 := by
  -- induction on the calls; what is carried from call to call is the represented catalog
  induction calls generalizing document catalog with
  | nil => exact ⟨rfl, represents⟩
  | cons call rest ih =>
    obtain ⟨answer, representsNext⟩ := represents.step lawful call
    obtain ⟨answers, representsLast⟩ := ih representsNext
    refine ⟨?_, representsLast⟩
    rw [evaluateEach_cons, answer, answers]
    rfl

/-- A session answers as the catalog does and leaves a document that
represents the last one. -/
theorem Represents.serveEach (lawful : collection.Lawful) {location : Location} {key : Path.Key}
    {locks : Locks} (unpoisoned : locks.isPoisoned key = false)
    (calls : List (CollectionCall Entity)) {memory : Memory (List Entry)}
    {catalog : Catalog collection.entityId}
    (represents : collection.Represents memory.document catalog) :
    ∃ after, Request.serveEach (collection.requests location key calls) locks memory
        = ((catalog.run calls).1.map fun answer => .result (.ok answer), locks, after)
      ∧ collection.Represents after.document (catalog.run calls).2 := by
  obtain ⟨after, served, document⟩ :=
    collection.serveEach_requests location unpoisoned calls memory
  obtain ⟨answers, representsAfter⟩ := represents.evaluateEach lawful calls
  rw [answers, List.map_map] at served
  rw [← document] at representsAfter
  exact ⟨after, served, representsAfter⟩

/-- Over the store in memory the collection is an ordered map: a document
with distinct identifiers and records that are `Sound` holds a catalog, and
after calls of any number and kind it holds the catalog after them, again
with distinct identifiers and `Sound` records, and every answer is that of
the catalog. -/
def RefinesCatalog (collection : Collection Entry Entity) (Sound : Entry → Prop) : Prop :=
  ∀ (location : Location) (key : Path.Key) (locks : Locks) (memory : Memory (List Entry)),
    locks.isPoisoned key = false →
    (memory.document.map collection.entryId).Nodup →
    (∀ entry ∈ memory.document, Sound entry) →
    ∃ catalog : Catalog collection.entityId,
      collection.entities memory.document = .ok catalog.entities
        ∧ ∀ calls : List (CollectionCall Entity), ∃ after,
          Request.serveEach (collection.requests location key calls) locks memory
              = ((catalog.run calls).1.map fun answer => .result (.ok answer), locks, after)
            ∧ collection.entities after.document = .ok (catalog.run calls).2.entities
            ∧ (after.document.map collection.entryId).Nodup
            ∧ ∀ entry ∈ after.document, Sound entry

theorem exists_represents (lawful : collection.Lawful) {document : List Entry}
    (whole : ∀ entry ∈ document, ∃ entity, collection.toEntity entry = .ok entity)
    (distinct : (document.map collection.entryId).Nodup) :
    ∃ catalog, collection.Represents document catalog := by
  have held : ∃ entities, List.Forall₂
      (fun entry entity => collection.toEntity entry = .ok entity) document entities := by
    induction document with
    | nil => exact ⟨[], .nil⟩
    | cons entry rest ih =>
      obtain ⟨entity, held⟩ := whole entry List.mem_cons_self
      obtain ⟨others, heldRest⟩ :=
        ih (fun other member => whole other (List.mem_cons_of_mem _ member))
          (List.nodup_cons.mp distinct).2
      exact ⟨entity :: others, .cons held heldRest⟩
  obtain ⟨entities, held⟩ := held
  have ids : (entities.map collection.entityId).Nodup := by
    rw [lawful.map_entityId held]
    exact distinct
  exact ⟨⟨entities, ids⟩, held⟩

theorem Represents.whole {document : List Entry} {catalog : Catalog collection.entityId}
    (represents : collection.Represents document catalog) :
    ∀ entry ∈ document, ∃ entity, collection.toEntity entry = .ok entity := by
  intro entry member
  obtain ⟨index, bound, rfl⟩ := List.mem_iff_getElem.mp member
  have inside : index < catalog.entities.length := represents.length_eq ▸ bound
  exact ⟨catalog.entities[index], represents.get bound inside⟩

theorem Lawful.refinesCatalog (lawful : collection.Lawful) {Sound : Entry → Prop}
    (sound : ∀ {entry}, (∃ entity, collection.toEntity entry = .ok entity) ↔ Sound entry) :
    collection.RefinesCatalog Sound := by
  intro location key locks memory unpoisoned distinct allSound
  obtain ⟨catalog, represents⟩ := exists_represents lawful
    (fun entry member => sound.mpr (allSound entry member)) distinct
  refine ⟨catalog, entities_eq_ok_iff.mpr represents, fun calls => ?_⟩
  obtain ⟨after, served, representsAfter⟩ := represents.serveEach lawful unpoisoned calls
  exact ⟨after, served, entities_eq_ok_iff.mpr representsAfter, representsAfter.nodup lawful,
    fun entry member => sound.mp (representsAfter.whole entry member)⟩

/-- Strategies and markets are ordered maps. -/
theorem refine_catalogs :
    Collection.strategies.RefinesCatalog StrategyRecord.DistinctNames
      ∧ Collection.markets.RefinesCatalog fun _ => True := by
  constructor
  · exact strategies_lawful.refinesCatalog StrategyRecord.exists_toStrategy_iff
  · exact markets_lawful.refinesCatalog fun {stored} =>
      ⟨fun _ => trivial, fun _ => ⟨stored.toMarket, rfl⟩⟩

/-- A document with one strategy: another one is added, once, and the first
is deleted. -/
theorem refine_catalogs_sample :
    ∃ after, Request.serveEach
        (Collection.strategies.requests ⟨⟨"data"⟩, ⟨"schema"⟩⟩ .unnamed
          [.create (.plain "b" "B" "second" "c"), .create (.plain "b" "" "" ""), .delete "a",
            .findAll])
        Locks.fresh (Memory.holding [⟨"a", "A", "first", "c", some ⟨[⟨"n", "1"⟩]⟩⟩])
      = ([.result (.ok (.outcome (.found (.plain "b" "B" "second" "c")))),
          .result (.ok (.outcome .conflict)),
          .result (.ok (.outcome (.found
            ((Strategy.plain "a" "A" "first" "c").withSetting "n" "1")))),
          .result (.ok (.all [.plain "b" "B" "second" "c"]))], Locks.fresh, after) := by
  obtain ⟨⟨entities, distinct⟩, read, runs⟩ := refine_catalogs.1 ⟨⟨"data"⟩, ⟨"schema"⟩⟩ .unnamed
    Locks.fresh (Memory.holding [⟨"a", "A", "first", "c", some ⟨[⟨"n", "1"⟩]⟩⟩]) rfl
    (by decide) (by decide)
  obtain rfl : [(Strategy.plain "a" "A" "first" "c").withSetting "n" "1"] = entities :=
    Except.ok.inj read
  obtain ⟨after, served, -⟩ := runs
    [.create (.plain "b" "B" "second" "c"), .create (.plain "b" "" "" ""), .delete "a", .findAll]
  exact ⟨after, served.trans (Prod.ext (by cbv) rfl)⟩

end Collection

end TradingConfig
