/-
  TradingConfig.Proofs.Repository.Lookup
  ────────────────────────────────
  **A LIST AND A LOOK-UP AGREE.**

  A list maps all records of a document and a look-up maps one of them.
  The list is refused where a record repeats a name in its settings block,
  and then names the first such record and the first name that it repeats;
  otherwise look-ups find what the list shows.  A malformed record stands
  in the way of the list, and of look-ups of its own identifier if it is
  the first of it, but of no other one (`Collection.Agrees`,
  `Collection.lists_agree_with_lookups`).
-/
import TradingConfig.Proofs.Repository.Catalog

namespace TradingConfig

namespace Collection

variable {Entry Entity : Type}

/-! ## §1. Records that hold no entity. -/

/-- The names of the settings of a record are what decides whether it holds
an entity. -/
structure NamesSettings (collection : Collection Entry Entity) (names : Entry → List String) :
    Prop where
  /-- It holds one exactly where no name is repeated. -/
  whole_iff : ∀ {entry},
    (∃ entity, collection.toEntity entry = .ok entity) ↔ (names entry).Nodup
  /-- Otherwise it is reported by its identifier, with the first name that is
  repeated. -/
  reported : ∀ {entry fault}, collection.toEntity entry = .error fault →
    fault.owner = collection.entryId entry
      ∧ Settings.FirstRepeat (names entry) fault.repeated

theorem strategies_names : strategies.NamesSettings StrategyRecord.names where
  whole_iff := StrategyRecord.exists_toStrategy_iff.trans StrategyRecord.distinctNames_iff
  reported := StrategyRecord.firstRepeat_of_toStrategy

/-- A market has no settings. -/
theorem markets_names : markets.NamesSettings fun _ => [] where
  whole_iff {stored} := ⟨fun _ => List.nodup_nil, fun _ => ⟨stored.toMarket, rfl⟩⟩
  reported refused := by cases refused

/-! ## §2. Documents. -/

/-- What a list and look-ups of a document answer. -/
structure Agrees (collection : Collection Entry Entity) (names : Entry → List String)
    (document : List Entry)
    (ask : CollectionCall Entity → Ending (Except RepositoryFault (CollectionAnswer Entity))) :
    Prop where
  /-- The list is refused exactly where a record repeats a name. -/
  refused_iff : (∃ fault, ask .findAll = .result (.error (.malformed fault)))
    ↔ ∃ entry ∈ document, ¬ (names entry).Nodup
  /-- It names the first such record and the first name that this repeats. -/
  reported : ∀ fault, ask .findAll = .result (.error (.malformed fault)) →
    ∃ before entry after, document = before ++ entry :: after
      ∧ (∀ other ∈ before, (names other).Nodup)
      ∧ fault.owner = collection.entryId entry
      ∧ Settings.FirstRepeat (names entry) fault.repeated
  /-- Otherwise it shows all records in order, and a look-up finds the first
  one that it shows with the identifier. -/
  listed : (∀ entry ∈ document, (names entry).Nodup) →
    ∃ entities, ask .findAll = .result (.ok (.all entities))
      ∧ List.Forall₂ (fun entry entity => collection.toEntity entry = .ok entity) document entities
      ∧ ∀ id, ask (.findById id) = .result (.ok (.one
          (entities.find? fun entity => collection.entityId entity = id)))
  /-- A look-up finds nothing exactly where no record has the identifier. -/
  missed_iff : ∀ id, ask (.findById id) = .result (.ok (.one none))
    ↔ ∀ entry ∈ document, collection.entryId entry ≠ id
  /-- The first record of an identifier is what a look-up tells of, whatever
  the other records are. -/
  found : ∀ {before entry after}, document = before ++ entry :: after →
    (∀ other ∈ before, collection.entryId other ≠ collection.entryId entry) →
    ((names entry).Nodup → ∃ entity, collection.toEntity entry = .ok entity
        ∧ ask (.findById (collection.entryId entry)) = .result (.ok (.one (some entity))))
      ∧ (¬ (names entry).Nodup → ∃ repeated, Settings.FirstRepeat (names entry) repeated
        ∧ ask (.findById (collection.entryId entry))
          = .result (.error (.malformed ⟨collection.entryId entry, repeated⟩)))

section Documents

variable {collection : Collection Entry Entity} {names : Entry → List String}
  {document : List Entry}

/-- A document whose records all hold entities is listed, and no other. -/
theorem NamesSettings.exists_entities_iff (settings : collection.NamesSettings names) :
    (∃ entities, collection.entities document = .ok entities)
      ↔ ∀ entry ∈ document, (names entry).Nodup := by
  unfold entities
  rw [exists_mapM_iff]
  exact forall₂_congr fun entry _ => settings.whole_iff

/-- The first record that repeats a name is the one that is reported. -/
theorem NamesSettings.parts_of_entities (settings : collection.NamesSettings names)
    {fault : Malformed} (refused : collection.entities document = .error fault) :
    ∃ before entry after, document = before ++ entry :: after
      ∧ (∀ other ∈ before, (names other).Nodup)
      ∧ fault.owner = collection.entryId entry
      ∧ Settings.FirstRepeat (names entry) fault.repeated := by
  obtain ⟨before, entry, after, rfl, mapped, tried⟩ := exists_parts_of_mapM refused
  have distinct : ∀ other ∈ before, (names other).Nodup :=
    fun other member => settings.whole_iff.mp (mapped other member)
  exact ⟨before, entry, after, rfl, distinct, settings.reported tried⟩

/-- A look-up of a document that is listed finds what the list shows. -/
theorem Lawful.lookup_of_held (lawful : collection.Lawful) {entities : List Entity}
    (held : List.Forall₂ (fun entry entity => collection.toEntity entry = .ok entity) document
      entities) (id : String) :
    collection.lookup id document
      = .ok (entities.find? fun entity => collection.entityId entity = id) := by
  unfold lookup
  rcases lawful.find?_held held id with ⟨missing, absent⟩ | ⟨entry, entity, found, shown, holds⟩
  · rw [missing, absent]
  · rw [found, shown]
    show (collection.toEntity entry).map some = _
    rw [holds]
    rfl

theorem lookup_eq_none_iff {id : String} :
    collection.lookup id document = .ok none
      ↔ ∀ entry ∈ document, collection.entryId entry ≠ id := by
  have absent_iff : collection.find? id document = none
      ↔ ∀ entry ∈ document, collection.entryId entry ≠ id := by
    simp [find?]
  rw [← absent_iff]
  unfold lookup
  cases found : collection.find? id document with
  | none => simp
  | some entry =>
    simp only [reduceCtorEq, iff_false]
    cases collection.toEntity entry with
    | error fault => intro same; cases same
    | ok entity => intro same; cases same

/-- A look-up stops at the first record of its identifier. -/
theorem lookup_append_cons {before : List Entry} {entry : Entry} (after : List Entry)
    (others : ∀ other ∈ before, collection.entryId other ≠ collection.entryId entry) :
    collection.lookup (collection.entryId entry) (before ++ entry :: after)
      = (collection.toEntity entry).map some := by
  have missing : before.find? (fun other =>
      decide (collection.entryId other = collection.entryId entry)) = none := by
    simpa using others
  unfold lookup find?
  rw [List.find?_append, missing, List.find?_cons_of_pos (by simp)]
  rfl

/-- Answers that show what is listed and looked up in a document agree. -/
theorem Lawful.agrees (lawful : collection.Lawful) (settings : collection.NamesSettings names)
    {ask : CollectionCall Entity → Ending (Except RepositoryFault (CollectionAnswer Entity))}
    (lists : ask .findAll
      = .result (((collection.entities document).mapError .malformed).map .all))
    (looksUp : ∀ id, ask (.findById id)
      = .result (((collection.lookup id document).mapError .malformed).map .one)) :
    collection.Agrees names document ask where
  refused_iff := by
    rw [lists]
    have whole_iff : (∃ entities, collection.entities document = .ok entities)
        ↔ ∀ entry ∈ document, (names entry).Nodup := settings.exists_entities_iff
    cases read : collection.entities document with
    | error fault =>
      rw [read] at whole_iff
      refine iff_of_true ⟨fault, rfl⟩ ?_
      by_contra none
      have distinct : ∀ entry ∈ document, (names entry).Nodup := by
        intro entry member
        by_contra repeats
        exact none ⟨entry, member, repeats⟩
      obtain ⟨entities, same⟩ := whole_iff.mpr distinct
      cases same
    | ok entities =>
      have distinct := whole_iff.mp ⟨entities, read⟩
      refine iff_of_false (fun refused => ?_) ?_
      · obtain ⟨fault, same⟩ := refused
        cases same
      · rintro ⟨entry, member, repeats⟩
        exact repeats (distinct entry member)
  reported := by
    intro fault refused
    rw [lists] at refused
    cases read : collection.entities document with
    | error other =>
      rw [read] at refused
      cases refused
      exact settings.parts_of_entities read
    | ok entities =>
      rw [read] at refused
      cases refused
  listed := by
    intro distinct
    obtain ⟨entities, read⟩ := settings.exists_entities_iff.mpr distinct
    have held := entities_eq_ok_iff.mp read
    refine ⟨entities, ?_, held, fun id => ?_⟩
    · rw [lists, read]
      rfl
    · rw [looksUp, lawful.lookup_of_held held]
      rfl
  missed_iff := by
    intro id
    rw [looksUp, ← lookup_eq_none_iff]
    constructor
    · intro answered
      cases looked : collection.lookup id document with
      | error fault => rw [looked] at answered; cases answered
      | ok entity => rw [looked] at answered; cases answered; rfl
    · intro none
      rw [none]
      rfl
  found := by
    rintro before entry after rfl others
    rw [looksUp, lookup_append_cons after others]
    constructor
    · intro distinct
      obtain ⟨entity, holds⟩ := settings.whole_iff.mpr distinct
      rw [holds]
      exact ⟨entity, rfl, rfl⟩
    · intro repeats
      cases tried : collection.toEntity entry with
      | ok entity => exact absurd (settings.whole_iff.mp ⟨entity, tried⟩) repeats
      | error fault =>
        obtain ⟨named, first⟩ := settings.reported tried
        refine ⟨fault.repeated, first, ?_⟩
        rw [← named]
        rfl

end Documents

/-! ## §3. Stores. -/

section Stores

variable {σ : Type} {collection : Collection Entry Entity} {document : List Entry}
  {repository : Repository σ (List Entry)} {locks : Locks} {state after : σ}

/-- A request that only reads is answered from the document that the store
gives, whatever the locks. -/
theorem serve_reading {Q R : Type} (view : List Entry → Except Malformed Q) (form : Q → R)
    (loads : repository.store.load repository.location state = (.answer (.ok document), after)) :
    (⟨repository, false, (Program.reading view).map form⟩ : Request σ (List Entry) R).serve
        locks state
      = (.result (((view document).mapError .malformed).map form), locks, after) := by
  have ran : ((Program.reading view).map form).run repository.store repository.location state
      = (.result (((view document).mapError .malformed).map form), after) := by
    rw [Program.reading, Program.map, Program.run, loads]
    rfl
  exact Request.serve_of_run (fun writes => by cases writes) ran

/-- The answers of a repository whose store gives a document. -/
theorem Lawful.agrees_of_load (lawful : collection.Lawful) {names : Entry → List String}
    (settings : collection.NamesSettings names)
    (loads : repository.store.load repository.location state = (.answer (.ok document), after)) :
    collection.Agrees names document fun call =>
      ((⟨repository, call.writes, call.program collection⟩ :
        Request σ (List Entry) (CollectionAnswer Entity)).serve locks state).1 := by
  refine lawful.agrees settings ?_ fun id => ?_
  · exact congrArg Prod.fst (serve_reading collection.entities CollectionAnswer.all loads)
  · exact congrArg Prod.fst (serve_reading (collection.lookup id) CollectionAnswer.one loads)

/-- Over every store, and whatever document it gives, lists and look-ups of
strategies and of markets agree. -/
theorem lists_agree_with_lookups (locks : Locks) (state after : σ) :
    (∀ (repository : Repository σ (List StrategyRecord)) document,
        repository.store.load repository.location state = (.answer (.ok document), after) →
        strategies.Agrees StrategyRecord.names document fun call =>
          ((DocumentClass.strategies.request repository call).serve locks state).1)
      ∧ ∀ (repository : Repository σ (List MarketRecord)) document,
        repository.store.load repository.location state = (.answer (.ok document), after) →
        markets.Agrees (fun _ => []) document fun call =>
          ((DocumentClass.markets.request repository call).serve locks state).1 := by
  constructor
  · intro repository document loads
    exact strategies_lawful.agrees_of_load strategies_names loads
  · intro repository document loads
    exact markets_lawful.agrees_of_load markets_names loads

/-- Strategies of which the second repeats two names and the third has its
identifier. -/
def malformedStrategies : List StrategyRecord :=
  [⟨"dip", "Dip", "", "x.Dip", none⟩,
    ⟨"grid", "Grid", "", "x.Grid",
      some ⟨[⟨"at", "1"⟩, ⟨"to", "2"⟩, ⟨"to", "3"⟩, ⟨"at", "4"⟩]⟩⟩,
    ⟨"grid", "Grid 2", "", "x.Grid", some ⟨[]⟩⟩]

/-- Strategies of which one is malformed, and no markets. -/
theorem lists_agree_with_lookups_malformed :
    (strategies.Agrees StrategyRecord.names malformedStrategies fun call =>
        ((DocumentClass.strategies.request ⟨Store.memory (List StrategyRecord),
          ⟨⟨"data"⟩, ⟨"schema"⟩⟩, .unnamed⟩ call).serve .fresh (.holding malformedStrategies)).1)
      ∧ markets.Agrees (fun _ => []) [] fun call =>
        ((DocumentClass.markets.request ⟨Store.memory (List MarketRecord),
          ⟨⟨"data"⟩, ⟨"schema"⟩⟩, .unnamed⟩ call).serve .fresh (.holding [])).1 := by
  constructor
  · exact (lists_agree_with_lookups .fresh (Memory.holding malformedStrategies) _).1 _ _ rfl
  · exact (lists_agree_with_lookups .fresh (Memory.holding []) _).2 _ _ rfl

end Stores

end Collection

end TradingConfig
