/-
  TradingConfig.Proofs.Repository.Removal
  ────────────────────────────────
  **WHEN AN IDENTIFIER IS GONE.**

  A deletion removes the first record of its identifier, so the identifier
  occurs one time less (`Collection.count_remove`).  Nothing looks for a
  repeated identifier when a document is loaded: a file may name one several
  times, and then it takes as many deletions until it is gone.  Where it
  occurs once it is gone after one (`Collection.identifiers_retire`), and no
  call makes an identifier occur twice.
-/
import TradingConfig.Proofs.Datastore.Upkeep
import TradingConfig.Proofs.Shipped.MarketsSchema

namespace TradingConfig

namespace Collection

variable {Entry Entity : Type} {collection : Collection Entry Entity}
  {document : List Entry} {id : String}

/-! ## §1. Documents. -/

/-- The identifiers of a document in order. -/
def ids (collection : Collection Entry Entity) (document : List Entry) : List String :=
  document.map collection.entryId

theorem find?_eq_none_iff_count :
    collection.find? id document = none ↔ (collection.ids document).count id = 0 :=
  CollectionCall.find?_eq_none_iff.trans List.count_eq_zero.symm

/-- Removing the first record of an identifier that is there makes it occur
one time less. -/
theorem count_remove {entry : Entry} (found : collection.find? id document = some entry) :
    (collection.ids (collection.remove id document)).count id + 1
      = (collection.ids document).count id := by
  unfold ids remove
  -- induction on the document, up to the first record of the identifier
  induction document with
  | nil => cases found
  | cons head rest ih =>
    unfold find? at found ih
    by_cases here : collection.entryId head = id
    · rw [List.eraseP_cons_of_pos (by simpa using here), List.map_cons, here, List.count_cons_self]
    · rw [List.find?_cons_of_neg (by simpa using here)] at found
      rw [List.eraseP_cons_of_neg (by simpa using here), List.map_cons, List.map_cons,
        List.count_cons_of_ne here, List.count_cons_of_ne here]
      exact ih found

/-! ## §2. Files. -/

/-- The request of a call to a repository over files. -/
def onFiles (collection : Collection Entry Entity) (codec : Codec (List Entry))
    (validator : Validator) (location : Location) (key : Path.Key)
    (call : CollectionCall Entity) : Request FileTree (List Entry) (CollectionAnswer Entity) :=
  ⟨⟨Store.checked codec validator, location, key⟩, call.writes, call.program collection⟩

/-- What repositories over files tell of the identifiers of a document that
the files load as. -/
structure Tells (collection : Collection Entry Entity) (codec : Codec (List Entry))
    (validator : Validator) (location : Location) (key : Path.Key) (locks : Locks)
    (tree : FileTree) (document : List Entry) : Prop where
  /-- After a deletion that is answered with an entity the identifier occurs
  one time less.  It is found no more, and cannot be deleted any more,
  exactly where it occurred once. -/
  deleted : ∀ {id entity locksAfter after},
    (collection.onFiles codec validator location key (.delete id)).serve locks tree
        = (.result (.ok (.outcome (.found entity))), locksAfter, after) →
    ∃ rest, Store.loadDocument codec location after.read validator = .ok rest
      ∧ (collection.ids rest).count id + 1 = (collection.ids document).count id
      ∧ (((collection.onFiles codec validator location key (.findById id)).serve locksAfter after).1
          = .result (.ok (.one none)) ↔ (collection.ids document).count id = 1)
      ∧ (((collection.onFiles codec validator location key (.delete id)).serve locksAfter after).1
          = .result (.ok (.outcome .notFound)) ↔ (collection.ids document).count id = 1)
  /-- A list of all entities has the identifiers of the document in order, so
  they are distinct exactly where those of the document are. -/
  listed : ∀ {entities locksAfter after},
    (collection.onFiles codec validator location key .findAll).serve locks tree
        = (.result (.ok (.all entities)), locksAfter, after) →
    entities.map collection.entityId = collection.ids document
  /-- Identifiers that are distinct stay so in every session. -/
  distinct : (collection.ids document).Nodup → ∀ calls : List (CollectionCall Entity), ∃ later,
    Store.loadDocument codec location
        (Request.serveEach (calls.map (collection.onFiles codec validator location key)) locks
          tree).2.2.read validator
        = .ok later
      ∧ (collection.ids later).Nodup

variable {codec : Codec (List Entry)} {validator : Validator} {location : Location}
  {key : Path.Key} {locks : Locks} {tree : FileTree}

/-- A call over files, where its lock does not refuse it. -/
theorem serve_onFiles {call : CollectionCall Entity}
    (admitted : call.writes = true → locks.isPoisoned key = false) :
    (collection.onFiles codec validator location key call).serve locks tree
      = (.result ((Behaviour.files codec validator).run location (call.program collection) tree).1,
        locks, ((Behaviour.files codec validator).run location (call.program collection) tree).2) :=
  Request.serve_of_run admitted
    (Store.run_files codec validator location (call.program collection) tree)

/-- A look-up over files. -/
theorem serve_findById
    (loads : Store.loadDocument codec location tree.read validator = .ok document) (id : String) :
    (collection.onFiles codec validator location key (.findById id)).serve locks tree
      = (.result (((collection.lookup id document).mapError .malformed).map .one), locks,
        tree) := by
  have reads : (CollectionCall.program collection (.findById id)).Reads :=
    (Program.Reads.reading _).map _
  exact Request.serve_of_run (fun writes => by cases writes)
    (Store.run_checked_of_reads reads loads).1

/-- A list over files. -/
theorem serve_findAll
    (loads : Store.loadDocument codec location tree.read validator = .ok document) :
    (collection.onFiles codec validator location key .findAll).serve locks tree
      = (.result (((collection.entities document).mapError .malformed).map .all), locks, tree) := by
  have reads : (CollectionCall.program collection .findAll).Reads :=
    (Program.Reads.reading _).map _
  exact Request.serve_of_run (fun writes => by cases writes)
    (Store.run_checked_of_reads reads loads).1

theorem ends_none_iff
    (loads : Store.loadDocument codec location tree.read validator = .ok document) :
    ((collection.onFiles codec validator location key (.findById id)).serve locks tree).1
        = .result (.ok (.one none))
      ↔ (collection.ids document).count id = 0 := by
  rw [serve_findById loads, ← find?_eq_none_iff_count]
  unfold lookup
  cases found : collection.find? id document with
  | none => exact ⟨fun _ => rfl, fun _ => rfl⟩
  | some entry =>
    refine ⟨fun answered => ?_, fun missing => by cases missing⟩
    cases held : collection.toEntity entry with
    | error fault => simp only [held] at answered; cases answered
    | ok entity => simp only [held] at answered; cases answered

/-- A deletion over files, in full. -/
theorem run_delete (collection : Collection Entry Entity)
    (loads : Store.loadDocument codec location tree.read validator = .ok document) (id : String) :
    (Behaviour.files codec validator).run location ((CollectionCall.delete id).program collection)
        tree
      = match collection.find? id document with
        | none => (.ok (.outcome .notFound), tree)
        | some entry => match collection.toEntity entry with
          | .error fault => (.error (.malformed fault), tree)
          | .ok entity =>
            match Store.saveDocument codec (collection.remove id document) location tree
                validator with
            | (.error fault, after) => (.error (.store fault), after)
            | (.ok (), after) => (.ok (.outcome (.found entity)), after) := by
  simp only [CollectionCall.program, delete, Program.loading, Program.map, Behaviour.run,
    Behaviour.files, loads]
  cases collection.find? id document with
  | none => rfl
  | some entry =>
    simp only
    cases collection.toEntity entry with
    | error fault => rfl
    | ok entity =>
      simp only [Program.saving, Program.map, Behaviour.run]
      cases Store.saveDocument codec (collection.remove id document) location tree validator with
      | mk answer after =>
        cases answer with
        | error fault => rfl
        | ok _ => rfl

/-- A deletion that finds its record and can save the others. -/
theorem serve_delete_of_saved
    (loads : Store.loadDocument codec location tree.read validator = .ok document)
    (unpoisoned : locks.isPoisoned key = false) {entry : Entry} {entity : Entity}
    {after : FileTree} (found : collection.find? id document = some entry)
    (held : collection.toEntity entry = .ok entity)
    (saved : Store.saveDocument codec (collection.remove id document) location tree validator
      = (.ok (), after)) :
    (collection.onFiles codec validator location key (.delete id)).serve locks tree
      = (.result (.ok (.outcome (.found entity))), locks, after) := by
  rw [serve_onFiles fun _ => unpoisoned, run_delete collection loads, found]
  dsimp only
  rw [held]
  dsimp only
  rw [saved]

theorem ends_notFound_iff
    (loads : Store.loadDocument codec location tree.read validator = .ok document)
    (unpoisoned : locks.isPoisoned key = false) :
    ((collection.onFiles codec validator location key (.delete id)).serve locks tree).1
        = .result (.ok (.outcome .notFound))
      ↔ (collection.ids document).count id = 0 := by
  rw [serve_onFiles fun _ => unpoisoned, run_delete collection loads, ← find?_eq_none_iff_count]
  cases collection.find? id document with
  | none => exact ⟨fun _ => rfl, fun _ => rfl⟩
  | some entry =>
    refine ⟨fun answered => ?_, fun missing => by cases missing⟩
    simp only at answered
    split at answered
    · cases answered
    · split at answered <;> cases answered

/-- A deletion that is answered with an entity has saved the document
without the first record of the identifier, which was there. -/
theorem saved_of_deleted
    (loads : Store.loadDocument codec location tree.read validator = .ok document)
    {entity : Entity} {locksAfter : Locks} {after : FileTree}
    (served : (collection.onFiles codec validator location key (.delete id)).serve locks tree
      = (.result (.ok (.outcome (.found entity))), locksAfter, after)) :
    locks.isPoisoned key = false ∧ locksAfter = locks
      ∧ (∃ entry, collection.find? id document = some entry)
      ∧ Store.saveDocument codec (collection.remove id document) location tree validator
        = (.ok (), after) := by
  cases poisoned : locks.isPoisoned key with
  | true =>
    have refused : ((collection.onFiles codec validator location key (.delete id)).writes
        && locks.isPoisoned key) = true := poisoned
    rw [Request.serve_of_refused refused] at served
    cases served
  | false =>
    rw [serve_onFiles fun _ => poisoned, run_delete collection loads] at served
    split at served
    · cases served
    next entry found =>
      split at served
      · cases served
      · split at served
        · cases served
        next left saved =>
          obtain ⟨-, rest⟩ := Prod.mk.inj served
          obtain ⟨rfl, rfl⟩ := Prod.mk.inj rest
          exact ⟨rfl, rfl, ⟨entry, found⟩, saved⟩

/-- Whatever a document names, and however often, deletions and look-ups tell
of it; and a session keeps distinct identifiers distinct. -/
theorem Lawful.tells (lawful : collection.Lawful) (faithful : codec.Faithful Json.nestingLimit)
    (apart : location.Apart tree)
    (loads : Store.loadDocument codec location tree.read validator = .ok document) :
    collection.Tells codec validator location key locks tree document where
  deleted {id entity locksAfter after} served := by
    obtain ⟨unpoisoned, rfl, ⟨entry, found⟩, saved⟩ := saved_of_deleted loads served
    have loadsAfter := Store.load_after_save faithful apart saved
    -- one record less: none is left exactly where there was one
    have fewer := count_remove found
    have last : (collection.ids (collection.remove id document)).count id = 0
        ↔ (collection.ids document).count id = 1 := by omega
    exact ⟨_, loadsAfter, fewer, (ends_none_iff loadsAfter).trans last,
      (ends_notFound_iff loadsAfter unpoisoned).trans last⟩
  listed {entities locksAfter after} served := by
    rw [serve_findAll loads] at served
    cases read : collection.entities document with
    | error fault => rw [read] at served; cases served
    | ok all =>
      rw [read] at served
      cases served
      exact lawful.map_entityId_entities read
  distinct nodup calls := by
    -- induction on the calls: each starts from a document with distinct identifiers
    induction calls generalizing tree locks document with
    | nil => exact ⟨document, loads, nodup⟩
    | cons call rest ih =>
      obtain ⟨next, loadsNext, same, origin⟩ := Store.exists_load_serve faithful
        (collection.onFiles codec validator location key call) rfl
        (CollectionCall.transacts collection call) apart loads locks
      have nodupNext : (collection.ids next).Nodup := by
        rcases origin with rfl | rfl
        · exact nodup
        · exact (edit_evaluate lawful call document).nodup lawful nodup
      exact ih (apart.of_sameDirectories same) loadsNext nodupNext

/-! ## §3. Strategies and markets. -/

/-- What repositories tell of identifiers, for every document that loads,
whichever way it came into its file and whatever validator let it pass. -/
theorem identifiers_retire (validator : Validator) (location : Location) (key : Path.Key)
    (locks : Locks) (tree : FileTree) (apart : location.Apart tree) :
    (∀ document,
        Store.loadDocument StrategyRecord.documentCodec location tree.read validator
          = .ok document →
        strategies.Tells StrategyRecord.documentCodec validator location key locks tree document)
      ∧ ∀ document,
        Store.loadDocument MarketRecord.documentCodec location tree.read validator
          = .ok document →
        markets.Tells MarketRecord.documentCodec validator location key locks tree document :=
  ⟨fun _ loads => strategies_lawful.tells DocumentClass.strategies.codec_faithful apart loads,
    fun _ loads => markets_lawful.tells DocumentClass.markets.codec_faithful apart loads⟩

/-! ## §4. An identifier that occurs twice. -/

/-- Where the markets lie under the default options. -/
def marketFiles : Location := ⟨⟨"datastore/markets.json"⟩, ⟨"datastore/markets.schema.json"⟩⟩

/-- The shipped schema under a name, beside the file of the markets. -/
def shelf (schemaName : String) (document : List MarketRecord) : FileTree := ⟨[], [
  (["datastore"], .directory),
  (["datastore", schemaName], .file Shipped.marketsSchema.toUTF8),
  (["datastore", "markets.json"],
    .file (Store.documentText MarketRecord.documentCodec document).toUTF8)]⟩

/-- Three markets, of which the first and the last have one identifier. -/
def repeatedMarkets : List MarketRecord :=
  [⟨"m", "M", "B", "C", true, "grid"⟩, ⟨"n", "N", "B", "C", true, "grid"⟩,
    ⟨"m", "M", "C", "B", true, "grid"⟩]

theorem apart_shelf (document : List MarketRecord) :
    marketFiles.Apart (shelf "markets.schema.json" document) := by
  have schemaAt : (shelf "markets.schema.json" document).locate marketFiles.schema
      = .ok ["datastore", "markets.schema.json"] := rfl
  have dataAt : (shelf "markets.schema.json" document).locate marketFiles.data
      = .ok ["datastore", "markets.json"] := rfl
  have scratchAt : (shelf "markets.schema.json" document).locate marketFiles.data.scratch
      = .ok ["datastore", "markets.json.tmp"] := rfl
  exact .of_locate schemaAt dataAt scratchAt (by decide) (by decide)

theorem read_schema_shelf (document : List MarketRecord) :
    (shelf "markets.schema.json" document).read marketFiles.schema
      = .ok Shipped.marketsSchema.toUTF8 :=
  rfl

theorem load_shelf {document : List MarketRecord} (filled : ∀ market ∈ document, market.Filled) :
    Store.loadDocument MarketRecord.documentCodec marketFiles
      (shelf "markets.schema.json" document).read = .ok document :=
  Shipped.loadDocument_of_filled filled (read_schema_shelf document) rfl

theorem save_shelf {document next : List MarketRecord}
    (filled : ∀ market ∈ next, market.Filled) :
    Store.saveDocument MarketRecord.documentCodec next marketFiles
        (shelf "markets.schema.json" document)
      = (.ok (), shelf "markets.schema.json" next) := by
  rw [Store.saveDocument_of_check
    ((Shipped.checkDocument_markets_iff (read_schema_shelf document)).mpr filled)]
  rfl

/-- A deletion of a market that is there. -/
theorem serve_delete_shelf {document : List MarketRecord} {market : MarketRecord} {id : String}
    (filled : ∀ market ∈ document, market.Filled)
    (found : markets.find? id document = some market) (key : Path.Key) :
    (markets.onFiles MarketRecord.documentCodec .keywords marketFiles key (.delete id)).serve .fresh
        (shelf "markets.schema.json" document)
      = (.result (.ok (.outcome (.found market.toMarket))), .fresh,
        shelf "markets.schema.json" (markets.remove id document)) := by
  have filledLeft : ∀ market ∈ markets.remove id document, market.Filled :=
    fun market member => filled market (List.mem_of_mem_eraseP member)
  have unpoisoned : Locks.fresh.isPoisoned key = false := rfl
  exact serve_delete_of_saved (load_shelf filled) unpoisoned found rfl (save_shelf filledLeft)

/-- A call to a repository of markets, made before every other. -/
def ask (location : Location) (call : CollectionCall Market) (tree : FileTree) :
    Ending (Except RepositoryFault (CollectionAnswer Market)) × Locks × FileTree :=
  (markets.onFiles MarketRecord.documentCodec .keywords location (location.data.key [])
    call).serve .fresh tree

/-- A deletion of the identifier that occurs once, and a session over
strategies. -/
theorem identifiers_retire_once :
    (marketFiles.Apart (shelf "markets.schema.json" repeatedMarkets)
      ∧ Store.loadDocument MarketRecord.documentCodec marketFiles
          (shelf "markets.schema.json" repeatedMarkets).read = .ok repeatedMarkets
      ∧ ∃ entity after, ask marketFiles (.delete "n") (shelf "markets.schema.json" repeatedMarkets)
          = (.result (.ok (.outcome (.found entity))), .fresh, after)
        ∧ (ask marketFiles (.findById "n") after).1 = .result (.ok (.one none))
        ∧ (ask marketFiles (.delete "n") after).1 = .result (.ok (.outcome .notFound)))
    ∧ let files := Datastore.standard.location .strategies
      let tree := Datastore.stocked (.of [(Strategy.plain "grid" "" "" "").toRecord] [] default)
      let calls : List (CollectionCall Strategy) :=
        [.create (.plain "grid" "" "" ""), .delete "grid", .create (.plain "grid" "" "" "")]
      files.Apart tree ∧ ∃ later,
        Store.loadDocument StrategyRecord.documentCodec files
            (Request.serveEach (calls.map (strategies.onFiles StrategyRecord.documentCodec .keywords
              files (files.data.key []))) .fresh tree).2.2.read = .ok later
          ∧ (strategies.ids later).Nodup := by
  constructor
  · have filled : ∀ market ∈ repeatedMarkets, market.Filled := by decide
    have apart := apart_shelf repeatedMarkets
    have loads := load_shelf filled
    have found : markets.find? "n" repeatedMarkets = some ⟨"n", "N", "B", "C", true, "grid"⟩ := rfl
    have deleted := serve_delete_shelf filled found (marketFiles.data.key [])
    obtain ⟨-, retire⟩ := identifiers_retire .keywords marketFiles
      (marketFiles.data.key []) .fresh _ apart
    obtain ⟨rest, -, -, gone, goneToo⟩ := (retire _ loads).deleted deleted
    have once : (markets.ids repeatedMarkets).count "n" = 1 := by decide
    exact ⟨apart, loads, _, _, deleted, gone.mpr once, goneToo.mpr once⟩
  · intro files tree calls
    have apart : files.Apart tree := (Datastore.filesApart_stocked _).apart .strategies
    obtain ⟨retire, -⟩ := identifiers_retire .keywords files (files.data.key []) .fresh tree apart
    exact ⟨apart, (retire _ (Datastore.load_stocked _ .strategies)).distinct (by decide) calls⟩

/-- One market. -/
def oneMarket : List MarketRecord := [⟨"m", "M", "B", "C", true, "grid"⟩]

/-- The files of the markets with the schema in the place of the scratch
file. -/
def scratchFiles : Location := ⟨marketFiles.data, marketFiles.data.scratch⟩

/-- No markets, and no schema. -/
def bareTree : FileTree := ⟨[], [
  (["datastore"], .directory),
  (["datastore", "markets.json"],
    .file (Store.documentText MarketRecord.documentCodec []).toUTF8)]⟩

theorem load_scratch {document : List MarketRecord}
    (filled : ∀ market ∈ document, market.Filled) :
    (shelf "markets.json.tmp" document).read scratchFiles.schema
        = .ok Shipped.marketsSchema.toUTF8
      ∧ Store.loadDocument MarketRecord.documentCodec scratchFiles
        (shelf "markets.json.tmp" document).read = .ok document := by
  have schema : (shelf "markets.json.tmp" document).read scratchFiles.schema
      = .ok Shipped.marketsSchema.toUTF8 := rfl
  have data : (shelf "markets.json.tmp" document).read scratchFiles.data
      = .ok (Store.documentText MarketRecord.documentCodec document).toUTF8 := rfl
  exact ⟨schema, Shipped.loadDocument_of_filled filled schema data⟩

theorem save_scratch (document : List MarketRecord) :
    Store.saveDocument MarketRecord.documentCodec [] scratchFiles
      (shelf "markets.json.tmp" document) = (.ok (), bareTree) := by
  have schema : (shelf "markets.json.tmp" document).read scratchFiles.schema
      = .ok Shipped.marketsSchema.toUTF8 := rfl
  have none : ∀ market ∈ ([] : List MarketRecord), market.Filled := by simp
  rw [Store.saveDocument_of_check ((Shipped.checkDocument_markets_iff schema).mpr none)]
  rfl

/-- Of two records of one identifier a deletion leaves the second, which is
then found, and deleted in its turn; and a list shows both.  A schema in the
place of the scratch file is gone after a deletion, and nothing loads. -/
theorem repeated_identifier_survives :
    (marketFiles.Apart (shelf "markets.schema.json" repeatedMarkets)
      ∧ (shelf "markets.schema.json" repeatedMarkets).read marketFiles.schema
        = .ok Shipped.marketsSchema.toUTF8
      ∧ Store.loadDocument MarketRecord.documentCodec marketFiles
          (shelf "markets.schema.json" repeatedMarkets).read = .ok repeatedMarkets
      ∧ (∃ entities, (ask marketFiles .findAll (shelf "markets.schema.json" repeatedMarkets)).1
          = .result (.ok (.all entities)) ∧ ¬ (entities.map Market.id).Nodup)
      ∧ ∃ entity after, ask marketFiles (.delete "m") (shelf "markets.schema.json" repeatedMarkets)
          = (.result (.ok (.outcome (.found entity))), .fresh, after)
        ∧ (ask marketFiles (.findById "m") after).1 ≠ .result (.ok (.one none))
        ∧ (ask marketFiles (.delete "m") after).1 ≠ .result (.ok (.outcome .notFound)))
    ∧ (shelf "markets.json.tmp" oneMarket).read scratchFiles.schema
        = .ok Shipped.marketsSchema.toUTF8
      ∧ Store.loadDocument MarketRecord.documentCodec scratchFiles
          (shelf "markets.json.tmp" oneMarket).read = .ok oneMarket
      ∧ ∃ entity after,
        ask scratchFiles (.delete "m") (shelf "markets.json.tmp" oneMarket)
          = (.result (.ok (.outcome (.found entity))), .fresh, after)
        ∧ (ask scratchFiles (.findById "m") after).1 ≠ .result (.ok (.one none)) := by
  have filled : ∀ market ∈ repeatedMarkets, market.Filled := by decide
  have filledLeft : ∀ market ∈ repeatedMarkets.tail, market.Filled := by decide
  have filledOne : ∀ market ∈ oneMarket, market.Filled := by decide
  have unpoisoned (key : Path.Key) : Locks.fresh.isPoisoned key = false := rfl
  constructor
  · have listed : (ask marketFiles .findAll (shelf "markets.schema.json" repeatedMarkets)).1
        = .result (.ok (.all (repeatedMarkets.map MarketRecord.toMarket))) := by
      unfold ask
      rw [serve_findAll (load_shelf filled)]
      rfl
    have repeated : ¬ ((repeatedMarkets.map MarketRecord.toMarket).map Market.id).Nodup := by
      decide
    have found : markets.find? "m" repeatedMarkets = some ⟨"m", "M", "B", "C", true, "grid"⟩ := rfl
    have left : markets.remove "m" repeatedMarkets = repeatedMarkets.tail := rfl
    have deleted := serve_delete_shelf filled found (marketFiles.data.key [])
    rw [left] at deleted
    have once : (markets.ids repeatedMarkets.tail).count "m" ≠ 0 := by decide
    exact ⟨apart_shelf _, read_schema_shelf _, load_shelf filled, ⟨_, listed, repeated⟩,
      _, _, deleted, (ends_none_iff (load_shelf filledLeft)).not.mpr once,
      (ends_notFound_iff (load_shelf filledLeft) (unpoisoned _)).not.mpr once⟩
  · obtain ⟨schema, loads⟩ := load_scratch filledOne
    have deleted : ask scratchFiles (.delete "m") (shelf "markets.json.tmp" oneMarket)
        = (.result (.ok (.outcome (.found ⟨"m", "M", "B", "C", true, "grid"⟩))), .fresh,
          bareTree) :=
      serve_delete_of_saved loads (unpoisoned _) rfl rfl (save_scratch _)
    refine ⟨schema, loads, _, _, deleted, fun none => ?_⟩
    have lost : (ask scratchFiles (.findById "m") bareTree).1
        = .result (.error (.store (.file scratchFiles.schema .notFound))) := rfl
    rw [lost] at none
    cases none

end Collection

end TradingConfig
