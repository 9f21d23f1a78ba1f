/-
  TradingConfig.Proofs.Repository.Acceptance
  ────────────────────────────────
  **WHICH WRITES ARE ACCEPTED.**

  A document that loads under a shipped schema breaks no demand of it
  (`Shipped.violations_of_load`).  So a write of one record is refused for
  that record alone, whatever else is stored, and the broken demands on it
  are the complaints (`Collection.Kept.exactly`).  A deletion asks nothing
  new.  For the exchange the credentials stay out of it in the same way.
  Every write is thus accepted exactly on a condition about what the caller
  gives (`writes_accepted_exactly`).
-/
import TradingConfig.Proofs.Repository.ExchangeFiles
import TradingConfig.Proofs.Repository.Neighbours
import TradingConfig.Proofs.Shipped.ExchangeDemands
import TradingConfig.Proofs.Shipped.ExchangeShape

namespace TradingConfig

open Demand

/-! ## §1. Saving under demands. -/

/-- The file system replaces a file, whatever it is to hold. -/
def Store.Replaceable (path : Path) (tree : FileTree) : Prop :=
  ∀ content, (replaceFile path content tree).1 = .ok ()

/-- A write is answered exactly on a condition; otherwise it is refused, with
a complaint for every demand that is broken, and nothing changes. -/
structure AnswersExactly {R : Type} (condition : Prop) (answer : R) (path : Path)
    (demands : List Demand) (locks : Locks) (tree : FileTree)
    (served : Ending (Except RepositoryFault R) × Locks × FileTree) : Prop where
  /-- The answer. -/
  accepted : served.1 = .result (.ok answer) ↔ condition
  /-- The demands are what the condition asks for. -/
  demanded : (∀ demand ∈ demands, demand.met = true) ↔ condition
  /-- The complaints. -/
  refused : ¬ condition →
    served
      = (.result (.error (.store (.rejected path ((broken demands).map .schema)))), locks, tree)

section Saving

variable {D R : Type} {codec : Codec D} {validator : Validator} {verdict : ValueCheck}
  {book : SchemaBook} {location : Location} {tree : FileTree} {document : D}

/-- A save of a document that meets the schema replaces the file. -/
theorem Store.exists_saved
    (usable : readSchema tree.read location.schema validator = .ok verdict)
    (replaceable : Replaceable location.data tree)
    (clean : verdict (codec.encode document).canonical = []) :
    ∃ after, saveDocument codec document location tree validator = (.ok (), after) := by
  rw [saveDocument_of_check (checkDocument_of_clean usable clean)]
  exact ⟨_, Prod.ext (replaceable _) rfl⟩

/-- A save of any other is refused. -/
theorem Store.saveDocument_of_complaints
    (usable : readSchema tree.read location.schema validator = .ok verdict)
    (unclean : verdict (codec.encode document).canonical ≠ []) :
    saveDocument codec document location tree validator
      = (.error (.rejected location.data (verdict (codec.encode document).canonical)),
        tree) := by
  have fails : checkDocument codec document location tree.read validator
      = .error (.rejected location.data (verdict (codec.encode document).canonical)) := by
    rw [checkDocument_of_readSchema usable, check_of_complaints unclean]
  unfold saveDocument
  rw [fails]

/-- A write that ends as its save does is answered exactly on the condition
that its demands are met. -/
theorem answersExactly_of_save {condition : Prop} {answer : R} {demands : List Demand}
    {locks : Locks} {served : Ending (Except RepositoryFault R) × Locks × FileTree}
    (usable : Store.readSchema tree.read location.schema = .ok book.complaints)
    (replaceable : Store.Replaceable location.data tree)
    (listed : book.violations (codec.encode document).canonical = broken demands)
    (demanded : broken demands = [] ↔ condition)
    (refused : ∀ {fault}, Store.saveDocument codec document location tree = (.error fault, tree) →
      served = (.result (.error (.store fault)), locks, tree))
    (accepted : ∀ {after}, Store.saveDocument codec document location tree = (.ok (), after) →
      served.1 = .result (.ok answer)) :
    AnswersExactly condition answer location.data demands locks tree served := by
  have refuses (fails : ¬ condition) :
      served = (.result (.error (.store
        (.rejected location.data ((broken demands).map .schema)))), locks, tree) := by
    have unclean : book.complaints (codec.encode document).canonical ≠ [] := by
      rw [Ne, SchemaBook.complaints_eq_nil_iff, listed]
      exact fun met => fails (demanded.mp met)
    rw [← listed]
    exact refused (Store.saveDocument_of_complaints usable unclean)
  -- answered only on the condition, since otherwise it is refused
  refine ⟨⟨fun answered => ?_, fun holds => ?_⟩, broken_eq_nil_iff.symm.trans demanded, refuses⟩
  · by_contra fails
    rw [refuses fails] at answered
    cases answered
  · have clean := SchemaBook.complaints_eq_nil_iff.mpr (listed.trans (demanded.mpr holds))
    obtain ⟨after, saved⟩ := Store.exists_saved usable replaceable clean
    exact accepted saved

/-- A document that loads under a shipped text breaks no demand of it. -/
theorem Shipped.violations_of_load {text : String} (describes : Describes text codec)
    (schema : tree.read location.schema = .ok text.toUTF8)
    (usable : Store.readSchema tree.read location.schema = .ok book.complaints)
    (loads : Store.loadDocument codec location tree.read = .ok document) :
    book.violations (codec.encode document).canonical = [] := by
  obtain ⟨other, value, usableToo, ⟨bytes, found, read⟩, clean, -⟩ :=
    Store.exists_value_of_load loads
  obtain rfl : other = book.complaints := Except.ok.inj (usableToo.symm.trans usable)
  obtain ⟨bytesToo, foundToo, readToo⟩ := describes.data_of_load schema loads
  obtain rfl : bytes = bytesToo := Except.ok.inj (found.symm.trans foundToo)
  rw [← Except.ok.inj (read.symm.trans readToo)]
  exact SchemaBook.complaints_eq_nil_iff.mp clean

end Saving

/-! ## §2. Collections. -/

namespace Collection

variable {Entry Entity : Type} {collection : Collection Entry Entity} {codec : Codec (List Entry)}
  {book : SchemaBook} {list : String} {demandsOf : Entry → List Demand} {location : Location}
  {key : Path.Key} {locks : Locks} {tree : FileTree} {document : List Entry}

/-- The demands on a record at an index of the list of a document. -/
def demandsAt (list : String) (index : Nat) (demands : List Demand) : List Demand :=
  inMembers [(list, demands.map (under (.item index)))]

/-- A document is kept in files where it can be changed, under a schema that
makes demands on every record of its list by itself. -/
structure Kept (collection : Collection Entry Entity) (codec : Codec (List Entry))
    (book : SchemaBook) (list : String) (demandsOf : Entry → List Demand) (location : Location)
    (key : Path.Key) (locks : Locks) (tree : FileTree) (document : List Entry) : Prop where
  /-- Records and entities fit together. -/
  lawful : collection.Lawful
  /-- Nothing is lost in writing. -/
  faithful : codec.Faithful Json.nestingLimit
  /-- The schema lists the broken demands on the records. -/
  listed : ∀ document, book.violations (codec.encode document).canonical
    = broken (inMembers [(list, inItems demandsOf document 0)])
  /-- The schema is a file apart. -/
  apart : location.Apart tree
  /-- It can be used. -/
  usable : Store.readSchema tree.read location.schema = .ok book.complaints
  /-- The document loads. -/
  loads : Store.loadDocument codec location tree.read = .ok document
  /-- It breaks no demand. -/
  clean : book.violations (codec.encode document).canonical = []
  /-- Its file can be replaced. -/
  replaceable : Store.Replaceable location.data tree
  /-- No write has crashed. -/
  unpoisoned : locks.isPoisoned key = false

theorem broken_demandsAt_eq_nil_iff {index : Nat} {demands : List Demand} :
    broken (demandsAt list index demands) = [] ↔ broken demands = [] := by
  unfold demandsAt
  rw [broken_inMembers_eq_nil_iff, List.forall_mem_singleton, broken_under_eq_nil_iff]

/-- Every stored record is as demanded. -/
theorem Kept.met (kept : collection.Kept codec book list demandsOf location key locks tree document)
    {entry : Entry} (member : entry ∈ document) : broken (demandsOf entry) = [] := by
  have clean := kept.clean
  rw [kept.listed, broken_inMembers_eq_nil_iff, List.forall_mem_singleton,
    broken_inItems_eq_nil_iff] at clean
  exact clean entry member

/-- Records that are stored already, and one among them that is not: only
that one can break a demand. -/
theorem Kept.violations
    (kept : collection.Kept codec book list demandsOf location key locks tree document)
    {before after : List Entry} {new : Entry}
    (stored : ∀ other ∈ before ++ after, other ∈ document) :
    book.violations (codec.encode (before ++ new :: after)).canonical
      = broken (demandsAt list before.length (demandsOf new)) := by
  have others : ∀ other ∈ before ++ after, broken (demandsOf other) = [] :=
    fun other member => kept.met (stored other member)
  rw [kept.listed, demandsAt, inMembers_singleton, inMembers_singleton, inMember, inMember,
    broken_under, broken_under, broken_inItems_of_others others]

/-- A change that is saved and confirmed. -/
theorem Kept.run_change
    (kept : collection.Kept codec book list demandsOf location key locks tree document)
    {saved : List Entry} {entity : Entity}
    (there : collection.find? (collection.entityId entity) saved
      = some (collection.toEntry entity)) :
    (Behaviour.files codec).run location
        (.saving saved (collection.confirm (collection.entityId entity))) tree
      = match Store.saveDocument codec saved location tree with
        | (.error fault, after) => (.error (.store fault), after)
        | (.ok (), after) => (.ok (.found entity), after) := by
  rw [Behaviour.run_saving]
  cases ended : Store.saveDocument codec saved location tree with
  | mk answer after =>
    have saves : (Behaviour.files codec).save saved location tree = (answer, after) := ended
    rw [saves]
    cases answer with
    | error fault => rfl
    | ok _ =>
      -- the load after the save gives what was saved
      have reloads : (Behaviour.files codec).load location after = .ok saved :=
        Store.load_after_save kept.faithful kept.apart ended
      exact kept.lawful.run_confirm reloads there

/-- A creation or an update that puts the record of its entity among stored
ones is accepted exactly where this record is as demanded. -/
theorem Kept.exactly
    (kept : collection.Kept codec book list demandsOf location key locks tree document)
    {call : CollectionCall Entity} {entity : Entity} {condition : Prop}
    (demanded : broken (demandsOf (collection.toEntry entity)) = [] ↔ condition)
    (before after : List Entry) (stored : ∀ other ∈ before ++ after, other ∈ document)
    (first : ∀ other ∈ before, collection.entryId other ≠ collection.entityId entity)
    (changes : (Behaviour.files codec).run location (call.program collection) tree
      = (Behaviour.files codec).run location
        ((Program.saving (before ++ collection.toEntry entity :: after)
          (collection.confirm (collection.entityId entity))).map .outcome) tree) :
    AnswersExactly condition (.outcome (.found entity)) location.data
      (demandsAt list before.length (demandsOf (collection.toEntry entity))) locks tree
      ((collection.onFiles codec .keywords location key call).serve locks tree) := by
  have there : collection.find? (collection.entityId entity)
      (before ++ collection.toEntry entity :: after) = some (collection.toEntry entity) := by
    refine List.find?_eq_some_iff_append.mpr ⟨?_, before, after, rfl, fun other member => ?_⟩
    · simp [kept.lawful.entryId_toEntry]
    · simpa using first other member
  have ran := kept.run_change there
  refine answersExactly_of_save kept.usable kept.replaceable (kept.violations stored)
    (broken_demandsAt_eq_nil_iff.trans demanded) (fun {fault} refused => ?_)
    (fun {left} accepted => ?_)
  · rw [serve_onFiles fun _ => kept.unpoisoned, changes, Behaviour.run_map, ran, refused]
    rfl
  · rw [serve_onFiles fun _ => kept.unpoisoned, changes, Behaviour.run_map, ran, accepted]
    rfl

/-- A new record is put after the others. -/
theorem Kept.created
    (kept : collection.Kept codec book list demandsOf location key locks tree document)
    {entity : Entity} {condition : Prop}
    (demanded : broken (demandsOf (collection.toEntry entity)) = [] ↔ condition)
    (absent : collection.entityId entity ∉ collection.ids document) :
    AnswersExactly condition (.outcome (.found entity)) location.data
      (demandsAt list document.length (demandsOf (collection.toEntry entity))) locks tree
      ((collection.onFiles codec .keywords location key (.create entity)).serve locks tree) := by
  have missing : collection.find? (collection.entityId entity) document = none :=
    CollectionCall.find?_eq_none_iff.mpr absent
  have loaded : (Behaviour.files codec).load location tree = .ok document := kept.loads
  refine kept.exactly demanded document [] (fun other member => by simpa using member)
    (fun other member same => absent (same ▸ List.mem_map_of_mem member)) ?_
  rw [CollectionCall.program, create, Program.map_loading, Behaviour.run_loading, loaded]
  dsimp only
  rw [missing]

/-- An updated one is put in the place of the first of its identifier. -/
theorem Kept.updated
    (kept : collection.Kept codec book list demandsOf location key locks tree document)
    {entity : Entity} {condition : Prop}
    (demanded : broken (demandsOf (collection.toEntry entity)) = [] ↔ condition)
    (present : collection.entityId entity ∈ collection.ids document) :
    AnswersExactly condition (.outcome (.found entity)) location.data
      (demandsAt list ((collection.ids document).idxOf (collection.entityId entity))
        (demandsOf (collection.toEntry entity))) locks tree
      ((collection.onFiles codec .keywords location key (.update entity)).serve locks tree) := by
  have loaded : (Behaviour.files codec).load location tree = .ok document := kept.loads
  cases found : collection.find? (collection.entityId entity) document with
  | none => exact absurd present (CollectionCall.find?_eq_none_iff.mp found)
  | some old =>
    obtain ⟨before, after, rfl, same, others⟩ := exists_parts_of_find? found
    have index : (collection.ids (before ++ old :: after)).idxOf (collection.entityId entity)
        = before.length := by
      rw [ids_append, ids_cons, List.idxOf_append_of_notMem (not_mem_ids others), same,
        List.idxOf_cons_self]
      exact List.length_map _
    rw [index]
    -- the other records are stored ones
    refine kept.exactly demanded before after (fun other member => ?_) others ?_
    · rcases List.mem_append.mp member with earlier | later
      · exact List.mem_append_left _ earlier
      · exact List.mem_append_right _ (List.mem_cons_of_mem _ later)
    · rw [CollectionCall.program, update, Program.map_loading, Behaviour.run_loading, loaded]
      dsimp only
      rw [found]
      dsimp only
      rw [replace_append_cons kept.lawful others same]

/-- A deletion is never refused for what is left. -/
theorem Kept.deleted
    (kept : collection.Kept codec book list demandsOf location key locks tree document)
    {id : String} {entry : Entry} {entity : Entity}
    (found : collection.find? id document = some entry)
    (held : collection.toEntity entry = .ok entity) :
    ∃ after, (collection.onFiles codec .keywords location key (.delete id)).serve locks tree
      = (.result (.ok (.outcome (.found entity))), locks, after) := by
  -- what is left is stored already, and meets its demands
  have clean : book.complaints (codec.encode (collection.remove id document)).canonical = [] := by
    rw [SchemaBook.complaints_eq_nil_iff, kept.listed, broken_inMembers_eq_nil_iff,
      List.forall_mem_singleton, broken_inItems_eq_nil_iff]
    exact fun other member => kept.met (List.mem_of_mem_eraseP member)
  obtain ⟨after, saved⟩ := Store.exists_saved kept.usable kept.replaceable clean
  exact ⟨after, serve_delete_of_saved kept.loads kept.unpoisoned found held saved⟩

/-- The writes of a document are accepted exactly: creations and updates on a
condition about the entity, deletions where the record is whole. -/
structure AcceptsExactly (collection : Collection Entry Entity) (codec : Codec (List Entry))
    (list : String) (demandsOf : Entry → List Demand) (condition : Entity → Prop)
    (whole : Entry → Prop) (location : Location) (key : Path.Key) (locks : Locks) (tree : FileTree)
    (document : List Entry) : Prop where
  /-- Creations. -/
  created : ∀ entity, collection.entityId entity ∉ collection.ids document →
    AnswersExactly (condition entity) (.outcome (.found entity)) location.data
      (demandsAt list document.length (demandsOf (collection.toEntry entity))) locks tree
      ((collection.onFiles codec .keywords location key (.create entity)).serve locks tree)
  /-- Updates. -/
  updated : ∀ entity, collection.entityId entity ∈ collection.ids document →
    AnswersExactly (condition entity) (.outcome (.found entity)) location.data
      (demandsAt list ((collection.ids document).idxOf (collection.entityId entity))
        (demandsOf (collection.toEntry entity))) locks tree
      ((collection.onFiles codec .keywords location key (.update entity)).serve locks tree)
  /-- Deletions. -/
  deleted : ∀ id entry, collection.find? id document = some entry → whole entry →
    ∃ entity after, collection.toEntity entry = .ok entity
      ∧ (collection.onFiles codec .keywords location key (.delete id)).serve locks tree
        = (.result (.ok (.outcome (.found entity))), locks, after)

theorem Kept.acceptsExactly
    (kept : collection.Kept codec book list demandsOf location key locks tree document)
    {condition : Entity → Prop} {whole : Entry → Prop}
    (demanded : ∀ entity, broken (demandsOf (collection.toEntry entity)) = [] ↔ condition entity)
    (sound : ∀ {entry}, (∃ entity, collection.toEntity entry = .ok entity) ↔ whole entry) :
    collection.AcceptsExactly codec list demandsOf condition whole location key locks tree
      document where
  created entity := kept.created (demanded entity)
  updated entity := kept.updated (demanded entity)
  deleted id entry found isWhole := by
    obtain ⟨entity, held⟩ := sound.mpr isWhole
    obtain ⟨after, served⟩ := kept.deleted found held
    exact ⟨entity, after, held, served⟩

end Collection

/-! ## §3. The exchange. -/

section Exchange

variable {location : Location} {key : Path.Key} {locks : Locks} {tree : FileTree}

theorem Exchange.broken_inDocument_iff {exchange : Exchange} :
    broken (inMembers [("exchange", exchange.demands)]) = [] ↔ exchange.Sound := by
  rw [broken_inMembers_eq_nil_iff, List.forall_mem_singleton, Exchange.broken_demands_iff]

/-- Saves of the exchange are accepted exactly where it is sound. -/
theorem Exchange.answersExactly (apart : location.Apart tree)
    (unpoisoned : locks.isPoisoned key = false)
    (replaceable : Store.Replaceable location.data tree)
    (schema : tree.read location.schema = .ok Shipped.exchangeSchema.toUTF8)
    {record : ExchangeRecord}
    (loads : Store.loadDocument ExchangeRecord.documentCodec location tree.read = .ok record)
    (exchange : Exchange) :
    AnswersExactly exchange.Sound exchange location.data
      (inMembers [("exchange", exchange.demands)]) locks tree
      ((DocumentClass.exchange.request (DocumentClass.exchange.onFiles location key)
        (.save exchange)).serve locks tree) := by
  have faithful : ExchangeRecord.documentCodec.Faithful Json.nestingLimit :=
    DocumentClass.exchange.codec_faithful
  -- credentials that loaded are named, so the schema asks nothing about them
  have named := Shipped.named_of_load schema loads
  have ran := ExchangeRecord.run_save loads exchange
  have served {result : Except RepositoryFault Exchange} {after : FileTree}
      (ends : (Behaviour.files ExchangeRecord.documentCodec).run location exchange.save tree
        = (result, after)) :
      (DocumentClass.exchange.request (DocumentClass.exchange.onFiles location key)
        (.save exchange)).serve locks tree = (.result result, locks, after) := by
    refine Request.serve_of_run (fun _ => unpoisoned) ?_
    refine (Store.run_files ExchangeRecord.documentCodec .keywords location exchange.save
      tree).trans ?_
    rw [ends]
    rfl
  refine answersExactly_of_save (Shipped.readSchema_exchangeSchema schema) replaceable
    (Shipped.violations_toRecord exchange named) broken_inDocument_iff (fun {fault} refused => ?_)
    (fun {after} accepted => ?_)
  · rw [refused] at ran
    exact served ran
  · rw [accepted] at ran
    dsimp only at ran
    rw [Store.load_after_save faithful apart accepted] at ran
    have seen : Program.seen ExchangeRecord.toExchange (.ok (exchange.toRecord record.credentials))
        = .ok exchange := Program.seen_of_ok rfl (exchange.toExchange_toRecord _)
    rw [seen] at ran
    exact congrArg Prod.fst (served ran)

end Exchange

/-! ## §4. All classes. -/

/-- Under the shipped schemas, where the files are apart and can be replaced,
every write is accepted exactly: a creation and an update of a strategy or a
market, and a save of the exchange, on a condition about what the caller
gives; and a deletion where the record is whole. -/
theorem writes_accepted_exactly (location : Location) (key : Path.Key) (locks : Locks)
    (tree : FileTree) (apart : location.Apart tree) (unpoisoned : locks.isPoisoned key = false)
    (replaceable : Store.Replaceable location.data tree) :
    (tree.read location.schema = .ok Shipped.strategiesSchema.toUTF8 → ∀ document,
        Store.loadDocument StrategyRecord.documentCodec location tree.read = .ok document →
        Collection.strategies.AcceptsExactly StrategyRecord.documentCodec "strategies"
          StrategyRecord.demands Strategy.Filled StrategyRecord.DistinctNames location key locks
          tree document)
      ∧ (tree.read location.schema = .ok Shipped.marketsSchema.toUTF8 → ∀ document,
        Store.loadDocument MarketRecord.documentCodec location tree.read = .ok document →
        Collection.markets.AcceptsExactly MarketRecord.documentCodec "markets"
          MarketRecord.demands Market.Filled (fun _ => True) location key locks tree document)
      ∧ (tree.read location.schema = .ok Shipped.exchangeSchema.toUTF8 → ∀ record,
        Store.loadDocument ExchangeRecord.documentCodec location tree.read = .ok record →
        ∀ exchange : Exchange,
          AnswersExactly exchange.Sound exchange location.data
            (inMembers [("exchange", exchange.demands)]) locks tree
            ((DocumentClass.exchange.request (DocumentClass.exchange.onFiles location key)
              (.save exchange)).serve locks tree)) := by
  refine ⟨fun schema document loads => ?_, fun schema document loads => ?_,
    fun schema record loads exchange =>
      exchange.answersExactly apart unpoisoned replaceable schema loads⟩
  · have usable := Shipped.readSchema_strategiesSchema schema
    have kept : Collection.strategies.Kept StrategyRecord.documentCodec Shipped.strategiesBook
        "strategies" StrategyRecord.demands location key locks tree document :=
      ⟨Collection.strategies_lawful, DocumentClass.strategies.codec_faithful,
        Shipped.violations_strategies, apart, usable, loads,
        Shipped.violations_of_load Shipped.describes_strategies schema usable loads, replaceable,
        unpoisoned⟩
    exact kept.acceptsExactly (fun _ => Strategy.broken_demands_iff)
      StrategyRecord.exists_toStrategy_iff
  · have usable := Shipped.readSchema_marketsSchema schema
    have kept : Collection.markets.Kept MarketRecord.documentCodec Shipped.marketsBook
        "markets" MarketRecord.demands location key locks tree document :=
      ⟨Collection.markets_lawful, DocumentClass.markets.codec_faithful,
        Shipped.violations_markets, apart, usable, loads,
        Shipped.violations_of_load Shipped.describes_markets schema usable loads, replaceable,
        unpoisoned⟩
    exact kept.acceptsExactly (fun _ => Market.broken_demands_iff)
      fun {stored} => ⟨fun _ => trivial, fun _ => ⟨stored.toMarket, rfl⟩⟩

/-- An exchange with everything that the schema asks for. -/
def soundExchange : Exchange := ⟨"X", "x.X", ⟨15, [502, 503], ["Reset"]⟩, .empty⟩

theorem soundExchange_sound : soundExchange.Sound :=
  ⟨by decide, by decide, by decide, by decide, by simp [soundExchange], by decide, by decide,
    by decide⟩

/-- The file of the exchange without credentials. -/
def soundShelf : FileTree :=
  Shipped.exchangeShelf
    (Store.documentText ExchangeRecord.documentCodec (soundExchange.toRecord none))

theorem load_soundShelf :
    Store.loadDocument ExchangeRecord.documentCodec Shipped.exchangeFiles soundShelf.read
      = .ok (soundExchange.toRecord none) := by
  have faithful : ExchangeRecord.documentCodec.Faithful Json.nestingLimit :=
    DocumentClass.exchange.codec_faithful
  have clean : Shipped.exchangeBook.complaints
      (ExchangeRecord.documentCodec.encode (soundExchange.toRecord none)).canonical = [] := by
    rw [SchemaBook.complaints_eq_nil_iff, Shipped.violations_toRecord soundExchange (by decide)]
    exact Exchange.broken_inDocument_iff.mpr soundExchange_sound
  have usable : Store.readSchema soundShelf.read Shipped.exchangeFiles.schema
      = .ok Shipped.exchangeBook.complaints :=
    Shipped.readSchema_exchangeSchema (Shipped.read_schema_exchangeShelf _)
  have data : soundShelf.read Shipped.exchangeFiles.data
      = .ok (Store.documentText ExchangeRecord.documentCodec
        (soundExchange.toRecord none)).toUTF8 := rfl
  rw [Store.loadDocument_documentText faithful data, Store.checkDocument_of_clean usable clean]
  rfl

theorem apart_strategyShelf (document : List StrategyRecord) :
    Collection.strategyFiles.Apart (Collection.strategyShelf document) := by
  have schemaAt : (Collection.strategyShelf document).locate Collection.strategyFiles.schema
      = .ok ["datastore", "strategies.schema.json"] := rfl
  have dataAt : (Collection.strategyShelf document).locate Collection.strategyFiles.data
      = .ok ["datastore", "strategies.json"] := rfl
  have scratchAt : (Collection.strategyShelf document).locate Collection.strategyFiles.data.scratch
      = .ok ["datastore", "strategies.json.tmp"] := rfl
  exact .of_locate schemaAt dataAt scratchAt (by decide) (by decide)

theorem apart_soundShelf : Shipped.exchangeFiles.Apart soundShelf := by
  have schemaAt : soundShelf.locate Shipped.exchangeFiles.schema
      = .ok ["datastore", "exchange.schema.json"] := rfl
  have dataAt : soundShelf.locate Shipped.exchangeFiles.data
      = .ok ["datastore", "exchange.json"] := rfl
  have scratchAt : soundShelf.locate Shipped.exchangeFiles.data.scratch
      = .ok ["datastore", "exchange.json.tmp"] := rfl
  exact .of_locate schemaAt dataAt scratchAt (by decide) (by decide)

/-- A strategy without a name is refused with one complaint, a market that is
stored can be deleted, and an exchange with a time-out of a second is
saved. -/
theorem writes_accepted_exactly_shelves :
    (Collection.strategies.onFiles StrategyRecord.documentCodec .keywords
        Collection.strategyFiles .unnamed (.create (.plain "new" "" "" "New"))).serve .fresh
          (Collection.strategyShelf Collection.twoStrategies)
      = (.result (.error (.store (.rejected Collection.strategyFiles.data [.schema
          ⟨[.member "strategies", .item 2, .member "name"], .tooShort (.str "") 1⟩]))),
        .fresh, Collection.strategyShelf Collection.twoStrategies)
    ∧ (∃ entity after,
      (Collection.markets.onFiles MarketRecord.documentCodec .keywords Collection.marketFiles
          .unnamed (.delete "m")).serve .fresh
            (Collection.shelf "markets.schema.json" Collection.repeatedMarkets)
        = (.result (.ok (.outcome (.found entity))), .fresh, after))
    ∧ ((DocumentClass.exchange.request
        (DocumentClass.exchange.onFiles Shipped.exchangeFiles .unnamed)
        (.save soundExchange)).serve .fresh soundShelf).1 = .result (.ok soundExchange) := by
  refine ⟨?_, ?_, ?_⟩
  · obtain ⟨strategies, -⟩ := writes_accepted_exactly Collection.strategyFiles .unnamed .fresh
      (Collection.strategyShelf Collection.twoStrategies) (apart_strategyShelf _) rfl fun _ => rfl
    have accepts := strategies rfl _ (Collection.load_strategyShelf (by cbv))
    have unfilled : ¬ (Strategy.plain "new" "" "" "New").Filled := fun filled => filled.2.1 rfl
    exact (accepts.created (.plain "new" "" "" "New") (by decide)).refused unfilled
  · obtain ⟨-, markets, -⟩ := writes_accepted_exactly Collection.marketFiles .unnamed .fresh
      (Collection.shelf "markets.schema.json" Collection.repeatedMarkets)
      (Collection.apart_shelf _) rfl fun _ => rfl
    have accepts := markets rfl _ (Collection.load_shelf (by decide))
    obtain ⟨entity, after, -, served⟩ := accepts.deleted "m" ⟨"m", "M", "B", "C", true, "grid"⟩ rfl
      trivial
    exact ⟨entity, after, served⟩
  · obtain ⟨-, -, exchange⟩ := writes_accepted_exactly Shipped.exchangeFiles .unnamed .fresh
      soundShelf apart_soundShelf rfl fun _ => rfl
    exact (exchange rfl _ load_soundShelf soundExchange).accepted.mpr soundExchange_sound

end TradingConfig
