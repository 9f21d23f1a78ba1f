/-
  TradingConfig.Proofs.Repository.Rewrite
  ────────────────────────────────
  **A REWRITE LOSES NOTHING.**

  A call that changes one record saves the whole document anew.  What a file
  holds that loads under a shipped schema is what is written of its document
  (`Shipped.Describes.data_of_load`), so all that the saved file has and the
  old one had not is the record of the call (`Change`): every other item of
  the array is the same value as before, in the same order
  (`Collection.rewrites_lose_nothing`).
-/
import TradingConfig.Proofs.Repository.Removal
import TradingConfig.Proofs.Shipped.Shapes

namespace TradingConfig

variable {Item Entity : Type} {names : Item → String → Prop} {entityId : Entity → String}
  {call : CollectionCall Entity} {items itemsAfter : List Item}

/-! ## §1. Changes of one item. -/

/-- What a call makes of a list whose items are named by identifiers: one
more at the end, another one in the place of one, or one less.  The item
that is replaced or removed is the first one of the identifier, and all
others stay as they are, in their order. -/
inductive Change (names : Item → String → Prop) (entityId : Entity → String) :
    CollectionCall Entity → List Item → List Item → Prop where
  /-- A new item, whose identifier none had before. -/
  | created {entity : Entity} {items : List Item} {new : Item}
      (fresh : ∀ item ∈ items, ¬ names item (entityId entity))
      (named : names new (entityId entity)) :
      Change names entityId (.create entity) items (items ++ [new])
  /-- An item in the place of the one of its identifier. -/
  | updated {entity : Entity} {before after : List Item} {old new : Item}
      (earlier : ∀ item ∈ before, ¬ names item (entityId entity))
      (target : names old (entityId entity)) (named : names new (entityId entity)) :
      Change names entityId (.update entity) (before ++ old :: after) (before ++ new :: after)
  /-- An item less. -/
  | deleted {id : String} {before after : List Item} {old : Item}
      (earlier : ∀ item ∈ before, ¬ names item id) (target : names old id) :
      Change names entityId (.delete id) (before ++ old :: after) (before ++ after)

/-- A change stays a change where every item is written in a form that has
its identifier. -/
theorem Change.map {Form : Type} {form : Item → Form} {namesForm : Form → String → Prop}
    (same : ∀ item id, namesForm (form item) id ↔ names item id)
    (change : Change names entityId call items itemsAfter) :
    Change namesForm entityId call (items.map form) (itemsAfter.map form) := by
  have unnamed {id : String} {list : List Item} (none : ∀ item ∈ list, ¬ names item id) :
      ∀ written ∈ list.map form, ¬ namesForm written id := by
    intro written member
    obtain ⟨item, inside, rfl⟩ := List.mem_map.mp member
    exact (same item id).not.mpr (none item inside)
  cases change with
  | created fresh named =>
    rw [List.map_append, List.map_singleton]
    exact .created (unnamed fresh) ((same _ _).mpr named)
  | updated earlier target named =>
    rw [List.map_append, List.map_append, List.map_cons, List.map_cons]
    exact .updated (unnamed earlier) ((same _ _).mpr target) ((same _ _).mpr named)
  | deleted earlier target =>
    rw [List.map_append, List.map_append, List.map_cons]
    exact .deleted (unnamed earlier) ((same _ _).mpr target)

/-! ## §2. What a call saves. -/

namespace Collection

variable {Entry : Type} {collection : Collection Entry Entity} {document : List Entry}
  {entry : Entry} {entity : Entity} {id : String}

/-- A change of a document, by the identifiers of its records. -/
abbrev Changes (collection : Collection Entry Entity) :
    CollectionCall Entity → List Entry → List Entry → Prop :=
  Change (fun entry id => collection.entryId entry = id) collection.entityId

theorem changes_append (lawful : collection.Lawful)
    (missing : collection.find? (collection.entityId entity) document = none) :
    collection.Changes (.create entity) document (document ++ [collection.toEntry entity]) := by
  refine .created (fun other member same => ?_) (lawful.entryId_toEntry entity)
  exact CollectionCall.find?_eq_none_iff.mp missing (same ▸ List.mem_map_of_mem member)

/-- The record that is found lies behind records of other identifiers. -/
theorem exists_parts_of_find? (found : collection.find? id document = some entry) :
    ∃ before after, document = before ++ entry :: after ∧ collection.entryId entry = id
      ∧ ∀ other ∈ before, collection.entryId other ≠ id := by
  obtain ⟨same, before, after, rfl, others⟩ := List.find?_eq_some_iff_append.mp found
  exact ⟨before, after, rfl, by simpa using same,
    fun other member => by simpa using others other member⟩

/-- The first record of the identifier is the one that is replaced. -/
theorem replace_append_cons (lawful : collection.Lawful) {before : List Entry}
    (others : ∀ other ∈ before, collection.entryId other ≠ collection.entityId entity)
    (same : collection.entryId entry = collection.entityId entity) (after : List Entry) :
    collection.replace entity (before ++ entry :: after)
      = before ++ collection.toEntry entity :: after := by
  -- induction on the records before the one that is replaced
  induction before with
  | nil =>
    rw [List.nil_append, replace, if_pos same, lawful.revise_eq_toEntry same]
    rfl
  | cons head rest ih =>
    obtain ⟨other, othersRest⟩ := List.forall_mem_cons.mp others
    rw [List.cons_append, replace, if_neg other, ih othersRest]
    rfl

/-- It is the one that is removed, too. -/
theorem remove_append_cons {before : List Entry}
    (others : ∀ other ∈ before, collection.entryId other ≠ id)
    (same : collection.entryId entry = id) (after : List Entry) :
    collection.remove id (before ++ entry :: after) = before ++ after := by
  unfold remove
  rw [List.eraseP_append_right _ fun other member => by simpa using others other member,
    List.eraseP_cons_of_pos (by simpa using same)]

theorem changes_replace (lawful : collection.Lawful)
    (found : collection.find? (collection.entityId entity) document = some entry) :
    collection.Changes (.update entity) document (collection.replace entity document) := by
  obtain ⟨before, after, rfl, same, others⟩ := exists_parts_of_find? found
  rw [replace_append_cons lawful others same]
  exact .updated others same (lawful.entryId_toEntry entity)

theorem changes_remove (found : collection.find? id document = some entry) :
    collection.Changes (.delete id) document (collection.remove id document) := by
  obtain ⟨before, after, rfl, same, others⟩ := exists_parts_of_find? found
  rw [remove_append_cons others same]
  exact .deleted others same

variable {V : Type} {behaviour : Behaviour V (List Entry)} {location : Location} {seen after : V}

/-- What is saved and confirmed is saved, and nothing happens after it. -/
theorem saved_of_confirmed {saved : List Entry} {outcome : Outcome Entity}
    (ran : behaviour.run location (.saving saved (collection.confirm id)) seen
      = (.ok outcome, after)) :
    behaviour.save saved location seen = (.ok (), after) := by
  obtain ⟨between, saves, confirmed⟩ := Behaviour.exists_saved ran
  have same : (behaviour.run location (collection.confirm id) between).2 = between :=
    Behaviour.run_of_reads (confirm_reads collection id) location between
  rw [confirmed] at same
  obtain rfl : after = between := same
  exact saves

/-- What was saved is confirmed where it is loaded. -/
theorem Lawful.run_confirm (lawful : collection.Lawful) {saved : List Entry}
    (reloads : behaviour.load location after = .ok saved)
    (there : collection.find? (collection.entityId entity) saved
      = some (collection.toEntry entity)) :
    behaviour.run location (collection.confirm (collection.entityId entity)) after
      = (.ok (.found entity), after) := by
  rw [confirm, Behaviour.run_loading, reloads]
  dsimp only
  rw [there]
  show (((collection.toEntity (collection.toEntry entity)).map Outcome.found).mapError
    RepositoryFault.malformed, after) = _
  rw [lawful.toEntity_toEntry]
  rfl

theorem saved_of_create (lawful : collection.Lawful) {created : Entity}
    (ran : behaviour.run location (collection.create entity) seen
      = (.ok (.found created), after)) :
    ∃ document saved, behaviour.load location seen = .ok document
      ∧ behaviour.save saved location seen = (.ok (), after)
      ∧ collection.Changes (.create entity) document saved := by
  obtain ⟨document, loads, ran⟩ := Behaviour.exists_loaded ran
  cases missing : collection.find? (collection.entityId entity) document with
  | some entry =>
    rw [missing] at ran
    cases ran
  | none =>
    rw [missing] at ran
    exact ⟨document, _, loads, saved_of_confirmed ran, changes_append lawful missing⟩

theorem saved_of_update (lawful : collection.Lawful) {updated : Entity}
    (ran : behaviour.run location (collection.update entity) seen
      = (.ok (.found updated), after)) :
    ∃ document saved, behaviour.load location seen = .ok document
      ∧ behaviour.save saved location seen = (.ok (), after)
      ∧ collection.Changes (.update entity) document saved := by
  obtain ⟨document, loads, ran⟩ := Behaviour.exists_loaded ran
  cases found : collection.find? (collection.entityId entity) document with
  | none =>
    rw [found] at ran
    cases ran
  | some entry =>
    rw [found] at ran
    exact ⟨document, _, loads, saved_of_confirmed ran, changes_replace lawful found⟩

theorem saved_of_delete {deleted : Entity}
    (ran : behaviour.run location (collection.delete id) seen = (.ok (.found deleted), after)) :
    ∃ document saved, behaviour.load location seen = .ok document
      ∧ behaviour.save saved location seen = (.ok (), after)
      ∧ collection.Changes (.delete id) document saved := by
  obtain ⟨document, loads, ran⟩ := Behaviour.exists_loaded ran
  cases found : collection.find? id document with
  | none =>
    rw [found] at ran
    cases ran
  | some entry =>
    cases held : collection.toEntity entry with
    | error fault =>
      simp only [found, held] at ran
      cases ran
    | ok entity =>
      simp only [found, held] at ran
      obtain ⟨between, saves, ended⟩ := Behaviour.exists_saved ran
      obtain ⟨-, rfl⟩ := Prod.mk.inj ended
      exact ⟨document, _, loads, saves, changes_remove found⟩

/-- A call that is answered with an entity has loaded a document and saved
one in which the record of the call is changed. -/
theorem saved_of_told (lawful : collection.Lawful)
    (told : behaviour.run location (call.program collection) seen
      = (.ok (.outcome (.found entity)), after)) :
    ∃ document saved, behaviour.load location seen = .ok document
      ∧ behaviour.save saved location seen = (.ok (), after)
      ∧ collection.Changes call document saved := by
  cases call with
  | findAll =>
    obtain ⟨_, -, same⟩ := Behaviour.exists_run_of_map told
    cases same
  | findById id =>
    obtain ⟨_, -, same⟩ := Behaviour.exists_run_of_map told
    cases same
  | create entity =>
    obtain ⟨result, ran, same⟩ := Behaviour.exists_run_of_map told
    obtain rfl := CollectionAnswer.outcome.inj same
    exact saved_of_create lawful ran
  | update entity =>
    obtain ⟨result, ran, same⟩ := Behaviour.exists_run_of_map told
    obtain rfl := CollectionAnswer.outcome.inj same
    exact saved_of_update lawful ran
  | delete id =>
    obtain ⟨result, ran, same⟩ := Behaviour.exists_run_of_map told
    obtain rfl := CollectionAnswer.outcome.inj same
    exact saved_of_delete ran

end Collection

/-! ## §3. Data files. -/

/-- An item of an array has an identifier. -/
def Json.HasId (item : Json) (id : String) : Prop :=
  item.member? "id" = some (.str id)

/-- The data file held an object with one array and holds one again, and a
call has changed one item of the array. -/
def Rewritten (list : String) (entityId : Entity → String) (call : CollectionCall Entity)
    (path : Path) (before after : FileTree) : Prop :=
  ∃ items itemsAfter, Store.Holds before.read path (.obj [(list, .arr items)])
    ∧ Store.Holds after.read path (.obj [(list, .arr itemsAfter)])
    ∧ Change Json.HasId entityId call items itemsAfter

namespace Collection

variable {Entry : Type} {collection : Collection Entry Entity} {codec : Codec (List Entry)}
  {validator : Validator} {location : Location} {key : Path.Key} {locks locksAfter : Locks}
  {tree after : FileTree}

/-- A call over files that succeeds was not refused. -/
theorem run_of_served {answer : CollectionAnswer Entity}
    (served : (collection.onFiles codec validator location key call).serve locks tree
      = (.result (.ok answer), locksAfter, after)) :
    (Behaviour.files codec validator).run location (call.program collection) tree
      = (.ok answer, after) := by
  have keeps : (collection.onFiles codec validator location key call).repository.store
      = Store.checked codec validator := rfl
  obtain ⟨left, serves, ends⟩ := (Store.checked_behavesAs codec validator).serve keeps locks tree
  rw [serves] at served
  obtain ⟨told, rest⟩ := Prod.mk.inj served
  obtain ⟨-, rfl⟩ := Prod.mk.inj rest
  have whole : (Behaviour.files codec validator).serve locks
      (collection.onFiles codec validator location key call) tree = (.ok answer, left) :=
    Prod.ext (Ending.result.inj told) ends.symm
  unfold Behaviour.serve at whole
  split at whole
  · cases whole
  · exact whole

/-- A successful change of a collection rewrites one item of its file, where
the file's schema describes the documents. -/
theorem rewritten_of_served (lawful : collection.Lawful)
    (faithful : codec.Faithful Json.nestingLimit) {text list : String} {form : Entry → Json}
    (describes : Shipped.Describes text codec)
    (listed : ∀ document,
      (codec.encode document).canonical = .obj [(list, .arr (document.map form))])
    (named : ∀ entry id, (form entry).HasId id ↔ collection.entryId entry = id)
    (schema : tree.read location.schema = .ok text.toUTF8) {entity : Entity}
    (served : (collection.onFiles codec .keywords location key call).serve locks tree
      = (.result (.ok (.outcome (.found entity))), locksAfter, after)) :
    Rewritten list collection.entityId call location.data tree after := by
  obtain ⟨document, saved, loads, saves, changes⟩ := saved_of_told lawful (run_of_served served)
  have before := describes.data_of_load schema loads
  have now := Store.holds_after_save faithful saves
  rw [listed] at before now
  exact ⟨_, _, before, now, changes.map named⟩

/-! ## §4. Strategies and markets. -/

/-- A record whose first field is an identifier is written with it. -/
theorem hasId_record {α β : Type} {name : String} {tail : Codec.Fields β}
    {make : String × β → α} {parts : α → String × β}
    (distinct : (Codec.Fields.cons (.required "id" Codec.string) tail).keys.Nodup)
    (x : α) (id : String) :
    ((Codec.record name (.cons (.required "id" Codec.string) tail) make parts).encode
        x).canonical.HasId id ↔ (parts x).1 = id := by
  have written : ((Codec.record name (.cons (.required "id" Codec.string) tail) make parts).encode
      x).canonical.member? "id" = some (.str (parts x).1) := Codec.member?_record distinct x
  unfold Json.HasId
  rw [written, Option.some.injEq, Json.str.injEq]

/-- The shipped schemas of the strategies and the markets describe what the
codecs read and write; and under them every call that is answered with an
entity leaves all items of the data file but its own as they were, in their
order. -/
theorem rewrites_lose_nothing (location : Location) (key : Path.Key) (locks locksAfter : Locks)
    (tree after : FileTree) :
    (Shipped.Describes Shipped.strategiesSchema StrategyRecord.documentCodec
      ∧ (tree.read location.schema = .ok Shipped.strategiesSchema.toUTF8 → ∀ call entity,
        (strategies.onFiles StrategyRecord.documentCodec .keywords location key call).serve locks
            tree
            = (.result (.ok (.outcome (.found entity))), locksAfter, after) →
          Rewritten "strategies" Strategy.id call location.data tree after))
    ∧ Shipped.Describes Shipped.marketsSchema MarketRecord.documentCodec
      ∧ (tree.read location.schema = .ok Shipped.marketsSchema.toUTF8 → ∀ call entity,
        (markets.onFiles MarketRecord.documentCodec .keywords location key call).serve locks tree
            = (.result (.ok (.outcome (.found entity))), locksAfter, after) →
          Rewritten "markets" Market.id call location.data tree after) := by
  refine ⟨⟨Shipped.describes_strategies, fun schema call entity served => ?_⟩,
    Shipped.describes_markets, fun schema call entity served => ?_⟩
  · exact rewritten_of_served strategies_lawful DocumentClass.strategies.codec_faithful
      Shipped.describes_strategies (fun _ => Codec.canonical_listRecord rfl)
      (hasId_record (by decide)) schema served
  · exact rewritten_of_served markets_lawful DocumentClass.markets.codec_faithful
      Shipped.describes_markets (fun _ => Codec.canonical_listRecord rfl)
      (hasId_record (by decide)) schema served

/-- The shipped schema of the strategies beside their file. -/
def strategyShelf (document : List StrategyRecord) : FileTree := ⟨[], [
  (["datastore"], .directory),
  (["datastore", "strategies.schema.json"], .file Shipped.strategiesSchema.toUTF8),
  (["datastore", "strategies.json"],
    .file (Store.documentText StrategyRecord.documentCodec document).toUTF8)]⟩

/-- Where the strategies lie under the default options. -/
def strategyFiles : Location :=
  ⟨⟨"datastore/strategies.json"⟩, ⟨"datastore/strategies.schema.json"⟩⟩

/-- Two strategies, with settings and without. -/
def twoStrategies : List StrategyRecord :=
  [⟨"grid", "Grid", "", "Grid", none⟩, ⟨"dip", "Dip", "Buys", "Dip", some ⟨[⟨"at", "5"⟩]⟩⟩]

theorem check_strategyShelf {document other : List StrategyRecord}
    (clean : Shipped.strategiesBook.violations
      (StrategyRecord.documentCodec.encode other).canonical = []) :
    Store.checkDocument StrategyRecord.documentCodec other strategyFiles
      (strategyShelf document).read = .ok () :=
  Store.checkDocument_of_clean (Shipped.readSchema_strategiesSchema rfl)
    (SchemaBook.complaints_eq_nil_iff.mpr clean)

theorem load_strategyShelf {document : List StrategyRecord}
    (clean : Shipped.strategiesBook.violations
      (StrategyRecord.documentCodec.encode document).canonical = []) :
    Store.loadDocument StrategyRecord.documentCodec strategyFiles (strategyShelf document).read
      = .ok document := by
  have faithful : StrategyRecord.documentCodec.Faithful Json.nestingLimit :=
    DocumentClass.strategies.codec_faithful
  rw [Store.loadDocument_documentText faithful rfl, check_strategyShelf clean]
  rfl

theorem save_strategyShelf {document next : List StrategyRecord}
    (clean : Shipped.strategiesBook.violations
      (StrategyRecord.documentCodec.encode next).canonical = []) :
    Store.saveDocument StrategyRecord.documentCodec next strategyFiles (strategyShelf document)
      = (.ok (), strategyShelf next) := by
  rw [Store.saveDocument_of_check (check_strategyShelf clean)]
  rfl

/-- A strategy and a market are deleted from files with others. -/
theorem rewrites_lose_nothing_deleted :
    (∃ entity after,
      (strategies.onFiles StrategyRecord.documentCodec .keywords strategyFiles
          (strategyFiles.data.key []) (.delete "grid")).serve .fresh (strategyShelf twoStrategies)
          = (.result (.ok (.outcome (.found entity))), .fresh, after)
        ∧ (strategyShelf twoStrategies).read strategyFiles.schema
          = .ok Shipped.strategiesSchema.toUTF8
        ∧ Rewritten "strategies" Strategy.id (.delete "grid") strategyFiles.data
          (strategyShelf twoStrategies) after)
    ∧ ∃ entity after,
      (markets.onFiles MarketRecord.documentCodec .keywords marketFiles (marketFiles.data.key [])
          (.delete "n")).serve .fresh (shelf "markets.schema.json" repeatedMarkets)
          = (.result (.ok (.outcome (.found entity))), .fresh, after)
        ∧ (shelf "markets.schema.json" repeatedMarkets).read marketFiles.schema
          = .ok Shipped.marketsSchema.toUTF8
        ∧ Rewritten "markets" Market.id (.delete "n") marketFiles.data
          (shelf "markets.schema.json" repeatedMarkets) after := by
  constructor
  · have schema : (strategyShelf twoStrategies).read strategyFiles.schema
        = .ok Shipped.strategiesSchema.toUTF8 := rfl
    have served : (strategies.onFiles StrategyRecord.documentCodec .keywords strategyFiles
        (strategyFiles.data.key []) (.delete "grid")).serve .fresh (strategyShelf twoStrategies)
          = (.result (.ok (.outcome (.found (.plain "grid" "Grid" "" "Grid")))), .fresh,
            strategyShelf twoStrategies.tail) :=
      serve_delete_of_saved (load_strategyShelf (by cbv)) rfl rfl rfl (save_strategyShelf (by cbv))
    obtain ⟨⟨-, rewrites⟩, -⟩ := rewrites_lose_nothing strategyFiles _ .fresh .fresh _ _
    exact ⟨_, _, served, schema, rewrites schema _ _ served⟩
  · have filled : ∀ market ∈ repeatedMarkets, market.Filled := by decide
    have schema := read_schema_shelf repeatedMarkets
    have found : markets.find? "n" repeatedMarkets = some ⟨"n", "N", "B", "C", true, "grid"⟩ := rfl
    have served := serve_delete_shelf filled found (marketFiles.data.key [])
    obtain ⟨-, -, rewrites⟩ := rewrites_lose_nothing marketFiles _ .fresh .fresh _ _
    exact ⟨_, _, served, schema, rewrites schema _ _ served⟩

end Collection

end TradingConfig
