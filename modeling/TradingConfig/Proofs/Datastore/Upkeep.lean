/-
  TradingConfig.Proofs.Datastore.Upkeep
  ────────────────────────────────
  **CALLS NEVER BREAK A WORKING DATASTORE.**

  A datastore works on a tree if its files are files apart and each document
  loads and can be told to callers (`Datastore.Works`).  A call keeps that,
  whatever its class and however it ends: it saves nothing that would not
  load back, and it does not reach the files of the other classes
  (`Works.serve`).  So where a snapshot can be taken, it can be taken after
  any session of calls, and identifiers that were distinct still are
  (`Datastore.readable_after_session`).
-/
import TradingConfig.Proofs.Datastore.Stock
import TradingConfig.Proofs.Repository.Frame
import TradingConfig.Proofs.Repository.Upkeep
import TradingConfig.Repository.Operation

namespace TradingConfig

open FileTree

/-! ## §1. Files apart. -/

/-- What a file is for. -/
inductive FileRole where
  /-- It holds the document. -/
  | data
  /-- It holds a document that is about to be moved to the data file. -/
  | scratch
  /-- It says what the document may look like. -/
  | schema
  deriving DecidableEq

/-- The file of a document for a role. -/
def Location.file (location : Location) : FileRole → Path
  | .data => location.data
  | .scratch => location.data.scratch
  | .schema => location.schema

namespace Datastore

/-- The file of a class for a role. -/
def file (datastore : Datastore) (use : DocumentClass × FileRole) : Path :=
  (datastore.location use.1).file use.2

/-- The files of the three documents are nine files: no two of their paths
lead to one place. -/
def FilesApart (datastore : Datastore) (tree : FileTree) : Prop :=
  ∀ ⦃first second : DocumentClass × FileRole⦄, first ≠ second → ∀ place,
    tree.locate (datastore.file first) = .ok place →
    tree.locate (datastore.file second) ≠ .ok place

variable {datastore : Datastore} {tree after : FileTree} {documentClass other : DocumentClass}

theorem FilesApart.apart (apart : datastore.FilesApart tree) (documentClass : DocumentClass) :
    (datastore.location documentClass).Apart tree := by
  intro place located
  have notData : (documentClass, FileRole.schema) ≠ (documentClass, .data) := by simp
  have notScratch : (documentClass, FileRole.schema) ≠ (documentClass, .scratch) := by simp
  exact ⟨apart notData place located, apart notScratch place located⟩

theorem FilesApart.of_sameDirectories (apart : datastore.FilesApart tree)
    (same : SameDirectories tree after) : datastore.FilesApart after := by
  intro first second differ place located leads
  exact apart differ place ((locate_eq_ok_iff same).mp located) ((locate_eq_ok_iff same).mp leads)

/-- What a class can reach is not read by another. -/
theorem FilesApart.load_of_other (apart : datastore.FilesApart tree)
    (confined : (datastore.location documentClass).Confined tree after)
    (differ : other ≠ documentClass) {document : other.Document}
    (loads : datastore.load tree.read other = .ok document) :
    datastore.load after.read other = .ok document := by
  have kept (role : FileRole) {content : ByteArray}
      (found : tree.read (datastore.file (other, role)) = .ok content) :
      after.read (datastore.file (other, role)) = .ok content := by
    refine confined.directories.read found fun place located => ?_
    have notHere (reached : FileRole) : (other, role) ≠ (documentClass, reached) :=
      fun same => differ (Prod.mk.inj same).1
    exact confined.elsewhere place (apart (notHere .data) place located)
      (apart (notHere .scratch) place located)
  obtain ⟨⟨schemaBytes, schema⟩, dataBytes, data⟩ := Store.exists_read_of_load loads
  unfold load
  rw [Store.loadDocument_congr ((kept .schema schema).trans schema.symm)
    ((kept .data data).trans data.symm)]
  exact loads

/-! ## §2. Working datastores. -/

/-- On the tree the datastore works: its files are files apart, and they
load as documents that can be told to callers. -/
structure Works (datastore : Datastore) (documents : Documents) (tree : FileTree) : Prop where
  /-- The files are files apart. -/
  apart : datastore.FilesApart tree
  /-- Every document loads. -/
  loads : ∀ documentClass, datastore.load tree.read documentClass = .ok (documents documentClass)
  /-- Every document can be told. -/
  legible : ∀ documentClass : DocumentClass, documentClass.Legible (documents documentClass)

variable {documents : Documents}

/-- A datastore that works can be read. -/
theorem Works.exists_snapshot (works : datastore.Works documents tree) :
    ∃ snapshot, datastore.snapshot tree.read = .ok snapshot
      ∧ snapshot.strategies.map Strategy.id
        = DocumentClass.strategies.ids (documents .strategies)
      ∧ snapshot.markets.map Market.id = DocumentClass.markets.ids (documents .markets) := by
  obtain ⟨strategies, heldStrategies⟩ := Collection.legible_iff.mp (works.legible .strategies)
  obtain ⟨markets, heldMarkets⟩ := Collection.legible_iff.mp (works.legible .markets)
  obtain ⟨exchange, heldExchange⟩ := works.legible .exchange
  have readStrategies : datastore.readStrategies tree.read = .ok strategies :=
    Program.seen_of_ok (works.loads .strategies) heldStrategies
  have readMarkets : datastore.readMarkets tree.read = .ok markets :=
    Program.seen_of_ok (works.loads .markets) heldMarkets
  have readExchange : datastore.readExchange tree.read = .ok exchange :=
    Program.seen_of_ok (works.loads .exchange) heldExchange
  refine ⟨⟨strategies, markets, exchange⟩,
    snapshot_of_readings readStrategies readMarkets readExchange, ?_, ?_⟩
  · exact Collection.strategies_lawful.map_entityId_entities heldStrategies
  · exact Collection.markets_lawful.map_entityId_entities heldMarkets

/-- A datastore that can be read works. -/
theorem exists_works (apart : datastore.FilesApart tree) {snapshot : Snapshot}
    (reads : datastore.snapshot tree.read = .ok snapshot) :
    ∃ documents, datastore.Works documents tree
      ∧ snapshot.strategies.map Strategy.id
        = DocumentClass.strategies.ids (documents .strategies)
      ∧ snapshot.markets.map Market.id = DocumentClass.markets.ids (documents .markets) := by
  obtain ⟨readStrategies, readMarkets, readExchange⟩ := readings_of_snapshot reads
  obtain ⟨strategies, loadStrategies, heldStrategies⟩ := Program.exists_ok_of_seen readStrategies
  obtain ⟨markets, loadMarkets, heldMarkets⟩ := Program.exists_ok_of_seen readMarkets
  obtain ⟨exchange, loadExchange, heldExchange⟩ := Program.exists_ok_of_seen readExchange
  refine ⟨.of strategies markets exchange, ⟨apart, ?_, ?_⟩, ?_, ?_⟩
  · intro documentClass
    cases documentClass with
    | strategies => exact loadStrategies
    | markets => exact loadMarkets
    | exchange => exact loadExchange
  · intro documentClass
    cases documentClass with
    | strategies => exact Collection.legible_iff.mpr ⟨_, heldStrategies⟩
    | markets => exact Collection.legible_iff.mpr ⟨_, heldMarkets⟩
    | exchange => exact ⟨_, heldExchange⟩
  · exact Collection.strategies_lawful.map_entityId_entities heldStrategies
  · exact Collection.markets_lawful.map_entityId_entities heldMarkets

/-! ## §3. Sessions. -/

/-- A call of a repository of any class. -/
abbrev AnyCall := (documentClass : DocumentClass) × documentClass.Call

/-- A call of one of the repositories of the datastore. -/
def operation (datastore : Datastore) (home : Place) (call : AnyCall) : Operation FileTree :=
  ⟨call.1, .checked call.1.codec datastore.validator, home, datastore.location call.1, call.2⟩

/-- After a change of the files of one class that leaves a document that can
be told, the datastore works on: the other classes are not reached. -/
theorem Works.update (works : datastore.Works documents tree)
    (confined : (datastore.location documentClass).Confined tree after)
    {document : documentClass.Document}
    (loads : datastore.load after.read documentClass = .ok document)
    (legible : documentClass.Legible document) :
    datastore.Works (Function.update documents documentClass document) after where
  apart := works.apart.of_sameDirectories confined.directories
  loads other := by
    by_cases same : other = documentClass
    · subst same
      rw [Function.update_self]
      exact loads
    · rw [Function.update_of_ne same]
      exact works.apart.load_of_other confined same (works.loads other)
  legible other := by
    by_cases same : other = documentClass
    · subst same
      rw [Function.update_self]
      exact legible
    · rw [Function.update_of_ne same]
      exact works.legible other

/-- A call changes the document of its class as it does without a store, or
not at all, and the datastore works on. -/
theorem Works.serve (works : datastore.Works documents tree) (home : Place)
    (call : documentClass.Call) (locks : Locks) :
    ∃ document,
      datastore.Works (Function.update documents documentClass document)
          ((datastore.operation home ⟨documentClass, call⟩).request.serve locks tree).2.2
        ∧ (document = documents documentClass
          ∨ document = ((documentClass.program call).evaluate (documents documentClass)).2) := by
  let request := (datastore.operation home ⟨documentClass, call⟩).request
  have confined : (datastore.location documentClass).Confined tree (request.serve locks tree).2.2 :=
    DocumentClass.confined_serve call locks tree
  obtain ⟨document, loads, -, origin⟩ := Store.exists_load_serve documentClass.codec_faithful
    request rfl (documentClass.transacts call) (works.apart.apart documentClass)
    (works.loads documentClass) locks
  have legible : documentClass.Legible document := by
    rcases origin with rfl | rfl
    · exact works.legible documentClass
    · exact documentClass.legible_evaluate (works.legible documentClass) call
  exact ⟨document, works.update confined loads legible, origin⟩

/-- So it does over a session. -/
theorem Works.serveEach (works : datastore.Works documents tree) (home : Place)
    (calls : List AnyCall) (locks : Locks) :
    ∃ later,
      datastore.Works later
          (Operation.serveEach (calls.map (datastore.operation home)) locks tree).2.2
        ∧ ∀ documentClass : DocumentClass, (documentClass.ids (documents documentClass)).Nodup →
          (documentClass.ids (later documentClass)).Nodup := by
  -- induction on the calls: each starts from a datastore that works
  induction calls generalizing documents locks tree with
  | nil => exact ⟨documents, works, fun _ distinct => distinct⟩
  | cons call rest ih =>
    obtain ⟨document, worksNext, origin⟩ := works.serve home call.2 locks
    obtain ⟨later, worksLater, keeps⟩ := ih worksNext
      ((datastore.operation home call).request.serve locks tree).2.1
    refine ⟨later, worksLater, fun documentClass distinct => keeps documentClass ?_⟩
    by_cases same : documentClass = call.1
    · subst same
      rw [Function.update_self]
      rcases origin with rfl | rfl
      · exact distinct
      · exact DocumentClass.nodup_ids_evaluate distinct call.2
    · rw [Function.update_of_ne same]
      exact distinct

/-- Where the files are files apart and a snapshot can be taken, one can be
taken after any session of calls, of any classes and however they end; and
identifiers that were distinct are distinct then.  The schemas may ask for
anything, and the validator of the datastore may be any. -/
theorem readable_after_session (datastore : Datastore) (home : Place) (tree : FileTree)
    (apart : datastore.FilesApart tree) (snapshot : Snapshot)
    (reads : datastore.snapshot tree.read = .ok snapshot) (calls : List AnyCall) (locks : Locks) :
    ∃ later,
      datastore.snapshot
          (Operation.serveEach (calls.map (datastore.operation home)) locks tree).2.2.read
          = .ok later
        ∧ ((snapshot.strategies.map Strategy.id).Nodup → (later.strategies.map Strategy.id).Nodup)
        ∧ ((snapshot.markets.map Market.id).Nodup → (later.markets.map Market.id).Nodup) := by
  obtain ⟨documents, works, strategies, markets⟩ := exists_works apart reads
  obtain ⟨laterDocuments, worksLater, keeps⟩ := works.serveEach home calls locks
  obtain ⟨later, readsLater, strategiesLater, marketsLater⟩ := worksLater.exists_snapshot
  refine ⟨later, readsLater, ?_, ?_⟩
  · rw [strategies, strategiesLater]
    exact keeps .strategies
  · rw [markets, marketsLater]
    exact keeps .markets

/-! ## §4. An instance. -/

/-- Where the files of the default options lie. -/
def standardPlace : DocumentClass × FileRole → Place
  | (.strategies, .data) => ["datastore", "strategies.json"]
  | (.strategies, .scratch) => ["datastore", "strategies.json.tmp"]
  | (.strategies, .schema) => ["datastore", "strategies.schema.json"]
  | (.markets, .data) => ["datastore", "markets.json"]
  | (.markets, .scratch) => ["datastore", "markets.json.tmp"]
  | (.markets, .schema) => ["datastore", "markets.schema.json"]
  | (.exchange, .data) => ["datastore", "exchange.json"]
  | (.exchange, .scratch) => ["datastore", "exchange.json.tmp"]
  | (.exchange, .schema) => ["datastore", "exchange.schema.json"]

theorem filesApart_stocked (documents : Documents) :
    standard.FilesApart (stocked documents) := by
  let uses := [DocumentClass.strategies, .markets, .exchange].product
    [FileRole.data, .scratch, .schema]
  have all (use : DocumentClass × FileRole) : use ∈ uses := by
    obtain ⟨documentClass, role⟩ := use
    cases documentClass <;> cases role <;> decide
  have found (use : DocumentClass × FileRole) :
      (stocked documents).locate (standard.file use) = .ok (standardPlace use) := by
    obtain ⟨documentClass, role⟩ := use
    cases documentClass <;> cases role <;> rfl
  have distinct : (uses.map standardPlace).Nodup := by decide
  intro first second differ place located leads
  have same : standardPlace first = standardPlace second :=
    Except.ok.inj ((found first).symm.trans (located.trans (leads.symm.trans (found second))))
  exact differ (List.inj_on_of_nodup_map distinct (all first) (all second) same)

/-- A session with a conflict, a miss, a deletion and a save of the
exchange. -/
theorem readable_after_session_stocked :
    let tree := stocked (.of [(Strategy.plain "grid" "" "" "").toRecord]
      [⟨"m", "", "", "", true, "grid"⟩] default)
    let calls : List AnyCall := [⟨.strategies, .create (.plain "grid" "" "" "")⟩,
      ⟨.markets, .delete "n"⟩, ⟨.markets, .delete "m"⟩, ⟨.exchange, .save default⟩]
    standard.FilesApart tree ∧ ∃ snapshot, standard.snapshot tree.read = .ok snapshot
      ∧ (snapshot.strategies.map Strategy.id).Nodup ∧ (snapshot.markets.map Market.id).Nodup
      ∧ ∃ later,
        standard.snapshot
            (Operation.serveEach (calls.map (standard.operation [])) .fresh tree).2.2.read
            = .ok later
          ∧ (later.strategies.map Strategy.id).Nodup ∧ (later.markets.map Market.id).Nodup := by
  intro tree calls
  have apart : standard.FilesApart tree := filesApart_stocked _
  have reads : standard.snapshot tree.read
      = .ok ⟨[.plain "grid" "" "" ""], [⟨"m", "", "", "", true, "grid"⟩], default⟩ :=
    snapshot_stocked _ rfl rfl rfl
  obtain ⟨later, readsLater, strategies, markets⟩ :=
    readable_after_session standard [] tree apart _ reads calls .fresh
  exact ⟨apart, _, reads, by decide, by decide, later, readsLater, strategies (by decide),
    markets (by decide)⟩

end Datastore

end TradingConfig
