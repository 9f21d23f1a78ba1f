/-
  TradingConfig.Proofs.Datastore.Stock
  ────────────────────────────────
  **A DATASTORE UNDER ITS DEFAULT NAMES.**

  A tree with a directory `datastore` in which every document lies under its
  default name, beside a schema that accepts every value.  Any documents can
  be stocked like this (`stocked`); they load as they are (`load_stocked`),
  every document can be saved in their place (`save_stocked`), and every
  call ends as on the document (`serve_stocked`).
-/
import Mathlib.Logic.Function.Basic
import TradingConfig.Proofs.Datastore.Readings
import TradingConfig.Proofs.Repository.Behaviour

namespace TradingConfig

open FileTree

/-- A document of each class. -/
abbrev Documents := (documentClass : DocumentClass) → documentClass.Document

/-- Given documents, by their classes. -/
def Documents.of (strategies : List StrategyRecord) (markets : List MarketRecord)
    (exchange : ExchangeRecord) : Documents
  | .strategies => strategies
  | .markets => markets
  | .exchange => exchange

namespace Datastore

/-! ## §1. The tree. -/

/-- The datastore of the default options. -/
def standard : Datastore := ofOptions {}

/-- What the data file of a class holds. -/
def stockedFile (documents : Documents) (documentClass : DocumentClass) : Node :=
  .file (Store.documentText documentClass.codec (documents documentClass)).toUTF8

/-- The tree with documents under their default names, and with schemas that
accept every value. -/
def stocked (documents : Documents) : FileTree := ⟨[], [
  (["datastore"], .directory),
  (["datastore", "strategies.schema.json"], .file Store.anyValue.toUTF8),
  (["datastore", "markets.schema.json"], .file Store.anyValue.toUTF8),
  (["datastore", "exchange.schema.json"], .file Store.anyValue.toUTF8),
  (["datastore", "strategies.json"], stockedFile documents .strategies),
  (["datastore", "markets.json"], stockedFile documents .markets),
  (["datastore", "exchange.json"], stockedFile documents .exchange)]⟩

variable (documents : Documents)

theorem read_schema_stocked (documentClass : DocumentClass) :
    (stocked documents).read (standard.location documentClass).schema
      = .ok Store.anyValue.toUTF8 := by
  cases documentClass <;> rfl

theorem read_data_stocked (documentClass : DocumentClass) :
    (stocked documents).read (standard.location documentClass).data
      = .ok (Store.documentText documentClass.codec (documents documentClass)).toUTF8 := by
  cases documentClass <;> rfl

/-! ## §2. Loading and saving. -/

/-- Every document loads as it is. -/
theorem load_stocked (documentClass : DocumentClass) :
    Store.loadDocument documentClass.codec (standard.location documentClass)
        (stocked documents).read = .ok (documents documentClass) :=
  Store.loadDocument_of_anyValue documentClass.codec_faithful
    (read_schema_stocked documents documentClass) (read_data_stocked documents documentClass)

/-- Every document can be saved, and only the file of its class changes. -/
theorem save_stocked (documentClass : DocumentClass) (document : documentClass.Document) :
    Store.saveDocument documentClass.codec document (standard.location documentClass)
        (stocked documents)
      = (.ok (), stocked (Function.update documents documentClass document)) := by
  rw [Store.saveDocument_of_check
    (Store.checkDocument_of_anyValue (read_schema_stocked documents documentClass) document)]
  cases documentClass <;> rfl

/-- The snapshot shows what the documents hold. -/
theorem snapshot_stocked {strategies : List Strategy} {markets : List Market} {exchange : Exchange}
    (holdsStrategies : Collection.strategies.entities (documents .strategies) = .ok strategies)
    (holdsMarkets : Collection.markets.entities (documents .markets) = .ok markets)
    (holdsExchange : (documents .exchange).toExchange = .ok exchange) :
    standard.snapshot (stocked documents).read = .ok ⟨strategies, markets, exchange⟩ := by
  have readStrategies : standard.readStrategies (stocked documents).read = .ok strategies :=
    Program.seen_of_ok (load_stocked documents .strategies) holdsStrategies
  have readMarkets : standard.readMarkets (stocked documents).read = .ok markets :=
    Program.seen_of_ok (load_stocked documents .markets) holdsMarkets
  have readExchange : standard.readExchange (stocked documents).read = .ok exchange :=
    Program.seen_of_ok (load_stocked documents .exchange) holdsExchange
  exact snapshot_of_readings readStrategies readMarkets readExchange

/-! ## §3. Calls. -/

/-- Every program ends as on the document, and only the file of its class
changes. -/
theorem run_stocked {documentClass : DocumentClass} {R : Type}
    (program : Program documentClass.Document R) :
    (Behaviour.files documentClass.codec).run (standard.location documentClass) program
        (stocked documents)
      = ((program.evaluate (documents documentClass)).1,
        stocked (Function.update documents documentClass
          (program.evaluate (documents documentClass)).2)) := by
  induction program generalizing documents with
  | done result =>
    show (result, stocked documents) = (result, stocked (Function.update documents _ (documents _)))
    rw [Function.update_eq_self]
  | load next ih =>
    show (Behaviour.files documentClass.codec).run _ (next (Store.loadDocument _ _ _)) _ = _
    rw [load_stocked]
    exact ih _ documents
  | save document next ih =>
    show (Behaviour.files documentClass.codec).run _ (next (Store.saveDocument _ _ _ _).1)
      (Store.saveDocument _ _ _ _).2 = _
    rw [save_stocked, ih, Function.update_self, Function.update_idem]
    rfl

/-- Every call ends as on the document. -/
theorem serve_stocked (documentClass : DocumentClass) (home : Place) (call : documentClass.Call) :
    (documentClass.request (standard.repository home documentClass) call).serve .fresh
        (stocked documents)
      = (.result ((documentClass.program call).evaluate (documents documentClass)).1, .fresh,
        stocked (Function.update documents documentClass
          ((documentClass.program call).evaluate (documents documentClass)).2)) := by
  refine Request.serve_of_run (fun _ => rfl) ?_
  show (documentClass.program call).run (Store.checked documentClass.codec)
    (standard.location documentClass) (stocked documents) = _
  rw [Store.run_files, run_stocked]

/-- So does a session: the files of its class hold what its calls make of
the document, one after the other. -/
theorem serveEach_stocked (documentClass : DocumentClass) (home : Place)
    (calls : List documentClass.Call) :
    (Request.serveEach (calls.map (documentClass.request (standard.repository home documentClass)))
        .fresh (stocked documents)).2.2
      = stocked (Function.update documents documentClass (calls.foldl
          (fun document call => ((documentClass.program call).evaluate document).2)
          (documents documentClass))) := by
  induction calls generalizing documents with
  | nil =>
    show stocked documents = stocked (Function.update documents documentClass (documents _))
    rw [Function.update_eq_self]
  | cons call rest ih =>
    rw [List.map_cons, Request.serveEach, serve_stocked]
    simp only
    rw [ih, Function.update_self, Function.update_idem, List.foldl_cons]

end Datastore

end TradingConfig
