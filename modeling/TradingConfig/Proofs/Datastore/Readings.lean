/-
  TradingConfig.Proofs.Datastore.Readings
  ────────────────────────────────
  **WHAT IS READ DEPENDS ON WHAT LOADS.**

  A reading of a class sees the document that its files load as, and a
  snapshot is made of three readings.
-/
import TradingConfig.Datastore
import TradingConfig.Proofs.Store.SaveLoad

namespace TradingConfig

/-! ## §1. Documents that are seen. -/

namespace Program

/-- What is seen was seen in a document that was loaded. -/
theorem exists_ok_of_seen {D R : Type} {view : D → Except Malformed R}
    {loaded : Except StoreFault D} {result : R} (saw : seen view loaded = .ok result) :
    ∃ document, loaded = .ok document ∧ view document = .ok result := by
  obtain ⟨document, loaded, viewed⟩ := exists_ok_of_bind saw
  exact ⟨document, eq_ok_of_mapError loaded, eq_ok_of_mapError viewed⟩

/-- What is seen in a document that loads. -/
theorem seen_of_ok {D R : Type} {view : D → Except Malformed R} {document : D} {result : R}
    {loaded : Except StoreFault D} (loads : loaded = .ok document)
    (viewed : view document = .ok result) : seen view loaded = .ok result := by
  subst loads
  show (view document).mapError RepositoryFault.malformed = .ok result
  rw [viewed]
  rfl

end Program

/-! ## §2. Readings. -/

namespace Datastore

/-- What loading the document of a class gives. -/
def load (datastore : Datastore) (files : Store.Files) (documentClass : DocumentClass) :
    Except StoreFault documentClass.Document :=
  Store.loadDocument documentClass.codec (datastore.location documentClass) files
    datastore.validator

variable {datastore : Datastore} {files others : Store.Files}

theorem readStrategies_congr
    (same : datastore.load others .strategies = datastore.load files .strategies) :
    datastore.readStrategies others = datastore.readStrategies files :=
  congrArg (Program.seen Collection.strategies.entities) same

theorem readMarkets_congr
    (same : datastore.load others .markets = datastore.load files .markets) :
    datastore.readMarkets others = datastore.readMarkets files :=
  congrArg (Program.seen Collection.markets.entities) same

theorem readExchange_congr
    (same : datastore.load others .exchange = datastore.load files .exchange) :
    datastore.readExchange others = datastore.readExchange files :=
  congrArg (Program.seen ExchangeRecord.toExchange) same

/-- A snapshot is made of three readings. -/
theorem readings_of_snapshot {files : Store.Files} {snapshot : Snapshot}
    (reads : datastore.snapshot files = .ok snapshot) :
    datastore.readStrategies files = .ok snapshot.strategies
      ∧ datastore.readMarkets files = .ok snapshot.markets
      ∧ datastore.readExchange files = .ok snapshot.exchange := by
  obtain ⟨strategies, readStrategies, reads⟩ := exists_ok_of_bind reads
  obtain ⟨markets, readMarkets, reads⟩ := exists_ok_of_bind reads
  obtain ⟨exchange, readExchange, reads⟩ := exists_ok_of_bind reads
  obtain rfl := Except.ok.inj reads
  exact ⟨readStrategies, readMarkets, readExchange⟩

theorem snapshot_of_readings {files : Store.Files} {strategies : List Strategy}
    {markets : List Market} {exchange : Exchange}
    (readStrategies : datastore.readStrategies files = .ok strategies)
    (readMarkets : datastore.readMarkets files = .ok markets)
    (readExchange : datastore.readExchange files = .ok exchange) :
    datastore.snapshot files = .ok ⟨strategies, markets, exchange⟩ := by
  unfold snapshot
  rw [readStrategies, readMarkets, readExchange]
  rfl

end Datastore

end TradingConfig
