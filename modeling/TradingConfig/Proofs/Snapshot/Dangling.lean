/-
  TradingConfig.Proofs.Snapshot.Dangling
  ────────────────────────────────
  **HOW DANGLING REFERENCES EVOLVE.**

  Where identifiers are distinct and no block repeats a name, the stores in
  memory hold a snapshot (`Memories.Tells`), and a call changes it as it
  changes the catalog of its class (`Tells.serve`).  So the dangling markets
  after a call come from those before it by an operation on lists
  (`Snapshot.Evolves`), and they do so at every moment of a session
  (`dangling_evolves`).
-/
import TradingConfig.Proofs.Repository.Catalog
import TradingConfig.Snapshot.Memories

namespace TradingConfig

/-! ## §1. Entities that are replaced. -/

section Catalogs

variable {Entity : Type} {identifier : Entity → String}

theorem Catalog.map_identifier_replace (catalog : Catalog identifier) (entity : Entity) :
    (catalog.replace entity).entities.map identifier = catalog.entities.map identifier := by
  show (catalog.entities.map _).map identifier = _
  rw [List.map_map]
  refine List.map_congr_left fun old _ => ?_
  show identifier (if identifier old = identifier entity then entity else old) = identifier old
  split
  next same => exact same.symm
  next => rfl

/-- The place of an entity that is replaced. -/
theorem Catalog.exists_place {catalog : Catalog identifier} {entity old : Entity}
    (found : catalog.find? (identifier entity) = some old) :
    ∃ front back, catalog.entities = front ++ old :: back
      ∧ (catalog.replace entity).entities = front ++ entity :: back
      ∧ identifier old = identifier entity
      ∧ ∀ other ∈ front ++ back, identifier other ≠ identifier entity := by
  obtain ⟨isOld, front, back, parts, others⟩ := List.find?_eq_some_iff_append.mp found
  have same : identifier old = identifier entity := by simpa using isOld
  have inFront : ∀ other ∈ front, identifier other ≠ identifier entity :=
    fun other member => by simpa using others other member
  have inBack : ∀ other ∈ back, identifier other ≠ identifier entity := by
    intro other member again
    have distinct := catalog.distinct
    rw [parts, List.map_append, List.map_cons, List.nodup_append] at distinct
    have fresh := (List.nodup_cons.mp distinct.2.1).1
    exact fresh (same.trans again.symm ▸ List.mem_map_of_mem member)
  have kept : ∀ {entities : List Entity},
      (∀ other ∈ entities, identifier other ≠ identifier entity) →
      entities.map (fun other => if identifier other = identifier entity then entity else other)
        = entities := by
    intro entities differ
    refine (List.map_congr_left fun other member => ?_).trans (List.map_id' entities)
    rw [if_neg (differ other member)]
  refine ⟨front, back, parts, ?_, same, ?_⟩
  · show catalog.entities.map _ = _
    rw [parts, List.map_append, List.map_cons, kept inFront, kept inBack, if_pos same]
  · intro other member
    rcases List.mem_append.mp member with front | back
    · exact inFront other front
    · exact inBack other back

end Catalogs

namespace Snapshot

/-! ## §2. Dangling markets. -/

/-- Whether a market refers to a strategy that is not there. -/
def isDangling (snapshot : Snapshot) (market : Market) : Bool :=
  !snapshot.knows market.strategyId

theorem knows_eq_true_iff {snapshot : Snapshot} {id : String} :
    snapshot.knows id = true ↔ id ∈ snapshot.strategies.map Strategy.id := by
  unfold knows
  rw [List.any_eq_true, List.mem_map]
  simp only [decide_eq_true_eq]

theorem isDangling_eq_true_iff {snapshot : Snapshot} {market : Market} :
    snapshot.isDangling market = true
      ↔ market.strategyId ∉ snapshot.strategies.map Strategy.id := by
  rw [← knows_eq_true_iff, isDangling, Bool.not_eq_true', Bool.not_eq_true]

/-- The dangling ones of markets, of which one stands in front. -/
theorem filter_isDangling_cons (snapshot : Snapshot) (market : Market) (rest : List Market) :
    (market :: rest).filter snapshot.isDangling
      = (if snapshot.isDangling market then [market] else [])
        ++ rest.filter snapshot.isDangling := by
  rw [List.filter_cons]
  split <;> rfl

/-- Which markets dangle depends on the identifiers of the strategies. -/
theorem isDangling_congr {before after : Snapshot}
    (same : after.strategies.map Strategy.id = before.strategies.map Strategy.id) :
    after.isDangling = before.isDangling := by
  funext market
  rw [Bool.eq_iff_iff, isDangling_eq_true_iff, isDangling_eq_true_iff, same]

theorem dangling_congr {before after : Snapshot}
    (same : after.strategies.map Strategy.id = before.strategies.map Strategy.id)
    (markets : after.markets = before.markets) : after.dangling = before.dangling := by
  show after.markets.filter after.isDangling = before.markets.filter before.isDangling
  rw [isDangling_congr same, markets]

/-- A market is put in the place of the one with its identifier.  The
dangling markets in front of it and behind it stay, and at its place there
is the market as it is now, if its reference is unknown. -/
def Moved (before after : Snapshot) (market : Market) : Prop :=
  ∃ front old back, before.markets = front ++ old :: back
    ∧ after.markets = front ++ market :: back
    ∧ old.id = market.id ∧ (∀ other ∈ front ++ back, other.id ≠ market.id)
    ∧ before.dangling = front.filter before.isDangling
        ++ (if before.isDangling old then [old] else []) ++ back.filter before.isDangling
    ∧ after.dangling = front.filter before.isDangling
        ++ (if before.isDangling market then [market] else []) ++ back.filter before.isDangling

/-- What becomes of a snapshot by a call of the repository of strategies. -/
def AfterStrategies (before after : Snapshot) :
    CollectionCall Strategy → Except RepositoryFault (CollectionAnswer Strategy) → Prop
  | .create strategy, .ok (.outcome (.found _)) =>
    after.dangling = before.dangling.filter fun market => market.strategyId ≠ strategy.id
  | .update _, .ok (.outcome (.found _)) => after.dangling = before.dangling
  | .delete id, .ok (.outcome (.found _)) =>
    after.dangling
      = before.markets.filter fun market => market ∈ before.dangling ∨ market.strategyId = id
  | _, _ => after = before

/-- What becomes of a snapshot by a call of the repository of markets. -/
def AfterMarkets (before after : Snapshot) :
    CollectionCall Market → Except RepositoryFault (CollectionAnswer Market) → Prop
  | .create market, .ok (.outcome (.found _)) =>
    after.dangling = before.dangling ++ if before.isDangling market then [market] else []
  | .update market, .ok (.outcome (.found _)) => before.Moved after market
  | .delete id, .ok (.outcome (.found removed)) =>
    removed.id = id ∧ after.dangling = before.dangling.filter fun market => market.id ≠ id
  | _, _ => after = before

/-- What becomes of a snapshot by a call of the repository of the
exchange. -/
def AfterExchange (before after : Snapshot) :
    ExchangeCall → Except RepositoryFault Exchange → Prop
  | .save _, .ok _ => after.dangling = before.dangling
  | _, _ => after = before

/-- How the dangling markets evolve under a call.  Every other answer than
that a change was made leaves the whole snapshot as it was. -/
def Evolves (before after : Snapshot) : (documentClass : DocumentClass) →
    documentClass.Call → Except RepositoryFault documentClass.Answer → Prop
  | .strategies => before.AfterStrategies after
  | .markets => before.AfterMarkets after
  | .exchange => before.AfterExchange after

/-- Under a fault nothing evolves. -/
theorem evolves_error (snapshot : Snapshot) (documentClass : DocumentClass)
    (call : documentClass.Call) (fault : RepositoryFault) :
    snapshot.Evolves snapshot documentClass call (.error fault) := by
  cases documentClass with
  | strategies => cases call <;> rfl
  | markets => cases call <;> rfl
  | exchange => cases call <;> rfl

/-! ## §3. What a change of a catalog does to them. -/

variable (markets : List Market) (exchange : Exchange)

theorem afterStrategies_step (catalog : Catalog Strategy.id) (call : CollectionCall Strategy) :
    AfterStrategies ⟨catalog.entities, markets, exchange⟩
      ⟨(catalog.step call).2.entities, markets, exchange⟩ call (.ok (catalog.step call).1) := by
  cases call with
  | findAll => rfl
  | findById id => rfl
  | create strategy =>
    rw [Catalog.step]
    split
    next absent =>
      -- one strategy more is known: the references to it dangle no longer
      show markets.filter (isDangling ⟨catalog.entities ++ [strategy], markets, exchange⟩)
        = (markets.filter (isDangling ⟨catalog.entities, markets, exchange⟩)).filter _
      rw [List.filter_filter]
      refine List.filter_congr fun market _ => ?_
      rw [Bool.eq_iff_iff, Bool.and_eq_true, isDangling_eq_true_iff, isDangling_eq_true_iff,
        decide_eq_true_eq, List.map_append, List.mem_append, not_or, and_comm]
      simp
    · rfl
  | update strategy =>
    rw [Catalog.step]
    split
    · rfl
    · exact dangling_congr (catalog.map_identifier_replace strategy) rfl
  | delete id =>
    rw [Catalog.step]
    split
    · rfl
    · -- one strategy less is known: the references to it dangle from now on
      show markets.filter (isDangling ⟨catalog.entities.filter _, markets, exchange⟩)
        = markets.filter _
      refine List.filter_congr fun market member => ?_
      have wasDangling : market ∈ dangling ⟨catalog.entities, markets, exchange⟩
          ↔ market.strategyId ∉ catalog.entities.map Strategy.id :=
        (List.mem_filter.trans (and_iff_right member)).trans isDangling_eq_true_iff
      rw [Bool.eq_iff_iff, decide_eq_true_eq, isDangling_eq_true_iff, wasDangling]
      simp only [List.mem_map, List.mem_filter, decide_eq_true_eq]
      constructor
      · intro unknown
        by_cases same : market.strategyId = id
        · exact .inr same
        · refine .inl ?_
          rintro ⟨strategy, isStrategy, refers⟩
          exact unknown ⟨strategy, ⟨isStrategy, refers ▸ same⟩, refers⟩
      · rintro (unknown | same) ⟨strategy, ⟨isStrategy, other⟩, refers⟩
        · exact unknown ⟨strategy, isStrategy, refers⟩
        · exact other (refers.trans same)

variable (strategies : List Strategy)

theorem afterMarkets_step (catalog : Catalog Market.id) (call : CollectionCall Market) :
    AfterMarkets ⟨strategies, catalog.entities, exchange⟩
      ⟨strategies, (catalog.step call).2.entities, exchange⟩ call (.ok (catalog.step call).1) := by
  cases call with
  | findAll => rfl
  | findById id => rfl
  | create market =>
    rw [Catalog.step]
    split
    · show (catalog.entities ++ [market]).filter
          (isDangling ⟨strategies, catalog.entities, exchange⟩) = _
      rw [List.filter_append, filter_isDangling_cons, List.filter_nil, List.append_nil]
      rfl
    · rfl
  | update market =>
    rw [Catalog.step]
    split
    · rfl
    next taken =>
      obtain ⟨old, found⟩ := Option.ne_none_iff_exists'.mp taken
      obtain ⟨front, back, was, isNow, same, others⟩ := Catalog.exists_place found
      refine ⟨front, old, back, was, isNow, same, others, ?_, ?_⟩
      · show catalog.entities.filter (isDangling ⟨strategies, catalog.entities, exchange⟩) = _
        generalize (⟨strategies, catalog.entities, exchange⟩ : Snapshot) = before
        rw [was, List.filter_append, filter_isDangling_cons, List.append_assoc]
      · show (catalog.replace market).entities.filter
          (isDangling ⟨strategies, catalog.entities, exchange⟩) = _
        rw [isNow, List.filter_append, filter_isDangling_cons, List.append_assoc]
  | delete id =>
    rw [Catalog.step]
    split
    · rfl
    next removed found =>
      refine ⟨by simpa using List.find?_some found, ?_⟩
      show (catalog.entities.filter _).filter _ = (catalog.entities.filter _).filter _
      rw [List.filter_filter, List.filter_filter]
      exact List.filter_congr fun market _ => Bool.and_comm ..

end Snapshot

/-! ## §4. Stores in memory. -/

namespace Memories

/-- Identifiers are distinct, and no block of settings that callers see
repeats a name. -/
structure Tidy (memories : Memories) : Prop where
  /-- The identifiers of the strategies are distinct. -/
  strategyIds : (memories.strategies.map StrategyRecord.id).Nodup
  /-- So are those of the markets. -/
  marketIds : (memories.markets.map MarketRecord.id).Nodup
  /-- No strategy repeats the name of a setting. -/
  strategyNames : ∀ stored ∈ memories.strategies, stored.DistinctNames
  /-- Neither does the exchange. -/
  exchangeNames : memories.exchange.DistinctNames

/-- What the stores hold, as callers see it. -/
structure Holds (memories : Memories) (strategies : Catalog Strategy.id)
    (markets : Catalog Market.id) (exchange : Exchange) : Prop where
  /-- The strategies. -/
  strategies : Collection.strategies.Represents memories.strategies strategies
  /-- The markets. -/
  markets : Collection.markets.Represents memories.markets markets
  /-- The exchange. -/
  exchange : memories.exchange.toExchange = .ok exchange

theorem Tidy.exists_holds {memories : Memories} (tidy : memories.Tidy) :
    ∃ strategies markets exchange, memories.Holds strategies markets exchange := by
  obtain ⟨strategies, heldStrategies⟩ := Collection.exists_represents
    Collection.strategies_lawful
    (fun stored member =>
      StrategyRecord.exists_toStrategy_iff.mpr (tidy.strategyNames stored member))
    tidy.strategyIds
  obtain ⟨markets, heldMarkets⟩ := Collection.exists_represents Collection.markets_lawful
    (fun stored _ => ⟨stored.toMarket, rfl⟩) tidy.marketIds
  obtain ⟨exchange, heldExchange⟩ := ExchangeRecord.exists_toExchange_iff.mpr tidy.exchangeNames
  exact ⟨strategies, markets, exchange, heldStrategies, heldMarkets, heldExchange⟩

variable {memories : Memories} {strategies : Catalog Strategy.id} {markets : Catalog Market.id}
  {exchange : Exchange}

theorem Holds.tidy (holds : memories.Holds strategies markets exchange) : memories.Tidy where
  strategyIds := holds.strategies.nodup Collection.strategies_lawful
  marketIds := holds.markets.nodup Collection.markets_lawful
  strategyNames stored member :=
    StrategyRecord.exists_toStrategy_iff.mp (holds.strategies.whole stored member)
  exchangeNames := ExchangeRecord.exists_toExchange_iff.mp ⟨exchange, holds.exchange⟩

/-- Where the documents are the same, so is what the stores hold. -/
theorem Holds.congr (holds : memories.Holds strategies markets exchange) {after : Memories}
    (same : ∀ documentClass, (after documentClass).document = (memories documentClass).document) :
    after.Holds strategies markets exchange := by
  have sameStrategies : after.strategies = memories.strategies := same .strategies
  have sameMarkets : after.markets = memories.markets := same .markets
  have sameExchange : after.exchange = memories.exchange := same .exchange
  refine ⟨?_, ?_, ?_⟩
  · rw [sameStrategies]
    exact holds.strategies
  · rw [sameMarkets]
    exact holds.markets
  · rw [sameExchange]
    exact holds.exchange

/-- What a class holds does not depend on the other stores. -/
theorem Holds.update_strategies (holds : memories.Holds strategies markets exchange)
    {after : Memory (List StrategyRecord)} {strategiesAfter : Catalog Strategy.id}
    (held : Collection.strategies.Represents after.document strategiesAfter) :
    Holds (Function.update memories .strategies after) strategiesAfter markets exchange :=
  ⟨held, holds.markets, holds.exchange⟩

theorem Holds.update_markets (holds : memories.Holds strategies markets exchange)
    {after : Memory (List MarketRecord)} {marketsAfter : Catalog Market.id}
    (held : Collection.markets.Represents after.document marketsAfter) :
    Holds (Function.update memories .markets after) strategies marketsAfter exchange :=
  ⟨holds.strategies, held, holds.exchange⟩

theorem Holds.update_exchange (holds : memories.Holds strategies markets exchange)
    {after : Memory ExchangeRecord} {exchangeAfter : Exchange}
    (held : after.document.toExchange = .ok exchangeAfter) :
    Holds (Function.update memories .exchange after) strategies markets exchangeAfter :=
  ⟨holds.strategies, holds.markets, held⟩

end Memories

namespace Datastore

variable (datastore : Datastore) (home : Place)

/-- Over a store in memory a call is refused by a poisoned lock, or it ends
as on the document. -/
theorem exists_serveInMemory (documentClass : DocumentClass) (call : documentClass.Call)
    (locks : Locks) (memories : Memories) :
    ∃ answer after, datastore.serveInMemory home documentClass call locks memories
        = (.result answer, locks, Function.update memories documentClass after)
      ∧ ((answer = .error .poisoned ∧ after.document = (memories documentClass).document)
        ∨ (answer = ((documentClass.program call).evaluate (memories documentClass).document).1
          ∧ after.document
            = ((documentClass.program call).evaluate (memories documentClass).document).2)) := by
  let request := documentClass.request (datastore.memoryRepository home documentClass) call
  have keeps : request.repository.store = Store.memory documentClass.Document := rfl
  obtain ⟨after, served, document⟩ := (Store.memory_behavesAs documentClass.Document).serve keeps
    locks (memories documentClass)
  have servedHere : ∀ {answer}, request.serve locks (memories documentClass)
      = (.result answer, locks, after) →
      datastore.serveInMemory home documentClass call locks memories
        = (.result answer, locks, Function.update memories documentClass after) := by
    intro answer served
    exact congrArg (fun ended => (ended.1, ended.2.1,
      Function.update memories documentClass ended.2.2)) served
  unfold Behaviour.serve at served document
  split at served
  next refused =>
    rw [if_pos refused] at document
    exact ⟨_, after, servedHere served, .inl ⟨rfl, document⟩⟩
  next admitted =>
    rw [if_neg admitted, Behaviour.run_memory] at document
    rw [Behaviour.run_memory] at served
    exact ⟨_, after, servedHere served, .inr ⟨rfl, document⟩⟩

/-- After a reading it goes on with what was seen. -/
theorem fst_andThen_reading {Q R : Type} (documentClass : DocumentClass)
    {view : documentClass.Document → Except Malformed Q} {locks : Locks} (memories : Memories)
    {value : Q} (viewed : view (memories documentClass).document = .ok value)
    {next : Q → Locks → Memories → Memories.Ended R} {ending : Ending (Except RepositoryFault R)}
    (onward : ∀ after,
      (next value locks (Function.update memories documentClass after)).1 = ending) :
    ((datastore.runInMemory home documentClass false (.reading view) locks memories).andThen
      next).1 = ending := by
  show (Memories.Ended.andThen (.result ((view (memories documentClass).document).mapError
    .malformed), locks, _) next).1 = ending
  rw [viewed]
  exact onward _

variable {memories : Memories} {strategies : Catalog Strategy.id}
  {markets : Catalog Market.id} {exchange : Exchange}

/-- The snapshot of what the stores hold. -/
theorem snapshotInMemory_of_holds (holds : memories.Holds strategies markets exchange)
    (locks : Locks) :
    (datastore.snapshotInMemory home locks memories).1
      = .result (.ok ⟨strategies.entities, markets.entities, exchange⟩) := by
  have readStrategies := Collection.entities_eq_ok_iff.mpr holds.strategies
  have readMarkets := Collection.entities_eq_ok_iff.mpr holds.markets
  unfold snapshotInMemory
  refine fst_andThen_reading datastore home .strategies memories readStrategies fun first => ?_
  refine fst_andThen_reading datastore home .markets (Function.update memories .strategies first)
    readMarkets fun second => ?_
  exact fst_andThen_reading datastore home .exchange
    (Function.update (Function.update memories .strategies first) .markets second)
    holds.exchange fun third => rfl

/-- **One call.**  It is answered, the stores hold a snapshot again, and the
dangling markets have evolved as the answer says. -/
theorem exists_evolves (holds : memories.Holds strategies markets exchange) (locks : Locks)
    (documentClass : DocumentClass) (call : documentClass.Call) :
    ∃ answer after strategiesAfter marketsAfter exchangeAfter,
      datastore.serveInMemory home documentClass call locks memories
          = (.result answer, locks, after)
        ∧ after.Holds strategiesAfter marketsAfter exchangeAfter
        ∧ Snapshot.Evolves ⟨strategies.entities, markets.entities, exchange⟩
          ⟨strategiesAfter.entities, marketsAfter.entities, exchangeAfter⟩ documentClass call
          answer := by
  obtain ⟨answer, after, served, outcome⟩ :=
    exists_serveInMemory datastore home documentClass call locks memories
  rcases outcome with ⟨rfl, document⟩ | ⟨isAnswer, document⟩
  · refine ⟨_, _, strategies, markets, exchange, served, holds.congr fun other => ?_,
      Snapshot.evolves_error _ documentClass call .poisoned⟩
    by_cases same : other = documentClass
    · subst same
      rw [Function.update_self]
      exact document
    · rw [Function.update_of_ne same]
  cases documentClass with
  | strategies =>
    obtain ⟨answers, held⟩ := holds.strategies.step Collection.strategies_lawful call
    obtain rfl := isAnswer.trans answers
    exact ⟨_, _, (strategies.step call).2, markets, exchange, served,
      holds.update_strategies (document ▸ held),
      Snapshot.afterStrategies_step markets.entities exchange strategies call⟩
  | markets =>
    obtain ⟨answers, held⟩ := holds.markets.step Collection.markets_lawful call
    obtain rfl := isAnswer.trans answers
    exact ⟨_, _, strategies, (markets.step call).2, exchange, served,
      holds.update_markets (document ▸ held),
      Snapshot.afterMarkets_step exchange strategies.entities markets call⟩
  | exchange =>
    cases call with
    | get =>
      exact ⟨_, _, strategies, markets, exchange, served,
        holds.update_exchange (document ▸ holds.exchange), rfl⟩
    | save saved =>
      have effect := saved.evaluate_save memories.exchange
      obtain rfl := isAnswer.trans (congrArg Prod.fst effect)
      have stored : after.document = saved.toRecord memories.exchange.credentials :=
        document.trans (congrArg Prod.snd effect)
      refine ⟨_, _, strategies, markets, saved, served, holds.update_exchange ?_, rfl⟩
      rw [stored]
      exact saved.toExchange_toRecord memories.exchange.credentials

/-- What the stores hold in the end of a session is a snapshot again. -/
theorem exists_holds_memoriesAfter (holds : memories.Holds strategies markets exchange)
    (locks : Locks) (calls : List ((documentClass : DocumentClass) × documentClass.Call)) :
    ∃ after strategiesAfter marketsAfter exchangeAfter,
      datastore.memoriesAfter home calls locks memories = (locks, after)
        ∧ after.Holds strategiesAfter marketsAfter exchangeAfter := by
  -- induction on the calls: each of them leaves a snapshot, and the locks as they were
  induction calls generalizing memories strategies markets exchange with
  | nil => exact ⟨_, _, _, _, rfl, holds⟩
  | cons first rest ih =>
    obtain ⟨documentClass, call⟩ := first
    obtain ⟨answer, next, _, _, _, served, holdsNext, -⟩ :=
      exists_evolves datastore home holds locks documentClass call
    obtain ⟨after, _, _, _, servedRest, holdsAfter⟩ := ih holdsNext
    refine ⟨after, _, _, _, ?_, holdsAfter⟩
    rw [memoriesAfter, served]
    exact servedRest

/-- **At every moment of a session over stores that started tidy, the next
call takes one snapshot to the next, and the dangling markets of the first
evolve into those of the second.** -/
theorem dangling_evolves (datastore : Datastore) (home : Place) {memories : Memories}
    (tidy : memories.Tidy) (locks : Locks)
    (earlier : List ((documentClass : DocumentClass) × documentClass.Call))
    (documentClass : DocumentClass) (call : documentClass.Call) :
    ∃ between answer after snapshot snapshotAfter,
      datastore.memoriesAfter home earlier locks memories = (locks, between)
        ∧ between.Tidy
        ∧ datastore.serveInMemory home documentClass call locks between
          = (.result answer, locks, after)
        ∧ (datastore.snapshotInMemory home locks between).1 = .result (.ok snapshot)
        ∧ (datastore.snapshotInMemory home locks after).1 = .result (.ok snapshotAfter)
        ∧ snapshot.Evolves snapshotAfter documentClass call answer := by
  obtain ⟨_, _, _, holds⟩ := tidy.exists_holds
  obtain ⟨between, _, _, _, ran, holdsBetween⟩ :=
    exists_holds_memoriesAfter datastore home holds locks earlier
  obtain ⟨answer, after, _, _, _, served, holdsAfter, evolves⟩ :=
    exists_evolves datastore home holdsBetween locks documentClass call
  exact ⟨between, answer, after, _, _, ran, holdsBetween.tidy, served,
    snapshotInMemory_of_holds datastore home holdsBetween locks,
    snapshotInMemory_of_holds datastore home holdsAfter locks, evolves⟩

/-- Two strategies and two markets, of which the second refers to a strategy
that is not there. -/
def shop : Memories :=
  .holding [⟨"dip", "Dip", "", "x.Dip", none⟩, ⟨"grid", "Grid", "", "x.Grid", some ⟨[⟨"at", "1"⟩]⟩⟩]
    [⟨"btc", "BTC", "BTC", "USD", true, "grid"⟩, ⟨"eth", "ETH", "ETH", "USD", false, "trend"⟩]
    ⟨"Bitstamp", "x.Bitstamp", none, ⟨30, [], []⟩, none⟩

theorem tidy_shop : shop.Tidy := ⟨by decide, by decide, by decide, by decide⟩

/-- The strategy that was missing is created; then the other one is deleted
that a market refers to. -/
theorem dangling_evolves_shop :
    ∃ answer after, ∃ snapshot snapshotAfter : Snapshot,
      (ofOptions {}).serveInMemory [] .strategies (.delete "grid") .fresh
          ((ofOptions {}).memoriesAfter [] [⟨.strategies, .create (.plain "trend" "" "" "")⟩] .fresh
            shop).2 = (.result answer, .fresh, after)
        ∧ ((ofOptions {}).snapshotInMemory [] .fresh after).1 = .result (.ok snapshotAfter)
        ∧ snapshot.Evolves snapshotAfter .strategies (.delete "grid") answer
        ∧ snapshot.dangling.map Market.id = []
        ∧ snapshotAfter.dangling.map Market.id = ["btc"] := by
  obtain ⟨between, answer, after, snapshot, snapshotAfter, ran, -, served, read, readAfter,
    evolves⟩ := dangling_evolves (ofOptions {}) [] tidy_shop .fresh
      [⟨.strategies, .create (.plain "trend" "" "" "")⟩] .strategies (.delete "grid")
  obtain rfl := (Prod.mk.inj ran).2
  obtain rfl := (Prod.mk.inj (Prod.mk.inj served).2).2
  refine ⟨answer, _, snapshot, snapshotAfter, served, readAfter, evolves, ?_, ?_⟩
  · obtain rfl := Except.ok.inj (Ending.result.inj read)
    rfl
  · obtain rfl := Except.ok.inj (Ending.result.inj readAfter)
    rfl

end Datastore

end TradingConfig
