/-
  TradingConfig.Proofs.Record.Mapping
  ────────────────────────────────
  **WHAT IS STORED IS WHAT CALLERS GAVE.**

  A block is read exactly where it does not repeat a name, and then as the
  keyed list of its pairs (`Settings.ofBlock_eq_ok_iff`).  So settings that
  are stored as a block are read back from it (`Settings.ofBlock_toBlock`),
  and every entity is what its own record holds.  Conversely a record holds an
  entity exactly where its block does not repeat a name
  (`StrategyRecord.exists_toStrategy_iff`).
-/
import TradingConfig.Proofs.File.Tree
import TradingConfig.Proofs.Text.KeyedList
import TradingConfig.Record.Mapping

namespace TradingConfig

/-! ## §1. Settings. -/

namespace Settings

theorem eq_of_toList {settings others : Settings} (same : settings.toList = others.toList) :
    settings = others := by
  cases settings
  cases others
  cases same
  rfl

theorem contains_insert (settings : Settings) (name value other : String) :
    (settings.insert name value).contains other
      = (decide (other = name) || settings.contains other) := by
  unfold contains
  rw [get?_insert]
  by_cases same : other = name
  · simp [same]
  · simp [same]

/-- Settings with fresh and distinct names are all taken up. -/
theorem extend_of_distinct {owner : String} {items : List Setting} {settings : Settings}
    (distinct : (items.map Setting.name).Nodup)
    (fresh : ∀ item ∈ items, settings.contains item.name = false) :
    extend owner items settings
      = .ok (items.foldl (fun settings item => settings.insert item.name item.value) settings) := by
  -- induction on the items: the names still to come stay fresh
  induction items generalizing settings with
  | nil => rfl
  | cons item rest ih =>
    rw [List.map_cons, List.nodup_cons] at distinct
    have unbound : settings.contains item.name = false := fresh item List.mem_cons_self
    have freshAfter : ∀ other ∈ rest,
        (settings.insert item.name item.value).contains other.name = false := by
      intro other member
      have differs : other.name ≠ item.name :=
        fun same => distinct.1 (same ▸ List.mem_map_of_mem member)
      rw [contains_insert, fresh other (List.mem_cons_of_mem item member)]
      simp [differs]
    unfold extend
    rw [if_neg (by simp [unbound])]
    exact ih distinct.2 freshAfter

/-- Settings that are all taken up have fresh and distinct names. -/
theorem distinct_of_extend {owner : String} {items : List Setting} {settings result : Settings}
    (extended : extend owner items settings = .ok result) :
    (items.map Setting.name).Nodup ∧ ∀ item ∈ items, settings.contains item.name = false := by
  induction items generalizing settings with
  | nil => exact ⟨List.nodup_nil, fun item member => absurd member List.not_mem_nil⟩
  | cons item rest ih =>
    unfold extend at extended
    split at extended
    · cases extended
    next unbound =>
      obtain ⟨distinct, fresh⟩ := ih extended
      constructor
      · -- a name that comes again would be bound by then
        rw [List.map_cons, List.nodup_cons]
        refine ⟨?_, distinct⟩
        intro repeated
        obtain ⟨other, member, same⟩ := List.mem_map.mp repeated
        have differs := fresh other member
        rw [contains_insert] at differs
        simp [same] at differs
      · intro other member
        rcases List.mem_cons.mp member with rfl | later
        · simpa using unbound
        · have both := fresh other later
          rw [contains_insert, Bool.or_eq_false_iff] at both
          exact both.2

/-- A name is the first one of a list that repeats an earlier one. -/
def FirstRepeat (names : List String) (name : String) : Prop :=
  ∃ before after, names = before ++ name :: after ∧ before.Nodup ∧ name ∈ before

/-- Settings that are not taken up are refused for the first name that is
bound already or repeats an earlier one. -/
theorem repeated_of_extend {owner : String} {items : List Setting} {settings : Settings}
    {fault : Malformed} (refused : extend owner items settings = .error fault) :
    fault.owner = owner ∧ ∃ before after, items.map Setting.name = before ++ fault.repeated :: after
      ∧ before.Nodup ∧ (∀ name ∈ before, settings.contains name = false)
      ∧ (fault.repeated ∈ before ∨ settings.contains fault.repeated = true) := by
  -- induction on the items: a name that is taken up now is bound for those to come
  induction items generalizing settings with
  | nil => cases refused
  | cons item rest ih =>
    unfold extend at refused
    by_cases bound : settings.contains item.name = true
    · rw [if_pos bound] at refused
      obtain rfl := Except.error.inj refused
      exact ⟨rfl, [], rest.map Setting.name, rfl, List.nodup_nil, by simp, .inr bound⟩
    · rw [if_neg bound] at refused
      obtain ⟨named, before, after, parts, distinct, fresh, earlier⟩ := ih refused
      simp only [contains_insert, Bool.or_eq_false_iff, decide_eq_false_iff_not] at fresh
      simp only [contains_insert, Bool.or_eq_true, decide_eq_true_eq] at earlier
      refine ⟨named, item.name :: before, after, ?_, ?_, ?_, ?_⟩
      · rw [List.map_cons, parts]
        rfl
      · exact List.nodup_cons.mpr ⟨fun again => (fresh item.name again).1 rfl, distinct⟩
      · exact List.forall_mem_cons.mpr
          ⟨by simpa using bound, fun name member => (fresh name member).2⟩
      · rw [List.mem_cons]
        tauto

/-- The settings of arbitrary pairs: of several with one name the last one
counts. -/
def ofPairs (pairs : List (String × String)) : Settings :=
  ⟨KeyedList.ofPairs pairs, KeyedList.ascending_ofPairs pairs⟩

/-- Pairs that are inserted one after the other. -/
theorem foldl_insert_empty (pairs : List (String × String)) :
    pairs.foldl (fun settings pair => settings.insert pair.1 pair.2) empty = ofPairs pairs :=
  eq_of_toList (List.foldl_hom toList fun _ _ => rfl).symm

theorem ofPairs_toList (settings : Settings) : ofPairs settings.toList = settings :=
  eq_of_toList (KeyedList.ofPairs_of_ascending settings.ascending)

/-- The stored settings of a block that may be absent. -/
def itemsOf (block : Option SettingsBlock) : List Setting :=
  (block.map SettingsBlock.items).getD []

/-- The stored settings as pairs of a name and a value. -/
def pairsOf (block : Option SettingsBlock) : List (String × String) :=
  (itemsOf block).map fun item => (item.name, item.value)

theorem map_fst_pairsOf (block : Option SettingsBlock) :
    (pairsOf block).map Prod.fst = (itemsOf block).map Setting.name := by
  unfold pairsOf
  rw [List.map_map]
  rfl

theorem map_pairsOf (block : Option SettingsBlock) :
    (pairsOf block).map (fun pair => (⟨pair.1, pair.2⟩ : Setting)) = itemsOf block := by
  unfold pairsOf
  rw [List.map_map]
  exact List.map_id _

theorem pairsOf_toBlock (settings : Settings) :
    pairsOf (some settings.toBlock) = settings.toList := by
  show (settings.toList.map fun binding => (⟨binding.1, binding.2⟩ : Setting)).map _ = _
  rw [List.map_map]
  exact List.map_id _

section Blocks

variable {owner : String} {block : Option SettingsBlock} {settings : Settings}

theorem ofBlock_of_distinct (distinct : ((itemsOf block).map Setting.name).Nodup) :
    ofBlock owner block = .ok (ofPairs (pairsOf block)) := by
  rw [← foldl_insert_empty, pairsOf, List.foldl_map]
  exact extend_of_distinct distinct fun _ _ => rfl

/-- A block is read exactly where it does not repeat a name, as the settings
of its pairs. -/
theorem ofBlock_eq_ok_iff :
    ofBlock owner block = .ok settings
      ↔ ((itemsOf block).map Setting.name).Nodup ∧ settings = ofPairs (pairsOf block) := by
  constructor
  · intro read
    have distinct : ((itemsOf block).map Setting.name).Nodup := (distinct_of_extend read).1
    exact ⟨distinct, Except.ok.inj (read.symm.trans (ofBlock_of_distinct distinct))⟩
  · rintro ⟨distinct, rfl⟩
    exact ofBlock_of_distinct distinct

/-- Settings are read back from the block that they are stored as. -/
theorem ofBlock_toBlock (owner : String) (settings : Settings) :
    ofBlock owner (some settings.toBlock) = .ok settings := by
  rw [ofBlock_eq_ok_iff, ← map_fst_pairsOf, pairsOf_toBlock]
  exact ⟨settings.ascending.nodup_keys, (ofPairs_toList settings).symm⟩

/-- A block that is refused is refused for the first name that it repeats. -/
theorem firstRepeat_of_ofBlock {fault : Malformed} (refused : ofBlock owner block = .error fault) :
    fault.owner = owner ∧ FirstRepeat ((itemsOf block).map Setting.name) fault.repeated := by
  obtain ⟨named, before, after, parts, distinct, -, earlier | bound⟩ := repeated_of_extend refused
  · exact ⟨named, before, after, parts, distinct, earlier⟩
  · cases bound

theorem exists_ofBlock_iff_nodup (owner : String) :
    (∃ settings, ofBlock owner block = .ok settings)
      ↔ ((itemsOf block).map Setting.name).Nodup := by
  simp only [ofBlock_eq_ok_iff, exists_and_left, exists_eq, and_true]

/-- A block gives settings exactly where it does not repeat a name. -/
theorem exists_ofBlock_iff (owner : String) :
    (∃ settings, ofBlock owner block = .ok settings)
      ↔ ∀ present ∈ block, (present.items.map Setting.name).Nodup := by
  rw [exists_ofBlock_iff_nodup]
  cases block <;> simp [itemsOf]

end Blocks

end Settings

/-! ## §2. Strategies. -/

/-- The settings block of a strategy, if it has one, does not repeat a
name. -/
def StrategyRecord.DistinctNames (stored : StrategyRecord) : Prop :=
  ∀ block ∈ stored.settings, (block.items.map Setting.name).Nodup

instance (stored : StrategyRecord) : Decidable stored.DistinctNames :=
  inferInstanceAs (Decidable (∀ block ∈ stored.settings, (block.items.map Setting.name).Nodup))

theorem Strategy.toStrategy_toRecord (strategy : Strategy) :
    strategy.toRecord.toStrategy = .ok strategy := by
  unfold StrategyRecord.toStrategy toRecord
  rw [Settings.ofBlock_toBlock]
  rfl

theorem StrategyRecord.id_of_toStrategy {stored : StrategyRecord} {strategy : Strategy}
    (held : stored.toStrategy = .ok strategy) : strategy.id = stored.id := by
  obtain ⟨settings, -, made⟩ := exists_ok_of_bind held
  exact congrArg Strategy.id (Except.ok.inj made).symm

/-- A record holds a strategy exactly where its block does not repeat a
name. -/
theorem StrategyRecord.exists_toStrategy_iff {stored : StrategyRecord} :
    (∃ strategy, stored.toStrategy = .ok strategy) ↔ stored.DistinctNames := by
  unfold DistinctNames
  rw [← Settings.exists_ofBlock_iff stored.id]
  constructor
  · rintro ⟨strategy, held⟩
    obtain ⟨settings, read, -⟩ := exists_ok_of_bind held
    exact ⟨settings, read⟩
  · rintro ⟨settings, read⟩
    unfold toStrategy
    rw [read]
    exact ⟨_, rfl⟩

/-- The names of the settings of a strategy, in the order in which they are
stored. -/
def StrategyRecord.names (stored : StrategyRecord) : List String :=
  (Settings.itemsOf stored.settings).map Setting.name

theorem StrategyRecord.distinctNames_iff {stored : StrategyRecord} :
    stored.DistinctNames ↔ stored.names.Nodup := by
  unfold DistinctNames names Settings.itemsOf
  cases stored.settings <;> simp

/-- A record that holds no strategy is reported by its identifier, with the
first name that it repeats. -/
theorem StrategyRecord.firstRepeat_of_toStrategy {stored : StrategyRecord} {fault : Malformed}
    (refused : stored.toStrategy = .error fault) :
    fault.owner = stored.id ∧ Settings.FirstRepeat stored.names fault.repeated := by
  unfold toStrategy at refused
  cases read : Settings.ofBlock stored.id stored.settings with
  | error other =>
    rw [read] at refused
    obtain rfl : other = fault := Except.error.inj refused
    exact Settings.firstRepeat_of_ofBlock read
  | ok settings =>
    rw [read] at refused
    cases refused

/-! ## §3. The exchange. -/

/-- The further settings of the exchange, if it has a block of them, do not
repeat a name. -/
def ExchangeRecord.DistinctNames (stored : ExchangeRecord) : Prop :=
  ∀ block ∈ stored.settings, (block.items.map Setting.name).Nodup

instance (stored : ExchangeRecord) : Decidable stored.DistinctNames :=
  inferInstanceAs (Decidable (∀ block ∈ stored.settings, (block.items.map Setting.name).Nodup))

theorem Exchange.toExchange_toRecord (exchange : Exchange) (credentials : Option SettingsBlock) :
    (exchange.toRecord credentials).toExchange = .ok exchange := by
  unfold ExchangeRecord.toExchange toRecord
  rw [Settings.ofBlock_toBlock]
  rfl

/-- The record holds an exchange exactly where its block of further settings
does not repeat a name. -/
theorem ExchangeRecord.exists_toExchange_iff {stored : ExchangeRecord} :
    (∃ exchange, stored.toExchange = .ok exchange) ↔ stored.DistinctNames := by
  unfold DistinctNames
  rw [← Settings.exists_ofBlock_iff stored.name]
  constructor
  · rintro ⟨exchange, held⟩
    obtain ⟨settings, read, -⟩ := exists_ok_of_bind held
    exact ⟨settings, read⟩
  · rintro ⟨settings, read⟩
    unfold toExchange
    rw [read]
    exact ⟨_, rfl⟩

end TradingConfig
