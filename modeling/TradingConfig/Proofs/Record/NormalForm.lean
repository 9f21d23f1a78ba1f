/-
  TradingConfig.Proofs.Record.NormalForm
  ────────────────────────────────
  **WHAT IS READ AND STORED AGAIN.**

  A settings block that is read becomes a map, and the map is stored as a
  block whose names ascend.  The settings are the same then
  (`Settings.toBlock_perm`), and so is the block, if it was there with its
  names in the order of their bytes (`Settings.eq_toBlock_iff`).  A record
  that is read and stored again keeps everything else, and the second time
  it stays as it is (`mapping_round_trips`).
-/
import TradingConfig.Proofs.Record.Mapping
import TradingConfig.Proofs.Text.ByteOrder

namespace TradingConfig

/-! ## §1. Settings blocks. -/

/-- A block is in normal form: it is there, and the bytes of its names
strictly ascend. -/
def SettingsBlock.IsNormal (block : Option SettingsBlock) : Prop :=
  ∃ present, block = some present
    ∧ present.items.Pairwise fun earlier later => utf8Bytes earlier.name < utf8Bytes later.name

namespace Settings

variable {owner : String} {block : Option SettingsBlock} {settings : Settings}

/-- Settings that are read are stored again, and none is lost or added. -/
theorem toBlock_perm (read : ofBlock owner block = .ok settings) :
    settings.toBlock.items.Perm (itemsOf block) := by
  obtain ⟨distinct, rfl⟩ := ofBlock_eq_ok_iff.mp read
  rw [← map_fst_pairsOf] at distinct
  rw [← map_pairsOf block]
  exact (KeyedList.ofPairs_perm distinct).map _

/-- The names of a stored block ascend. -/
theorem isNormal_toBlock (settings : Settings) :
    SettingsBlock.IsNormal (some settings.toBlock) := by
  refine ⟨settings.toBlock, rfl, ?_⟩
  show (settings.toList.map fun binding => (⟨binding.1, binding.2⟩ : Setting)).Pairwise _
  rw [List.pairwise_map]
  exact settings.ascending.imp fun less => utf8Bytes_lt_iff.mpr less

/-- A block that is read and stored again is the same exactly where it was in
normal form. -/
theorem eq_toBlock_iff (read : ofBlock owner block = .ok settings) :
    block = some settings.toBlock ↔ SettingsBlock.IsNormal block := by
  constructor
  · intro same
    rw [same]
    exact isNormal_toBlock settings
  · rintro ⟨present, rfl, ascends⟩
    -- pairs that ascend are not moved
    have ascending : KeyedList.Ascending (pairsOf (some present)) :=
      List.pairwise_map.mpr (ascends.imp fun less => utf8Bytes_lt_iff.mp less)
    obtain ⟨-, rfl⟩ := ofBlock_eq_ok_iff.mp read
    have written : (ofPairs (pairsOf (some present))).toBlock.items = present.items := by
      show (KeyedList.ofPairs _).map (fun pair => (⟨pair.1, pair.2⟩ : Setting)) = _
      rw [KeyedList.ofPairs_of_ascending ascending]
      exact map_pairsOf (some present)
    exact congrArg some (congrArg SettingsBlock.mk written.symm)

end Settings

/-! ## §2. Records with a settings block. -/

/-- How a record holds its settings block. -/
structure BlockHolder (Record : Type) where
  /-- The name under which a malformed block is reported. -/
  owner : Record → String
  /-- The block, if there is one. -/
  block : Record → Option SettingsBlock
  /-- The record with another block, and everything else as it is. -/
  withBlock : Record → SettingsBlock → Record
  /-- Another block does not change the name. -/
  owner_withBlock : ∀ stored block, owner (withBlock stored block) = owner stored
  /-- The other block is there. -/
  block_withBlock : ∀ stored given, block (withBlock stored given) = some given
  /-- The last block is the one that stays. -/
  withBlock_withBlock : ∀ stored first last,
    withBlock (withBlock stored first) last = withBlock stored last
  /-- Its own block does not change a record. -/
  withBlock_of_block : ∀ {stored given}, block stored = some given →
    withBlock stored given = stored

/-- A strategy has a settings block. -/
def StrategyRecord.holder : BlockHolder StrategyRecord where
  owner := StrategyRecord.id
  block := StrategyRecord.settings
  withBlock stored block := { stored with settings := some block }
  owner_withBlock _ _ := rfl
  block_withBlock _ _ := rfl
  withBlock_withBlock _ _ _ := rfl
  withBlock_of_block {stored given} same := by
    rw [← same]

/-- The exchange has a block of further settings. -/
def ExchangeRecord.holder : BlockHolder ExchangeRecord where
  owner := ExchangeRecord.name
  block := ExchangeRecord.settings
  withBlock stored block := { stored with settings := some block }
  owner_withBlock _ _ := rfl
  block_withBlock _ _ := rfl
  withBlock_withBlock _ _ _ := rfl
  withBlock_of_block {stored given} same := by
    rw [← same]

variable {Record : Type}

/-- What comes of a record that is read and stored again: it has `block` for
its settings then. -/
structure Settles (holder : BlockHolder Record) (again : Record → Except Malformed Record)
    (stored : Record) (block : SettingsBlock) : Prop where
  /-- Everything but the settings block is kept. -/
  kept : again stored = .ok (holder.withBlock stored block)
  /-- The settings are the same ones. -/
  items : block.items.Perm (Settings.itemsOf (holder.block stored))
  /-- It is the same record exactly where its block was in normal form. -/
  unchanged_iff : holder.withBlock stored block = stored
    ↔ SettingsBlock.IsNormal (holder.block stored)
  /-- Read and stored once more it stays as it is. -/
  settled : again (holder.withBlock stored block) = .ok (holder.withBlock stored block)

namespace BlockHolder

variable {holder : BlockHolder Record} {again : Record → Except Malformed Record}
  {stored : Record}

theorem withBlock_eq_iff {block : SettingsBlock} :
    holder.withBlock stored block = stored ↔ holder.block stored = some block := by
  refine ⟨fun same => ?_, holder.withBlock_of_block⟩
  rw [← holder.block_withBlock stored block, same]

/-- A record settles where its settings block is all that is mapped, and does
not repeat a name. -/
theorem exists_settles
    (maps : ∀ stored, again stored
      = (Settings.ofBlock (holder.owner stored) (holder.block stored)).map fun settings =>
          holder.withBlock stored settings.toBlock)
    (distinct : ∀ block ∈ holder.block stored, (block.items.map Setting.name).Nodup) :
    ∃ block, Settles holder again stored block := by
  obtain ⟨settings, read⟩ := (Settings.exists_ofBlock_iff (holder.owner stored)).mpr distinct
  refine ⟨settings.toBlock, ?_, Settings.toBlock_perm read, ?_, ?_⟩
  · rw [maps, read]
    rfl
  · exact withBlock_eq_iff.trans (Settings.eq_toBlock_iff read)
  · -- the block that is there now is read back
    rw [maps, holder.block_withBlock, Settings.ofBlock_toBlock]
    exact congrArg Except.ok (holder.withBlock_withBlock stored _ _)

end BlockHolder

/-! ## §3. Strategies, markets and the exchange. -/

/-- The record that is stored of the strategy that was read. -/
def StrategyRecord.again (stored : StrategyRecord) : Except Malformed StrategyRecord :=
  stored.toStrategy.map Strategy.toRecord

theorem StrategyRecord.again_eq (stored : StrategyRecord) :
    stored.again
      = (Settings.ofBlock stored.id stored.settings).map fun settings =>
          holder.withBlock stored settings.toBlock := by
  unfold again toStrategy
  cases Settings.ofBlock stored.id stored.settings <;> rfl

/-- The record that is stored of the exchange that was read, with the
credentials handed back. -/
def ExchangeRecord.again (stored : ExchangeRecord) : Except Malformed ExchangeRecord :=
  stored.toExchange.map fun exchange => exchange.toRecord stored.credentials

theorem ExchangeRecord.again_eq (stored : ExchangeRecord) :
    stored.again
      = (Settings.ofBlock stored.name stored.settings).map fun settings =>
          holder.withBlock stored settings.toBlock := by
  unfold again toExchange
  cases Settings.ofBlock stored.name stored.settings <;> rfl

/-- Entities are read back from what is stored of them; and records that are
read and stored again settle, where they can be read. -/
theorem mapping_round_trips :
    ((∀ strategy : Strategy, strategy.toRecord.toStrategy = .ok strategy)
      ∧ (∀ market : Market, market.toRecord.toMarket = market)
      ∧ ∀ (exchange : Exchange) credentials,
        (exchange.toRecord credentials).toExchange = .ok exchange)
    ∧ (∀ stored : StrategyRecord, stored.DistinctNames →
        ∃ block, Settles StrategyRecord.holder StrategyRecord.again stored block)
      ∧ (∀ stored : MarketRecord, stored.toMarket.toRecord = stored)
      ∧ ∀ stored : ExchangeRecord, stored.DistinctNames →
        ∃ block, Settles ExchangeRecord.holder ExchangeRecord.again stored block := by
  refine ⟨⟨Strategy.toStrategy_toRecord, fun _ => rfl, Exchange.toExchange_toRecord⟩, ?_, ?_, ?_⟩
  · intro stored distinct
    exact BlockHolder.exists_settles StrategyRecord.again_eq distinct
  · intro stored
    rfl
  · intro stored distinct
    exact BlockHolder.exists_settles ExchangeRecord.again_eq distinct

/-- A strategy whose names do not ascend, and an exchange without further
settings whose credentials repeat a name. -/
theorem mapping_round_trips_unordered :
    Settles StrategyRecord.holder StrategyRecord.again
        ⟨"grid", "Grid", "", "x.Grid", some ⟨[⟨"step", "2"⟩, ⟨"at", "5"⟩]⟩⟩
        ⟨[⟨"at", "5"⟩, ⟨"step", "2"⟩]⟩
      ∧ Settles ExchangeRecord.holder ExchangeRecord.again
        ⟨"X", "x.X", some ⟨[⟨"key", "1"⟩, ⟨"key", "2"⟩]⟩, ⟨30, [502], ["Reset"]⟩, none⟩ ⟨[]⟩ := by
  obtain ⟨-, strategies, -, exchanges⟩ := mapping_round_trips
  constructor
  · obtain ⟨block, settles⟩ := strategies
      ⟨"grid", "Grid", "", "x.Grid", some ⟨[⟨"step", "2"⟩, ⟨"at", "5"⟩]⟩⟩ (by decide)
    have made := Except.ok.inj settles.kept
    obtain rfl : _ = block := Option.some.inj (congrArg StrategyRecord.settings made)
    exact settles
  · obtain ⟨block, settles⟩ := exchanges
      ⟨"X", "x.X", some ⟨[⟨"key", "1"⟩, ⟨"key", "2"⟩]⟩, ⟨30, [502], ["Reset"]⟩, none⟩ (by decide)
    have made := Except.ok.inj settles.kept
    obtain rfl : _ = block := Option.some.inj (congrArg ExchangeRecord.settings made)
    exact settles

end TradingConfig
