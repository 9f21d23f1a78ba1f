/-
  TradingConfig.Proofs.Shipped.StoredExchange
  ────────────────────────────────
  **WHAT THE SHIPPED SCHEMA DEMANDS OF THE EXCHANGE AS IT IS STORED.**

  A stored record can have either block of settings or none, unlike one that
  is made of what a caller gives.  The violations of such a record are its
  broken demands (`violations_record`), and a record that loads under the
  shipped schema breaks none (`met_of_load`), although its file may hold
  another text than the one that is written of it.
-/
import TradingConfig.Proofs.Json.Canonical
import TradingConfig.Proofs.Shipped.ExchangeDemands
import TradingConfig.Proofs.Shipped.ExchangeShape

namespace TradingConfig

open Schema Demand

/-- What is demanded of a stored exchange. -/
def ExchangeRecord.demands (stored : ExchangeRecord) : List Demand :=
  inMembers (("adapter", [.filled stored.adapter])
    :: (SettingsBlock.demandsAt "authentication-config" stored.credentials
      ++ ("name", [.filled stored.name]) :: ("network-config", stored.network.demands)
        :: SettingsBlock.demandsAt "other-config" stored.settings))

namespace Shipped

/-! ## §1. What is written of a record. -/

theorem canonical_exchange (stored : ExchangeRecord) :
    (ExchangeRecord.codec.encode stored).canonical
      = .obj (("adapter", .str stored.adapter)
        :: (blockMembers "authentication-config" stored.credentials
          ++ ("name", .str stored.name)
            :: ("network-config", (NetworkRecord.codec.encode stored.network).canonical)
            :: blockMembers "other-config" stored.settings)) := by
  obtain ⟨name, adapter, credentials, network, settings⟩ := stored
  -- the blocks are written whole, only the keys around them are sorted
  have written : ExchangeRecord.codec.encode ⟨name, adapter, credentials, network, settings⟩
      = .obj ([("name", .str name), ("adapter", .str adapter)]
          ++ ((credentials.map SettingsBlock.codec.encode).toList.map
            fun block => ("authentication-config", block))
          ++ ("network-config", NetworkRecord.codec.encode network)
            :: ((settings.map SettingsBlock.codec.encode).toList.map
              fun block => ("other-config", block))) := by
    cases credentials <;> cases settings <;> rfl
  rw [written]
  generalize NetworkRecord.codec.encode network = network
  unfold blockMembers
  cases credentials with
  | none =>
    cases settings with
    | none => cbv
    | some settings =>
      simp only [Option.map_none, Option.map_some]
      generalize SettingsBlock.codec.encode settings = settings
      cbv
  | some credentials =>
    cases settings with
    | none =>
      simp only [Option.map_none, Option.map_some]
      generalize SettingsBlock.codec.encode credentials = credentials
      cbv
    | some settings =>
      simp only [Option.map_some]
      generalize SettingsBlock.codec.encode credentials = credentials
      generalize SettingsBlock.codec.encode settings = settings
      cbv

/-! ## §2. What the rules demand. -/

theorem demands_record (stored : ExchangeRecord) :
    Demands exchangeBook [.keywords exchangeEntry] (ExchangeRecord.codec.encode stored).canonical
      stored.demands := by
  have recurring (block : SettingsBlock) :
      Demands exchangeBook [.recurring settingsBlockAt, .keywords {}]
        (SettingsBlock.codec.encode block).canonical block.demands :=
    (demands_settingsBlock block).referring
  -- the members after the credentials are there in any case
  have named : MembersDemand exchangeBook exchangeEntry.ofMember?
      (("name", .str stored.name)
        :: ("network-config", (NetworkRecord.codec.encode stored.network).canonical)
        :: blockMembers "other-config" stored.settings)
      (("name", [.filled stored.name]) :: ("network-config", stored.network.demands)
        :: SettingsBlock.demandsAt "other-config" stored.settings) :=
    .asked rfl demands_filled (.asked rfl (demands_network stored.network)
      (membersDemand_block rfl recurring stored.settings))
  rw [canonical_exchange]
  refine demands_obj rfl ?_ ?_ (.asked rfl demands_filled ?_)
  · cases stored.credentials <;> cases stored.settings <;> rfl
  · cases stored.credentials <;> cases stored.settings <;> rfl
  · cases stored.credentials with
    | none => exact named
    | some block => exact .asked rfl (demands_settingsBlock block).referring named

/-- The violations of a document of the exchange are the broken demands on
its record. -/
theorem violations_record (stored : ExchangeRecord) :
    exchangeBook.violations (ExchangeRecord.documentCodec.encode stored).canonical
      = broken (inMembers [("exchange", stored.demands)]) := by
  have all : Demands exchangeBook [.keywords exchangeDocument]
      (.obj [("exchange", (ExchangeRecord.codec.encode stored).canonical)]) _ :=
    demands_obj rfl rfl rfl (.asked rfl (demands_record stored) .nil)
  exact all

theorem violations_record_eq_nil_iff {stored : ExchangeRecord} :
    exchangeBook.violations (ExchangeRecord.documentCodec.encode stored).canonical = []
      ↔ broken stored.demands = [] := by
  rw [violations_record, broken_inMembers_eq_nil_iff, List.forall_mem_singleton]

/-! ## §3. Records that load. -/

/-- What is written of a record that loads under the shipped schema is
accepted by it. -/
theorem met_of_load {location : Location} {files : Store.Files} {stored : ExchangeRecord}
    (schema : files location.schema = .ok exchangeSchema.toUTF8)
    (loads : Store.loadDocument ExchangeRecord.documentCodec location files = .ok stored) :
    broken stored.demands = [] := by
  obtain ⟨verdict, value, usable, ⟨bytes, -, read⟩, clean, decoded⟩ :=
    Store.exists_value_of_load loads
  obtain rfl := Except.ok.inj ((readSchema_exchangeSchema schema).symm.trans usable)
  have canonical : value.IsCanonical := Json.isCanonical_of_ofBytes read
  have accepts := SchemaBook.violations_eq_nil_iff.mp (SchemaBook.complaints_eq_nil_iff.mp clean)
  have written := conforms_exchangeDocument.writes canonical accepts decoded
  exact violations_record_eq_nil_iff.mp (SchemaBook.violations_eq_nil_iff.mpr written)

end Shipped

end TradingConfig
