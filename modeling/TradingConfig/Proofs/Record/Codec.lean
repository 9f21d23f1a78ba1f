/-
  TradingConfig.Proofs.Record.Codec
  ────────────────────────────────
  **STORED DOCUMENTS ARE READ BACK.**

  The JSON form of each class of documents is faithful, and its arrays and
  objects nest six deep at most.
-/
import TradingConfig.Proofs.Codec.Laws
import TradingConfig.Repository.DocumentClass

namespace TradingConfig

open Codec

/-! ## §1. Settings blocks. -/

theorem Setting.codec_faithful (room : Nat) : Setting.codec.Faithful (room + 1) := by
  refine record_faithful ⟨?_, by decide, ?_, by decide, trivial⟩ fun _ => rfl
  · exact Field.required_faithful "name" (string_faithful room)
  · exact Field.required_faithful "value" (string_faithful room)

theorem SettingsBlock.codec_faithful (room : Nat) : SettingsBlock.codec.Faithful (room + 3) := by
  refine record_faithful ⟨?_, by decide, trivial⟩ fun _ => rfl
  exact Field.withDefault_faithful "config-items" [] (list_faithful (Setting.codec_faithful room))

theorem SettingsBlock.codec_encode (block : SettingsBlock) :
    ∃ members, SettingsBlock.codec.encode block = .obj members :=
  record_encode _ _ _ _ block

/-! ## §2. Records. -/

theorem StrategyRecord.codec_faithful (room : Nat) : StrategyRecord.codec.Faithful (room + 4) := by
  have text := string_faithful (room + 3)
  refine record_faithful ⟨?_, by decide, ?_, by decide, ?_, by decide, ?_, by decide, ?_, by decide,
    trivial⟩ fun _ => rfl
  · exact Field.required_faithful "id" text
  · exact Field.required_faithful "name" text
  · exact Field.required_faithful "description" text
  · exact Field.required_faithful "class-name" text
  · exact Field.optional_faithful "optional-config" (SettingsBlock.codec_faithful room)
      SettingsBlock.codec_encode

theorem MarketRecord.codec_faithful (room : Nat) : MarketRecord.codec.Faithful (room + 1) := by
  have text := string_faithful room
  refine record_faithful ⟨?_, by decide, ?_, by decide, ?_, by decide, ?_, by decide, ?_, by decide,
    ?_, by decide, trivial⟩ fun _ => rfl
  · exact Field.required_faithful "id" text
  · exact Field.required_faithful "name" text
  · exact Field.required_faithful "base-currency" text
  · exact Field.required_faithful "counter-currency" text
  · exact Field.required_faithful "enabled" (bool_faithful room)
  · exact Field.required_faithful "trading-strategy-id" text

theorem NetworkRecord.codec_faithful (room : Nat) : NetworkRecord.codec.Faithful (room + 2) := by
  refine record_faithful ⟨?_, by decide, ?_, by decide, ?_, by decide, trivial⟩ fun _ => rfl
  · exact Field.required_faithful "connection-timeout" (u32_faithful (room + 1))
  · exact Field.withDefault_faithful "non-fatal-error-codes" []
      (list_faithful (u16_faithful room))
  · exact Field.withDefault_faithful "non-fatal-error-messages" []
      (list_faithful (string_faithful room))

theorem ExchangeRecord.codec_faithful (room : Nat) : ExchangeRecord.codec.Faithful (room + 4) := by
  have text := string_faithful (room + 3)
  have block := SettingsBlock.codec_faithful room
  refine record_faithful ⟨?_, by decide, ?_, by decide, ?_, by decide, ?_, by decide, ?_, by decide,
    trivial⟩ fun _ => rfl
  · exact Field.required_faithful "name" text
  · exact Field.required_faithful "adapter" text
  · exact Field.optional_faithful "authentication-config" block SettingsBlock.codec_encode
  · exact Field.required_faithful "network-config" (NetworkRecord.codec_faithful (room + 1))
  · exact Field.optional_faithful "other-config" block SettingsBlock.codec_encode

/-! ## §3. Documents. -/

theorem StrategyRecord.documentCodec_faithful (room : Nat) :
    StrategyRecord.documentCodec.Faithful (room + 6) := by
  refine record_faithful ⟨?_, by decide, trivial⟩ fun _ => rfl
  exact Field.withDefault_faithful "strategies" []
    (list_faithful (StrategyRecord.codec_faithful room))

theorem MarketRecord.documentCodec_faithful (room : Nat) :
    MarketRecord.documentCodec.Faithful (room + 3) := by
  refine record_faithful ⟨?_, by decide, trivial⟩ fun _ => rfl
  exact Field.withDefault_faithful "markets" [] (list_faithful (MarketRecord.codec_faithful room))

theorem ExchangeRecord.documentCodec_faithful (room : Nat) :
    ExchangeRecord.documentCodec.Faithful (room + 5) := by
  refine record_faithful ⟨?_, by decide, trivial⟩ fun _ => rfl
  exact Field.required_faithful "exchange" (ExchangeRecord.codec_faithful room)

/-- The documents of every class are read back. -/
theorem DocumentClass.codec_faithful (documentClass : DocumentClass) :
    documentClass.codec.Faithful Json.nestingLimit := by
  cases documentClass with
  | strategies => exact StrategyRecord.documentCodec_faithful 121
  | markets => exact MarketRecord.documentCodec_faithful 124
  | exchange => exact ExchangeRecord.documentCodec_faithful 122

end TradingConfig
