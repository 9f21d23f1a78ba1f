/-
  TradingConfig.Proofs.Shipped.Credentials
  ────────────────────────────────
  **CREDENTIALS UNDER THE SHIPPED SCHEMA.**

  The shipped schema asks of the credentials only that every one has a name.
  Those of a document that loads do (`named_of_load`); and such credentials
  make no difference to the check of the document that they are in
  (`checkDocument_of_named`).
-/
import TradingConfig.Proofs.Codec.Reading
import TradingConfig.Proofs.Shipped.SettingsBlock

namespace TradingConfig

/-- Every setting of a block, if there is one, has a name. -/
def SettingsBlock.Named (block : Option SettingsBlock) : Prop :=
  ∀ present ∈ block, ∀ item ∈ present.items, item.name ≠ ""

instance (block : Option SettingsBlock) : Decidable (SettingsBlock.Named block) :=
  inferInstanceAs (Decidable (∀ present ∈ block, ∀ item ∈ present.items, item.name ≠ ""))

namespace Shipped

open Codec Schema

/-! ## §1. The credentials of a document that loads. -/

/-- A setting that is accepted has a name. -/
theorem name_of_accepted {value : Json} {item : Setting}
    (accepted : ruleViolations exchangeBook value (.keywords setting) = [])
    (decoded : Setting.codec.decode value = .ok item) : item.name ≠ "" := by
  obtain ⟨members, rfl⟩ := exists_members_of_accepted rfl accepted
  obtain ⟨⟨name, text, _⟩, fields, rfl⟩ := exists_values_of_record decoded
  obtain ⟨⟨found, here, read⟩, -⟩ := Fields.required_of_ofMembers fields
  obtain rfl := eq_str_of_string read
  have acceptedName : ruleViolations exchangeBook (.str name) (.keywords nonEmptyText) = [] := by
    apply accepts_of_get? accepted here rfl
    exact List.mem_cons_self
  exact accepted_nonEmptyText_iff.mp acceptedName

/-- A block that is accepted has named settings only. -/
theorem names_of_accepted {value : Json} {block : SettingsBlock}
    (accepted : ruleViolations exchangeBook value (.keywords settingsBlock) = [])
    (decoded : SettingsBlock.codec.decode value = .ok block) :
    ∀ item ∈ block.items, item.name ≠ "" := by
  obtain ⟨members, rfl⟩ := exists_members_of_accepted rfl accepted
  obtain ⟨⟨items, _⟩, fields, rfl⟩ := exists_values_of_record decoded
  obtain ⟨⟨found, here, read⟩ | absent, -⟩ := Fields.parts_of_ofMembers fields
  · obtain ⟨sources, rfl, fromItems⟩ := exists_item_of_list read
    have acceptedList :
        ruleViolations exchangeBook (.arr sources) (.keywords settingItems) = [] := by
      apply accepts_of_get? accepted here rfl
      exact List.mem_cons_self
    intro item member
    obtain ⟨source, inSources, readItem⟩ := fromItems item member
    refine name_of_accepted ?_ readItem
    apply accepts_of_mem acceptedList rfl inSources
    exact List.mem_cons_self
  · -- without a list of items there are none
    obtain rfl := Option.some.inj absent
    intro item member
    cases member

/-- The credentials of a document without violations are named. -/
theorem named_of_accepted {value : Json} {record : ExchangeRecord}
    (clean : exchangeBook.violations value = [])
    (decoded : ExchangeRecord.documentCodec.decode value = .ok record) :
    SettingsBlock.Named record.credentials := by
  have accepted : ruleViolations exchangeBook value (.keywords exchangeDocument) = [] :=
    SchemaBook.violations_eq_nil_iff.mp clean _ List.mem_cons_self
  obtain ⟨members, rfl⟩ := exists_members_of_accepted rfl accepted
  obtain ⟨⟨stored, _⟩, inDocument, rfl⟩ := exists_values_of_record decoded
  obtain ⟨⟨inner, here, read⟩, -⟩ := Fields.required_of_ofMembers inDocument
  have acceptedExchange : ruleViolations exchangeBook inner (.keywords exchangeEntry) = [] := by
    apply accepts_of_get? accepted here rfl
    exact List.mem_cons_self
  obtain ⟨members, rfl⟩ := exists_members_of_accepted rfl acceptedExchange
  obtain ⟨⟨name, adapter, credentials, rest⟩, fields, rfl⟩ := exists_values_of_record read
  obtain ⟨-, afterName⟩ := Fields.required_of_ofMembers fields
  obtain ⟨-, afterAdapter⟩ := Fields.required_of_ofMembers afterName
  intro block present
  obtain rfl : credentials = some block := present
  obtain ⟨⟨found, here, readBlock⟩ | absent, -⟩ := Fields.parts_of_ofMembers afterAdapter
  · refine names_of_accepted ?_ (decode_of_optional readBlock)
    apply accepts_of_get? acceptedExchange here rfl
    exact List.mem_cons_self
  · cases absent

/-- So are those of a document that loads under the shipped schema. -/
theorem named_of_load {location : Location} {files : Store.Files} {record : ExchangeRecord}
    (schema : files location.schema = .ok exchangeSchema.toUTF8)
    (loads : Store.loadDocument ExchangeRecord.documentCodec location files = .ok record) :
    SettingsBlock.Named record.credentials := by
  obtain ⟨verdict, value, usable, -, clean, decoded⟩ := Store.exists_value_of_load loads
  obtain rfl := Except.ok.inj ((readSchema_exchangeSchema schema).symm.trans usable)
  exact named_of_accepted (SchemaBook.complaints_eq_nil_iff.mp clean) decoded

/-- The shipped schema is no document of the exchange, so its file is not
the data file. -/
theorem data_ne_of_load {location : Location} {files : Store.Files} {record : ExchangeRecord}
    (loads : Store.loadDocument ExchangeRecord.documentCodec location files = .ok record) :
    files location.data ≠ .ok exchangeSchema.toUTF8 := by
  intro holds
  obtain ⟨verdict, value, -, ⟨bytes, found, read⟩, -, decoded⟩ := Store.exists_value_of_load loads
  have same : bytes = exchangeSchema.toUTF8 := Except.ok.inj (found.symm.trans holds)
  have text : Json.ofBytes exchangeSchema.toUTF8 = .ok exchangeSchemaFile := by
    rw [Store.ofBytes_toUTF8]
    exact ofText_exchangeSchema
  rw [same, text] at read
  obtain rfl := Except.ok.inj read
  cases decoded

/-! ## §2. What is written of the credentials. -/

/-- The credentials among the members of the exchange. -/
def credentialMembers : Option SettingsBlock → List (String × Json)
  | none => []
  | some block => [("authentication-config", (SettingsBlock.codec.encode block).canonical)]

/-- The members of the exchange that come after the credentials. -/
def publicMembers (exchange : Exchange) : List (String × Json) :=
  [("name", .str exchange.name),
    ("network-config", (NetworkRecord.codec.encode (exchange.toRecord none).network).canonical),
    ("other-config", (SettingsBlock.codec.encode exchange.settings.toBlock).canonical)]

theorem canonical_toRecord (exchange : Exchange) (credentials : Option SettingsBlock) :
    (ExchangeRecord.documentCodec.encode (exchange.toRecord credentials)).canonical
      = .obj [("exchange", .obj ([("adapter", .str exchange.className)]
          ++ (credentialMembers credentials ++ publicMembers exchange)))] := by
  show Json.obj [("exchange",
    (ExchangeRecord.codec.encode (exchange.toRecord credentials)).canonical)] = _
  unfold publicMembers
  -- the blocks are written whole, only the keys around them are sorted
  have network : ExchangeRecord.codec.encode (exchange.toRecord credentials)
      = .obj ([("name", .str exchange.name), ("adapter", .str exchange.className)]
          ++ ((credentials.map SettingsBlock.codec.encode).toList.map
            fun block => ("authentication-config", block))
          ++ [("network-config", NetworkRecord.codec.encode (exchange.toRecord none).network),
            ("other-config", SettingsBlock.codec.encode exchange.settings.toBlock)]) := by
    cases credentials <;> rfl
  rw [network]
  generalize NetworkRecord.codec.encode (exchange.toRecord none).network = network
  generalize SettingsBlock.codec.encode exchange.settings.toBlock = settings
  unfold credentialMembers
  cases credentials with
  | none =>
    rw [Option.map_none]
    cbv
  | some block =>
    rw [Option.map_some]
    dsimp only
    generalize SettingsBlock.codec.encode block = credentials
    cbv

/-! ## §3. Named credentials make no difference. -/

/-- The credentials are accepted where they stand. -/
theorem accepts_settingsBlock {block : SettingsBlock}
    (named : ∀ item ∈ block.items, item.name ≠ "") :
    Accepts exchangeBook [.keywords settingsBlock, .keywords {}]
      (SettingsBlock.codec.encode block).canonical :=
  (demands_settingsBlock block).referring.accepts_iff.mpr
    (SettingsBlock.broken_demands_iff.mpr named)

/-- The violations of a document are those of its exchange. -/
theorem violations_exchange (value : Json) :
    exchangeBook.violations (.obj [("exchange", value)])
      = (ruleViolations exchangeBook value (.keywords exchangeEntry)).map
          (Violation.under (.member "exchange")) := by
  have inner : memberViolations exchangeBook [("exchange", value)] exchangeDocument.ofMember?
      = (ruleViolations exchangeBook value (.keywords exchangeEntry)).map
          (Violation.under (.member "exchange")) := by
    rw [memberViolations_cons]
    show ([Rule.keywords exchangeEntry].flatMap fun rule =>
      (ruleViolations exchangeBook value rule).map (Violation.under (.member "exchange"))) ++ _ = _
    rw [List.flatMap_singleton, memberViolations, List.append_nil]
  show ([Rule.keywords exchangeDocument].flatMap fun rule =>
    ruleViolations exchangeBook (.obj [("exchange", value)]) rule) = _
  rw [List.flatMap_singleton, ruleViolations, inner]
  show _ ++ [] ++ [] ++ [] = _
  simp only [List.append_nil]

theorem ruleViolations_credentials {credentials : Option SettingsBlock}
    (named : SettingsBlock.Named credentials) (before after : List (String × Json)) :
    ruleViolations exchangeBook (.obj (before ++ (credentialMembers credentials ++ after)))
        (.keywords exchangeEntry)
      = ruleViolations exchangeBook (.obj (before ++ after)) (.keywords exchangeEntry) := by
  cases credentials with
  | none => rfl
  | some block =>
    have known : exchangeEntry.ofMember? "authentication-config"
        = some [.keywords settingsBlock, .keywords {}] := rfl
    exact ruleViolations_of_accepted rfl (by decide) known (accepts_settingsBlock (named block rfl))

theorem violations_of_named (exchange : Exchange) {credentials : Option SettingsBlock}
    (named : SettingsBlock.Named credentials) :
    exchangeBook.violations
        (ExchangeRecord.documentCodec.encode (exchange.toRecord credentials)).canonical
      = exchangeBook.violations
        (.obj [("exchange", .obj ([("adapter", .str exchange.className)]
          ++ publicMembers exchange))]) := by
  rw [canonical_toRecord, violations_exchange, violations_exchange,
    ruleViolations_credentials named]

/-- Under the shipped schema the check of a document does not depend on
credentials that are named. -/
theorem checkDocument_of_named (exchange : Exchange) {first second : Option SettingsBlock}
    (named : SettingsBlock.Named first) (namedSecond : SettingsBlock.Named second)
    {location : Location} {files : Store.Files}
    (schema : files location.schema = .ok exchangeSchema.toUTF8) :
    Store.checkDocument ExchangeRecord.documentCodec (exchange.toRecord second) location files
      = Store.checkDocument ExchangeRecord.documentCodec (exchange.toRecord first) location
          files := by
  have usable := readSchema_exchangeSchema schema
  rw [Store.checkDocument_of_readSchema usable, Store.checkDocument_of_readSchema usable]
  unfold Store.check SchemaBook.complaints
  rw [violations_of_named exchange named, violations_of_named exchange namedSecond]

end Shipped

end TradingConfig
