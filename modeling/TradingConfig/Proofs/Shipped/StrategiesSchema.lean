/-
  TradingConfig.Proofs.Shipped.StrategiesSchema
  ────────────────────────────────
  **WHAT THE SHIPPED SCHEMA OF THE STRATEGIES ASKS FOR.**

  The rules of the shipped file (`strategiesBook`); its text is read as
  these (`readSchema_strategiesSchema`).  The list refers to the strategy,
  and the strategy to the block of settings.  What is listed for a document
  are the broken demands on its strategies (`violations_strategies`).
-/
import TradingConfig.Proofs.Shipped.MarketsSchema
import TradingConfig.Shipped.Strategies

namespace TradingConfig

open Schema Demand

/-! ## §1. Filled strategies. -/

/-- What is demanded of a strategy. -/
def StrategyRecord.demands (stored : StrategyRecord) : List Demand :=
  inMembers (("class-name", [.filled stored.className]) :: ("id", [.filled stored.id])
    :: ("name", [.filled stored.name])
    :: SettingsBlock.demandsAt "optional-config" stored.settings)

/-- All that the schema of the strategies asks of a strategy that is
written. -/
def Strategy.Filled (strategy : Strategy) : Prop :=
  strategy.id ≠ "" ∧ strategy.name ≠ "" ∧ strategy.className ≠ ""
    ∧ ∀ binding ∈ strategy.settings.toList, binding.1 ≠ ""

theorem Strategy.broken_demands_iff {strategy : Strategy} :
    broken strategy.toRecord.demands = [] ↔ strategy.Filled := by
  unfold StrategyRecord.demands Strategy.toRecord SettingsBlock.demandsAt Filled
  simp only [broken_inMembers_eq_nil_iff, List.forall_mem_cons, List.not_mem_nil, broken_filled_iff,
    SettingsBlock.broken_demands_iff, Settings.forall_mem_toBlock_iff]
  tauto

namespace Shipped

variable {book : SchemaBook}

/-! ## §2. The rules. -/

/-- The place of the strategy in the file. -/
def strategyAt : Reference := ⟨"/$defs/strategy".toList.map .plain⟩

/-- A strategy. -/
def strategyEntry : Keywords Schema :=
  { closed := true
    properties := some [
      ("class-name", [.keywords nonEmptyText]),
      ("description", [.keywords { kind := some .string }]),
      ("id", [.keywords nonEmptyText]),
      ("name", [.keywords nonEmptyText]),
      ("optional-config", [.keywords settingsBlock, .keywords {}])]
    required := ["id", "name", "description", "class-name"]
    kind := some .object }

/-- The list of the strategies. -/
def strategiesList : Keywords Schema :=
  { items := some [.keywords strategyEntry, .keywords {}], kind := some .array }

/-- The document of the strategies. -/
def strategiesDocument : Keywords Schema :=
  { closed := true
    properties := some [("strategies", [.keywords strategiesList])]
    required := ["strategies"]
    kind := some .object }

/-- The rules of the file. -/
def strategiesBook : SchemaBook :=
  ⟨[.keywords strategiesDocument],
    [(settingsBlockAt, [.keywords settingsBlock]), (strategyAt, [.keywords strategyEntry])]⟩

/-! ## §3. The file. -/

/-- A strategy, as the file describes it. -/
def strategyFile : Json :=
  .obj [("additionalProperties", .bool false),
    ("properties", .obj [
      ("class-name", nonEmptyTextFile),
      ("description", .obj [("type", .str "string")]),
      ("id", nonEmptyTextFile),
      ("name", nonEmptyTextFile),
      ("optional-config", .obj [("$ref", .str "#/$defs/configItems")])]),
    ("required", .arr [.str "id", .str "name", .str "description", .str "class-name"]),
    ("type", .str "object")]

/-- The value of the file. -/
def strategiesSchemaFile : Json :=
  .obj [("$defs", .obj [("configItems", settingsBlockFile), ("strategy", strategyFile)]),
    ("$schema", .str "https://json-schema.org/draft/2020-12/schema"),
    ("additionalProperties", .bool false),
    ("properties", .obj [("strategies", .obj [
      ("items", .obj [("$ref", .str "#/$defs/strategy")]), ("type", .str "array")])]),
    ("required", .arr [.str "strategies"]),
    ("title", .str "Trading strategies"),
    ("type", .str "object")]

set_option maxRecDepth 20000 in
theorem ofText_strategiesSchema : Json.ofText strategiesSchema = .ok strategiesSchemaFile := by
  rw [Json.ofText, Symbol.ofText, strategiesSchema, toList_textOfLines, lineChars]
  simp only [List.flatMap_cons, List.flatMap_nil, String.reduceToList, List.cons_append,
    List.nil_append, List.append_nil]
  with_unfolding_all rfl

/-! ## §4. Its references. -/

/-- The text by which the file refers to the strategy. -/
def strategyText : String := "#/$defs/strategy"

theorem ofText?_strategyText : Reference.ofText? strategyText = some strategyAt := by
  decide

theorem find?_strategyAt : strategyAt.find? strategiesSchemaFile = some strategyFile := by
  cbv

theorem find?_settingsBlockAt_strategies :
    settingsBlockAt.find? strategiesSchemaFile = some settingsBlockFile := by
  cbv

/-- A strategy, before its reference is followed. -/
def strategyDraft (follow : String → Linking Schema) : Draft where
  keywords :=
    { closed := true
      properties := some [
        ("class-name", pure [.keywords nonEmptyText]),
        ("description", pure [.keywords { kind := some .string }]),
        ("id", pure [.keywords nonEmptyText]),
        ("name", pure [.keywords nonEmptyText]),
        ("optional-config", Draft.link { target := follow settingsBlockText })]
      required := ["id", "name", "description", "class-name"]
      kind := some .object }

theorem ofJson?_strategyFile (follow : String → Linking Schema) :
    Schema.ofJson? follow strategyFile = some (strategyDraft follow).link :=
  rfl

/-- The block of settings is put into the strategy. -/
theorem link_strategyDraft {links : List Reference} (fresh : settingsBlockAt ∉ links)
    (fuel : Nat) :
    (strategyDraft (follow strategiesSchemaFile (fuel + 1))).link.run links
      = some ([.keywords strategyEntry], settingsBlockAt :: links) := by
  have block := follow_settingsBlock find?_settingsBlockAt_strategies fresh fuel
  simp [strategyDraft, Draft.link, linkKeywords, linkProperties, linkMembers, linkItems, block]
  rfl

/-- The strategy is put into the list. -/
theorem follow_strategy (fuel : Nat) :
    (follow strategiesSchemaFile (fuel + 2) strategyText).run []
      = some ([.keywords strategyEntry], [settingsBlockAt, strategyAt]) := by
  have fresh : settingsBlockAt ∉ [strategyAt] := by decide
  rw [follow_of_new ofText?_strategyText find?_strategyAt List.not_mem_nil, ofJson?_strategyFile,
    Option.bind_some, link_strategyDraft fresh]

/-! ## §5. From the file to the rules. -/

/-- The document, before its reference is followed. -/
def strategiesDraft (follow : String → Linking Schema) : Draft where
  keywords :=
    { closed := true
      properties := some [("strategies", Draft.link {
        keywords := {
          items := some (Draft.link { target := follow strategyText })
          kind := some .array } })]
      required := ["strategies"]
      kind := some .object }

theorem ofJson?_strategiesFile (follow : String → Linking Schema) :
    Schema.ofJson? follow strategiesSchemaFile = some (strategiesDraft follow).link :=
  rfl

theorem link_strategiesDraft (fuel : Nat) :
    (strategiesDraft (follow strategiesSchemaFile (fuel + 2))).link.run []
      = some ([.keywords strategiesDocument], [settingsBlockAt, strategyAt]) := by
  simp [strategiesDraft, Draft.link, linkKeywords, linkProperties, linkMembers, linkItems,
    follow_strategy]
  rfl

/-- The strategy and the block lie inside of each other. -/
theorem referenceCount_strategiesSchemaFile : referenceCount strategiesSchemaFile = 2 := by
  decide

theorem compile?_strategiesSchemaFile :
    compile? strategiesSchemaFile strategiesSchemaFile
      = some ([.keywords strategiesDocument], [settingsBlockAt, strategyAt]) := by
  unfold compile?
  rw [ofJson?_strategiesFile, Option.bind_eq_bind, Option.bind_some,
    referenceCount_strategiesSchemaFile]
  exact link_strategiesDraft 1

theorem compile?_strategyFile :
    compile? strategiesSchemaFile strategyFile
      = some ([.keywords strategyEntry], [settingsBlockAt]) := by
  unfold compile?
  rw [ofJson?_strategyFile, Option.bind_eq_bind, Option.bind_some]
  exact link_strategyDraft List.not_mem_nil _

theorem definitions?_strategiesSchemaFile :
    SchemaBook.definitions? strategiesSchemaFile [settingsBlockAt, strategyAt]
      = some strategiesBook.definitions :=
  definitions?_cons find?_settingsBlockAt_strategies (compile?_settingsBlockFile _)
    (definitions?_cons find?_strategyAt compile?_strategyFile rfl)

theorem ofJson?_strategiesSchemaFile :
    SchemaBook.ofJson? strategiesSchemaFile = some strategiesBook :=
  ofJson?_of_compile (by decide) compile?_strategiesSchemaFile definitions?_strategiesSchemaFile

/-- A file with the shipped text is read as these rules. -/
theorem readSchema_strategiesSchema {files : Store.Files} {path : Path}
    (holds : files path = .ok strategiesSchema.toUTF8) :
    Store.readSchema files path = .ok strategiesBook.complaints :=
  Store.readSchema_of_text holds ofText_strategiesSchema ofJson?_strategiesSchemaFile

/-! ## §6. What the rules demand. -/

theorem canonical_strategy (stored : StrategyRecord) :
    (StrategyRecord.codec.encode stored).canonical
      = .obj (("class-name", .str stored.className) :: ("description", .str stored.description)
        :: ("id", .str stored.id) :: ("name", .str stored.name)
        :: blockMembers "optional-config" stored.settings) := by
  obtain ⟨id, name, description, className, block⟩ := stored
  cases block with
  | none =>
    show (Json.obj [("id", .str id), ("name", .str name), ("description", .str description),
      ("class-name", .str className)]).canonical = _
    cbv
  | some block =>
    -- the block is written whole, only the keys around it are sorted
    have members (inner : Json) :
        (Json.obj [("id", .str id), ("name", .str name), ("description", .str description),
            ("class-name", .str className), ("optional-config", inner)]).canonical
          = .obj [("class-name", .str className), ("description", .str description),
            ("id", .str id), ("name", .str name), ("optional-config", inner.canonical)] := by
      cbv
    exact members (SettingsBlock.codec.encode block)

theorem demands_strategy (stored : StrategyRecord) :
    Demands book [.keywords strategyEntry] (StrategyRecord.codec.encode stored).canonical
      stored.demands := by
  have block : MembersDemand book strategyEntry.ofMember?
      (blockMembers "optional-config" stored.settings)
      (SettingsBlock.demandsAt "optional-config" stored.settings) :=
    membersDemand_block rfl (fun block => (demands_settingsBlock block).referring) stored.settings
  rw [canonical_strategy]
  refine demands_obj rfl ?_ ?_ (.asked rfl demands_filled (.free rfl (demands_string _)
    (.asked rfl demands_filled (.asked rfl demands_filled block))))
  · cases stored.settings <;> rfl
  · cases stored.settings <;> rfl

/-- The violations of a document of strategies are the broken demands on its
records. -/
theorem violations_strategies (document : List StrategyRecord) :
    strategiesBook.violations (StrategyRecord.documentCodec.encode document).canonical
      = broken (inMembers [("strategies", inItems StrategyRecord.demands document 0)]) := by
  have written : (StrategyRecord.documentCodec.encode document).canonical
      = .obj [("strategies",
          .arr (document.map fun stored => (StrategyRecord.codec.encode stored).canonical))] :=
    Codec.canonical_listRecord rfl
  rw [written]
  exact violations_list rfl rfl rfl rfl rfl rfl rfl rfl
    fun stored => (demands_strategy stored).referring

end Shipped

end TradingConfig
