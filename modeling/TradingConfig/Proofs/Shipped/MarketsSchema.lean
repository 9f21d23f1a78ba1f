/-
  TradingConfig.Proofs.Shipped.MarketsSchema
  ────────────────────────────────
  **WHAT THE SHIPPED SCHEMA OF THE MARKETS ASKS FOR.**

  The rules of the shipped file (`marketsBook`); its text is read as these
  (`readSchema_marketsSchema`).  They look at every market by itself: what is
  listed for a document are the broken demands on its markets
  (`violations_markets`), so it is accepted exactly if none of them has an
  empty text (`checkDocument_markets_iff`), also where it names an identifier
  several times.
-/
import TradingConfig.Proofs.Shipped.SettingsBlock
import TradingConfig.Shipped.Markets

namespace TradingConfig

open Schema Demand

/-! ## §1. Filled markets. -/

/-- No text of a market is empty. -/
def MarketRecord.Filled (market : MarketRecord) : Prop :=
  market.id ≠ "" ∧ market.name ≠ "" ∧ market.baseCurrency ≠ "" ∧ market.counterCurrency ≠ ""
    ∧ market.strategyId ≠ ""

instance (market : MarketRecord) : Decidable market.Filled :=
  inferInstanceAs (Decidable (market.id ≠ "" ∧ market.name ≠ "" ∧ market.baseCurrency ≠ ""
    ∧ market.counterCurrency ≠ "" ∧ market.strategyId ≠ ""))

/-- All that the schema of the markets asks of a market. -/
def Market.Filled (market : Market) : Prop :=
  market.id ≠ "" ∧ market.name ≠ "" ∧ market.baseCurrency ≠ "" ∧ market.counterCurrency ≠ ""
    ∧ market.strategyId ≠ ""

/-- What is demanded of a market. -/
def MarketRecord.demands (stored : MarketRecord) : List Demand :=
  inMembers [("base-currency", [.filled stored.baseCurrency]),
    ("counter-currency", [.filled stored.counterCurrency]), ("id", [.filled stored.id]),
    ("name", [.filled stored.name]), ("trading-strategy-id", [.filled stored.strategyId])]

theorem MarketRecord.broken_demands_iff {market : MarketRecord} :
    broken market.demands = [] ↔ market.Filled := by
  unfold demands Filled
  simp only [broken_inMembers_eq_nil_iff, List.forall_mem_cons, List.not_mem_nil, broken_filled_iff]
  tauto

theorem Market.broken_demands_iff {market : Market} :
    broken market.toRecord.demands = [] ↔ market.Filled :=
  MarketRecord.broken_demands_iff

namespace Shipped

variable {book : SchemaBook}

/-! ## §2. The rules. -/

/-- A market. -/
def marketEntry : Keywords Schema :=
  { closed := true
    properties := some [
      ("base-currency", [.keywords nonEmptyText]),
      ("counter-currency", [.keywords nonEmptyText]),
      ("enabled", [.keywords { kind := some .boolean }]),
      ("id", [.keywords nonEmptyText]),
      ("name", [.keywords nonEmptyText]),
      ("trading-strategy-id", [.keywords nonEmptyText])]
    required := ["id", "name", "base-currency", "counter-currency", "enabled",
      "trading-strategy-id"]
    kind := some .object }

/-- The list of the markets. -/
def marketsList : Keywords Schema :=
  { items := some [.keywords marketEntry], kind := some .array }

/-- The document of the markets. -/
def marketsDocument : Keywords Schema :=
  { closed := true
    properties := some [("markets", [.keywords marketsList])]
    required := ["markets"]
    kind := some .object }

/-- The rules of the file. -/
def marketsBook : SchemaBook := ⟨[.keywords marketsDocument], []⟩

/-! ## §3. The file. -/

/-- A text of at least one character, as the file describes it. -/
def nonEmptyTextFile : Json := .obj [("minLength", .num (.int 1)), ("type", .str "string")]

/-- A market, as the file describes it. -/
def marketFile : Json :=
  .obj [("additionalProperties", .bool false),
    ("properties", .obj [
      ("base-currency", nonEmptyTextFile),
      ("counter-currency", nonEmptyTextFile),
      ("enabled", .obj [("type", .str "boolean")]),
      ("id", nonEmptyTextFile),
      ("name", nonEmptyTextFile),
      ("trading-strategy-id", nonEmptyTextFile)]),
    ("required", .arr [.str "id", .str "name", .str "base-currency", .str "counter-currency",
      .str "enabled", .str "trading-strategy-id"]),
    ("type", .str "object")]

/-- The value of the file. -/
def marketsSchemaFile : Json :=
  .obj [("$schema", .str "https://json-schema.org/draft/2020-12/schema"),
    ("additionalProperties", .bool false),
    ("properties", .obj [("markets", .obj [("items", marketFile), ("type", .str "array")])]),
    ("required", .arr [.str "markets"]),
    ("title", .str "Markets"),
    ("type", .str "object")]

set_option maxRecDepth 20000 in
theorem ofText_marketsSchema : Json.ofText marketsSchema = .ok marketsSchemaFile := by
  rw [Json.ofText, Symbol.ofText, marketsSchema, toList_textOfLines, lineChars]
  simp only [List.flatMap_cons, List.flatMap_nil, String.reduceToList, List.cons_append,
    List.nil_append, List.append_nil]
  with_unfolding_all rfl

theorem ofJson?_marketsSchemaFile : SchemaBook.ofJson? marketsSchemaFile = some marketsBook := by
  have selfContained : isSelfContained marketsSchemaFile = true := by decide
  unfold SchemaBook.ofJson?
  rw [selfContained]
  rfl

/-- A file with the shipped text is read as these rules. -/
theorem readSchema_marketsSchema {files : Store.Files} {path : Path}
    (holds : files path = .ok marketsSchema.toUTF8) :
    Store.readSchema files path = .ok marketsBook.complaints :=
  Store.readSchema_of_text holds ofText_marketsSchema ofJson?_marketsSchemaFile

/-! ## §4. What the rules demand. -/

theorem canonical_market (market : MarketRecord) :
    (MarketRecord.codec.encode market).canonical
      = .obj [("base-currency", .str market.baseCurrency),
        ("counter-currency", .str market.counterCurrency), ("enabled", .bool market.enabled),
        ("id", .str market.id), ("name", .str market.name),
        ("trading-strategy-id", .str market.strategyId)] := by
  cbv

theorem canonical_markets (markets : List MarketRecord) :
    (MarketRecord.documentCodec.encode markets).canonical
      = .obj [("markets", .arr (markets.map fun market =>
          (MarketRecord.codec.encode market).canonical))] :=
  Codec.canonical_listRecord rfl

theorem demands_market (stored : MarketRecord) :
    Demands book [.keywords marketEntry] (MarketRecord.codec.encode stored).canonical
      stored.demands := by
  rw [canonical_market]
  exact demands_obj rfl (by cbv) (by cbv)
    (.asked rfl demands_filled (.asked rfl demands_filled (.free rfl (demands_bool stored.enabled)
      (.asked rfl demands_filled (.asked rfl demands_filled (.asked rfl demands_filled .nil))))))

/-- The violations of a document of markets are the broken demands on its
records. -/
theorem violations_markets (document : List MarketRecord) :
    marketsBook.violations (MarketRecord.documentCodec.encode document).canonical
      = broken (inMembers [("markets", inItems MarketRecord.demands document 0)]) := by
  rw [canonical_markets]
  exact violations_list rfl rfl rfl rfl rfl rfl rfl rfl demands_market

/-- So a list is accepted exactly if each of its markets is filled. -/
theorem violations_markets_eq_nil_iff {markets : List MarketRecord} :
    marketsBook.violations (MarketRecord.documentCodec.encode markets).canonical = []
      ↔ ∀ market ∈ markets, market.Filled := by
  rw [violations_markets, broken_inMembers_eq_nil_iff, List.forall_mem_singleton,
    broken_inItems_eq_nil_iff]
  simp only [MarketRecord.broken_demands_iff]

/-- Under the shipped schema a list of markets passes the check before a save
exactly if each of them is filled. -/
theorem checkDocument_markets_iff {markets : List MarketRecord} {location : Location}
    {files : Store.Files} (schema : files location.schema = .ok marketsSchema.toUTF8) :
    Store.checkDocument MarketRecord.documentCodec markets location files = .ok ()
      ↔ ∀ market ∈ markets, market.Filled := by
  rw [Store.checkDocument_of_readSchema (readSchema_marketsSchema schema), Store.check_eq_ok_iff,
    SchemaBook.complaints_eq_nil_iff, violations_markets_eq_nil_iff]

/-- A file with filled markets loads under the shipped schema. -/
theorem loadDocument_of_filled {markets : List MarketRecord} {location : Location}
    {files : Store.Files} (filled : ∀ market ∈ markets, market.Filled)
    (schema : files location.schema = .ok marketsSchema.toUTF8)
    (data : files location.data
      = .ok (Store.documentText MarketRecord.documentCodec markets).toUTF8) :
    Store.loadDocument MarketRecord.documentCodec location files = .ok markets := by
  have faithful : MarketRecord.documentCodec.Faithful Json.nestingLimit :=
    DocumentClass.markets.codec_faithful
  rw [Store.loadDocument_documentText faithful data, (checkDocument_markets_iff schema).mpr filled]
  rfl

end Shipped

end TradingConfig
