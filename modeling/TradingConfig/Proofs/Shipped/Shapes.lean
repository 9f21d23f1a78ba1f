/-
  TradingConfig.Proofs.Shipped.Shapes
  ────────────────────────────────
  **THE SHIPPED SCHEMAS AND THE STORED RECORDS DESCRIBE ONE SHAPE.**

  Every value that the shipped schema of the strategies or of the markets
  accepts is read as a document, and written again as it was
  (`mirrors_strategies`, `mirrors_markets`).
-/
import TradingConfig.Proofs.Schema.Agreement
import TradingConfig.Proofs.Shipped.StrategiesSchema

namespace TradingConfig.Shipped

open Codec Schema

variable {book : SchemaBook}

/-! ## §1. Settings blocks. -/

/-- A mandatory text. -/
theorem fieldMirrors_text {keywords : Keywords Schema} {mandatory : Prop} (key : String)
    (kind : keywords.kind = some .string) (required : mandatory) :
    FieldMirrors book [.keywords keywords] (fun _ => True) mandatory (.required key string) :=
  fieldMirrors_of_mandatory (mirrors_string kind) required fun _ => rfl

theorem mirrors_setting : Mirrors book [.keywords setting] (fun _ => True) Setting.codec := by
  refine Mirrors.total (mirrors_record ⟨rfl, rfl, by decide, by decide, ?_⟩ fun _ => rfl)
    fun _ _ _ _ => trivial
  exact ⟨⟨_, rfl, fieldMirrors_text "name" rfl (by decide)⟩,
    ⟨_, rfl, fieldMirrors_text "value" rfl (by decide)⟩, trivial⟩

/-- A list of values that are all read is read. -/
theorem mirrors_total_list {α : Type} {schema : Schema} {keywords : Keywords Schema}
    {item : Codec α} (kind : keywords.kind = some .array) (asked : keywords.items = some schema)
    (mirrors : Mirrors book schema (fun _ => True) item) :
    Mirrors book [.keywords keywords] (fun _ => True) (list item) :=
  (mirrors_list kind asked mirrors).total fun value => by
    cases value with
    | arr items => exact fun _ _ => trivial
    | _ => trivial

theorem mirrors_settingsBlock :
    Mirrors book [.keywords settingsBlock] (fun _ => True) SettingsBlock.codec := by
  refine Mirrors.total (mirrors_record ⟨rfl, rfl, by decide, by decide, ?_⟩ fun _ => rfl)
    fun _ _ _ _ => trivial
  -- the codec would put in an empty list, but the schema asks for one
  exact ⟨⟨_, rfl, fieldMirrors_of_mandatory (mirrors_total_list rfl rfl mirrors_setting)
    (by decide) fun _ => rfl⟩, trivial⟩

/-- An optional block of settings, where its schema refers to that of the
block. -/
theorem fieldMirrors_settingsBlock {schema : Schema} {mandatory : Prop} (key : String)
    (refers : ∀ value, Accepts book schema value ↔ Accepts book [.keywords settingsBlock] value) :
    FieldMirrors book schema (fun _ => True) mandatory (.optional key SettingsBlock.codec) := by
  apply fieldMirrors_optional
  · exact mirrors_settingsBlock.of_accepts fun value => (refers value).mp
  · rintro _ accepts rfl
    obtain ⟨members, isObject⟩ :=
      exists_members_of_accepted rfl (accepts_keywords_iff.mp ((refers .null).mp accepts))
    cases isObject

/-! ## §2. Strategies. -/

theorem mirrors_strategy :
    Mirrors book [.keywords strategyEntry] (fun _ => True) StrategyRecord.codec := by
  refine Mirrors.total (mirrors_record ⟨rfl, rfl, by decide, by decide, ?_⟩ fun _ => rfl)
    fun _ _ _ _ => trivial
  exact ⟨⟨_, rfl, fieldMirrors_text "id" rfl (by decide)⟩,
    ⟨_, rfl, fieldMirrors_text "name" rfl (by decide)⟩,
    ⟨_, rfl, fieldMirrors_text "description" rfl (by decide)⟩,
    ⟨_, rfl, fieldMirrors_text "class-name" rfl (by decide)⟩,
    ⟨_, rfl, fieldMirrors_settingsBlock "optional-config" fun _ => accepts_referring_iff⟩, trivial⟩

/-- A document of strategies is written as it was. -/
theorem mirrors_strategies :
    Mirrors book [.keywords strategiesDocument] (fun _ => True) StrategyRecord.documentCodec := by
  refine Mirrors.total (mirrors_record ⟨rfl, rfl, by decide, by decide, ?_⟩ fun _ => rfl)
    fun _ _ _ _ => trivial
  have item : Mirrors book [.keywords strategyEntry, .keywords {}] (fun _ => True)
      StrategyRecord.codec := mirrors_strategy.of_accepts fun _ => accepts_referring_iff.mp
  exact ⟨⟨_, rfl, fieldMirrors_of_mandatory (mirrors_total_list rfl rfl item) (by decide)
    fun _ => rfl⟩, trivial⟩

/-! ## §3. Markets. -/

theorem mirrors_market :
    Mirrors book [.keywords marketEntry] (fun _ => True) MarketRecord.codec := by
  refine Mirrors.total (mirrors_record ⟨rfl, rfl, by decide, by decide, ?_⟩ fun _ => rfl)
    fun _ _ _ _ => trivial
  exact ⟨⟨_, rfl, fieldMirrors_text "id" rfl (by decide)⟩,
    ⟨_, rfl, fieldMirrors_text "name" rfl (by decide)⟩,
    ⟨_, rfl, fieldMirrors_text "base-currency" rfl (by decide)⟩,
    ⟨_, rfl, fieldMirrors_text "counter-currency" rfl (by decide)⟩,
    ⟨_, rfl, fieldMirrors_of_mandatory (mirrors_bool rfl) (by decide) fun _ => rfl⟩,
    ⟨_, rfl, fieldMirrors_text "trading-strategy-id" rfl (by decide)⟩, trivial⟩

/-- A document of markets is written as it was. -/
theorem mirrors_markets :
    Mirrors book [.keywords marketsDocument] (fun _ => True) MarketRecord.documentCodec := by
  refine Mirrors.total (mirrors_record ⟨rfl, rfl, by decide, by decide, ?_⟩ fun _ => rfl)
    fun _ _ _ _ => trivial
  exact ⟨⟨_, rfl, fieldMirrors_of_mandatory (mirrors_total_list rfl rfl mirrors_market)
    (by decide) fun _ => rfl⟩, trivial⟩

/-! ## §4. The shipped files. -/

/-- The text of a schema describes the values of a codec: each value that it
accepts is read, and written again as it was. -/
def Describes {D : Type} (text : String) (codec : Codec D) : Prop :=
  ∃ verdict, (∀ (files : Store.Files) path, files path = .ok text.toUTF8 →
      Store.readSchema files path = .ok verdict)
    ∧ ∀ value : Json, verdict value.canonical = [] →
      ∃ document, codec.decode value.canonical = .ok document
        ∧ (codec.encode document).canonical = value.canonical

theorem describes_of_mirrors {D : Type} {text : String} {codec : Codec D}
    (reads : ∀ (files : Store.Files) path, files path = .ok text.toUTF8 →
      Store.readSchema files path = .ok book.complaints)
    (mirrors : Mirrors book book.root (fun _ => True) codec) : Describes text codec := by
  refine ⟨book.complaints, reads, fun value clean => ?_⟩
  have accepts := SchemaBook.violations_eq_nil_iff.mp (SchemaBook.complaints_eq_nil_iff.mp clean)
  have canonical := value.isCanonical_canonical
  obtain ⟨document, read⟩ := (mirrors.reads canonical accepts).mpr trivial
  exact ⟨document, read, mirrors.writes canonical accepts read⟩

/-- The file of a document that loads under such a text holds what is written
of the document. -/
theorem Describes.data_of_load {D : Type} {text : String} {codec : Codec D}
    (describes : Describes text codec) {document : D} {location : Location} {files : Store.Files}
    (schema : files location.schema = .ok text.toUTF8)
    (loads : Store.loadDocument codec location files = .ok document) :
    Store.Holds files location.data (codec.encode document).canonical := by
  obtain ⟨verdict, reads, back⟩ := describes
  obtain ⟨other, value, usable, ⟨bytes, found, read⟩, clean, decoded⟩ :=
    Store.exists_value_of_load loads
  obtain rfl : verdict = other := Except.ok.inj ((reads files _ schema).symm.trans usable)
  have canonical : value.canonical = value := Json.isCanonical_of_ofBytes read
  obtain ⟨again, decodedAgain, written⟩ := back value (canonical.symm ▸ clean)
  rw [canonical] at decodedAgain written
  obtain rfl : document = again := Except.ok.inj (decoded.symm.trans decodedAgain)
  rw [written]
  exact ⟨bytes, found, read⟩

theorem describes_strategies : Describes strategiesSchema StrategyRecord.documentCodec :=
  describes_of_mirrors (fun _ _ => readSchema_strategiesSchema) mirrors_strategies

theorem describes_markets : Describes marketsSchema MarketRecord.documentCodec :=
  describes_of_mirrors (fun _ _ => readSchema_marketsSchema) mirrors_markets

end TradingConfig.Shipped
