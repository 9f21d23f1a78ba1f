/-
  TradingConfig.Proofs.Shipped.ExchangeSchema
  ────────────────────────────────
  **WHAT THE SHIPPED SCHEMA OF THE EXCHANGE ASKS FOR.**

  The rules of the shipped file, place by place (`exchangeBook`); its text
  is read as these (`readSchema_exchangeSchema`).
-/
import TradingConfig.Proofs.Schema.Check
import TradingConfig.Proofs.Schema.Compile
import TradingConfig.Proofs.Store.SaveLoad
import TradingConfig.Shipped.Exchange

namespace TradingConfig.Shipped

open Schema

/-! ## §1. The rules. -/

/-- A text of at least one character. -/
def nonEmptyText : Keywords Schema := { minLength := some 1, kind := some .string }

/-- A setting: a name that is not empty, and a value. -/
def setting : Keywords Schema :=
  { closed := true
    properties := some [("name", [.keywords nonEmptyText]),
      ("value", [.keywords { kind := some .string }])]
    required := ["name", "value"]
    kind := some .object }

/-- The items of a block of settings. -/
def settingItems : Keywords Schema := { items := some [.keywords setting], kind := some .array }

/-- A block of settings; it must list its items, if only none. -/
def settingsBlock : Keywords Schema :=
  { closed := true
    properties := some [("config-items", [.keywords settingItems])]
    required := ["config-items"]
    kind := some .object }

/-- The place of the block in the file. -/
def settingsBlockAt : Reference := ⟨"/$defs/configItems".toList.map .plain⟩

/-- The network of the exchange. -/
def networkEntry : Keywords Schema :=
  { closed := true
    properties := some [
      ("connection-timeout", [.keywords { minimum := some (.int 1), kind := some .integer }]),
      ("non-fatal-error-codes", [.keywords {
        items := some [.keywords {
          maximum := some (.int 599), minimum := some (.int 100), kind := some .integer }]
        kind := some .array, uniqueItems := true }]),
      ("non-fatal-error-messages", [.keywords {
        items := some [.keywords nonEmptyText], kind := some .array, uniqueItems := true }])]
    required := ["connection-timeout"]
    kind := some .object }

/-- The exchange.  The second block of settings recurs to the place of the
first. -/
def exchangeEntry : Keywords Schema :=
  { closed := true
    properties := some [
      ("adapter", [.keywords nonEmptyText]),
      ("authentication-config", [.keywords settingsBlock, .keywords {}]),
      ("name", [.keywords nonEmptyText]),
      ("network-config", [.keywords networkEntry]),
      ("other-config", [.recurring settingsBlockAt, .keywords {}])]
    required := ["name", "adapter", "network-config"]
    kind := some .object }

/-- The document of the exchange. -/
def exchangeDocument : Keywords Schema :=
  { closed := true
    properties := some [("exchange", [.keywords exchangeEntry])]
    required := ["exchange"]
    kind := some .object }

/-- The rules of the file. -/
def exchangeBook : SchemaBook :=
  ⟨[.keywords exchangeDocument], [(settingsBlockAt, [.keywords settingsBlock])]⟩

/-! ## §2. The file. -/

/-- A block of settings, as the file describes it. -/
def settingsBlockFile : Json :=
  .obj [("additionalProperties", .bool false),
    ("properties", .obj [("config-items", .obj [
      ("items", .obj [("additionalProperties", .bool false),
        ("properties", .obj [
          ("name", .obj [("minLength", .num (.int 1)), ("type", .str "string")]),
          ("value", .obj [("type", .str "string")])]),
        ("required", .arr [.str "name", .str "value"]),
        ("type", .str "object")]),
      ("type", .str "array")])]),
    ("required", .arr [.str "config-items"]),
    ("type", .str "object")]

/-- The network, as the file describes it. -/
def networkFile : Json :=
  .obj [("additionalProperties", .bool false),
    ("properties", .obj [
      ("connection-timeout", .obj [("minimum", .num (.int 1)), ("type", .str "integer")]),
      ("non-fatal-error-codes", .obj [
        ("items", .obj [("maximum", .num (.int 599)), ("minimum", .num (.int 100)),
          ("type", .str "integer")]),
        ("type", .str "array"), ("uniqueItems", .bool true)]),
      ("non-fatal-error-messages", .obj [
        ("items", .obj [("minLength", .num (.int 1)), ("type", .str "string")]),
        ("type", .str "array"), ("uniqueItems", .bool true)])]),
    ("required", .arr [.str "connection-timeout"]),
    ("type", .str "object")]

/-- The exchange, as the file describes it. -/
def exchangeFile : Json :=
  .obj [("additionalProperties", .bool false),
    ("properties", .obj [
      ("adapter", .obj [("minLength", .num (.int 1)), ("type", .str "string")]),
      ("authentication-config", .obj [("$ref", .str "#/$defs/configItems")]),
      ("name", .obj [("minLength", .num (.int 1)), ("type", .str "string")]),
      ("network-config", networkFile),
      ("other-config", .obj [("$ref", .str "#/$defs/configItems")])]),
    ("required", .arr [.str "name", .str "adapter", .str "network-config"]),
    ("type", .str "object")]

/-- The value of the file. -/
def exchangeSchemaFile : Json :=
  .obj [("$defs", .obj [("configItems", settingsBlockFile)]),
    ("$schema", .str "https://json-schema.org/draft/2020-12/schema"),
    ("additionalProperties", .bool false),
    ("properties", .obj [("exchange", exchangeFile)]),
    ("required", .arr [.str "exchange"]),
    ("title", .str "Exchange adapter"),
    ("type", .str "object")]

set_option maxRecDepth 20000 in
theorem ofText_exchangeSchema : Json.ofText exchangeSchema = .ok exchangeSchemaFile := by
  rw [Json.ofText, Symbol.ofText, exchangeSchema, toList_textOfLines, lineChars]
  simp only [List.flatMap_cons, List.flatMap_nil, String.reduceToList, List.cons_append,
    List.nil_append, List.append_nil]
  with_unfolding_all rfl

/-! ## §3. Its references. -/

/-- The text by which the file refers to the block of settings. -/
def settingsBlockText : String := "#/$defs/configItems"

theorem ofText?_settingsBlockText :
    Reference.ofText? settingsBlockText = some settingsBlockAt := by
  decide

theorem find?_settingsBlockAt :
    settingsBlockAt.find? exchangeSchemaFile = some settingsBlockFile := by
  cbv

theorem compile?_settingsBlockFile (file : Json) :
    compile? file settingsBlockFile = some ([.keywords settingsBlock], []) :=
  rfl

/-- Where the block is reached for the first time its rules are put in. -/
theorem follow_settingsBlock {file : Json} {links : List Reference}
    (found : settingsBlockAt.find? file = some settingsBlockFile) (fresh : settingsBlockAt ∉ links)
    (fuel : Nat) :
    (follow file (fuel + 1) settingsBlockText).run links
      = some ([.keywords settingsBlock], settingsBlockAt :: links) := by
  rw [follow_of_new ofText?_settingsBlockText found fresh]
  rfl

/-- The credentials are met first, so the rules are put in there. -/
theorem follow_first (fuel : Nat) :
    (follow exchangeSchemaFile (fuel + 1) settingsBlockText).run []
      = some ([.keywords settingsBlock], [settingsBlockAt]) :=
  follow_settingsBlock find?_settingsBlockAt List.not_mem_nil fuel

/-- The further settings recur to them. -/
theorem follow_again (fuel : Nat) :
    (follow exchangeSchemaFile (fuel + 1) settingsBlockText).run [settingsBlockAt]
      = some ([.recurring settingsBlockAt], [settingsBlockAt]) := by
  have forward : refersBack settingsBlockText settingsBlockFile = false := by decide
  rw [follow_of_known ofText?_settingsBlockText find?_settingsBlockAt List.mem_cons_self, forward]
  rfl

/-! ## §4. From the file to the rules. -/

/-- The exchange, before its references are followed. -/
def exchangeDraft (follow : String → Linking Schema) : Draft where
  keywords :=
    { closed := true
      properties := some [
        ("adapter", pure [.keywords nonEmptyText]),
        ("authentication-config", Draft.link { target := follow settingsBlockText }),
        ("name", pure [.keywords nonEmptyText]),
        ("network-config", pure [.keywords networkEntry]),
        ("other-config", Draft.link { target := follow settingsBlockText })]
      required := ["name", "adapter", "network-config"]
      kind := some .object }

/-- The document, before its references are followed. -/
def documentDraft (follow : String → Linking Schema) : Draft where
  keywords :=
    { closed := true
      properties := some [("exchange", (exchangeDraft follow).link)]
      required := ["exchange"]
      kind := some .object }

theorem ofJson?_file (follow : String → Linking Schema) :
    Schema.ofJson? follow exchangeSchemaFile = some (documentDraft follow).link :=
  rfl

theorem link_documentDraft (fuel : Nat) :
    (documentDraft (follow exchangeSchemaFile (fuel + 1))).link []
      = some ([.keywords exchangeDocument], [settingsBlockAt]) := by
  show (documentDraft (follow exchangeSchemaFile (fuel + 1))).link.run [] = _
  simp [documentDraft, exchangeDraft, Draft.link, linkKeywords, linkProperties, linkMembers,
    linkItems, follow_first, follow_again]
  rfl

theorem compile?_exchangeSchemaFile :
    compile? exchangeSchemaFile exchangeSchemaFile
      = some ([.keywords exchangeDocument], [settingsBlockAt]) := by
  unfold compile?
  rw [ofJson?_file, Option.bind_eq_bind, Option.bind_some, link_documentDraft]

theorem definitions?_settingsBlockAt :
    SchemaBook.definitions? exchangeSchemaFile [settingsBlockAt]
      = some exchangeBook.definitions :=
  definitions?_cons find?_settingsBlockAt (compile?_settingsBlockFile _) rfl

theorem ofJson?_exchangeSchemaFile :
    SchemaBook.ofJson? exchangeSchemaFile = some exchangeBook :=
  ofJson?_of_compile (by decide) compile?_exchangeSchemaFile definitions?_settingsBlockAt

/-- A file with the shipped text is read as these rules. -/
theorem readSchema_exchangeSchema {files : Store.Files} {path : Path}
    (holds : files path = .ok exchangeSchema.toUTF8) :
    Store.readSchema files path = .ok exchangeBook.complaints :=
  Store.readSchema_of_text holds ofText_exchangeSchema ofJson?_exchangeSchemaFile

end TradingConfig.Shipped
