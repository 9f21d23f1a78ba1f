/-
  TradingConfig.Proofs.Shipped.ExchangeShape
  ────────────────────────────────
  **WHERE THE SCHEMA OF THE EXCHANGE IS WIDER THAN THE RECORD.**

  The shipped schema asks for integers, whatever way they are written, and
  bounds the time-out on one side only; the record holds literals of 32 and
  16 bits.  A document that the schema accepts is read exactly if its
  numbers are such literals (`LiteralsFit`), and what is written of it is
  accepted again (`exchange_reads_literals`).  Every other document is
  refused for its shape.
-/
import TradingConfig.Proofs.Shipped.Credentials
import TradingConfig.Proofs.Shipped.Shapes

namespace TradingConfig.Shipped

open Codec Schema

variable {book : SchemaBook}

/-! ## §1. The network. -/

theorem mirrors_timeout {keywords : Keywords Schema} (minimum : keywords.minimum = some (.int 1)) :
    Mirrors book [.keywords keywords] (IsBelow UInt32.size) u32 :=
  mirrors_below minimum (by decide) UInt32.toNat_ofNat_of_lt

/-- A code is at most 599, so every integer literal fits. -/
theorem mirrors_code {keywords : Keywords Schema} (minimum : keywords.minimum = some (.int 100))
    (maximum : keywords.maximum = some (.int 599)) :
    Mirrors book [.keywords keywords] IsWhole u16 := by
  have below : Mirrors book [.keywords keywords] (IsBelow UInt16.size) u16 :=
    mirrors_below minimum (by decide) UInt16.toNat_ofNat_of_lt
  refine below.of_fit fun accepts => ?_
  constructor
  · rintro ⟨n, rfl, -⟩
    exact ⟨n, rfl⟩
  · rintro ⟨n, rfl⟩
    have atMost := (limits_of_accepted (accepts_keywords_iff.mp accepts)).2 599 maximum
    exact ⟨n, rfl, Int.lt_of_le_of_lt atMost (by decide)⟩

/-- What the network needs. -/
def networkFit : String → Json → Prop
  | "connection-timeout" => IsBelow UInt32.size
  | "non-fatal-error-codes" => ItemsFit IsWhole
  | _ => fun _ => True

/-- A list that may be missing, and is empty then. -/
theorem fieldConforms_list {α : Type} {keywords : Keywords Schema} {fit : Json → Prop}
    {mandatory : Prop} {item : Codec α} (key : String)
    (mirrors : Mirrors book [.keywords keywords] fit (list item))
    (empty : Accepts book [.keywords keywords] (.arr [])) :
    FieldConforms book [.keywords keywords] fit mandatory (.withDefault key (list item) []) := by
  refine fieldConforms_of_shown mirrors.conforms (fun _ => rfl) (fun _ => ⟨[], rfl⟩) ?_
  intro x absent
  obtain rfl : [] = x := Option.some.inj absent
  exact empty

theorem conforms_network :
    Conforms book [.keywords networkEntry] (MembersFit networkFit) NetworkRecord.codec := by
  refine conforms_record ⟨rfl, rfl, by decide, by decide, ?_⟩ fun _ => rfl
  refine ⟨⟨_, rfl, ?_⟩, ⟨_, rfl, ?_⟩, ⟨_, rfl, ?_⟩, trivial⟩
  · exact (fieldMirrors_of_mandatory (mirrors_timeout rfl) (by decide) fun _ => rfl).conforms
  · exact fieldConforms_list _ (mirrors_list rfl rfl (mirrors_code rfl rfl))
      (accepts_keywords_iff.mpr rfl)
  · exact fieldConforms_list _ (mirrors_total_list rfl rfl (mirrors_string rfl))
      (accepts_keywords_iff.mpr rfl)

/-! ## §2. The exchange. -/

/-- What the exchange needs. -/
def exchangeFit : String → Json → Prop
  | "network-config" => MembersFit networkFit
  | _ => fun _ => True

/-- What the document needs. -/
def documentFit : String → Json → Prop
  | "exchange" => MembersFit exchangeFit
  | _ => fun _ => True

/-- Further settings are accepted as the credentials are. -/
theorem accepts_recurring_iff {value : Json} :
    Accepts exchangeBook [.recurring settingsBlockAt, .keywords {}] value
      ↔ Accepts exchangeBook [.keywords settingsBlock] value := by
  have expanded : Accepts exchangeBook [.keywords settingsBlock, .keywords {}] value
      ↔ Accepts exchangeBook [.keywords settingsBlock] value := accepts_referring_iff
  exact expanded

/-- A mandatory record. -/
theorem fieldConforms_required {α : Type} {schema : Schema} {fit : Json → Prop} {mandatory : Prop}
    {codec : Codec α} (key : String) (conforms : Conforms book schema fit codec)
    (required : mandatory) : FieldConforms book schema fit mandatory (.required key codec) :=
  fieldConforms_of_shown conforms (fun _ => rfl) (fun optional => absurd required optional)
    fun _ absent => nomatch absent

theorem conforms_exchange :
    Conforms exchangeBook [.keywords exchangeEntry] (MembersFit exchangeFit)
      ExchangeRecord.codec := by
  refine conforms_record ⟨rfl, rfl, by decide, by decide, ?_⟩ fun _ => rfl
  refine ⟨⟨_, rfl, ?_⟩, ⟨_, rfl, ?_⟩, ⟨_, rfl, ?_⟩, ⟨_, rfl, ?_⟩, ⟨_, rfl, ?_⟩, trivial⟩
  · exact (fieldMirrors_text "name" rfl (by decide)).conforms
  · exact (fieldMirrors_text "adapter" rfl (by decide)).conforms
  · exact (fieldMirrors_settingsBlock _ fun _ => accepts_referring_iff).conforms
  · exact fieldConforms_required _ conforms_network (by decide)
  · exact (fieldMirrors_settingsBlock _ fun _ => accepts_recurring_iff).conforms

theorem conforms_exchangeDocument :
    Conforms exchangeBook [.keywords exchangeDocument] (MembersFit documentFit)
      ExchangeRecord.documentCodec := by
  refine conforms_record ⟨rfl, rfl, by decide, by decide, ?_⟩ fun _ => rfl
  exact ⟨⟨_, rfl, fieldConforms_required _ conforms_exchange (by decide)⟩, trivial⟩

/-! ## §3. Literals. -/

/-- The value at the end of a path of members, if it is there. -/
def valueAt? (path : List String) (value : Json) : Option Json :=
  path.foldlM (fun inner key => inner.member? key) value

/-- The time-out is an integer literal of 32 bits, and the codes are integer
literals. -/
def LiteralsFit (value : Json) : Prop :=
  (∀ timeout ∈ valueAt? ["exchange", "network-config", "connection-timeout"] value,
      IsBelow UInt32.size timeout)
    ∧ ∀ codes ∈ valueAt? ["exchange", "network-config", "non-fatal-error-codes"] value,
      ItemsFit IsWhole codes

/-- No other member of a document needs anything. -/
theorem membersFit_document_iff {value : Json} :
    MembersFit documentFit value ↔ LiteralsFit value := by
  constructor
  · intro fits
    have network {key : String} {found : Json}
        (there : found ∈ valueAt? ["exchange", "network-config", key] value) :
        networkFit key found := by
      obtain ⟨exchange, inDocument, there⟩ := Option.bind_eq_some_iff.mp there
      obtain ⟨network, inExchange, there⟩ := Option.bind_eq_some_iff.mp there
      obtain ⟨_, inNetwork, same⟩ := Option.bind_eq_some_iff.mp there
      obtain rfl := Option.some.inj same
      exact fits "exchange" exchange inDocument "network-config" network inExchange key _ inNetwork
    exact ⟨fun _ there => network there, fun _ there => network there⟩
  · rintro ⟨timeoutFits, codesFit⟩
    have path {key : String} {exchange network found : Json}
        (inDocument : value.member? "exchange" = some exchange)
        (inExchange : exchange.member? "network-config" = some network)
        (inNetwork : network.member? key = some found) :
        found ∈ valueAt? ["exchange", "network-config", key] value := by
      simp [valueAt?, inDocument, inExchange, inNetwork]
    intro key exchange inDocument
    unfold documentFit
    split
    · intro key network inExchange
      unfold exchangeFit
      split
      · intro key found inNetwork
        unfold networkFit
        split
        · exact timeoutFits found (path inDocument inExchange inNetwork)
        · exact codesFit found (path inDocument inExchange inNetwork)
        · trivial
      · trivial
    · trivial

theorem exists_decode_iff {value : Json} (clean : exchangeBook.violations value.canonical = []) :
    (∃ record, ExchangeRecord.documentCodec.decode value.canonical = .ok record)
      ↔ LiteralsFit value.canonical :=
  (conforms_exchangeDocument.reads value.isCanonical_canonical
    (SchemaBook.violations_eq_nil_iff.mp clean)).trans membersFit_document_iff

/-- Of the documents that the shipped schema accepts those with literals that
fit are read, and what is written of them is accepted again.  From a file
these are loaded, and the others are refused for their shape. -/
theorem exchange_reads_literals (value : Json)
    (clean : exchangeBook.violations value.canonical = []) :
    (∀ (files : Store.Files) path, files path = .ok exchangeSchema.toUTF8 →
        Store.readSchema files path = .ok exchangeBook.complaints)
      ∧ ((∃ record, ExchangeRecord.documentCodec.decode value.canonical = .ok record)
        ↔ LiteralsFit value.canonical)
      ∧ (∀ record, ExchangeRecord.documentCodec.decode value.canonical = .ok record →
        exchangeBook.violations (ExchangeRecord.documentCodec.encode record).canonical = [])
      ∧ ∀ (location : Location) (files : Store.Files),
        files location.schema = .ok exchangeSchema.toUTF8 →
        Store.Holds files location.data value.canonical →
        ((∃ record, Store.loadDocument ExchangeRecord.documentCodec location files = .ok record)
            ↔ LiteralsFit value.canonical)
          ∧ ∀ fault,
            Store.loadDocument ExchangeRecord.documentCodec location files = .error fault →
            ∃ shape, fault = .rejected location.data [.shape shape] := by
  refine ⟨fun _ _ => readSchema_exchangeSchema, exists_decode_iff clean, fun record read => ?_,
    fun location files schema holds => ?_⟩
  · exact SchemaBook.violations_eq_nil_iff.mpr (conforms_exchangeDocument.writes
      value.isCanonical_canonical (SchemaBook.violations_eq_nil_iff.mp clean) read)
  · have usable := readSchema_exchangeSchema schema
    have passes := SchemaBook.complaints_eq_nil_iff.mpr clean
    exact ⟨(Store.exists_load_iff_of_holds usable holds passes).trans (exists_decode_iff clean),
      fun fault failed => Store.exists_shape_of_holds usable holds passes failed⟩

/-! ## §4. Numbers that the schema accepts. -/

/-- Where the exchange lies under the default options. -/
def exchangeFiles : Location :=
  ⟨⟨"datastore/exchange.json"⟩, ⟨"datastore/exchange.schema.json"⟩⟩

/-- A file of the exchange whose time-out is written in some way. -/
def exchangeText (timeout : String) : String :=
  "\x7b\"exchange\":\x7b\"name\":\"X\",\"adapter\":\"x.X\",\"network-config\":\x7b\"connection-timeout\":"
    ++ timeout ++ "\x7d\x7d\x7d"

/-- The shipped schema of the exchange beside a file. -/
def exchangeShelf (text : String) : FileTree := ⟨[], [
  (["datastore"], .directory),
  (["datastore", "exchange.schema.json"], .file exchangeSchema.toUTF8),
  (["datastore", "exchange.json"], .file text.toUTF8)]⟩

/-- The value of such a file. -/
def exchangeWith (timeout : Number) : Json :=
  .obj [("exchange", .obj [("adapter", .str "x.X"), ("name", .str "X"),
    ("network-config", .obj [("connection-timeout", .num timeout)])])]

theorem read_schema_exchangeShelf (text : String) :
    (exchangeShelf text).read exchangeFiles.schema = .ok exchangeSchema.toUTF8 :=
  rfl

theorem holds_exchangeShelf {text : String} {value : Json} (read : Json.ofText text = .ok value) :
    Store.Holds (exchangeShelf text).read exchangeFiles.data value := by
  have bytes : (exchangeShelf text).read exchangeFiles.data = .ok text.toUTF8 := rfl
  exact ⟨_, bytes, (Store.ofBytes_toUTF8 text).trans read⟩

/-- The number 15.0. -/
def fifteen : Number := .float ⟨false, 8444249301319680, -49⟩

theorem ofText_exchangeText :
    Json.ofText (exchangeText "15") = .ok (exchangeWith (.int 15))
      ∧ Json.ofText (exchangeText "15.0") = .ok (exchangeWith fifteen) := by
  unfold Json.ofText Symbol.ofText exchangeText
  simp only [String.toList_append, String.reduceToList, List.cons_append, List.nil_append]
  with_unfolding_all exact ⟨rfl, rfl⟩

/-- A time-out of 15 is loaded. -/
theorem exchange_reads_fifteen :
    exchangeBook.violations (exchangeWith (.int 15)).canonical = []
      ∧ ∃ record, Store.loadDocument ExchangeRecord.documentCodec exchangeFiles
        (exchangeShelf (exchangeText "15")).read = .ok record := by
  have clean : exchangeBook.violations (exchangeWith (.int 15)).canonical = [] := by cbv
  obtain ⟨-, -, -, files⟩ := exchange_reads_literals (exchangeWith (.int 15)) clean
  obtain ⟨loads, -⟩ := files exchangeFiles _ (read_schema_exchangeShelf _)
    (holds_exchangeShelf ofText_exchangeText.1)
  refine ⟨clean, loads.mpr ⟨?_, ?_⟩⟩
  · rintro timeout there
    obtain rfl : .num (.int 15) = timeout := Option.some.inj there
    exact ⟨15, rfl, by decide⟩
  · rintro codes there
    cases there

/-- Neither 15.0 nor 2³² violates the schema, and neither is read. -/
theorem exchange_schema_wider :
    exchangeBook.violations (exchangeWith fifteen).canonical = []
      ∧ (∀ record,
        ExchangeRecord.documentCodec.decode (exchangeWith fifteen).canonical ≠ .ok record)
      ∧ Json.ofText (exchangeText "15.0") = .ok (exchangeWith fifteen)
      ∧ (∀ record, Store.loadDocument ExchangeRecord.documentCodec exchangeFiles
        (exchangeShelf (exchangeText "15.0")).read ≠ .ok record)
      ∧ exchangeBook.violations (exchangeWith (.int 4294967296)).canonical = []
      ∧ ∀ record, ExchangeRecord.documentCodec.decode (exchangeWith (.int 4294967296)).canonical
        ≠ .ok record := by
  have clean : exchangeBook.violations (exchangeWith fifteen).canonical = [] := by rfl
  have unread : ∀ record,
      ExchangeRecord.documentCodec.decode (exchangeWith fifteen).canonical ≠ .ok record := by
    intro record read
    cases read
  have text := ofText_exchangeText.2
  have schema := read_schema_exchangeShelf (exchangeText "15.0")
  refine ⟨clean, unread, text, fun record loads => ?_, by cbv, fun record read => ?_⟩
  · obtain ⟨other, read⟩ := (Store.exists_load_iff_of_holds (readSchema_exchangeSchema schema)
      (holds_exchangeShelf text) (SchemaBook.complaints_eq_nil_iff.mpr clean)).mp ⟨record, loads⟩
    exact unread other read
  · cases read

end TradingConfig.Shipped
