/-
  TradingConfig.Proofs.Entity.Codec
  ────────────────────────────────
  **WHAT CALLERS SEE SURVIVES ITS JSON FORM.**

  Strategies, markets and the exchange are read back from their text
  (`entityCodec_faithful`), whatever their texts and the names of their
  settings are.  A value that was read as one of them may have had unknown
  members, missing ones or the form of an array: once it is written again,
  it has the keys of its class and no others, so none for credentials, and
  it is read as before (`survives_json`).
-/
import TradingConfig.Entity.Basic
import TradingConfig.Proofs.Codec.Laws
import TradingConfig.Proofs.Record.Mapping
import TradingConfig.Proofs.Success
import TradingConfig.Repository.DocumentClass

namespace TradingConfig

open Codec

/-! ## §1. Settings. -/

theorem Codec.decodeSettings_texts (bindings : List (String × String)) (settings : Settings) :
    decodeSettings (bindings.map fun binding => (binding.1, .str binding.2)) settings
      = .ok (bindings.foldl (fun settings binding => settings.insert binding.1 binding.2)
          settings) := by
  induction bindings generalizing settings with
  | nil => rfl
  | cons binding rest ih => exact ih (settings.insert binding.1 binding.2)

/-- The members that settings are written as are in order already. -/
theorem Codec.canonical_settings (settings : Settings) :
    (Codec.settings.encode settings).canonical = Codec.settings.encode settings := by
  have same : Json.canonicalMembers
        (settings.toList.map fun binding => (binding.1, Json.str binding.2))
      = settings.toList.map fun binding => (binding.1, Json.str binding.2) := by
    rw [Json.canonicalMembers_eq_map, List.map_map]
    rfl
  have ordered : KeyedList.Ascending
      (settings.toList.map fun binding => (binding.1, Json.str binding.2)) :=
    List.pairwise_map.mpr settings.ascending
  show Json.obj (KeyedList.ofPairs (Json.canonicalMembers _)) = Json.obj _
  rw [same, KeyedList.ofPairs_of_ascending ordered]

theorem Codec.settings_faithful (room : Nat) : Codec.settings.Faithful (room + 1) where
  fits settings := by
    refine ⟨Nat.succ_pos room, ?_⟩
    generalize settings.toList = bindings
    induction bindings with
    | nil => trivial
    | cons binding rest ih => exact ⟨trivial, ih⟩
  back settings := by
    rw [canonical_settings]
    show decodeSettings (settings.toList.map _) .empty = _
    rw [decodeSettings_texts]
    exact congrArg Except.ok
      ((Settings.foldl_insert_empty _).trans (Settings.ofPairs_toList settings))

/-! ## §2. Entities. -/

theorem Strategy.codec_faithful (room : Nat) : Strategy.codec.Faithful (room + 2) := by
  have text := string_faithful (room + 1)
  refine record_faithful ⟨?_, by decide, ?_, by decide, ?_, by decide, ?_, by decide, ?_, by decide,
    trivial⟩ fun _ => rfl
  · exact Field.required_faithful "id" text
  · exact Field.required_faithful "name" text
  · exact Field.required_faithful "description" text
  · exact Field.required_faithful "className" text
  · exact Field.withDefault_faithful "configItems" .empty (settings_faithful room)

theorem Market.codec_faithful (room : Nat) : Market.codec.Faithful (room + 1) := by
  have text := string_faithful room
  refine record_faithful ⟨?_, by decide, ?_, by decide, ?_, by decide, ?_, by decide, ?_, by decide,
    ?_, by decide, trivial⟩ fun _ => rfl
  · exact Field.required_faithful "id" text
  · exact Field.required_faithful "name" text
  · exact Field.required_faithful "baseCurrency" text
  · exact Field.required_faithful "counterCurrency" text
  · exact Field.required_faithful "enabled" (bool_faithful room)
  · exact Field.required_faithful "tradingStrategyId" text

theorem Network.codec_faithful (room : Nat) : Network.codec.Faithful (room + 2) := by
  refine record_faithful ⟨?_, by decide, ?_, by decide, ?_, by decide, trivial⟩ fun _ => rfl
  · exact Field.required_faithful "connectionTimeout" (u32_faithful (room + 1))
  · exact Field.withDefault_faithful "nonFatalErrorHttpStatusCodes" []
      (list_faithful (u16_faithful room))
  · exact Field.withDefault_faithful "nonFatalErrorMessages" []
      (list_faithful (string_faithful room))

theorem Exchange.codec_faithful (room : Nat) : Exchange.codec.Faithful (room + 3) := by
  have text := string_faithful (room + 2)
  refine record_faithful ⟨?_, by decide, ?_, by decide, ?_, by decide, ?_, by decide,
    trivial⟩ fun _ => rfl
  · exact Field.required_faithful "name" text
  · exact Field.required_faithful "className" text
  · exact Field.required_faithful "networkConfig" (Network.codec_faithful room)
  · exact Field.withDefault_faithful "otherConfig" .empty (settings_faithful (room + 1))

namespace DocumentClass

/-- What callers see of the documents of a class. -/
def Entity : DocumentClass → Type
  | .strategies => Strategy
  | .markets => Market
  | .exchange => Exchange

/-- Its JSON form. -/
def entityCodec : (documentClass : DocumentClass) → Codec documentClass.Entity
  | .strategies => Strategy.codec
  | .markets => Market.codec
  | .exchange => Exchange.codec

/-- What is written of a value that is read as an entity. -/
def rewritten (documentClass : DocumentClass) (value : Json) : Except DecodeFault Json :=
  (documentClass.entityCodec.decode value).map fun entity =>
    (documentClass.entityCodec.encode entity).canonical

theorem entityCodec_faithful (documentClass : DocumentClass) :
    documentClass.entityCodec.Faithful Json.nestingLimit := by
  cases documentClass with
  | strategies => exact Strategy.codec_faithful 125
  | markets => exact Market.codec_faithful 126
  | exchange => exact Exchange.codec_faithful 124

end DocumentClass

/-! ## §3. The keys that are written. -/

/-- The keys of an object. -/
def Json.keys : Json → List String
  | .obj members => members.map Prod.fst
  | _ => []

namespace Codec

variable {α τ : Type}

theorem keys_record {name : String} {fields : Fields τ} {make : τ → α} {parts : α → τ} {x : α}
    (distinct : ((fields.toMembers (parts x)).map Prod.fst).Nodup) :
    ((record name fields make parts).encode x).canonical.keys.Perm
      ((fields.toMembers (parts x)).map Prod.fst) := by
  have kept := Json.map_fst_canonicalMembers (fields.toMembers (parts x))
  have ordered := (KeyedList.ofPairs_perm (kept ▸ distinct)).map Prod.fst
  rwa [kept] at ordered

/-- A member is found as it was written. -/
theorem member_record {name : String} {fields : Fields τ} {make : τ → α} {parts : α → τ} {x : α}
    (distinct : ((fields.toMembers (parts x)).map Prod.fst).Nodup) (key : String) :
    ((record name fields make parts).encode x).canonical.member key
      = (KeyedList.get? key (Json.canonicalMembers (fields.toMembers (parts x)))).getD .null := by
  rw [← Json.map_fst_canonicalMembers] at distinct
  show (KeyedList.get? key (KeyedList.ofPairs _)).getD Json.null = _
  rw [KeyedList.get?_ofPairs distinct]

end Codec

/-- The keys of the JSON form of how the bot deals with the network. -/
def Network.keys : List String :=
  ["connectionTimeout", "nonFatalErrorHttpStatusCodes", "nonFatalErrorMessages"]

namespace DocumentClass

/-- The keys of the JSON form of an entity, one for each of its fields. -/
def entityKeys : DocumentClass → List String
  | .strategies => ["id", "name", "description", "className", "configItems"]
  | .markets =>
    ["id", "name", "baseCurrency", "counterCurrency", "enabled", "tradingStrategyId"]
  | .exchange => ["name", "className", "networkConfig", "otherConfig"]

/-- A value has the keys of its class, each one once, and no others; so has
the part of an exchange that tells how to deal with the network. -/
def HasOwnKeys (documentClass : DocumentClass) (value : Json) : Prop :=
  value.keys.Perm documentClass.entityKeys
    ∧ (documentClass = .exchange → (value.member "networkConfig").keys.Perm Network.keys)

theorem hasOwnKeys_encode (documentClass : DocumentClass) (entity : documentClass.Entity) :
    documentClass.HasOwnKeys (documentClass.entityCodec.encode entity).canonical := by
  cases documentClass with
  | strategies =>
    have distinct : (entityKeys .strategies).Nodup := by decide
    exact ⟨keys_record distinct, nofun⟩
  | markets =>
    have distinct : (entityKeys .markets).Nodup := by decide
    exact ⟨keys_record distinct, nofun⟩
  | exchange =>
    have distinct : (entityKeys .exchange).Nodup := by decide
    have distinctToo : Network.keys.Nodup := by decide
    refine ⟨keys_record distinct, fun _ => ?_⟩
    show (((Exchange.codec.encode entity).canonical).member "networkConfig").keys.Perm Network.keys
    have inside : (Exchange.codec.encode entity).canonical.member "networkConfig"
        = (Network.codec.encode entity.network).canonical := by
      refine (member_record ?_ "networkConfig").trans rfl
      exact distinct
    rw [inside]
    exact keys_record distinctToo

/-- **Entities are read back from their text, and what was read as an entity
is read alike when it is written again, with the keys of its class alone.** -/
theorem survives_json (documentClass : DocumentClass) :
    (∀ entity : documentClass.Entity, ∃ value,
        Json.ofText (documentClass.entityCodec.encode entity).prettyText = .ok value
          ∧ documentClass.entityCodec.decode value = .ok entity)
      ∧ ∀ (value : Json) (entity : documentClass.Entity),
          documentClass.entityCodec.decode value = .ok entity →
          ∃ again, documentClass.rewritten value = .ok again
            ∧ documentClass.entityCodec.decode again = .ok entity
            ∧ documentClass.HasOwnKeys again := by
  have faithful := documentClass.entityCodec_faithful
  constructor
  · intro entity
    exact ⟨_, Json.ofText_prettyText (faithful.fits entity), faithful.back entity⟩
  · intro value entity read
    refine ⟨(documentClass.entityCodec.encode entity).canonical, ?_, faithful.back entity,
      documentClass.hasOwnKeys_encode entity⟩
    unfold rewritten
    rw [read]
    rfl

/-- An exchange with credentials and with the array form of how to deal with
the network, without further settings. -/
def strayExchange : Json :=
  .obj [("authenticationConfig", .obj [("key", .str "s3cret")]), ("className", .str "Bitstamp"),
    ("name", .str "Bitstamp\t☃"), ("networkConfig", .arr [.num (.int 30)])]

/-- What it is read as. -/
def plainExchange : Exchange :=
  ⟨"Bitstamp\t☃", "Bitstamp", ⟨30, [], []⟩, .empty⟩

/-- The credentials are gone when it is written again. -/
theorem survives_json_strayExchange :
    (entityCodec .exchange).decode strayExchange = .ok plainExchange
      ∧ ∃ again, rewritten .exchange strayExchange = .ok again
        ∧ (entityCodec .exchange).decode again = .ok plainExchange
        ∧ HasOwnKeys .exchange again := by
  have read : (entityCodec .exchange).decode strayExchange = .ok plainExchange := by rfl
  exact ⟨read, (survives_json .exchange).2 strayExchange plainExchange read⟩

end DocumentClass

end TradingConfig
