/-
  TradingConfig.Proofs.Shipped.SettingsBlock
  ────────────────────────────────
  **WHAT THE SHIPPED SCHEMAS DEMAND OF SETTINGS.**

  Texts and blocks of settings are described alike in the shipped files: a
  text must not be empty where that is asked for, and every setting of a
  block must have a name (`demands_settingsBlock`).
-/
import TradingConfig.Proofs.Schema.Demand
import TradingConfig.Proofs.Shipped.ExchangeSchema

namespace TradingConfig

open Schema Demand

/-! ## §1. Demands on what is stored. -/

/-- That a text is not empty. -/
def Demand.filled (text : String) : Demand :=
  ⟨text ≠ "", here (.tooShort (.str text) 1)⟩

/-- What is demanded of a setting. -/
def Setting.demands (item : Setting) : List Demand :=
  inMembers [("name", [.filled item.name])]

/-- What is demanded of a block of settings. -/
def SettingsBlock.demands (block : SettingsBlock) : List Demand :=
  inMembers [("config-items", inItems Setting.demands block.items 0)]

/-- What is demanded of a block under its key, if there is one. -/
def SettingsBlock.demandsAt (key : String) : Option SettingsBlock → List (String × List Demand)
  | none => []
  | some block => [(key, block.demands)]

/-! ## §2. When they are met. -/

@[simp] theorem Demand.broken_filled_iff {text : String} :
    broken [.filled text] = [] ↔ text ≠ "" := by
  rw [broken_eq_nil_iff, List.forall_mem_singleton]
  exact decide_eq_true_iff

@[simp] theorem SettingsBlock.broken_demands_iff {block : SettingsBlock} :
    broken block.demands = [] ↔ ∀ item ∈ block.items, item.name ≠ "" := by
  unfold demands Setting.demands
  simp only [broken_inMembers_eq_nil_iff, List.forall_mem_singleton, broken_inItems_eq_nil_iff,
    broken_filled_iff]

theorem Settings.forall_mem_toBlock_iff {settings : Settings} :
    (∀ item ∈ settings.toBlock.items, item.name ≠ "")
      ↔ ∀ binding ∈ settings.toList, binding.1 ≠ "" :=
  List.forall_mem_map

namespace Shipped

variable {book : SchemaBook}

/-! ## §3. What the rules demand. -/

theorem demands_filled {text : String} :
    Demands book [.keywords nonEmptyText] (.str text) [.filled text] := by
  have long : decide (1 ≤ text.toList.length) = decide (text ≠ "") := by
    rw [decide_eq_decide, Nat.one_le_iff_ne_zero, ne_eq, List.length_eq_zero_iff,
      String.toList_eq_nil_iff]
  have asks : Demands book [.keywords nonEmptyText] (.str text) _ := demands_text 1
  rw [long] at asks
  exact asks

/-- A text that may be empty. -/
theorem demands_string (text : String) :
    Demands book [.keywords { kind := some .string }] (.str text) [] := by
  rw [demands_keywords_iff, ruleViolations]
  rfl

theorem demands_bool (value : Bool) :
    Demands book [.keywords { kind := some .boolean }] (.bool value) [] := by
  rw [demands_keywords_iff, ruleViolations]
  rfl

theorem accepted_nonEmptyText_iff {text : String} :
    ruleViolations book (.str text) (.keywords nonEmptyText) = [] ↔ text ≠ "" := by
  rw [← accepts_keywords_iff, demands_filled.accepts_iff, Demand.broken_filled_iff]

theorem canonical_setting (item : Setting) :
    (Setting.codec.encode item).canonical
      = .obj [("name", .str item.name), ("value", .str item.value)] := by
  cbv

theorem canonical_settingsBlock (block : SettingsBlock) :
    (SettingsBlock.codec.encode block).canonical
      = .obj [("config-items",
          .arr (block.items.map fun item => (Setting.codec.encode item).canonical))] :=
  Codec.canonical_listRecord rfl

theorem demands_setting (item : Setting) :
    Demands book [.keywords setting] (Setting.codec.encode item).canonical item.demands := by
  rw [canonical_setting]
  exact demands_obj rfl (by cbv) (by cbv)
    (.asked rfl demands_filled (.free rfl (demands_string item.value) .nil))

theorem demands_settingsBlock (block : SettingsBlock) :
    Demands book [.keywords settingsBlock] (SettingsBlock.codec.encode block).canonical
      block.demands := by
  rw [canonical_settingsBlock]
  exact demands_obj rfl (by cbv) (by cbv)
    (.asked rfl (demands_items rfl rfl rfl demands_setting) .nil)

/-- A block among members, if there is one. -/
def blockMembers (key : String) : Option SettingsBlock → List (String × Json)
  | none => []
  | some block => [(key, (SettingsBlock.codec.encode block).canonical)]

theorem membersDemand_block {schemaOf : String → Option Schema} {key : String} {schema : Schema}
    (known : schemaOf key = some schema)
    (asks : ∀ block : SettingsBlock,
      Demands book schema (SettingsBlock.codec.encode block).canonical block.demands)
    (block : Option SettingsBlock) :
    MembersDemand book schemaOf (blockMembers key block) (SettingsBlock.demandsAt key block) := by
  cases block with
  | none => exact .nil
  | some block => exact .asked known (asks block) .nil

end Shipped

end TradingConfig
