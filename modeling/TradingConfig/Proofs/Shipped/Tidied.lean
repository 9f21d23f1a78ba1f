/-
  TradingConfig.Proofs.Shipped.Tidied
  ────────────────────────────────
  **A CLEAN DOCUMENT STAYS CLEAN WHEN IT IS TIDIED.**

  A record that is read and stored again is tidied: it has a settings block,
  in the order of the names, and is the same otherwise
  (`BlockHolder.tidied_of_again`).  The shipped schemas ask nothing about the
  order, and of a block that was not there nothing that an empty one lacks.
  So what loads under a shipped schema is clean (`DocumentClass.clean_of_load`),
  and stays so when one of its records is tidied
  (`DocumentClass.clean_of_tidied`).  The rules of the shipped schemas are
  all that this takes of a validator (`DocumentClass.checked_shipped`).
-/
import TradingConfig.Proofs.Record.NormalForm
import TradingConfig.Proofs.Repository.Acceptance
import TradingConfig.Proofs.Shipped.StoredExchange

namespace TradingConfig

/-! ## §1. Records. -/

/-- A record is the same as before but for its settings block, which lists
the same settings in the order of their names. -/
def BlockHolder.Tidied {Record : Type} (holder : BlockHolder Record) (old new : Record) : Prop :=
  ∃ block, new = holder.withBlock old block
    ∧ block.items.Perm (Settings.itemsOf (holder.block old))
    ∧ SettingsBlock.IsNormal (some block)

/-- Where the settings block is all that is mapped, a record is tidied by
being read and stored again. -/
theorem BlockHolder.tidied_of_again {Record : Type} {holder : BlockHolder Record}
    {again : Record → Except Malformed Record} {old new : Record}
    (maps : again old
      = (Settings.ofBlock (holder.owner old) (holder.block old)).map fun settings =>
          holder.withBlock old settings.toBlock)
    (stored : again old = .ok new) : holder.Tidied old new := by
  rw [maps] at stored
  obtain ⟨settings, read, rfl⟩ := exists_ok_of_map stored
  exact ⟨settings.toBlock, rfl, Settings.toBlock_perm read, settings.isNormal_toBlock⟩

theorem StrategyRecord.tidied_of_toStrategy {stored : StrategyRecord} {strategy : Strategy}
    (held : stored.toStrategy = .ok strategy) : holder.Tidied stored strategy.toRecord := by
  refine BlockHolder.tidied_of_again stored.again_eq ?_
  unfold again
  rw [held]
  rfl

theorem ExchangeRecord.tidied_of_toExchange {stored : ExchangeRecord} {exchange : Exchange}
    (held : stored.toExchange = .ok exchange) :
    holder.Tidied stored (exchange.toRecord stored.credentials) := by
  refine BlockHolder.tidied_of_again stored.again_eq ?_
  unfold again
  rw [held]
  rfl

section Demands

open Demand

theorem SettingsBlock.met_demandsAt_iff {key : String} {block : Option SettingsBlock} :
    (∀ member ∈ demandsAt key block, broken member.2 = [])
      ↔ ∀ item ∈ Settings.itemsOf block, item.name ≠ "" := by
  cases block with
  | none => exact iff_of_true (fun _ none => nomatch none) fun _ none => nomatch none
  | some block =>
    rw [demandsAt, List.forall_mem_singleton, broken_demands_iff]
    rfl

/-- A strategy that is tidied meets the demands that it met. -/
theorem StrategyRecord.met_of_tidied {old new : StrategyRecord} (tidied : holder.Tidied old new)
    (met : broken old.demands = []) : broken new.demands = [] := by
  obtain ⟨block, rfl, same, -⟩ := tidied
  unfold demands at met ⊢
  rw [broken_inMembers_eq_nil_iff] at met ⊢
  simp only [List.forall_mem_cons, SettingsBlock.met_demandsAt_iff] at met ⊢
  obtain ⟨className, id, name, named⟩ := met
  exact ⟨className, id, name, fun item member => named item (same.mem_iff.mp member)⟩

/-- So does the exchange. -/
theorem ExchangeRecord.met_of_tidied {old new : ExchangeRecord} (tidied : holder.Tidied old new)
    (met : broken old.demands = []) : broken new.demands = [] := by
  obtain ⟨block, rfl, same, -⟩ := tidied
  unfold demands at met ⊢
  rw [broken_inMembers_eq_nil_iff] at met ⊢
  simp only [List.forall_mem_cons, List.forall_mem_append,
    SettingsBlock.met_demandsAt_iff] at met ⊢
  obtain ⟨adapter, credentials, name, network, named⟩ := met
  exact ⟨adapter, credentials, name, network,
    fun item member => named item (same.mem_iff.mp member)⟩

end Demands

/-! ## §2. Documents. -/

namespace DocumentClass

/-- A document is the same as before but for the settings block of the first
record of an identifier, which is tidied.  Markets have no settings. -/
def Tidied : (documentClass : DocumentClass) → (id : String) →
    documentClass.Document → documentClass.Document → Prop
  | .strategies, id, document, saved =>
    ∃ before old new later, document = before ++ old :: later ∧ saved = before ++ new :: later
      ∧ old.id = id ∧ (∀ other ∈ before, other.id ≠ id) ∧ StrategyRecord.holder.Tidied old new
  | .markets, _, document, saved => saved = document
  | .exchange, _, document, saved => ExchangeRecord.holder.Tidied document saved

/-- The text of the shipped schema of a class. -/
def shippedSchema : DocumentClass → String
  | .strategies => Shipped.strategiesSchema
  | .markets => Shipped.marketsSchema
  | .exchange => Shipped.exchangeSchema

/-- The value of the shipped schema of a class. -/
def shippedFile : DocumentClass → Json
  | .strategies => Shipped.strategiesSchemaFile
  | .markets => Shipped.marketsSchemaFile
  | .exchange => Shipped.exchangeSchemaFile

/-- The rules of the shipped schema of a class. -/
def shippedBook : DocumentClass → SchemaBook
  | .strategies => Shipped.strategiesBook
  | .markets => Shipped.marketsBook
  | .exchange => Shipped.exchangeBook

/-- What is written of a document breaks no rule of the shipped schema. -/
def Clean (documentClass : DocumentClass) (document : documentClass.Document) : Prop :=
  documentClass.shippedBook.violations (documentClass.codec.encode document).canonical = []

section Shipped

open Demand

variable {documentClass : DocumentClass} {location : Location} {tree : FileTree}

theorem ofText_shippedSchema :
    Json.ofText documentClass.shippedSchema = .ok documentClass.shippedFile := by
  cases documentClass with
  | strategies => exact Shipped.ofText_strategiesSchema
  | markets => exact Shipped.ofText_marketsSchema
  | exchange => exact Shipped.ofText_exchangeSchema

theorem ofJson?_shippedFile :
    SchemaBook.ofJson? documentClass.shippedFile = some documentClass.shippedBook := by
  cases documentClass with
  | strategies => exact Shipped.ofJson?_strategiesSchemaFile
  | markets => exact Shipped.ofJson?_marketsSchemaFile
  | exchange => exact Shipped.ofJson?_exchangeSchemaFile

theorem readSchema_shipped {files : Store.Files} {path : Path}
    (holds : files path = .ok documentClass.shippedSchema.toUTF8) :
    Store.readSchema files path = .ok documentClass.shippedBook.complaints :=
  Store.readSchema_of_text holds ofText_shippedSchema ofJson?_shippedFile

/-- Under the shipped schema a store works with every validator that finds
the same rules in it as it does with that of the known keywords. -/
theorem checked_shipped {validator : Validator}
    (finds : validator.compile documentClass.shippedFile
      = .ok documentClass.shippedBook.complaints)
    (schema : tree.read location.schema = .ok documentClass.shippedSchema.toUTF8) :
    (Store.checked documentClass.codec validator).load location tree
        = (Store.checked documentClass.codec).load location tree
      ∧ ∀ document, (Store.checked documentClass.codec validator).save document location tree
        = (Store.checked documentClass.codec).save document location tree := by
  refine Store.checked_congr fun bytes file found read => ?_
  obtain rfl : documentClass.shippedSchema.toUTF8 = bytes := Except.ok.inj (schema.symm.trans found)
  rw [Store.ofBytes_toUTF8, ofText_shippedSchema] at read
  obtain rfl : documentClass.shippedFile = file := Except.ok.inj read
  rw [finds, Validator.compile_keywords ofJson?_shippedFile]

/-- A document that loads is clean. -/
theorem clean_of_load {document : documentClass.Document}
    (schema : tree.read location.schema = .ok documentClass.shippedSchema.toUTF8)
    (loads : Store.loadDocument documentClass.codec location tree.read = .ok document) :
    documentClass.Clean document := by
  cases documentClass with
  | strategies =>
    exact Shipped.violations_of_load Shipped.describes_strategies schema
      (Shipped.readSchema_strategiesSchema schema) loads
  | markets =>
    exact Shipped.violations_of_load Shipped.describes_markets schema
      (Shipped.readSchema_marketsSchema schema) loads
  | exchange => exact Shipped.violations_record_eq_nil_iff.mpr (Shipped.met_of_load schema loads)

/-- A document of strategies is clean where every strategy is as demanded. -/
theorem clean_strategies_iff {records : List StrategyRecord} :
    strategies.Clean records ↔ ∀ stored ∈ records, broken stored.demands = [] := by
  show Shipped.strategiesBook.violations
    (StrategyRecord.documentCodec.encode records).canonical = [] ↔ _
  rw [Shipped.violations_strategies, broken_inMembers_eq_nil_iff, List.forall_mem_singleton,
    broken_inItems_eq_nil_iff]

/-- A clean document stays so when it is tidied. -/
theorem clean_of_tidied {id : String} {document saved : documentClass.Document}
    (tidied : documentClass.Tidied id document saved) (clean : documentClass.Clean document) :
    documentClass.Clean saved := by
  cases documentClass with
  | strategies =>
    obtain ⟨before, old, new, later, rfl, rfl, -, -, tidied⟩ := tidied
    obtain ⟨earlier, rest⟩ := List.forall_mem_append.mp (clean_strategies_iff.mp clean)
    obtain ⟨met, others⟩ := List.forall_mem_cons.mp rest
    refine clean_strategies_iff.mpr (List.forall_mem_append.mpr ⟨earlier, ?_⟩)
    exact List.forall_mem_cons.mpr ⟨StrategyRecord.met_of_tidied tidied met, others⟩
  | markets =>
    obtain rfl : saved = document := tidied
    exact clean
  | exchange =>
    exact Shipped.violations_record_eq_nil_iff.mpr
      (ExchangeRecord.met_of_tidied tidied (Shipped.violations_record_eq_nil_iff.mp clean))

end Shipped

end DocumentClass

end TradingConfig
