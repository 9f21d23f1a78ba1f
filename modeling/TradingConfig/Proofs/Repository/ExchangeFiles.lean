/-
  TradingConfig.Proofs.Repository.ExchangeFiles
  ────────────────────────────────
  **THE FILES OF THE EXCHANGE BETWEEN TWO CALLS.**

  Under the shipped schema the data file always holds a record, which loads
  as long as the schema is there (`Holds`).  The schema can be lost on the
  way: where it lies at the place of the scratch file, the first save
  removes it.  After a save that answered with success it is there to stay
  (`apart_of_saved`).
-/
import TradingConfig.Proofs.Repository.Account
import TradingConfig.Proofs.Repository.Frame
import TradingConfig.Proofs.Shipped.Credentials

namespace TradingConfig.ExchangeRecord

open FileTree Shipped

variable {location : Location} {record document : ExchangeRecord} {tree after : FileTree}

/-- The codec is faithful as deep as texts are read. -/
theorem faithful : documentCodec.Faithful Json.nestingLimit :=
  DocumentClass.exchange.codec_faithful

/-! ## §1. What the files hold. -/

/-- The data file holds a record, and the record loads if the schema is
there. -/
structure Holds (location : Location) (record : ExchangeRecord) (tree : FileTree) : Prop where
  /-- The data file holds the record. -/
  stored : Behaviour.stored? documentCodec location.data tree = some record
  /-- The schema is the shipped one, or it cannot be read any more. -/
  schema : tree.read location.schema = .ok exchangeSchema.toUTF8
    ∨ ∃ fault, tree.read location.schema = .error fault
  /-- Under the schema the record loads. -/
  loads : tree.read location.schema = .ok exchangeSchema.toUTF8 →
    Store.loadDocument documentCodec location tree.read = .ok record
  /-- The schema is not the data file. -/
  apart : ∀ place, tree.locate location.schema = .ok place → tree.locate location.data ≠ .ok place

/-- Files that load under the shipped schema. -/
theorem holds_of_load (schema : tree.read location.schema = .ok exchangeSchema.toUTF8)
    (loads : Store.loadDocument documentCodec location tree.read = .ok record) :
    Holds location record tree where
  stored := Behaviour.stored?_of_load (fun _ leads => leads) loads
  schema := .inl schema
  loads _ := loads
  apart place atSchema atData := by
    obtain ⟨found, located, node⟩ := read_eq_ok_iff.mp schema
    obtain rfl : place = found := Except.ok.inj (atSchema.symm.trans located)
    exact data_ne_of_load loads (read_eq_ok_iff.mpr ⟨place, atData, node⟩)

/-- Without the schema nothing loads. -/
theorem load_of_lost {fault : FileFault} (lost : tree.read location.schema = .error fault) :
    Store.loadDocument documentCodec location tree.read
      = .error (.file location.schema fault) := by
  unfold Store.loadDocument Store.readSchema Store.readFile
  rw [lost]
  rfl

/-! ## §2. The schema after a save. -/

section Saves

variable {result : Except StoreFault Unit}
  (saved : Store.saveDocument documentCodec document location tree = (result, after))

include saved

/-- A schema apart from the other files stays. -/
theorem read_schema_of_apart {bytes : ByteArray} (apart : location.Apart tree)
    (schema : tree.read location.schema = .ok bytes) :
    after.read location.schema = .ok bytes := by
  have confined := Store.confined_of_save saved
  refine confined.directories.read schema fun place located => ?_
  obtain ⟨notData, notScratch⟩ := apart place located
  exact confined.elsewhere place notData notScratch

/-- A schema that is not the data file stays, or it is gone. -/
theorem read_schema_of_save {bytes : ByteArray}
    (apart : ∀ place, tree.locate location.schema = .ok place →
      tree.locate location.data ≠ .ok place)
    (schema : tree.read location.schema = .ok bytes) :
    after.read location.schema = .ok bytes
      ∨ ∃ fault, after.read location.schema = .error fault := by
  obtain ⟨place, located, node⟩ := read_eq_ok_iff.mp schema
  by_cases isScratch : tree.locate location.data.scratch = .ok place
  · -- the schema lies where the scratch file is made
    have same := Store.sameDirectories_of_save saved
    unfold Store.saveDocument at saved
    split at saved
    · obtain ⟨-, rfl⟩ := Prod.mk.inj saved
      exact .inl schema
    · rcases Store.replaceFile_scratch saved isScratch with ⟨-, rfl⟩ | gone
      · exact .inl schema
      · right
        refine ⟨.notFound, ?_⟩
        unfold FileTree.read
        rw [same.locate located]
        dsimp only [Bind.bind, Except.bind]
        rw [gone]
  · left
    apply read_schema_of_apart saved _ schema
    intro other atSchema
    obtain rfl : place = other := Except.ok.inj (located.symm.trans atSchema)
    exact ⟨apart place located, isScratch⟩

end Saves

/-! ## §3. What the files hold after a save. -/

theorem Holds.apart_after (holds : Holds location record tree)
    (same : SameDirectories tree after) :
    ∀ place, after.locate location.schema = .ok place → after.locate location.data ≠ .ok place := by
  intro place atSchema atData
  exact holds.apart place ((locate_eq_ok_iff same).mp atSchema) ((locate_eq_ok_iff same).mp atData)

/-- Only under the schema a document passes its check. -/
theorem Holds.schema_of_check (holds : Holds location record tree)
    (passed : Store.checkDocument documentCodec document location tree.read = .ok ()) :
    tree.read location.schema = .ok exchangeSchema.toUTF8 := by
  rcases holds.schema with schema | ⟨fault, lost⟩
  · exact schema
  · obtain ⟨bytes, found⟩ := Store.exists_read_schema passed
    cases lost.symm.trans found

/-- A save that succeeds leaves the saved record. -/
theorem Holds.of_saved (holds : Holds location record tree)
    (saved : Store.saveDocument documentCodec document location tree = (.ok (), after)) :
    Holds location document after where
  stored := Behaviour.stored?_documentText faithful (Store.read_data_after_save saved)
  schema := by
    have schema := holds.schema_of_check (Store.checkDocument_of_saveDocument saved)
    exact read_schema_of_save saved holds.apart schema
  loads schemaAfter := by
    -- the check before the save was made under the same schema
    have passed := Store.checkDocument_of_saveDocument saved
    have schema := holds.schema_of_check passed
    rw [Store.loadDocument_documentText faithful (Store.read_data_after_save saved),
      Store.checkDocument_congr (schemaAfter.trans schema.symm), passed]
    rfl
  apart := holds.apart_after (Store.sameDirectories_of_save saved)

/-- A save that fails leaves the record that was there. -/
theorem Holds.of_failed (holds : Holds location record tree) {fault : StoreFault}
    (failed : Store.saveDocument documentCodec document location tree = (.error fault, after)) :
    Holds location record after := by
  have same := Store.sameDirectories_of_save failed
  cases passed : Store.checkDocument documentCodec document location tree.read with
  | error cause =>
    -- nothing was touched
    unfold Store.saveDocument at failed
    rw [passed] at failed
    obtain ⟨-, rfl⟩ := Prod.mk.inj failed
    exact holds
  | ok _ =>
    have schema := holds.schema_of_check passed
    obtain ⟨-, bytes, data⟩ := Store.exists_read_of_load (holds.loads schema)
    have dataAfter : after.read location.data = .ok bytes :=
      same.read data fun place located =>
        Store.node?_of_failed_save failed fun beside => locate_scratch_ne located beside rfl
    have sameData : after.read location.data = tree.read location.data := dataAfter.trans data.symm
    refine ⟨?_, read_schema_of_save failed holds.apart schema, ?_, holds.apart_after same⟩
    · rw [Behaviour.stored?_congr documentCodec sameData]
      exact holds.stored
    · intro schemaAfter
      rw [Store.loadDocument_congr (schemaAfter.trans schema.symm) sameData]
      exact holds.loads schema

/-- Where the schema is there after a save that succeeded it is a file
apart: the scratch file is gone. -/
theorem apart_of_saved (holds : Holds location record tree)
    (saved : Store.saveDocument documentCodec document location tree = (.ok (), after))
    (schema : after.read location.schema = .ok exchangeSchema.toUTF8) : location.Apart after := by
  have same := Store.sameDirectories_of_save saved
  obtain ⟨found, located, node⟩ := read_eq_ok_iff.mp schema
  intro place atSchema
  refine ⟨holds.apart_after same place atSchema, fun atScratch => ?_⟩
  obtain rfl : place = found := Except.ok.inj (atSchema.symm.trans located)
  rw [Store.saveDocument_of_check (Store.checkDocument_of_saveDocument saved)] at saved
  rcases Store.replaceFile_scratch saved ((locate_eq_ok_iff same).mp atScratch) with
    ⟨⟨fault, failed⟩, -⟩ | gone
  · cases failed
  · cases gone.symm.trans node

/-! ## §4. Calls. -/

theorem run_get (location : Location) (tree : FileTree) :
    (Behaviour.files documentCodec).run location Exchange.get tree
      = (Program.seen toExchange (Store.loadDocument documentCodec location tree.read), tree) :=
  rfl

/-- A save writes the record with the credentials that are stored, and looks
it up. -/
theorem run_save (loads : Store.loadDocument documentCodec location tree.read = .ok record)
    (exchange : Exchange) :
    (Behaviour.files documentCodec).run location exchange.save tree
      = match Store.saveDocument documentCodec (exchange.toRecord record.credentials) location
            tree with
        | (.error fault, after) => (.error (.store fault), after)
        | (.ok (), after) =>
          (Program.seen toExchange (Store.loadDocument documentCodec location after.read),
            after) := by
  have loaded : (Behaviour.files documentCodec).load location tree = .ok record := loads
  rw [Exchange.save, Behaviour.run_loading, loaded]
  show (Behaviour.files documentCodec).run location (.saving _ Exchange.get) tree = _
  rw [Behaviour.run_saving]
  cases ended : Store.saveDocument documentCodec (exchange.toRecord record.credentials) location
      tree with
  | mk answer after =>
    have saves : (Behaviour.files documentCodec).save (exchange.toRecord record.credentials)
        location tree = (answer, after) := ended
    rw [saves]
    cases answer with
    | error fault => rfl
    | ok _ => rfl

/-- Without the schema a save ends with the fault of the load. -/
theorem run_save_of_lost {fault : FileFault} (lost : tree.read location.schema = .error fault)
    (exchange : Exchange) :
    (Behaviour.files documentCodec).run location exchange.save tree
      = (.error (.store (.file location.schema fault)), tree) := by
  have fails : (Behaviour.files documentCodec).load location tree
      = .error (.file location.schema fault) := load_of_lost lost
  rw [Exchange.save, Behaviour.run_loading, fails]

end TradingConfig.ExchangeRecord
