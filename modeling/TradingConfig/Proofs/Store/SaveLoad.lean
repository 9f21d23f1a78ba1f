/-
  TradingConfig.Proofs.Store.SaveLoad
  ────────────────────────────────
  **NOTHING IS WRITTEN THAT WOULD NOT LOAD BACK.**

  The check before a save and the load after it look at one value: the text
  of a document is read as the canonical form of what was encoded, which is
  what was checked.  So a file that holds the text of a document loads as
  that document where the check passes, and fails as the check does where
  it does not (`loadDocument_documentText`).  A save that succeeds puts the
  text in place and leaves the schema alone, if the schema is a file apart
  (`load_after_save`).  What the schema asks for plays no part in this, so
  it holds for every validator.  Where the schema does play a part, a
  validator matters only through what it makes of the one schema file
  (`checked_congr`).
-/
import TradingConfig.Proofs.File.Replace
import TradingConfig.Proofs.Record.Codec

namespace TradingConfig

/-- The schema file is neither the data file nor its scratch file. -/
def Location.Apart (tree : FileTree) (location : Location) : Prop :=
  ∀ place, tree.locate location.schema = .ok place →
    tree.locate location.data ≠ .ok place ∧ tree.locate location.data.scratch ≠ .ok place

/-- A schema at a third place is a file apart. -/
theorem Location.Apart.of_locate {tree : FileTree} {location : Location}
    {schema data scratch : Place} (schemaAt : tree.locate location.schema = .ok schema)
    (dataAt : tree.locate location.data = .ok data)
    (scratchAt : tree.locate location.data.scratch = .ok scratch)
    (notData : data ≠ schema) (notScratch : scratch ≠ schema) : location.Apart tree := by
  intro place located
  obtain rfl : schema = place := Except.ok.inj (schemaAt.symm.trans located)
  rw [dataAt, scratchAt]
  exact ⟨fun same => notData (Except.ok.inj same), fun same => notScratch (Except.ok.inj same)⟩

/-- Files stay apart where the directories stay. -/
theorem Location.Apart.of_sameDirectories {before after : FileTree} {location : Location}
    (apart : location.Apart before) (same : FileTree.SameDirectories before after) :
    location.Apart after := by
  intro place located
  obtain ⟨notData, notScratch⟩ := apart place ((FileTree.locate_eq_ok_iff same).mp located)
  exact ⟨fun leads => notData ((FileTree.locate_eq_ok_iff same).mp leads),
    fun leads => notScratch ((FileTree.locate_eq_ok_iff same).mp leads)⟩

namespace FileTree

/-! ## §1. Reading. -/

theorem read_eq_ok_iff {tree : FileTree} {path : Path} {content : ByteArray} :
    tree.read path = .ok content
      ↔ ∃ place, tree.locate path = .ok place ∧ tree.node? place = some (.file content) := by
  constructor
  · intro found
    obtain ⟨place, located, found⟩ := exists_ok_of_bind found
    refine ⟨place, located, ?_⟩
    split at found
    · cases found
    · cases found
    next node => rw [node, Except.ok.inj found]
  · rintro ⟨place, located, node⟩
    unfold read
    rw [located]
    dsimp only [Bind.bind, Except.bind]
    rw [node]

/-- A file at a place that keeps its node is read as before. -/
theorem SameDirectories.read {before after : FileTree} (same : SameDirectories before after)
    {path : Path} {content : ByteArray} (found : before.read path = .ok content)
    (kept : ∀ place, before.locate path = .ok place → after.node? place = before.node? place) :
    after.read path = .ok content := by
  obtain ⟨place, located, node⟩ := read_eq_ok_iff.mp found
  exact read_eq_ok_iff.mpr ⟨place, same.locate located, (kept place located).trans node⟩

end FileTree

/-- Two validators make the same of the schema file at a path. -/
def Validator.AgreeOn (validator other : Validator) (files : Store.Files) (path : Path) : Prop :=
  ∀ bytes file, files path = .ok bytes → Json.ofBytes bytes = .ok file →
    other.compile file = validator.compile file

namespace Store

open FileTree

variable {D : Type} {codec : Codec D} {validator : Validator}

/-! ## §2. Loading a text that was made for a document. -/

theorem readFile_eq_ok {files : Files} {path : Path} {bytes : ByteArray}
    (found : readFile files path = .ok bytes) : files path = .ok bytes :=
  eq_ok_of_mapError found

/-- The two files are all that a load reads. -/
theorem loadDocument_congr {location : Location} {files others : Files}
    (schema : others location.schema = files location.schema)
    (data : others location.data = files location.data) :
    loadDocument codec location others validator = loadDocument codec location files validator := by
  unfold loadDocument readSchema readFile
  rw [schema, data]

/-- A document that loads has both files. -/
theorem exists_read_of_load {document : D} {location : Location} {files : Files}
    (loads : loadDocument codec location files validator = .ok document) :
    (∃ bytes, files location.schema = .ok bytes) ∧ ∃ bytes, files location.data = .ok bytes := by
  obtain ⟨verdict, usable, loads⟩ := exists_ok_of_bind loads
  obtain ⟨schema, found, -⟩ := exists_ok_of_bind usable
  obtain ⟨data, foundData, -⟩ := exists_ok_of_bind loads
  exact ⟨⟨schema, readFile_eq_ok found⟩, data, readFile_eq_ok foundData⟩

/-- A file holds the text of a value. -/
def Holds (files : Files) (path : Path) (value : Json) : Prop :=
  ∃ bytes, files path = .ok bytes ∧ Json.ofBytes bytes = .ok value

theorem check_eq_ok_iff {verdict : ValueCheck} {value : Json} {path : Path} :
    check verdict value path = .ok () ↔ verdict value = [] := by
  unfold check
  split
  next clean => exact iff_of_true rfl clean
  next unclean => exact iff_of_false (fun passed => by cases passed) unclean

theorem check_of_complaints {verdict : ValueCheck} {value : Json} (unclean : verdict value ≠ [])
    (path : Path) : check verdict value path = .error (.rejected path (verdict value)) := by
  unfold check
  split
  next clean => exact absurd clean unclean
  · rfl

/-- A document that loads is read from the value in its file, of which the
schema does not complain. -/
theorem exists_value_of_load {document : D} {location : Location} {files : Files}
    (loads : loadDocument codec location files validator = .ok document) :
    ∃ verdict value, readSchema files location.schema validator = .ok verdict
      ∧ Holds files location.data value ∧ verdict value = []
      ∧ codec.decode value = .ok document := by
  obtain ⟨verdict, usable, loads⟩ := exists_ok_of_bind loads
  obtain ⟨bytes, found, loads⟩ := exists_ok_of_bind loads
  obtain ⟨value, read, loads⟩ := exists_ok_of_bind loads
  obtain ⟨_, passed, decoded⟩ := exists_ok_of_bind loads
  exact ⟨verdict, value, usable, ⟨bytes, readFile_eq_ok found, eq_ok_of_mapError read⟩,
    check_eq_ok_iff.mp passed, eq_ok_of_mapError decoded⟩

/-- The load of such a value ends as its reader does. -/
theorem loadDocument_of_holds {location : Location} {files : Files} {verdict : ValueCheck}
    {value : Json} (schema : readSchema files location.schema validator = .ok verdict)
    (holds : Holds files location.data value) (clean : verdict value = []) :
    loadDocument codec location files validator
      = (codec.decode value).mapError fun fault => .rejected location.data [.shape fault] := by
  obtain ⟨bytes, found, read⟩ := holds
  have passed : check verdict value location.data = .ok () := check_eq_ok_iff.mpr clean
  unfold loadDocument readFile
  rw [schema, found]
  simp only [Bind.bind, Except.bind, Except.mapError, read, passed]

/-- So the document is loaded exactly if it is read. -/
theorem exists_load_iff_of_holds {location : Location} {files : Files} {verdict : ValueCheck}
    {value : Json} (schema : readSchema files location.schema validator = .ok verdict)
    (holds : Holds files location.data value) (clean : verdict value = []) :
    (∃ document, loadDocument codec location files validator = .ok document)
      ↔ ∃ document, codec.decode value = .ok document := by
  rw [loadDocument_of_holds schema holds clean]
  cases codec.decode value with
  | ok document => exact iff_of_true ⟨document, rfl⟩ ⟨document, rfl⟩
  | error fault =>
    refine iff_of_false ?_ ?_
    · rintro ⟨document, loads⟩
      cases loads
    · rintro ⟨document, read⟩
      cases read

/-- Where it is not, the shape of the value is the only complaint. -/
theorem exists_shape_of_holds {location : Location} {files : Files} {verdict : ValueCheck}
    {value : Json} (schema : readSchema files location.schema validator = .ok verdict)
    (holds : Holds files location.data value) (clean : verdict value = [])
    {fault : StoreFault} (failed : loadDocument codec location files validator = .error fault) :
    ∃ shape, fault = .rejected location.data [.shape shape] := by
  rw [loadDocument_of_holds schema holds clean] at failed
  cases decoded : codec.decode value with
  | ok document =>
    rw [decoded] at failed
    cases failed
  | error shape =>
    rw [decoded] at failed
    exact ⟨shape, (Except.error.inj failed).symm⟩

/-- The bytes of a text are read as the text. -/
theorem ofBytes_toUTF8 (text : String) : Json.ofBytes text.toUTF8 = Json.ofText text := by
  unfold Json.ofBytes Json.ofText
  rw [Symbol.ofBytes_toUTF8]

/-- The text of a document is read as what was encoded. -/
theorem ofBytes_documentText (faithful : codec.Faithful Json.nestingLimit) (document : D) :
    Json.ofBytes (documentText codec document).toUTF8 = .ok (codec.encode document).canonical := by
  rw [ofBytes_toUTF8]
  exact Json.ofText_prettyText_newLine (faithful.fits document)

/-- Documents with one text are one document. -/
theorem eq_of_documentText (faithful : codec.Faithful Json.nestingLimit) {document other : D}
    (same : (documentText codec document).toUTF8 = (documentText codec other).toUTF8) :
    document = other := by
  have read := ofBytes_documentText faithful document
  rw [same, ofBytes_documentText faithful other] at read
  have decoded := congrArg codec.decode (Except.ok.inj read)
  rw [faithful.back, faithful.back] at decoded
  exact (Except.ok.inj decoded).symm

/-- A file with the text of a value is read as what the validator makes of
the value. -/
theorem readSchema_of_compile {files : Files} {path : Path} {text : String} {file : Json}
    {verdict : ValueCheck} (holds : files path = .ok text.toUTF8)
    (read : Json.ofText text = .ok file) (usable : validator.compile file = .ok verdict) :
    readSchema files path validator = .ok verdict := by
  have bytes : Json.ofBytes text.toUTF8 = .ok file := by
    rw [ofBytes_toUTF8]
    exact read
  unfold readSchema readFile
  rw [holds]
  show ((Json.ofBytes text.toUTF8).mapError _ >>= _) = _
  rw [bytes]
  dsimp only [Bind.bind, Except.bind, Except.mapError]
  rw [usable]

/-- A file with the text of a schema in the known keywords is read as its
rules. -/
theorem readSchema_of_text {files : Files} {path : Path} {text : String} {file : Json}
    {book : SchemaBook} (holds : files path = .ok text.toUTF8)
    (read : Json.ofText text = .ok file) (usable : SchemaBook.ofJson? file = some book) :
    readSchema files path = .ok book.complaints :=
  readSchema_of_compile holds read (Validator.compile_keywords usable)

/-- What is read as a schema depends on the validator only through what it
makes of the file. -/
theorem readSchema_congr {other : Validator} {files : Files} {path : Path}
    (agree : validator.AgreeOn other files path) :
    readSchema files path other = readSchema files path validator := by
  unfold readSchema readFile
  cases found : files path with
  | error cause => rfl
  | ok bytes =>
    dsimp only [Bind.bind, Except.bind, Except.mapError]
    cases read : Json.ofBytes bytes with
    | error fault => rfl
    | ok file =>
      dsimp only
      rw [agree bytes file found read]

/-- The check of a document under a schema that is usable. -/
theorem checkDocument_of_readSchema {location : Location} {files : Files} {verdict : ValueCheck}
    (schema : readSchema files location.schema validator = .ok verdict) (document : D) :
    checkDocument codec document location files validator
      = check verdict (codec.encode document).canonical location.data := by
  unfold checkDocument
  rw [schema]
  rfl

/-- A document of which the schema does not complain passes its check. -/
theorem checkDocument_of_clean {document : D} {location : Location} {files : Files}
    {verdict : ValueCheck} (schema : readSchema files location.schema validator = .ok verdict)
    (clean : verdict (codec.encode document).canonical = []) :
    checkDocument codec document location files validator = .ok () := by
  rw [checkDocument_of_readSchema schema, check_eq_ok_iff]
  exact clean

/-- The schema is all that the check of a document reads. -/
theorem checkDocument_congr {location : Location} {files holding : Files}
    (schema : holding location.schema = files location.schema) (document : D) :
    checkDocument codec document location holding validator
      = checkDocument codec document location files validator := by
  unfold checkDocument readSchema readFile
  rw [schema]

/-- A file that holds the text of a document loads as the document where
the check before a save passes, and fails with its fault where it fails. -/
theorem loadDocument_documentText (faithful : codec.Faithful Json.nestingLimit) {document : D}
    {location : Location} {files : Files}
    (holds : files location.data = .ok (documentText codec document).toUTF8) :
    loadDocument codec location files validator
      = (checkDocument codec document location files validator).map fun _ => document := by
  unfold loadDocument checkDocument
  -- both sides read the schema first and fail alike without one
  cases readSchema files location.schema validator with
  | error fault => rfl
  | ok verdict =>
    show (do
      let bytes ← readFile files location.data
      let value ← (Json.ofBytes bytes).mapError fun fault => .rejected location.data [.text fault]
      check verdict value location.data
      (codec.decode value).mapError fun fault => .rejected location.data [.shape fault])
        = (check verdict (codec.encode document).canonical location.data).map fun _ => document
    unfold readFile
    rw [holds]
    show (do
      let value ← (Json.ofBytes (documentText codec document).toUTF8).mapError
        fun fault => .rejected location.data [.text fault]
      check verdict value location.data
      (codec.decode value).mapError fun fault => .rejected location.data [.shape fault])
        = (check verdict (codec.encode document).canonical location.data).map fun _ => document
    rw [ofBytes_documentText faithful]
    show (do
      check verdict (codec.encode document).canonical location.data
      (codec.decode (codec.encode document).canonical).mapError
        fun fault => .rejected location.data [.shape fault])
        = (check verdict (codec.encode document).canonical location.data).map fun _ => document
    rw [faithful.back document]
    cases check verdict (codec.encode document).canonical location.data <;> rfl

/-- A schema that accepts every value. -/
def anyValue : String := "true"

theorem readSchema_of_anyValue {files : Files} {path : Path}
    (holds : files path = .ok anyValue.toUTF8) :
    readSchema files path = .ok (SchemaBook.mk [] []).complaints :=
  readSchema_of_text holds (by cbv) rfl

/-- Under a schema that accepts every value every document passes. -/
theorem checkDocument_of_anyValue {location : Location} {files : Files}
    (schema : files location.schema = .ok anyValue.toUTF8) (document : D) :
    checkDocument codec document location files = .ok () :=
  checkDocument_of_clean (readSchema_of_anyValue schema) rfl

/-- Under such a schema the text of a document loads as the document. -/
theorem loadDocument_of_anyValue (faithful : codec.Faithful Json.nestingLimit) {document : D}
    {location : Location} {files : Files}
    (schema : files location.schema = .ok anyValue.toUTF8)
    (data : files location.data = .ok (documentText codec document).toUTF8) :
    loadDocument codec location files = .ok document := by
  rw [loadDocument_documentText faithful data, checkDocument_of_anyValue schema]
  rfl

/-! ## §3. Saving. -/

/-- A save either fails in the check, or it replaces the data file. -/
theorem saveDocument_of_check {document : D} {location : Location} {tree : FileTree}
    (passed : checkDocument codec document location tree.read validator = .ok ()) :
    saveDocument codec document location tree validator
      = replaceFile location.data (documentText codec document).toUTF8 tree := by
  unfold saveDocument
  rw [passed]

theorem checkDocument_of_saveDocument {document : D} {location : Location}
    {tree after : FileTree}
    (saved : saveDocument codec document location tree validator = (.ok (), after)) :
    checkDocument codec document location tree.read validator = .ok () := by
  unfold saveDocument at saved
  split at saved
  · cases (Prod.mk.inj saved).1
  next passed => exact passed

/-- A document that passes its check has a schema file. -/
theorem exists_read_schema {document : D} {location : Location} {files : Files}
    (passed : checkDocument codec document location files validator = .ok ()) :
    ∃ bytes, files location.schema = .ok bytes := by
  obtain ⟨verdict, usable, -⟩ := exists_ok_of_bind passed
  obtain ⟨bytes, found, -⟩ := exists_ok_of_bind usable
  exact ⟨bytes, readFile_eq_ok found⟩

/-- A save that succeeds leaves the schema file as it was. -/
theorem read_schema_after_save {document : D} {location : Location} {tree after : FileTree}
    (apart : location.Apart tree)
    (saved : saveDocument codec document location tree validator = (.ok (), after)) :
    after.read location.schema = tree.read location.schema := by
  have passed := checkDocument_of_saveDocument saved
  obtain ⟨bytes, schema⟩ := exists_read_schema passed
  rw [saveDocument_of_check passed] at saved
  obtain ⟨place, leads, same, -, others⟩ := replaceFile_ok saved
  -- the schema file is at neither of the two places that a replacement touches
  rw [schema]
  refine same.read schema fun at_ located => ?_
  obtain ⟨notData, notScratch⟩ := apart at_ located
  exact others at_ (fun isPlace => notData (isPlace ▸ leads)) notScratch

/-- A save that succeeds puts the text of the document into the data
file. -/
theorem read_data_after_save {document : D} {location : Location} {tree after : FileTree}
    (saved : saveDocument codec document location tree validator = (.ok (), after)) :
    after.read location.data = .ok (documentText codec document).toUTF8 := by
  rw [saveDocument_of_check (checkDocument_of_saveDocument saved)] at saved
  obtain ⟨place, leads, same, content, -⟩ := replaceFile_ok saved
  exact read_eq_ok_iff.mpr ⟨place, same.locate leads, content⟩

/-- The data file holds what is written of the document then. -/
theorem holds_after_save (faithful : codec.Faithful Json.nestingLimit) {document : D}
    {location : Location} {tree after : FileTree}
    (saved : saveDocument codec document location tree validator = (.ok (), after)) :
    Holds after.read location.data (codec.encode document).canonical :=
  ⟨_, read_data_after_save saved, ofBytes_documentText faithful document⟩

/-- What was saved is loaded. -/
theorem load_after_save (faithful : codec.Faithful Json.nestingLimit) {document : D}
    {location : Location} {tree after : FileTree} (apart : location.Apart tree)
    (saved : saveDocument codec document location tree validator = (.ok (), after)) :
    loadDocument codec location after.read validator = .ok document := by
  rw [loadDocument_documentText faithful (read_data_after_save saved),
    checkDocument_congr (read_schema_after_save apart saved) document,
    checkDocument_of_saveDocument saved]
  rfl

/-- A save makes and removes no directory. -/
theorem sameDirectories_of_save {document : D} {location : Location} {tree after : FileTree}
    {result : Except StoreFault Unit}
    (saved : saveDocument codec document location tree validator = (result, after)) :
    SameDirectories tree after := by
  unfold saveDocument at saved
  split at saved
  · obtain ⟨-, rfl⟩ := Prod.mk.inj saved
    exact SameDirectories.refl tree
  · cases result with
    | error fault => exact (replaceFile_error saved).1
    | ok _ =>
      obtain ⟨place, leads, same, -⟩ := replaceFile_ok saved
      exact same

/-- A save that fails leaves every place as it was, except that of the
scratch file. -/
theorem node?_of_failed_save {document : D} {location : Location} {tree after : FileTree}
    {fault : StoreFault}
    (failed : saveDocument codec document location tree validator = (.error fault, after))
    {place : Place} (notScratch : tree.locate location.data.scratch ≠ .ok place) :
    after.node? place = tree.node? place := by
  unfold saveDocument at failed
  split at failed
  · obtain ⟨-, rfl⟩ := Prod.mk.inj failed
    rfl
  · exact (replaceFile_error failed).2 place notScratch

/-- A save that fails leaves the data file as it was, and it loads as
before. -/
theorem load_after_failed_save {saved document : D} {location : Location} {tree after : FileTree}
    {fault : StoreFault} (apart : location.Apart tree)
    (loads : loadDocument codec location tree.read validator = .ok document)
    (failed : saveDocument codec saved location tree validator = (.error fault, after)) :
    after.read location.data = tree.read location.data
      ∧ loadDocument codec location after.read validator = .ok document := by
  have same := sameDirectories_of_save failed
  obtain ⟨⟨schemaBytes, schema⟩, dataBytes, data⟩ := exists_read_of_load loads
  have schemaAfter : after.read location.schema = .ok schemaBytes :=
    same.read schema fun place located => node?_of_failed_save failed (apart place located).2
  have dataAfter : after.read location.data = .ok dataBytes :=
    same.read data fun place located =>
      node?_of_failed_save failed fun beside => locate_scratch_ne located beside rfl
  refine ⟨dataAfter.trans data.symm, ?_⟩
  rw [loadDocument_congr (schemaAfter.trans schema.symm) (dataAfter.trans data.symm)]
  exact loads

/-- Two validators that make the same of the schema file are the same to a
store: it loads alike and saves alike. -/
theorem checked_congr {other : Validator} {location : Location} {tree : FileTree}
    (agree : validator.AgreeOn other tree.read location.schema) :
    (checked codec other).load location tree = (checked codec validator).load location tree
      ∧ ∀ document, (checked codec other).save document location tree
        = (checked codec validator).save document location tree := by
  have reads := readSchema_congr agree
  constructor
  · have loads : loadDocument codec location tree.read other
        = loadDocument codec location tree.read validator := by
      unfold loadDocument
      rw [reads]
    unfold checked
    dsimp only
    rw [loads]
  · intro document
    have saves : saveDocument codec document location tree other
        = saveDocument codec document location tree validator := by
      unfold saveDocument checkDocument
      rw [reads]
    unfold checked
    dsimp only
    rw [saves]

/-- For the documents of every class, whatever validator decides about
schemas: where the schema is a file apart, a document that was saved is
loaded; and a file that holds its text loads as the document exactly where
the check before the save passes under the same schema, and fails with the
fault of the check where it fails. -/
theorem save_then_load (validator : Validator) (documentClass : DocumentClass)
    (document : documentClass.Document) (location : Location) (tree : FileTree)
    (apart : location.Apart tree) :
    (∀ after,
        (checked documentClass.codec validator).save document location tree
          = (.answer (.ok ()), after) →
        (checked documentClass.codec validator).load location after
          = (.answer (.ok document), after))
      ∧ ∀ holding : FileTree, holding.read location.schema = tree.read location.schema →
        holding.read location.data = .ok (documentText documentClass.codec document).toUTF8 →
        (checked documentClass.codec validator).load location holding
          = (.answer ((checkDocument documentClass.codec document location tree.read
              validator).map fun _ => document), holding) := by
  have faithful := documentClass.codec_faithful
  constructor
  · intro after saved
    have saved : saveDocument documentClass.codec document location tree validator
        = (.ok (), after) := by
      obtain ⟨answer, left⟩ := Prod.mk.inj saved
      exact Prod.ext (Reply.answer.inj answer) left
    show (Reply.answer (loadDocument documentClass.codec location after.read validator), after) = _
    rw [load_after_save faithful apart saved]
  · intro holding schema holds
    show (Reply.answer (loadDocument documentClass.codec location holding.read validator),
      holding) = _
    rw [loadDocument_documentText faithful holds, checkDocument_congr schema document]

/-! ## §4. An instance. -/

/-- The location of the instance. -/
def sampleLocation : Location := ⟨⟨"markets.json"⟩, ⟨"schema.json"⟩⟩

/-- A schema that wants a list of markets. -/
def sampleSchema : String := "\x7b\"required\":[\"markets\"]\x7d"

/-- A tree with the schema and no data yet. -/
def sampleTree : FileTree := ⟨[], [(["schema.json"], .file sampleSchema.toUTF8)]⟩

theorem sample_apart : sampleLocation.Apart sampleTree := by
  have schemaAt : sampleTree.locate sampleLocation.schema = .ok ["schema.json"] := rfl
  have dataAt : sampleTree.locate sampleLocation.data = .ok ["markets.json"] := rfl
  have scratchAt : sampleTree.locate sampleLocation.data.scratch = .ok ["markets.json.tmp"] := rfl
  exact .of_locate schemaAt dataAt scratchAt (by decide) (by decide)

theorem sample_schema :
    readSchema sampleTree.read sampleLocation.schema
      = .ok (SchemaBook.mk [.keywords { required := ["markets"] }] []).complaints := by
  have read : Json.ofText sampleSchema = .ok (.obj [("required", .arr [.str "markets"])]) := by cbv
  exact readSchema_of_text rfl read (by cbv)

/-- A market with a quote, a backslash and control characters in its texts. -/
def sampleDocument : List MarketRecord := [⟨"a\"b\\", "\n", "\u0001", "é", true, ""⟩]

theorem sample_saved :
    ∃ after, saveDocument MarketRecord.documentCodec sampleDocument sampleLocation sampleTree
      = (.ok (), after) := by
  have passed : checkDocument MarketRecord.documentCodec sampleDocument sampleLocation
      sampleTree.read = .ok () := checkDocument_of_clean sample_schema (by cbv)
  refine ⟨(replaceFile sampleLocation.data
    (documentText MarketRecord.documentCodec sampleDocument).toUTF8 sampleTree).2, ?_⟩
  rw [saveDocument_of_check passed]
  exact Prod.ext rfl rfl

/-- The market is saved and loaded, and its file loads as the check says. -/
theorem save_then_load_sample :
    sampleLocation.Apart sampleTree ∧ ∃ after,
      (checked DocumentClass.markets.codec).save sampleDocument sampleLocation sampleTree
          = (.answer (.ok ()), after)
        ∧ (checked DocumentClass.markets.codec).load sampleLocation after
          = (.answer (.ok sampleDocument), after)
        ∧ (checked DocumentClass.markets.codec).load sampleLocation after
          = (.answer ((checkDocument DocumentClass.markets.codec sampleDocument sampleLocation
              sampleTree.read).map fun _ => sampleDocument), after) := by
  obtain ⟨after, replaced⟩ := sample_saved
  have saved : (checked DocumentClass.markets.codec).save sampleDocument sampleLocation sampleTree
      = (.answer (.ok ()), after) := by
    show (Reply.answer (saveDocument MarketRecord.documentCodec _ _ _).1, _) = _
    rw [replaced]
    show (_, (saveDocument MarketRecord.documentCodec _ _ _).2) = _
    rw [replaced]
  obtain ⟨loads, holds⟩ :=
    save_then_load .keywords .markets sampleDocument sampleLocation sampleTree sample_apart
  refine ⟨sample_apart, after, saved, loads after saved, holds after ?_ ?_⟩
  · exact read_schema_after_save sample_apart replaced
  · exact read_data_after_save replaced

end Store

end TradingConfig
