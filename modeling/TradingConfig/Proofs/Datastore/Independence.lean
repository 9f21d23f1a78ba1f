/-
  TradingConfig.Proofs.Datastore.Independence
  ────────────────────────────────
  **WHICH FILES A CLASS CAN REACH.**

  All file names are seen from one directory, and the options are accepted
  if the names of the three data files differ as texts.  That alone does not
  keep the files apart: two texts can lead to one file, and the scratch file
  of one class can be a file of another.  It does where every name is plain,
  no data file is named as a schema file, and no file is named as the scratch
  file of a data file (`DatastoreOptions.Separate`): then calls of one class
  leave the files of the others and every schema file as they were.
-/
import TradingConfig.Options.Reader
import TradingConfig.Proofs.Datastore.Stock
import TradingConfig.Proofs.Repository.Frame

namespace TradingConfig

open FileTree

/-! ## §1. Accepted options. -/

namespace Options

theorem validate_of_parse {content : String} {options : Options}
    (accepted : parse content = .ok options) : options.validate = .ok () := by
  unfold parse at accepted
  split at accepted
  · cases accepted
  next found _ =>
    obtain ⟨passed, valid, same⟩ := exists_ok_of_bind accepted
    obtain rfl := Except.ok.inj same
    exact valid

/-- What the rules for options say about the datastore. -/
theorem distinct_of_validate {options : Options} (valid : options.validate = .ok ()) :
    options.datastore.directory ≠ ""
      ∧ options.datastore.strategiesFile ≠ options.datastore.marketsFile
      ∧ options.datastore.strategiesFile ≠ options.datastore.exchangeFile
      ∧ options.datastore.marketsFile ≠ options.datastore.exchangeFile := by
  unfold validate at valid
  split at valid
  · cases valid
  split at valid
  · cases valid
  next notBlank =>
    have written : options.datastore.directory ≠ "" := by
      intro empty
      rw [empty] at notBlank
      exact notBlank rfl
    split at valid
    · cases valid
    · simp only at valid
      split at valid
      · cases valid
      next distinct =>
        rw [not_or, not_or] at distinct
        exact ⟨written, distinct.1, distinct.2.1, distinct.2.2⟩

end Options

namespace DatastoreOptions

/-- The name of the data file of a class. -/
def dataFile (options : DatastoreOptions) : DocumentClass → String
  | .strategies => options.strategiesFile
  | .markets => options.marketsFile
  | .exchange => options.exchangeFile

/-- The name of the schema file of a class. -/
def schemaFile (options : DatastoreOptions) : DocumentClass → String
  | .strategies => options.strategiesSchema
  | .markets => options.marketsSchema
  | .exchange => options.exchangeSchema

/-- Names by which no file is meant twice. -/
structure Separate (options : DatastoreOptions) : Prop where
  /-- The data files are in the directory itself. -/
  data_isName : ∀ documentClass, Path.IsName (options.dataFile documentClass)
  /-- So are the schema files. -/
  schema_isName : ∀ documentClass, Path.IsName (options.schemaFile documentClass)
  /-- No data file is a schema file. -/
  data_ne_schema : ∀ documentClass other,
    options.dataFile documentClass ≠ options.schemaFile other
  /-- No data file is the scratch file of a data file. -/
  data_ne_scratch : ∀ documentClass other,
    options.dataFile documentClass ≠ options.dataFile other ++ Path.scratchEnding
  /-- No schema file is the scratch file of a data file. -/
  schema_ne_scratch : ∀ documentClass other,
    options.schemaFile documentClass ≠ options.dataFile other ++ Path.scratchEnding

theorem location_ofOptions (options : DatastoreOptions) (validator : Validator)
    (documentClass : DocumentClass) :
    (Datastore.ofOptions options validator).location documentClass
      = .inDirectory ⟨options.directory⟩ ⟨options.dataFile documentClass⟩
          ⟨options.schemaFile documentClass⟩ := by
  cases documentClass <;> rfl

/-- The data files of accepted options have distinct names. -/
theorem dataFile_ne {content : String} {options : Options}
    (accepted : Options.parse content = .ok options) {documentClass other : DocumentClass}
    (differ : other ≠ documentClass) :
    options.datastore.dataFile other ≠ options.datastore.dataFile documentClass := by
  obtain ⟨-, notMarkets, notExchange, marketsNotExchange⟩ :=
    Options.distinct_of_validate (Options.validate_of_parse accepted)
  cases documentClass <;> cases other
  all_goals first
    | exact absurd rfl differ
    | assumption
    | exact Ne.symm ‹_›

end DatastoreOptions

/-! ## §2. Files of other names. -/

namespace FileTree

/-- Paths that lead to one place end in one name. -/
theorem name_eq_of_locate {tree : FileTree} {first second : Path} {place : Place}
    {parents others : List String} {name other : String}
    (leads : tree.locate first = .ok place) (leadsToo : tree.locate second = .ok place)
    (segments : first.segments = parents ++ [name]) (isName : Path.IsName name)
    (segmentsToo : second.segments = others ++ [other]) (isNameToo : Path.IsName other) :
    name = other := by
  obtain ⟨_, -, -, same⟩ := exists_directory_of_locate segments isName leads
  obtain ⟨_, -, -, sameToo⟩ := exists_directory_of_locate segmentsToo isNameToo leadsToo
  obtain ⟨-, last⟩ := List.append_inj' (same.symm.trans sameToo) rfl
  exact (List.cons.inj last).1

/-- Where one name in a directory leads somewhere, every name in it does so
in two trees with the same directories alike. -/
theorem locate_join_congr {before after : FileTree} (same : SameDirectories before after)
    {directory : Path} (written : directory.text ≠ "") {file name : String}
    (isFile : Path.IsName file) (isName : Path.IsName name) {place : Place}
    (leads : before.locate (directory.join ⟨file⟩) = .ok place) :
    after.locate (directory.join ⟨name⟩) = before.locate (directory.join ⟨name⟩) := by
  obtain ⟨parents, -, -, -, joined⟩ := Path.exists_parents directory written
  obtain ⟨above, walked, isDirectory, -⟩ :=
    exists_directory_of_locate (joined file isFile.noSlash) isFile leads
  have start : before.start (directory.join ⟨name⟩) = before.start (directory.join ⟨file⟩) := by
    unfold FileTree.start
    rw [Path.isAbsolute_join_of_noSlash isName.noSlash written,
      Path.isAbsolute_join_of_noSlash isFile.noSlash written]
  have startAfter : after.start (directory.join ⟨name⟩)
      = before.start (directory.join ⟨name⟩) := by
    unfold FileTree.start
    rw [same.home]
  unfold locate
  cases vet (directory.join ⟨name⟩) with
  | error fault => rfl
  | ok _ =>
    show after.walk _ _ = before.walk _ _
    -- both walks reach the directory, and take one step from it
    rw [startAfter, start, joined name isName.noSlash, walk_append, walk_append, walked,
      same.walk walked]
    show after.walk above [name] = before.walk above [name]
    rw [walk_cons isDirectory, walk_cons ((same.directory above).mpr isDirectory)]
    rfl

end FileTree

/-- A change that is confined to the files of a location leaves every file
of another name in the directory as it was. -/
theorem Location.Confined.read_join {location : Location} {before after : FileTree}
    (confined : location.Confined before after) {directory : Path} (written : directory.text ≠ "")
    {file name : String} (data : location.data = directory.join ⟨file⟩)
    (isFile : Path.IsName file) (isName : Path.IsName name) (notData : name ≠ file)
    (notScratch : name ≠ file ++ Path.scratchEnding) {place : Place}
    (leads : before.locate location.data = .ok place) :
    after.read (directory.join ⟨name⟩) = before.read (directory.join ⟨name⟩) := by
  obtain ⟨parents, -, -, -, joined⟩ := Path.exists_parents directory written
  have segmentsData : location.data.segments = parents ++ [file] :=
    data ▸ joined file isFile.noSlash
  obtain ⟨others, segmentsScratch⟩ := Path.exists_segments_scratch_of_name
    (Path.splitName?_of_segments segmentsData isFile)
  have segments := joined name isName.noSlash
  refine read_congr
    (locate_join_congr confined.directories written isFile isName (data ▸ leads)) ?_
  intro target located
  refine confined.elsewhere target (fun isData => notData ?_) fun isScratch => notScratch ?_
  · exact name_eq_of_locate located isData segments isName segmentsData isFile
  · exact name_eq_of_locate located isScratch segments isName segmentsScratch isFile.scratch

/-! ## §3. Sessions of one class. -/

namespace Datastore

section Sessions

variable {validator : Validator}

/-- The files that calls of a class have to leave alone: the schema file of
the class, and both files of every other class. -/
inductive IsForeign (datastore : Datastore) (documentClass : DocumentClass) : Path → Prop where
  /-- The schema of the class. -/
  | schema : IsForeign datastore documentClass (datastore.location documentClass).schema
  /-- The data of another class. -/
  | otherData {other : DocumentClass} (differ : other ≠ documentClass) :
    IsForeign datastore documentClass (datastore.location other).data
  /-- The schema of another class. -/
  | otherSchema {other : DocumentClass} (differ : other ≠ documentClass) :
    IsForeign datastore documentClass (datastore.location other).schema

/-- The tree after a session of calls of one class. -/
def treeAfter (datastore : Datastore) (home : Place) (documentClass : DocumentClass)
    (calls : List documentClass.Call) (locks : Locks) (tree : FileTree) : FileTree :=
  (Request.serveEach (calls.map (documentClass.request (datastore.repository home documentClass)))
    locks tree).2.2

/-- The name under which a file that has to be left alone is found. -/
theorem IsForeign.exists_name {content : String} {options : Options}
    (accepted : Options.parse content = .ok options) (separate : options.datastore.Separate)
    {documentClass : DocumentClass} {path : Path}
    (foreign : (ofOptions options.datastore validator).IsForeign documentClass path) :
    ∃ name, path = Path.join ⟨options.datastore.directory⟩ ⟨name⟩ ∧ Path.IsName name
      ∧ name ≠ options.datastore.dataFile documentClass
      ∧ name ≠ options.datastore.dataFile documentClass ++ Path.scratchEnding := by
  cases foreign with
  | schema =>
    rw [DatastoreOptions.location_ofOptions]
    exact ⟨_, rfl, separate.schema_isName documentClass,
      (separate.data_ne_schema documentClass documentClass).symm,
      separate.schema_ne_scratch documentClass documentClass⟩
  | @otherData other differ =>
    rw [DatastoreOptions.location_ofOptions]
    exact ⟨_, rfl, separate.data_isName other, DatastoreOptions.dataFile_ne accepted differ,
      separate.data_ne_scratch other documentClass⟩
  | @otherSchema other differ =>
    rw [DatastoreOptions.location_ofOptions]
    exact ⟨_, rfl, separate.schema_isName other, (separate.data_ne_schema documentClass other).symm,
      separate.schema_ne_scratch other documentClass⟩

/-- Under separate names a file that has to be left alone is read as
before. -/
theorem IsForeign.read_eq {content : String} {options : Options}
    (accepted : Options.parse content = .ok options) (separate : options.datastore.Separate)
    {documentClass : DocumentClass} {path : Path}
    (foreign : (ofOptions options.datastore validator).IsForeign documentClass path)
    (calls : List documentClass.Call) (home : Place) (locks : Locks) (tree : FileTree) :
    ((ofOptions options.datastore validator).treeAfter home documentClass calls locks tree).read
      path = tree.read path := by
  let datastore := ofOptions options.datastore validator
  have confined : (datastore.location documentClass).Confined tree
      (datastore.treeAfter home documentClass calls locks tree) :=
    DocumentClass.confined_serveEach calls locks tree
  obtain ⟨name, rfl, isName, notData, notScratch⟩ := foreign.exists_name accepted separate
  obtain ⟨written, -⟩ := Options.distinct_of_validate (Options.validate_of_parse accepted)
  have data : (datastore.location documentClass).data
      = Path.join ⟨options.datastore.directory⟩ ⟨options.datastore.dataFile documentClass⟩ :=
    congrArg Location.data
      (DatastoreOptions.location_ofOptions options.datastore validator documentClass)
  by_cases found : ∃ place, tree.locate (datastore.location documentClass).data = .ok place
  · obtain ⟨place, leads⟩ := found
    exact confined.read_join written data (separate.data_isName documentClass) isName notData
      notScratch leads
  · -- a data file that is not found is never replaced
    have lost : datastore.treeAfter home documentClass calls locks tree = tree :=
      DocumentClass.serveEach_of_lost calls locks fun place leads => found ⟨place, leads⟩
    show (datastore.treeAfter home documentClass calls locks tree).read _ = tree.read _
    rw [lost]

/-- Under separate names the documents of the other classes load as
before. -/
theorem load_of_other {content : String} {options : Options}
    (accepted : Options.parse content = .ok options) (separate : options.datastore.Separate)
    {documentClass other : DocumentClass} (differ : other ≠ documentClass)
    (calls : List documentClass.Call) (home : Place) (locks : Locks) (tree : FileTree) :
    (ofOptions options.datastore validator).load
        ((ofOptions options.datastore validator).treeAfter home documentClass calls locks tree).read
        other
      = (ofOptions options.datastore validator).load tree.read other :=
  Store.loadDocument_congr
    ((IsForeign.otherSchema differ).read_eq accepted separate calls home locks tree)
    ((IsForeign.otherData differ).read_eq accepted separate calls home locks tree)

end Sessions

/-- Under accepted options calls of one class, of any number and kind and
however they end, change no place but those of the data file of the class
and of its scratch file, and no directory, whatever validator decides about
schemas.  If the names are separate, the files of the other classes and all
schema files are read as before. -/
theorem foreign_files_untouched {content : String} {options : Options}
    (accepted : Options.parse content = .ok options) (validator : Validator)
    (documentClass : DocumentClass) (calls : List documentClass.Call) (home : Place)
    (locks : Locks) (tree : FileTree) :
    ((ofOptions options.datastore validator).location documentClass).Confined tree
        ((ofOptions options.datastore validator).treeAfter home documentClass calls locks tree)
      ∧ (options.datastore.Separate → ∀ path,
        (ofOptions options.datastore validator).IsForeign documentClass path →
        ((ofOptions options.datastore validator).treeAfter home documentClass calls locks tree).read
          path = tree.read path) :=
  ⟨DocumentClass.confined_serveEach calls locks tree, fun separate _ foreign =>
    foreign.read_eq accepted separate calls home locks tree⟩

/-! ## §4. Instances. -/

/-- The default names are separate. -/
theorem separate_default : DatastoreOptions.Separate {} where
  data_isName documentClass := by
    cases documentClass <;> exact ⟨by decide, by decide, by decide⟩
  schema_isName documentClass := by
    cases documentClass <;> exact ⟨by decide, by decide, by decide⟩
  data_ne_schema documentClass other := by
    cases documentClass <;> cases other <;> decide
  data_ne_scratch documentClass other := by
    cases documentClass <;> cases other <;> decide
  schema_ne_scratch documentClass other := by
    cases documentClass <;> cases other <;> decide

theorem parse_empty : Options.parse "" = .ok {} := by
  have read : Toml.ofText? "" = some [] := rfl
  unfold Options.parse
  rw [read]
  rfl

/-- Under the default names a new strategy leaves the markets alone. -/
theorem foreign_files_untouched_standard :
    Options.parse "" = .ok {} ∧ DatastoreOptions.Separate {}
      ∧ IsForeign standard .strategies standard.markets.data
      ∧ (standard.treeAfter [] .strategies [.create (.plain "grid" "" "" "")] .fresh
          (stocked (.of [] [] default))).read standard.markets.data
        = (stocked (.of [] [] default)).read standard.markets.data := by
  have foreign : IsForeign standard .strategies standard.markets.data :=
    .otherData (show DocumentClass.markets ≠ .strategies by decide)
  refine ⟨parse_empty, separate_default, foreign, ?_⟩
  exact (foreign_files_untouched parse_empty .keywords .strategies _ [] .fresh _).2
    separate_default _ foreign

/-- Options by which the data file of the markets is that of the strategies,
in another spelling. -/
def respelled : DatastoreOptions := { marketsFile := "./strategies.json" }

theorem parse_respelled :
    Options.parse "[datastore]\nmarkets_file = \"./strategies.json\"\n"
      = .ok { datastore := respelled } := by
  have read : Toml.ofText? "[datastore]\nmarkets_file = \"./strategies.json\"\n"
      = some [("datastore", .table .opened [("markets_file", .string "./strategies.json")])] := by
    cbv
  unfold Options.parse
  rw [read]
  rfl

theorem read_respelled (documents : Documents) :
    (stocked documents).read (ofOptions respelled).markets.data
      = .ok (Store.documentText DocumentClass.strategies.codec (documents .strategies)).toUTF8 :=
  rfl

/-- The strategies of these options lie where they lie by default. -/
theorem treeAfter_respelled (calls : List DocumentClass.strategies.Call) (documents : Documents) :
    (ofOptions respelled).treeAfter [] .strategies calls .fresh (stocked documents)
      = stocked (Function.update documents .strategies (calls.foldl
          (fun document call => ((DocumentClass.strategies.program call).evaluate document).2)
          (documents .strategies))) := by
  have location : (ofOptions respelled).location .strategies = standard.location .strategies := by
    rw [DatastoreOptions.location_ofOptions, standard, DatastoreOptions.location_ofOptions]
    rfl
  have repository : (ofOptions respelled).repository [] .strategies
      = standard.repository [] .strategies := by
    unfold Datastore.repository
    rw [location]
    rfl
  unfold treeAfter
  rw [repository, serveEach_stocked]

/-- They are accepted, and a new strategy is written over what is read as the
data of the markets. -/
theorem respelled_file_overwritten :
    ∃ content options, Options.parse content = .ok options ∧ ∃ calls tree path,
      (ofOptions options.datastore).IsForeign .strategies path
        ∧ ((ofOptions options.datastore).treeAfter [] .strategies calls .fresh tree).read path
          ≠ tree.read path := by
  let grid : Strategy := .plain "grid" "Grid" "" "GridStrategy"
  let documents : Documents := .of [] [] default
  refine ⟨_, _, parse_respelled, [.create grid], stocked documents,
    (ofOptions respelled).markets.data,
    .otherData (show DocumentClass.markets ≠ .strategies by decide), ?_⟩
  show ((ofOptions respelled).treeAfter _ _ _ _ _).read _ ≠ _
  rw [treeAfter_respelled, read_respelled, read_respelled]
  intro same
  have equal : [grid.toRecord] = [] :=
    Store.eq_of_documentText DocumentClass.strategies.codec_faithful (Except.ok.inj same)
  cases equal

end Datastore

end TradingConfig
