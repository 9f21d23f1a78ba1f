/-
  TradingConfig.Store.Checked
  ────────────────────────────────
  **JSON FILES CHECKED AGAINST A SCHEMA.**

  Loading reads the schema, then the data, lists every violation, and only
  then reads the typed document.  Saving checks the new document first, so
  that nothing is written that would not load back, and replaces the data
  file in one step: the text goes to a scratch file beside it, which is
  renamed.  The schema is read anew on every call, and a validator says what
  it asks for; where none is named it is that of the known keywords.
-/
import TradingConfig.Codec.Basic
import TradingConfig.Json.Reader
import TradingConfig.Store.Basic
import TradingConfig.Store.Validator

namespace TradingConfig.Store

/-! ## §1. Loading. -/

/-- What reading a path gives. -/
abbrev Files := Path → Except FileFault ByteArray

/-- Reads a file. -/
def readFile (files : Files) (path : Path) : Except StoreFault ByteArray :=
  (files path).mapError (.file path)

/-- Reads and compiles a schema file. -/
def readSchema (files : Files) (path : Path) (validator : Validator := .keywords) :
    Except StoreFault ValueCheck := do
  let bytes ← readFile files path
  let file ← (Json.ofBytes bytes).mapError fun fault => .invalidSchema path (.text fault)
  (validator.compile file).mapError (.invalidSchema path)

/-- Refuses a value that violates the schema, with every violation. -/
def check (schema : ValueCheck) (value : Json) (path : Path) : Except StoreFault Unit :=
  match schema value with
  | [] => .ok ()
  | complaints => .error (.rejected path complaints)

/-- Loads a document. -/
def loadDocument {D : Type} (codec : Codec D) (location : Location) (files : Files)
    (validator : Validator := .keywords) : Except StoreFault D := do
  let schema ← readSchema files location.schema validator
  let bytes ← readFile files location.data
  let value ← (Json.ofBytes bytes).mapError fun fault => .rejected location.data [.text fault]
  check schema value location.data
  (codec.decode value).mapError fun fault => .rejected location.data [.shape fault]

/-! ## §2. Saving. -/

/-- The text of a saved document: indented, with a new line at the end. -/
def documentText {D : Type} (codec : Codec D) (document : D) : String :=
  (codec.encode document).prettyText ++ "\n"

/-- Checks a document before it is written. -/
def checkDocument {D : Type} (codec : Codec D) (document : D) (location : Location)
    (files : Files) (validator : Validator := .keywords) : Except StoreFault Unit := do
  let schema ← readSchema files location.schema validator
  check schema (codec.encode document).canonical location.data

/-- Replaces a file: the content goes to the scratch file beside it, which
is then renamed.  Where that fails the scratch file is removed. -/
def replaceFile (path : Path) (content : ByteArray) (tree : FileTree) :
    Except StoreFault Unit × FileTree :=
  match tree.create path.scratch with
  | .error cause => (.error (.file path.scratch cause), tree)
  | .ok (place, created) =>
    let filled := created.set place (.file content)
    match filled.rename place content path with
    | .error cause => (.error (.file path cause), filled.erase place)
    | .ok renamed => (.ok (), renamed)

/-- Saves a document. -/
def saveDocument {D : Type} (codec : Codec D) (document : D) (location : Location)
    (tree : FileTree) (validator : Validator := .keywords) :
    Except StoreFault Unit × FileTree :=
  match checkDocument codec document location tree.read validator with
  | .error fault => (.error fault, tree)
  | .ok () => replaceFile location.data (documentText codec document).toUTF8 tree

/-- The store of JSON files in a file tree. -/
def checked {D : Type} (codec : Codec D) (validator : Validator := .keywords) :
    Store FileTree D where
  load location tree := (.answer (loadDocument codec location tree.read validator), tree)
  save document location tree :=
    let (result, tree) := saveDocument codec document location tree validator
    (.answer result, tree)

end TradingConfig.Store
