/-
  TradingConfig.Store.Fault
  ────────────────────────────────
  **WHY A DOCUMENT IS NOT LOADED OR NOT SAVED.**
-/
import TradingConfig.Codec.Fault
import TradingConfig.File.Tree
import TradingConfig.Json.SyntaxFault
import TradingConfig.Schema.Violation

namespace TradingConfig

/-- What is wrong with the content of a document. -/
inductive Complaint where
  /-- The text is not JSON. -/
  | text (fault : Json.SyntaxFault)
  /-- The value violates its schema. -/
  | schema (violation : Violation)
  /-- The value is not of the type of the document. -/
  | shape (fault : DecodeFault)
  /-- Anything else, by its wording. -/
  | stated (wording : String)

/-- The wording of a complaint. -/
def Complaint.message : Complaint → String
  | .text fault => fault.message
  | .schema violation => violation.text
  | .shape fault => fault.message
  | .stated wording => wording

/-- What is wrong with a schema file. -/
inductive SchemaFault where
  /-- The text is not JSON. -/
  | text (fault : Json.SyntaxFault)
  /-- The value is no schema. -/
  | unusable
  /-- Anything else, by its wording. -/
  | stated (wording : String)

/-- The wording of a fault. -/
def SchemaFault.message : SchemaFault → String
  | .text fault => fault.message
  | .unusable => "unusable"
  | .stated wording => wording

/-- The reason why a document is not loaded or not saved. -/
inductive StoreFault where
  /-- A file operation failed. -/
  | file (path : Path) (cause : FileFault)
  /-- The content is refused. -/
  | rejected (path : Path) (complaints : List Complaint)
  /-- The schema cannot be used. -/
  | invalidSchema (path : Path) (cause : SchemaFault)
  /-- The document cannot be written as text. -/
  | unwritable (reason : String)

namespace StoreFault

/-- The wording of a fault. -/
def message : StoreFault → String
  | .file path cause => "I/O error on " ++ path.text ++ ": " ++ cause.message
  | .rejected path complaints =>
    path.text ++ " failed validation: "
      ++ String.intercalate "; " (complaints.map Complaint.message)
  | .invalidSchema path cause => "invalid schema " ++ path.text ++ ": " ++ cause.message
  | .unwritable reason => "serialization error: " ++ reason

/-- Whether a file operation failed. -/
def isFile : StoreFault → Bool
  | .file _ _ => true
  | _ => false

/-- Whether the content was refused. -/
def isRejection : StoreFault → Bool
  | .rejected _ _ => true
  | _ => false

end StoreFault

end TradingConfig
