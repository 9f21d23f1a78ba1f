/-
  TradingConfig.File.Fault
  ────────────────────────────────
  **WHY A FILE OPERATION FAILS.**
-/

namespace TradingConfig

/-- The reason why a file operation fails. -/
inductive FileFault where
  /-- Nothing is there. -/
  | notFound
  /-- A directory is where a file must be. -/
  | isDirectory
  /-- Something else is where a directory must be. -/
  | notDirectory
  /-- A name has more than 255 bytes, or the path more than 4095. -/
  | nameTooLong
  /-- The target is a directory in use. -/
  | busy
  /-- The path holds a character that no file name can hold. -/
  | nulInPath
  /-- The file is read as text and is not UTF-8. -/
  | notText
  /-- Any other reason, by its wording. -/
  | other (reason : String)
  deriving DecidableEq, Repr

/-- The wording of a fault. -/
def FileFault.message : FileFault → String
  | .notFound => "No such file or directory (os error 2)"
  | .isDirectory => "Is a directory (os error 21)"
  | .notDirectory => "Not a directory (os error 20)"
  | .nameTooLong => "File name too long (os error 36)"
  | .busy => "Device or resource busy (os error 16)"
  | .nulInPath => "file name contained an unexpected NUL byte"
  | .notText => "stream did not contain valid UTF-8"
  | .other reason => reason

end TradingConfig
