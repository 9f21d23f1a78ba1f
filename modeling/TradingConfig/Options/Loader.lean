/-
  TradingConfig.Options.Loader
  ────────────────────────────────
  **LOADING THE OPTIONS FROM A FILE.**
-/
import TradingConfig.Options.Reader
import TradingConfig.Store.Checked

namespace TradingConfig

/-- The reason why a file gives no options. -/
inductive OptionsLoadFault where
  /-- The file cannot be read as text. -/
  | file (path : Path) (cause : FileFault)
  /-- The text gives no options. -/
  | content (fault : OptionsFault)
  deriving DecidableEq, Repr

/-- The wording of a fault. -/
def OptionsLoadFault.message : OptionsLoadFault → String
  | .file path _ => "Failed to read config file: " ++ path.text
  | .content fault => fault.message

/-- The options that a file gives. -/
def Options.load (files : Store.Files) (path : Path) : Except OptionsLoadFault Options := do
  let bytes ← (files path).mapError (.file path)
  match String.fromUTF8? bytes with
  | none => .error (.file path .notText)
  | some content => (Options.parse content).mapError .content

end TradingConfig
