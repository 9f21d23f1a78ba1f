/-
  TradingConfig.Text.Lines
  ────────────────────────────────
  **TEXTS LINE BY LINE.**
-/

namespace TradingConfig

/-- The characters of lines, each of which ends with a new line. -/
def lineChars (lines : List String) : List Char :=
  lines.flatMap fun line => line.toList ++ ['\n']

/-- The text that consists of lines. -/
def textOfLines (lines : List String) : String :=
  String.ofList (lineChars lines)

/-- A text of lines holds their characters. -/
theorem toList_textOfLines (lines : List String) :
    (textOfLines lines).toList = lineChars lines :=
  String.toList_ofList

end TradingConfig
