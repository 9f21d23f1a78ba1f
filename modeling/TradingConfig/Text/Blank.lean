/-
  TradingConfig.Text.Blank
  ────────────────────────────────
  **BLANK TEXTS.**

  The characters of the property White_Space, and texts that consist of
  nothing else.
-/
import TradingConfig.Text.CodePoints

namespace TradingConfig

/-- The ranges of code points with the property White_Space. -/
def whiteSpaceRanges : CodePoints := [
  (0x09, 0x0D), (0x20, 0x20), (0x85, 0x85), (0xA0, 0xA0), (0x1680, 0x1680), (0x2000, 0x200A),
  (0x2028, 0x2029), (0x202F, 0x202F), (0x205F, 0x205F), (0x3000, 0x3000)]

/-- Whether a character is white space. -/
def isWhiteSpace (c : Char) : Bool :=
  whiteSpaceRanges.has c

/-- Whether a text has no character but white space. -/
def isBlankText (text : String) : Bool :=
  text.toList.all isWhiteSpace

/-- The characters of a text without white space at its ends. -/
def trimWhiteSpace (text : List Char) : List Char :=
  ((text.dropWhile isWhiteSpace).reverse.dropWhile isWhiteSpace).reverse

end TradingConfig
