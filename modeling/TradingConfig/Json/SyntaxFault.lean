/-
  TradingConfig.Json.SyntaxFault
  ────────────────────────────────
  **WHY A TEXT IS NOT JSON.**

  Every way in which a text can fail to be one JSON value, and the wording
  of each.
-/

namespace TradingConfig.Json

/-- The reason why a text is not a JSON value. -/
inductive SyntaxFault where
  /-- The text ends where a value must stand, or inside of a literal or a number. -/
  | endInValue
  /-- The text ends inside of an object. -/
  | endInObject
  /-- The text ends inside of an array. -/
  | endInArray
  /-- The text ends inside of a string. -/
  | endInString
  /-- No value starts here. -/
  | valueExpected
  /-- A literal is misspelt. -/
  | literalExpected
  /-- More text follows the value. -/
  | trailingCharacters
  /-- A comma stands before a closing bracket. -/
  | trailingComma
  /-- An item of an array is followed by something else. -/
  | commaOrBracketExpected
  /-- A member of an object is followed by something else. -/
  | commaOrBraceExpected
  /-- A key is followed by something else. -/
  | colonExpected
  /-- A member starts with something other than a string. -/
  | keyNotString
  /-- A number has a leading zero, or lacks digits. -/
  | invalidNumber
  /-- A number is beyond the largest binary number. -/
  | numberTooLarge
  /-- A control character stands in a string. -/
  | controlCharacter
  /-- A backslash is followed by no escape. -/
  | invalidEscape
  /-- A leading surrogate is not followed by another escape. -/
  | hexEscapeCutOff
  /-- A surrogate lacks its partner. -/
  | loneSurrogate
  /-- A string holds bytes that belong to no character. -/
  | invalidCodePoint
  /-- Arrays and objects are nested too deep. -/
  | nestedTooDeep
  deriving DecidableEq, Repr

/-- The wording of a fault. -/
def SyntaxFault.message : SyntaxFault → String
  | .endInValue => "EOF while parsing a value"
  | .endInObject => "EOF while parsing an object"
  | .endInArray => "EOF while parsing a list"
  | .endInString => "EOF while parsing a string"
  | .valueExpected => "expected value"
  | .literalExpected => "expected ident"
  | .trailingCharacters => "trailing characters"
  | .trailingComma => "trailing comma"
  | .commaOrBracketExpected => "expected `,` or `]`"
  | .commaOrBraceExpected => "expected `,` or `\x7d`"
  | .colonExpected => "expected `:`"
  | .keyNotString => "key must be a string"
  | .invalidNumber => "invalid number"
  | .numberTooLarge => "number out of range"
  | .controlCharacter => "control character (\\u0000-\\u001F) found while parsing a string"
  | .invalidEscape => "invalid escape"
  | .hexEscapeCutOff => "unexpected end of hex escape"
  | .loneSurrogate => "lone leading surrogate in hex escape"
  | .invalidCodePoint => "invalid unicode code point"
  | .nestedTooDeep => "recursion limit exceeded"

end TradingConfig.Json
