/-
  TradingConfig.Json.Printer
  ────────────────────────────────
  **THE TEXT OF A JSON VALUE.**

  Two forms: compact, without any blank, and indented, with two blanks per
  level and every item on a line of its own.  Both write strings and
  numbers alike: a quote, a backslash and a control character are escaped,
  everything else stands for itself.
-/
import TradingConfig.Json.Value
import TradingConfig.Number.Shortest

namespace TradingConfig.Json

/-! ## §1. Scalars. -/

/-- A hexadecimal digit in lower case. -/
def hexDigit (n : Nat) : Char :=
  if n < 10 then Char.ofNat (48 + n) else Char.ofNat (87 + n)

/-- A character inside of a string. -/
def escapeChar (c : Char) : List Char :=
  if c = '"' then ['\\', '"']
  else if c = '\\' then ['\\', '\\']
  else if c = '\n' then ['\\', 'n']
  else if c = '\r' then ['\\', 'r']
  else if c = '\t' then ['\\', 't']
  else if c.toNat = 0x08 then ['\\', 'b']
  else if c.toNat = 0x0C then ['\\', 'f']
  else if c.toNat < 0x20 then
    ['\\', 'u', '0', '0', hexDigit (c.toNat / 16), hexDigit (c.toNat % 16)]
  else [c]

/-- A string between quotes. -/
def quoted (text : String) : List Char :=
  '"' :: text.toList.flatMap escapeChar ++ ['"']

/-- An integer in decimal digits. -/
def intText : Int → List Char
  | .ofNat n => Nat.toDigits 10 n
  | .negSucc n => '-' :: Nat.toDigits 10 (n + 1)

/-- Floating-point numbers are positional from 10^-5 up to 10^16, always
show a point or an exponent, and sign every exponent. -/
def floatLayout : Binary64.Layout where
  positionalFrom := -5
  positionalBelow := 16
  integralTail := ['0']
  exponentMark := 'e'
  plusSign := ['+']

/-- The text of a floating-point number. -/
def floatText (value : Binary64) : List Char :=
  value.text floatLayout

/-- The text of a number. -/
def numberText : Number → List Char
  | .int value => intText value
  | .float value => floatText value

/-- The text of a truth value. -/
def boolText : Bool → List Char
  | true => ['t', 'r', 'u', 'e']
  | false => ['f', 'a', 'l', 's', 'e']

/-- The text of `null`. -/
def nullText : List Char := ['n', 'u', 'l', 'l']

/-! ## §2. The compact form. -/

mutual

/-- A value without any blank. -/
def compact : Json → List Char
  | .null => nullText
  | .bool value => boolText value
  | .num value => numberText value
  | .str text => quoted text
  | .arr [] => ['[', ']']
  | .arr (item :: rest) => '[' :: compact item ++ compactItems rest ++ [']']
  | .obj [] => ['{', '}']
  | .obj ((key, value) :: rest) =>
    '{' :: quoted key ++ ':' :: compact value ++ compactMembers rest ++ ['}']

/-- Every further item of an array, after a comma. -/
def compactItems : List Json → List Char
  | [] => []
  | item :: rest => ',' :: compact item ++ compactItems rest

/-- Every further member of an object, after a comma. -/
def compactMembers : List (String × Json) → List Char
  | [] => []
  | (key, value) :: rest => ',' :: quoted key ++ ':' :: compact value ++ compactMembers rest

end

/-! ## §3. The indented form. -/

/-- A new line at a level of indentation. -/
def newLine (level : Nat) : List Char :=
  '\n' :: List.replicate (2 * level) ' '

mutual

/-- A value at a level of indentation; empty arrays and objects stay on one
line. -/
def indented (level : Nat) : Json → List Char
  | .null => nullText
  | .bool value => boolText value
  | .num value => numberText value
  | .str text => quoted text
  | .arr [] => ['[', ']']
  | .arr (item :: rest) =>
    '[' :: newLine (level + 1) ++ indented (level + 1) item ++ indentedItems (level + 1) rest
      ++ newLine level ++ [']']
  | .obj [] => ['{', '}']
  | .obj ((key, value) :: rest) =>
    '{' :: newLine (level + 1) ++ quoted key ++ ':' :: ' ' :: indented (level + 1) value
      ++ indentedMembers (level + 1) rest ++ newLine level ++ ['}']

/-- Every further item of an array, after a comma and on a new line. -/
def indentedItems (level : Nat) : List Json → List Char
  | [] => []
  | item :: rest => ',' :: newLine level ++ indented level item ++ indentedItems level rest

/-- Every further member of an object, after a comma and on a new line. -/
def indentedMembers (level : Nat) : List (String × Json) → List Char
  | [] => []
  | (key, value) :: rest =>
    ',' :: newLine level ++ quoted key ++ ':' :: ' ' :: indented level value
      ++ indentedMembers level rest

end

/-! ## §4. Texts. -/

/-- The compact text of a value. -/
def compactText (value : Json) : String :=
  String.ofList (compact value)

/-- The indented text of a value, without a final new line. -/
def prettyText (value : Json) : String :=
  String.ofList (indented 0 value)

end TradingConfig.Json
