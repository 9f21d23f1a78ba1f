/-
  TradingConfig.Schema.Violation
  ────────────────────────────────
  **HOW A VALUE CAN FAIL ITS SCHEMA.**

  A violation names the place inside of the document and the rule that the
  value there breaks; its text is made in one place (`Violation.text`).
-/
import TradingConfig.Schema.Basic
import TradingConfig.Json.Printer

namespace TradingConfig

/-- One step from a value to a value inside of it. -/
inductive Step where
  /-- To the member with this key. -/
  | member (key : String)
  /-- To the item at this index. -/
  | item (index : Nat)
  deriving DecidableEq, Repr

/-- The rule that a value breaks. -/
inductive Breach where
  /-- The schema refuses every value. -/
  | refused (value : Json)
  /-- The value is not of the kind. -/
  | wrongKind (value : Json) (kind : Kind)
  /-- The object lacks a member. -/
  | missingMember (name : String)
  /-- The object has members without a schema. -/
  | unexpectedMembers (names : List String)
  /-- The string has too few characters. -/
  | tooShort (value : Json) (limit : Nat)
  /-- The number is too small. -/
  | belowMinimum (value : Json) (limit : Number)
  /-- The number is too large. -/
  | aboveMaximum (value : Json) (limit : Number)
  /-- The array has equal items. -/
  | repeatedItems (value : Json)
  deriving Repr

/-- A broken rule and the place where it is broken. -/
structure Violation where
  /-- The way from the document to the value. -/
  path : List Step
  /-- The rule. -/
  breach : Breach
  deriving Repr

/-- The same violation, seen from one step further outside. -/
def Violation.under (step : Step) (violation : Violation) : Violation :=
  { violation with path := step :: violation.path }

/-! ## Texts. -/

/-- A key as part of a pointer: a tilde and a slash are escaped. -/
def Step.escapeChar (c : Char) : List Char :=
  if c = '~' then ['~', '0'] else if c = '/' then ['~', '1'] else [c]

/-- A step as part of a pointer. -/
def Step.text : Step → String
  | .member key => String.ofList ('/' :: key.toList.flatMap escapeChar)
  | .item index => String.ofList ('/' :: Nat.toDigits 10 index)

/-- A place as a pointer; the document itself is the empty one. -/
def pointerText (path : List Step) : String :=
  String.join (path.map Step.text)

/-- A string as JSON text. -/
def quotedText (text : String) : String :=
  String.ofList (Json.quoted text)

/-- A number as JSON text. -/
def Number.text (n : Number) : String :=
  String.ofList (Json.numberText n)

/-- The wording of a broken rule. -/
def Breach.text : Breach → String
  | .refused value => "False schema does not allow " ++ value.compactText
  | .wrongKind value kind => value.compactText ++ " is not of type " ++ quotedText kind.name
  | .missingMember name => quotedText name ++ " is a required property"
  | .unexpectedMembers names =>
    "Additional properties are not allowed ("
      ++ String.intercalate ", " (names.map fun name => "'" ++ name ++ "'")
      ++ (if names.length = 1 then " was unexpected)" else " were unexpected)")
  | .tooShort value limit =>
    value.compactText ++ " is shorter than " ++ toString limit
      ++ (if limit = 1 then " character" else " characters")
  | .belowMinimum value limit => value.compactText ++ " is less than the minimum of " ++ limit.text
  | .aboveMaximum value limit =>
    value.compactText ++ " is greater than the maximum of " ++ limit.text
  | .repeatedItems value => value.compactText ++ " has non-unique elements"

/-- A violation: the place, then the broken rule. -/
def Violation.text (violation : Violation) : String :=
  pointerText violation.path ++ ": " ++ violation.breach.text

end TradingConfig
