/-
  TradingConfig.Codec.Fault
  ────────────────────────────────
  **WHY A VALUE IS NOT OF A TYPE.**
-/
import TradingConfig.Json.Printer
import TradingConfig.Text.Quoted

namespace TradingConfig

/-- The reason why a JSON value is not read as a value of a type. -/
inductive DecodeFault where
  /-- The value is of another kind than wanted. -/
  | wrongType (found : Json) (wanted : String)
  /-- The integer is outside of the range of the wanted type. -/
  | outOfRange (found : Int) (wanted : String)
  /-- A member is missing. -/
  | missingField (key : String)
  /-- An array has no item for a field of a record that must be present;
  `before` is the number of fields in front of it. -/
  | tooFewItems (before : Nat) (record : String) (fields : Nat)
  /-- An array has too many items for a record. -/
  | tooManyItems (count : Nat)
  deriving Repr

namespace DecodeFault

/-- A value as a diagnostic names it. -/
def describe : Json → String
  | .null => "null"
  | .bool value => "boolean `" ++ String.ofList (Json.boolText value) ++ "`"
  | .num (.int n) => "integer `" ++ String.ofList (Json.intText n) ++ "`"
  | .num (.float x) => "floating point `" ++ String.ofList (Json.floatText x) ++ "`"
  | .str text => "string " ++ diagnosticText text
  | .arr _ => "sequence"
  | .obj _ => "map"

/-- The wording of a fault. -/
def message : DecodeFault → String
  | .wrongType found wanted => "invalid type: " ++ describe found ++ ", expected " ++ wanted
  | .outOfRange found wanted =>
    "invalid value: " ++ describe (.num (.int found)) ++ ", expected " ++ wanted
  | .missingField key => "missing field `" ++ key ++ "`"
  | .tooFewItems before record fields =>
    "invalid length " ++ toString before ++ ", expected struct " ++ record ++ " with "
      ++ toString fields ++ (if fields = 1 then " element" else " elements")
  | .tooManyItems count =>
    "invalid length " ++ toString count ++ ", expected fewer elements in array"

end DecodeFault

end TradingConfig
