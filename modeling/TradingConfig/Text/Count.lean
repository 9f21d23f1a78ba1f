/-
  TradingConfig.Text.Count
  ────────────────────────────────
  **COUNTS AS TEXT.**

  A count is written with decimal digits, leading zeros among them, after a
  plus sign or none.
-/

namespace TradingConfig

/-- The count that decimal digits stand for. -/
def countOfDigits? (digits : List Char) : Option Nat :=
  if !digits.isEmpty && digits.all Char.isDigit then
    some (digits.foldl (fun n c => 10 * n + (c.toNat - '0'.toNat)) 0)
  else none

/-- The count that a text stands for. -/
def count? : List Char → Option Nat
  | '+' :: digits => countOfDigits? digits
  | digits => countOfDigits? digits

end TradingConfig
