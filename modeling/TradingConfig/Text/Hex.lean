/-
  TradingConfig.Text.Hex
  ────────────────────────────────
  **HEXADECIMAL DIGITS, AND CHARACTERS GIVEN BY THEM.**
-/

namespace TradingConfig

/-- The value of a hexadecimal digit, in either case of its letters. -/
def hexValue? (c : Char) : Option Nat :=
  if '0' ≤ c ∧ c ≤ '9' then some (c.toNat - 48)
  else if 'a' ≤ c ∧ c ≤ 'f' then some (c.toNat - 87)
  else if 'A' ≤ c ∧ c ≤ 'F' then some (c.toNat - 55)
  else none

/-- A character given by `count` hexadecimal digits, and what follows. -/
def hexChar? (count : Nat) (input : List Char) : Option (Char × List Char) := do
  let digits ← (input.take count).mapM hexValue?
  let code := digits.foldl (fun n d => n * 16 + d) 0
  if digits.length = count ∧ (code < 0xD800 ∨ (0xDFFF < code ∧ code < 0x110000)) then
    some (Char.ofNat code, input.drop count)
  else none

end TradingConfig
