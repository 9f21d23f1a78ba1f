/-
  TradingConfig.Text.Quoted
  ────────────────────────────────
  **TEXTS AS DIAGNOSTICS QUOTE THEM.**

  A diagnostic that names a text puts it between quotes, so that every
  character in it can be seen: quotes, backslashes and the common control
  characters are escaped, other hidden characters are written by number.
-/
import TradingConfig.Text.Hidden

namespace TradingConfig

/-- A character inside of a diagnostic's quotes. -/
def diagnosticChar (c : Char) : List Char :=
  if c = '"' then ['\\', '"']
  else if c = '\\' then ['\\', '\\']
  else if c = '\n' then ['\\', 'n']
  else if c = '\r' then ['\\', 'r']
  else if c = '\t' then ['\\', 't']
  else if c.toNat = 0 then ['\\', '0']
  else if isHidden c then ['\\', 'u', '{'] ++ Nat.toDigits 16 c.toNat ++ ['}']
  else [c]

/-- A text between quotes. -/
def diagnosticText (text : String) : String :=
  String.ofList ('"' :: text.toList.flatMap diagnosticChar ++ ['"'])

end TradingConfig
