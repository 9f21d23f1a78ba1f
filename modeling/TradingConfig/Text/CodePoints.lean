/-
  TradingConfig.Text.CodePoints
  ────────────────────────────────
  **PROPERTIES OF CHARACTERS AS RANGES OF CODE POINTS.**
-/

namespace TradingConfig

/-- Ranges of code points, each by its first and its last one. -/
abbrev CodePoints := List (Nat × Nat)

/-- Whether a character lies in one of the ranges. -/
def CodePoints.has (ranges : CodePoints) (c : Char) : Bool :=
  ranges.any fun range => range.1 ≤ c.toNat && c.toNat ≤ range.2

end TradingConfig
