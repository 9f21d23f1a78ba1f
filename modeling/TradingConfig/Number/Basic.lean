/-
  TradingConfig.Number.Basic
  ────────────────────────────────
  **NUMBERS: EXACT INTEGERS AND BINARY FLOATING-POINT NUMBERS.**

  A number remembers which of the two it is.  Order and equality compare
  exact values across the two kinds.
-/
import TradingConfig.Number.Binary64

namespace TradingConfig

/-- A number of either kind. -/
inductive Number where
  /-- An integer. -/
  | int (value : Int)
  /-- A floating-point number. -/
  | float (value : Binary64)
  deriving DecidableEq, Repr

namespace Number

/-- The exact value as a floating-point number whose mantissa may have any
length. -/
def exact : Number → Binary64
  | .int n => ⟨decide (n < 0), n.natAbs, 0⟩
  | .float x => x

/-- Whether one number is below another. -/
def lt (a b : Number) : Bool :=
  a.exact.lt b.exact

/-- Whether the number has no fractional part. -/
def isIntegral : Number → Bool
  | .int _ => true
  | .float x => x.isIntegral

/-- The natural number that this number is, if it is one. -/
def toNat? : Number → Option Nat
  | .int n => if 0 ≤ n then some n.toNat else none
  | .float x =>
    if x.isIntegral && (!x.negative || x.mantissa == 0) then
      some (if 0 ≤ x.exponent then x.mantissa * Nat.pow 2 x.exponent.toNat
        else x.mantissa / Nat.pow 2 (-x.exponent).toNat)
    else none

/-- Whether two numbers have one value, whatever kinds they are of; the two
zeros do. -/
def same (a b : Number) : Bool :=
  a.exact.sameValue b.exact

/-- Whether two numbers have one value and one sign, which tells the zeros
apart. -/
def sameSigned (a b : Number) : Bool :=
  a.same b && a.exact.negative == b.exact.negative

end Number

end TradingConfig
