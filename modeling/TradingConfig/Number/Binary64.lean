/-
  TradingConfig.Number.Binary64
  ────────────────────────────────
  **FINITE BINARY FLOATING-POINT NUMBERS, COMPUTED EXACTLY.**

  A number is ± m · 2^q with a mantissa of at most 53 bits and an exponent
  from −1074 on.  All arithmetic is done on natural numbers and rounded
  once: to the nearest such number, a tie to the even mantissa.  Nothing
  here is approximate, so comparisons and texts can be decided by
  evaluation.
-/

namespace TradingConfig

/-- The number ± `mantissa` · 2^`exponent`. -/
structure Binary64 where
  /-- Whether the sign is minus; zero has a sign too. -/
  negative : Bool
  /-- Below 2^53; at least 2^52 unless the exponent is the least one. -/
  mantissa : Nat
  /-- The power of two of one unit of the mantissa. -/
  exponent : Int
  deriving DecidableEq, Repr

namespace Binary64

/-! ## §1. Rounding a positive fraction. -/

/-- The exponent of the numbers nearest to zero. -/
def leastExponent : Int := -1074

/-- The exponent of the largest numbers. -/
def greatestExponent : Int := 971

/-- The quotient of two numbers, rounded to the nearest natural number; a
half goes to the even neighbour. -/
def divHalfEven (num den : Nat) : Nat :=
  let quotient := num / den
  let twice := 2 * (num % den)
  if twice < den then quotient
  else if den < twice then quotient + 1
  else quotient + quotient % 2

/-- The fraction `num / den` divided by 2^`q`, again as a fraction. -/
def unscale (num den : Nat) (q : Int) : Nat × Nat :=
  if 0 ≤ q then (num, den * Nat.pow 2 q.toNat) else (num * Nat.pow 2 (-q).toNat, den)

/-- The greatest power of two that is not above the positive fraction. -/
def floorLog2 (num den : Nat) : Int :=
  let estimate : Int := (num.log2 : Int) - (den.log2 : Int)
  let (n, d) := unscale num den estimate
  if d ≤ n then estimate else estimate - 1

/-- The number nearest to the fraction `num / den` under the given sign;
none if that is beyond the largest number. -/
def nearest? (negative : Bool) (num den : Nat) : Option Binary64 :=
  if num = 0 then some ⟨negative, 0, leastExponent⟩
  else
    let q := max (floorLog2 num den - 52) leastExponent
    let (n, d) := unscale num den q
    let m := divHalfEven n d
    let rounded : Binary64 :=
      if m = Nat.pow 2 53 then ⟨negative, Nat.pow 2 52, q + 1⟩ else ⟨negative, m, q⟩
    if greatestExponent < rounded.exponent then none else some rounded

/-! ## §2. Arithmetic. -/

/-- The fraction `num / den` times 2^`e`, rounded. -/
def nearestScaled? (negative : Bool) (num den : Nat) (e : Int) : Option Binary64 :=
  let (n, d) := unscale num den (-e)
  nearest? negative n d

/-- The product, rounded. -/
def mul? (a b : Binary64) : Option Binary64 :=
  nearestScaled? (a.negative != b.negative) (a.mantissa * b.mantissa) 1 (a.exponent + b.exponent)

/-- The quotient by a number other than zero, rounded. -/
def div? (a b : Binary64) : Option Binary64 :=
  nearestScaled? (a.negative != b.negative) a.mantissa b.mantissa (a.exponent - b.exponent)

/-- The same magnitude with the given sign. -/
def withSign (negative : Bool) (a : Binary64) : Binary64 :=
  { a with negative := negative }

/-! ## §3. Decimal numerals. -/

/-- The greatest power of ten below the largest number. -/
def decimalStride : Nat := 308

/-- The number nearest to a power of ten. -/
def powerOfTen? (k : Nat) : Option Binary64 :=
  nearest? false (Nat.pow 10 k) 1

/-- Division by 10^`k` in strides of 10^308, each of them rounded, until
the quotient vanishes; at most `strides` of them. -/
def divPowerOfTen? : (strides : Nat) → Binary64 → (k : Nat) → Option Binary64
  | 0, a, _ => some a
  | strides + 1, a, k =>
    if k ≤ decimalStride then (powerOfTen? k).bind a.div?
    else if a.mantissa = 0 then some a
    else do
      let stride ← powerOfTen? decimalStride
      let quotient ← a.div? stride
      divPowerOfTen? strides quotient (k - decimalStride)

/-- The reading of the numeral `significand` · 10^`exponent`: the
significand is rounded first and then multiplied or divided by the rounded
power of ten.  None if the product is beyond the largest number. -/
def ofDecimal? (negative : Bool) (significand : Nat) (exponent : Int) : Option Binary64 := do
  let start ← nearest? false significand 1
  let magnitude ←
    if 0 ≤ exponent then
      if exponent.toNat ≤ decimalStride then (powerOfTen? exponent.toNat).bind start.mul?
      else if start.mantissa = 0 then some start
      else none
    else
      let k := (-exponent).toNat
      divPowerOfTen? (k / decimalStride + 1) start k
  return magnitude.withSign negative

/-! ## §4. Exact comparison. -/

/-- The mantissa with its sign. -/
def signed (a : Binary64) : Int :=
  if a.negative then -(a.mantissa : Int) else a.mantissa

/-- Whether the number has no fractional part. -/
def isIntegral (a : Binary64) : Bool :=
  0 ≤ a.exponent || a.mantissa % Nat.pow 2 (-a.exponent).toNat == 0

/-- The two numbers as integers, both multiplied by one power of two. -/
def align (a b : Binary64) : Int × Int :=
  let least := min a.exponent b.exponent
  (a.signed * Int.pow 2 (a.exponent - least).toNat, b.signed * Int.pow 2 (b.exponent - least).toNat)

/-- Whether one number is below another; the two zeros are equal. -/
def lt (a b : Binary64) : Bool :=
  let (x, y) := align a b
  x < y

/-- Whether two numbers have one value; the two zeros do. -/
def sameValue (a b : Binary64) : Bool :=
  let (x, y) := align a b
  x == y

end Binary64

end TradingConfig
