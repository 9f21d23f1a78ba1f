/-
  TradingConfig.Number.Shortest
  ────────────────────────────────
  **THE FEWEST DIGITS THAT READ BACK.**

  The text of a binary number has the fewest decimal digits that still
  round to the number, and of the candidates with that many digits the one
  nearest to it.  The search (§1, §2) works on exact fractions: on the grid
  of decimals with n digits only the two neighbours of the value matter.
  How the digits are laid out is one record of decisions (§3).
-/
import TradingConfig.Number.Binary64

namespace TradingConfig.Binary64

/-! ## §1. The interval of a number. -/

/-- A magnitude and the ends of the interval of fractions that round to it,
all counted in quarters of the unit 2^`exponent`. -/
structure Interval where
  /-- The lower end. -/
  low : Nat
  /-- The magnitude itself. -/
  value : Nat
  /-- The upper end. -/
  high : Nat
  /-- Whether the ends themselves round to the magnitude. -/
  closed : Bool
  deriving DecidableEq, Repr

/-- The interval of fractions that round to the magnitude of `a`: half a
unit to each side, but a quarter below a power of two, where the numbers lie
twice as dense. -/
def interval (a : Binary64) : Interval where
  low := 4 * a.mantissa - (if a.mantissa = Nat.pow 2 52 ∧ leastExponent < a.exponent then 1 else 2)
  value := 4 * a.mantissa
  high := 4 * a.mantissa + 2
  closed := a.mantissa % 2 = 0

/-- Whether the fraction `num / den`, in quarters of the unit, lies in the
interval. -/
def Interval.contains (i : Interval) (num den : Nat) : Bool :=
  if i.closed then i.low * den ≤ num && num ≤ i.high * den
  else i.low * den < num && num < i.high * den

/-! ## §2. The search. -/

/-- The number of decimal digits; zero has one. -/
def digitCount (n : Nat) : Nat :=
  (Nat.toDigits 10 n).length

/-- The greatest power of ten that is not above the positive fraction. -/
def floorLog10 (num den : Nat) : Int :=
  if den ≤ num then (digitCount (num / den) : Int) - 1
  else -(digitCount ((den + num - 1) / num - 1) : Int)

/-- Decimal digits, read as one number, and the power of ten of the last
of them. -/
structure Decimal where
  /-- The digits as one number. -/
  digits : Nat
  /-- The power of ten of the last digit. -/
  exponent : Int
  deriving DecidableEq, Repr

/-- The quarter units that the decimal is worth, as a fraction. -/
def Decimal.quarters (d : Decimal) (exponent : Int) : Nat × Nat :=
  let (n, m) := if 0 ≤ d.exponent then (d.digits * Nat.pow 10 d.exponent.toNat, 1)
    else (d.digits, Nat.pow 10 (-d.exponent).toNat)
  unscale n m (exponent - 2)

/-- Without trailing zero digits, at most `count` of which are removed. -/
def Decimal.trim : (count : Nat) → Decimal → Decimal
  | 0, d => d
  | count + 1, d =>
    if d.digits % 10 = 0 ∧ d.digits ≠ 0 then
      Decimal.trim count ⟨d.digits / 10, d.exponent + 1⟩
    else d

/-- The better of the two neighbours of the magnitude on the grid of
decimals whose last digit has the power `k`, if one of them rounds to it. -/
def neighbour? (a : Binary64) (k : Int) : Option Decimal :=
  let (num, den) := unscale a.mantissa 1 (-a.exponent)
  let (n, d) := if 0 ≤ k then (num, den * Nat.pow 10 k.toNat)
    else (num * Nat.pow 10 (-k).toNat, den)
  let below : Decimal := ⟨n / d, k⟩
  let above : Decimal := ⟨n / d + 1, k⟩
  let reads (x : Decimal) : Bool :=
    let (p, q) := x.quarters a.exponent
    a.interval.contains p q
  let nearer : Decimal :=
    if 2 * (n % d) < d then below
    else if d < 2 * (n % d) then above
    else if below.digits % 2 = 0 then below else above
  match reads below, reads above with
  | true, true => some nearer
  | true, false => some below
  | false, true => some above
  | false, false => none

/-- The first hit on the grids of `digits`, `digits` + 1, … digits, at most
`count` of them. -/
def search (a : Binary64) (top : Int) : (count : Nat) → (digits : Nat) → Decimal
  | 0, _ => ⟨a.mantissa, a.exponent⟩
  | count + 1, digits =>
    match neighbour? a (top - digits + 1) with
    | some decimal => decimal
    | none => search a top count (digits + 1)

/-- The shortest decimal that rounds to the magnitude of `a`; seventeen
digits always do. -/
def shortest (a : Binary64) : Decimal :=
  if a.mantissa = 0 then ⟨0, 0⟩
  else
    let (num, den) := unscale a.mantissa 1 (-a.exponent)
    Decimal.trim 17 (search a (floorLog10 num den) 17 1)

/-! ## §3. The layout. -/

/-- How digits are laid out as text. -/
structure Layout where
  /-- The least power of ten of a first digit that is written positionally. -/
  positionalFrom : Int
  /-- The least power of ten of a first digit that is not written positionally
  any more. -/
  positionalBelow : Int
  /-- What stands for an integral value after its point. -/
  integralTail : List Char
  /-- The mark before an exponent. -/
  exponentMark : Char
  /-- The sign of an exponent that is not negative. -/
  plusSign : List Char
  deriving DecidableEq, Repr

/-- Digits, laid out. -/
def Layout.text (layout : Layout) (d : Decimal) : List Char :=
  let digits := Nat.toDigits 10 d.digits
  let top : Int := d.exponent + digits.length - 1
  if layout.positionalFrom ≤ top ∧ top < layout.positionalBelow then
    if 0 ≤ d.exponent then
      digits ++ List.replicate d.exponent.toNat '0' ++ '.' :: layout.integralTail
    else if 0 ≤ top then
      digits.take (top.toNat + 1) ++ '.' :: digits.drop (top.toNat + 1)
    else
      '0' :: '.' :: List.replicate (-top - 1).toNat '0' ++ digits
  else
    let sign := if top < 0 then ['-'] else layout.plusSign
    let mantissa := match digits with
      | [] => []
      | [digit] => [digit]
      | digit :: more => digit :: '.' :: more
    mantissa ++ layout.exponentMark :: sign ++ Nat.toDigits 10 top.natAbs

/-- The text of a number: sign, then the shortest digits in the layout. -/
def text (layout : Layout) (a : Binary64) : List Char :=
  (if a.negative then ['-'] else []) ++ layout.text a.shortest

end TradingConfig.Binary64
