/-
  TradingConfig.Json.Scalar
  ────────────────────────────────
  **READING LITERALS, STRINGS AND NUMBERS.**

  Each reader takes the symbols from its place on and gives what it read
  together with the symbols that remain.  A string is read into symbols
  first and becomes a text only at its closing quote; a numeral is split
  into its digits first and valued afterwards.
-/
import TradingConfig.Json.Value
import TradingConfig.Json.SyntaxFault
import TradingConfig.Text.Hex
import TradingConfig.Text.Symbol

namespace TradingConfig.Json

/-- The four blanks between the parts of a value. -/
def isBlank : Symbol → Bool
  | .char c => c = ' ' || c = '\n' || c = '\t' || c = '\r'
  | .stray _ => false

/-- The symbols from the first one that is no blank. -/
def skipBlank (input : List Symbol) : List Symbol :=
  input.dropWhile isBlank

/-- The rest of a literal. -/
def literal (value : Json) :
    (expected : List Char) → List Symbol → Except SyntaxFault (Json × List Symbol)
  | [], rest => .ok (value, rest)
  | _ :: _, [] => .error .endInValue
  | e :: expected, s :: rest =>
    if s = .char e then literal value expected rest else .error .literalExpected

/-! ## §1. Strings. -/

/-- The value of a symbol that is a hexadecimal digit. -/
def nibble? : Symbol → Option Nat
  | .char c => hexValue? c
  | .stray _ => none

/-- Four hexadecimal digits; fewer than four bytes are the end of the text. -/
def fourHex (input : List Symbol) : Except SyntaxFault (Nat × List Symbol) :=
  match input with
  | a :: b :: c :: d :: rest =>
    match nibble? a, nibble? b, nibble? c, nibble? d with
    | some a, some b, some c, some d => .ok (((a * 16 + b) * 16 + c) * 16 + d, rest)
    | _, _, _, _ => .error .invalidEscape
  | _ => if Symbol.totalWidth input < 4 then .error .endInString else .error .invalidEscape

/-- Whether a code unit is the second of a surrogate pair. -/
def isTrailing (unit : Nat) : Bool :=
  0xDC00 ≤ unit && unit ≤ 0xDFFF

/-- Whether a code unit is the first of a surrogate pair. -/
def isLeading (unit : Nat) : Bool :=
  0xD800 ≤ unit && unit ≤ 0xDBFF

/-- A character given by its code units: one, or a surrogate pair. -/
def unicodeEscape (input : List Symbol) : Except SyntaxFault (Char × List Symbol) := do
  let (unit, rest) ← fourHex input
  if isTrailing unit then .error .loneSurrogate
  else if isLeading unit then
    match rest with
    | [] => .error .endInString
    | .char '\\' :: [] => .error .endInString
    | .char '\\' :: .char 'u' :: rest =>
      let (second, rest) ← fourHex rest
      if isTrailing second then
        .ok (Char.ofNat (0x10000 + (unit - 0xD800) * 0x400 + (second - 0xDC00)), rest)
      else .error .loneSurrogate
    | _ => .error .hexEscapeCutOff
  else .ok (Char.ofNat unit, rest)

/-- The character that follows a backslash stands for. -/
def escape (input : List Symbol) : Except SyntaxFault (Char × List Symbol) :=
  match input with
  | [] => .error .endInString
  | .char '"' :: rest => .ok ('"', rest)
  | .char '\\' :: rest => .ok ('\\', rest)
  | .char '/' :: rest => .ok ('/', rest)
  | .char 'b' :: rest => .ok ('\x08', rest)
  | .char 'f' :: rest => .ok ('\x0C', rest)
  | .char 'n' :: rest => .ok ('\n', rest)
  | .char 'r' :: rest => .ok ('\r', rest)
  | .char 't' :: rest => .ok ('\t', rest)
  | .char 'u' :: rest => unicodeEscape rest
  | _ => .error .invalidEscape

/-- The content of a string up to its closing quote, in at most `fuel`
steps. -/
def stringBody : (fuel : Nat) → List Symbol → Except SyntaxFault (List Symbol × List Symbol)
  | 0, _ => .error .endInString
  | _ + 1, [] => .error .endInString
  | fuel + 1, .stray byte :: rest => do
    let (content, rest) ← stringBody fuel rest
    .ok (.stray byte :: content, rest)
  | fuel + 1, .char c :: rest =>
    if c = '"' then .ok ([], rest)
    else if c = '\\' then do
      let (escaped, rest) ← escape rest
      let (content, rest) ← stringBody fuel rest
      .ok (.char escaped :: content, rest)
    else if c.toNat < 0x20 then .error .controlCharacter
    else do
      let (content, rest) ← stringBody fuel rest
      .ok (.char c :: content, rest)

/-- The characters of a string's content, if it holds no stray byte. -/
def characters? : List Symbol → Option (List Char)
  | [] => some []
  | .char c :: rest => (characters? rest).map (c :: ·)
  | .stray _ :: _ => none

/-- A string after its opening quote. -/
def stringText (fuel : Nat) (input : List Symbol) : Except SyntaxFault (String × List Symbol) := do
  let (content, rest) ← stringBody fuel input
  match characters? content with
  | some characters => .ok (String.ofList characters, rest)
  | none => .error .invalidCodePoint

/-! ## §2. Numerals. -/

/-- The parts of a numeral. -/
structure Numeral where
  /-- Whether a minus stands in front. -/
  negative : Bool
  /-- The digits before the point. -/
  whole : List Nat
  /-- The digits after the point; none without a point. -/
  fraction : List Nat
  /-- The exponent, if one is written. -/
  exponent : Option Int
  deriving DecidableEq, Repr

/-- The value of a decimal digit. -/
def digit? : Symbol → Option Nat
  | .char c => if '0' ≤ c ∧ c ≤ '9' then some (c.toNat - 48) else none
  | .stray _ => none

/-- The decimal digits at the start, and what follows them. -/
def takeDigits : List Symbol → List Nat × List Symbol
  | [] => ([], [])
  | s :: rest =>
    match digit? s with
    | some d => let (ds, rest) := takeDigits rest; (d :: ds, rest)
    | none => ([], s :: rest)

/-- At least one decimal digit. -/
def someDigits (input : List Symbol) : Except SyntaxFault (List Nat × List Symbol) :=
  match takeDigits input with
  | ([], []) => .error .endInValue
  | ([], _ :: _) => .error .invalidNumber
  | (ds, rest) => .ok (ds, rest)

/-- The number that digits stand for. -/
def digitsValue (digits : List Nat) : Nat :=
  digits.foldl (fun n d => n * 10 + d) 0

/-- The digits before the point: no zero in front of another digit. -/
def wholePart (input : List Symbol) : Except SyntaxFault (List Nat × List Symbol) := do
  let (ds, rest) ← someDigits input
  match ds with
  | 0 :: _ :: _ => .error .invalidNumber
  | _ => .ok (ds, rest)

/-- The digits after a point, if there is one. -/
def fractionPart (input : List Symbol) : Except SyntaxFault (Option (List Nat) × List Symbol) :=
  match input with
  | .char '.' :: rest => do
    let (ds, rest) ← someDigits rest
    .ok (some ds, rest)
  | _ => .ok (none, input)

/-- The digits of an exponent under their sign. -/
def signedDigits (negative : Bool) (input : List Symbol) :
    Except SyntaxFault (Option Int × List Symbol) := do
  let (ds, rest) ← someDigits input
  let magnitude : Int := digitsValue ds
  .ok (some (if negative then -magnitude else magnitude), rest)

/-- The exponent, if there is one. -/
def exponentPart (input : List Symbol) : Except SyntaxFault (Option Int × List Symbol) :=
  match input with
  | .char 'e' :: .char '+' :: rest | .char 'E' :: .char '+' :: rest => signedDigits false rest
  | .char 'e' :: .char '-' :: rest | .char 'E' :: .char '-' :: rest => signedDigits true rest
  | .char 'e' :: rest | .char 'E' :: rest => signedDigits false rest
  | _ => .ok (none, input)

/-- The largest significand that a numeral is valued with. -/
def significandLimit : Nat := Nat.pow 2 64 - 1

/-- The significand extended by digits until the next one would exceed the
limit, and the digits that are left over. -/
def absorb (significand : Nat) : List Nat → Nat × List Nat
  | [] => (significand, [])
  | d :: ds =>
    if significandLimit < significand * 10 + d then (significand, d :: ds)
    else absorb (significand * 10 + d) ds

/-- A numeral as a floating-point number: digits before the point that do
not fit the significand raise the exponent, digits after the point that do
not fit are dropped. -/
def Numeral.float? (n : Numeral) : Option Binary64 :=
  let (significand, wholeRest) := absorb 0 n.whole
  let (significand, fractionRest) := absorb significand n.fraction
  let places : Int := (n.fraction.length : Int) - fractionRest.length
  Binary64.ofDecimal? n.negative significand (wholeRest.length - places + n.exponent.getD 0)

/-- The value of a numeral.  One without point and exponent is an integer
if it lies between -2^63 and 2^64 - 1 and is not minus zero. -/
def Numeral.value (n : Numeral) (isPlain : Bool) : Except SyntaxFault Json :=
  let magnitude := digitsValue n.whole
  if isPlain && !n.negative && magnitude ≤ significandLimit then .ok (.num (.int magnitude))
  else if isPlain && n.negative && 0 < magnitude && magnitude ≤ Nat.pow 2 63 then
    .ok (.num (.int (-(magnitude : Int))))
  else match n.float? with
    | some x => .ok (.num (.float x))
    | none => .error .numberTooLarge

/-- A number, after its minus if it has one. -/
def number (negative : Bool) (input : List Symbol) : Except SyntaxFault (Json × List Symbol) := do
  let (whole, rest) ← wholePart input
  let (fraction, rest) ← fractionPart rest
  let (exponent, rest) ← exponentPart rest
  let value ← (Numeral.mk negative whole (fraction.getD []) exponent).value
    (fraction.isNone && exponent.isNone)
  .ok (value, rest)

end TradingConfig.Json
