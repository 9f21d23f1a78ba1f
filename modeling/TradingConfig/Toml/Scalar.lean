/-
  TradingConfig.Toml.Scalar
  ────────────────────────────────
  **READING TOML STRINGS, NUMBERS AND MOMENTS.**

  Each reader takes the characters from its place on and gives what it read
  together with the characters that remain, or nothing if the text is not
  well formed.
-/
import TradingConfig.Text.Hex
import TradingConfig.Toml.Value

namespace TradingConfig.Toml

/-! ## §1. Blanks, new lines and comments. -/

/-- The two blanks inside of a line. -/
def isBlank (c : Char) : Bool :=
  c = ' ' || c = '\t'

/-- The characters from the first one that is no blank. -/
def skipBlank (input : List Char) : List Char :=
  input.dropWhile isBlank

/-- What follows a new line. -/
def newLine? : List Char → Option (List Char)
  | '\n' :: rest => some rest
  | '\r' :: '\n' :: rest => some rest
  | _ => none

/-- Whether a character may stand in a comment or a literal string. -/
def isPrintable (c : Char) : Bool :=
  c = '\t' || (0x20 ≤ c.toNat && c.toNat ≠ 0x7F)

/-- What follows a comment, if there is one. -/
def skipComment (input : List Char) : List Char :=
  match input with
  | '#' :: rest => rest.dropWhile isPrintable
  | _ => input

/-- What follows the end of a line, after blanks and a comment. -/
def lineEnd? (input : List Char) : Option (List Char) :=
  match skipComment (skipBlank input) with
  | [] => some []
  | rest => newLine? rest

/-- What follows blanks, comments and new lines, in at most `fuel` steps. -/
def skipLines : (fuel : Nat) → List Char → List Char
  | 0, input => input
  | fuel + 1, input =>
    let rest := skipBlank input
    match newLine? (skipComment rest) with
    | some rest => skipLines fuel rest
    | none => rest

/-! ## §2. Strings. -/

/-- The character that follows a backslash stands for. -/
def escape : List Char → Option (Char × List Char)
  | 'b' :: rest => some ('\x08', rest)
  | 't' :: rest => some ('\t', rest)
  | 'n' :: rest => some ('\n', rest)
  | 'f' :: rest => some ('\x0C', rest)
  | 'r' :: rest => some ('\r', rest)
  | '"' :: rest => some ('"', rest)
  | '\\' :: rest => some ('\\', rest)
  | 'u' :: rest => hexChar? 4 rest
  | 'U' :: rest => hexChar? 8 rest
  | _ => none

/-- The rest of a basic string after its opening quote. -/
def basicBody : (fuel : Nat) → List Char → Option (List Char × List Char)
  | 0, _ => none
  | _ + 1, [] => none
  | fuel + 1, c :: rest =>
    if c = '"' then some ([], rest)
    else if c = '\\' then do
      let (escaped, rest) ← escape rest
      let (body, rest) ← basicBody fuel rest
      some (escaped :: body, rest)
    else if isPrintable c then do
      let (body, rest) ← basicBody fuel rest
      some (c :: body, rest)
    else none

/-- The rest of a literal string after its opening quote. -/
def literalBody : List Char → Option (List Char × List Char)
  | [] => none
  | c :: rest =>
    if c = '\'' then some ([], rest)
    else if isPrintable c then do
      let (body, rest) ← literalBody rest
      some (c :: body, rest)
    else none

/-- The end of a text of several lines: three quotes, in front of which up
to two more belong to the text. -/
def longEnd? (quote : Char) (input : List Char) : Option (List Char × List Char) :=
  let quotes := (input.take 5).takeWhile (· = quote)
  if 3 ≤ quotes.length then some (quotes.drop 3, input.drop quotes.length) else none

/-- What follows blanks and new lines. -/
def skipBlankLines : (fuel : Nat) → List Char → List Char
  | 0, input => input
  | fuel + 1, input =>
    let rest := skipBlank input
    match newLine? rest with
    | some rest => skipBlankLines fuel rest
    | none => rest

/-- The rest of a string of several lines.  Every new line in it is a
single line feed; a backslash at the end of a line joins it with the next
text.  A literal one knows no escapes. -/
def longBody (quote : Char) (isLiteral : Bool) :
    (fuel : Nat) → List Char → Option (List Char × List Char)
  | 0, _ => none
  | _ + 1, [] => none
  | fuel + 1, c :: rest =>
    match newLine? (c :: rest) with
    | some rest => do
      let (body, rest) ← longBody quote isLiteral fuel rest
      some ('\n' :: body, rest)
    | none =>
      if c = quote then
        match longEnd? quote (c :: rest) with
        | some ending => some ending
        | none => do
          let (body, rest) ← longBody quote isLiteral fuel rest
          some (c :: body, rest)
      else if c = '\\' ∧ !isLiteral then
        match newLine? (skipBlank rest) with
        | some rest => longBody quote isLiteral fuel (skipBlankLines fuel rest)
        | none => do
          let (escaped, rest) ← escape rest
          let (body, rest) ← longBody quote isLiteral fuel rest
          some (escaped :: body, rest)
      else if isPrintable c then do
        let (body, rest) ← longBody quote isLiteral fuel rest
        some (c :: body, rest)
      else none

/-- A new line right after three opening quotes is no part of the text. -/
def skipFirstNewLine (input : List Char) : List Char :=
  (newLine? input).getD input

/-- A string. -/
def string (fuel : Nat) : List Char → Option (String × List Char)
  | '"' :: '"' :: '"' :: rest =>
    (longBody '"' false fuel (skipFirstNewLine rest)).map fun (body, rest) =>
      (String.ofList body, rest)
  | '\'' :: '\'' :: '\'' :: rest =>
    (longBody '\'' true fuel (skipFirstNewLine rest)).map fun (body, rest) =>
      (String.ofList body, rest)
  | '"' :: rest => (basicBody fuel rest).map fun (body, rest) => (String.ofList body, rest)
  | '\'' :: rest => (literalBody rest).map fun (body, rest) => (String.ofList body, rest)
  | _ => none

/-! ## §3. Numbers. -/

/-- Whether a character is a decimal digit. -/
def isDigit (c : Char) : Bool :=
  '0' ≤ c && c ≤ '9'

/-- Further digits, each possibly after an underscore; an underscore with
no digit after it is refused. -/
def moreDigits (accepts : Char → Bool) : List Char → Option (List Char × List Char)
  | '_' :: d :: rest =>
    if accepts d then do
      let (digits, rest) ← moreDigits accepts rest
      some (d :: digits, rest)
    else none
  | ['_'] => none
  | [] => some ([], [])
  | c :: rest =>
    if accepts c then do
      let (digits, rest) ← moreDigits accepts rest
      some (c :: digits, rest)
    else some ([], c :: rest)

/-- At least one digit. -/
def someDigits (accepts : Char → Bool) : List Char → Option (List Char × List Char)
  | c :: rest =>
    if accepts c then do
      let (digits, rest) ← moreDigits accepts rest
      some (c :: digits, rest)
    else none
  | [] => none

/-- A sign, if there is one: whether it is a minus. -/
def sign : List Char → Bool × List Char
  | '+' :: rest => (false, rest)
  | '-' :: rest => (true, rest)
  | rest => (false, rest)

/-- Decimal digits without a zero in front of others. -/
def wholeDigits : List Char → Option (List Char × List Char)
  | '0' :: rest => some (['0'], rest)
  | input => someDigits isDigit input

/-- The number that digits of a base stand for. -/
def digitsValue (base : Nat) (digits : List Char) : Nat :=
  digits.foldl (fun n d => n * base + (hexValue? d).getD 0) 0

/-- Digits after a point, if there is one. -/
def fraction : List Char → Option (List Char × List Char)
  | '.' :: rest => someDigits isDigit rest
  | rest => some ([], rest)

/-- An exponent, if there is one. -/
def exponent (input : List Char) : Option (Option Int × List Char) :=
  let read (rest : List Char) : Option (Option Int × List Char) := do
    let (negative, rest) := sign rest
    let (digits, rest) ← someDigits isDigit rest
    let magnitude : Int := digitsValue 10 digits
    some (some (if negative then -magnitude else magnitude), rest)
  match input with
  | 'e' :: rest | 'E' :: rest => read rest
  | _ => some (none, input)

/-- Whether a decimal is so large that it rounds to infinity: from half a
unit above the largest number on. -/
def isBeyondRange (digits : List Char) (exponent : Int) : Bool :=
  let significand := digitsValue 10 digits
  let limit := Nat.pow 2 1024 - Nat.pow 2 970
  if significand = 0 then false
  else if 0 ≤ exponent then 310 < exponent || limit ≤ significand * Nat.pow 10 exponent.toNat
  else if (digits.length : Int) + exponent < 300 then false
  else limit * Nat.pow 10 (-exponent).toNat ≤ significand

/-- What follows a floating-point number. -/
def float? (input : List Char) : Option (List Char) := do
  let (negative, unsigned) := sign input
  match unsigned with
  | 'i' :: 'n' :: 'f' :: rest => some rest
  | 'n' :: 'a' :: 'n' :: rest => some rest
  | _ =>
    let (whole, rest) ← wholeDigits unsigned
    let (places, rest) ← fraction rest
    let (power, rest) ← exponent rest
    if places.isEmpty && power.isNone then none
    else if !negative && isBeyondRange (whole ++ places) (power.getD 0 - places.length) then none
    else some rest

/-- An integer of 64 bits. -/
def inRange? (value : Int) (rest : List Char) : Option (Int × List Char) :=
  if -Int.pow 2 63 ≤ value ∧ value < Int.pow 2 63 then some (value, rest) else none

/-- Digits of a base after its mark. -/
def based (base : Nat) (input : List Char) : Option (Int × List Char) := do
  let (digits, rest) ← someDigits (fun c => (hexValue? c).any (· < base)) input
  inRange? (digitsValue base digits) rest

/-- An integer. -/
def integer : List Char → Option (Int × List Char)
  | '0' :: 'x' :: rest => based 16 rest
  | '0' :: 'o' :: rest => based 8 rest
  | '0' :: 'b' :: rest => based 2 rest
  | input => do
    let (negative, unsigned) := sign input
    let (digits, rest) ← wholeDigits unsigned
    let magnitude : Int := digitsValue 10 digits
    inRange? (if negative then -magnitude else magnitude) rest

/-! ## §4. Moments in time. -/

/-- Exactly `count` digits. -/
def fixedDigits (count : Nat) (input : List Char) : Option (Nat × List Char) :=
  let digits := input.take count
  if digits.length = count ∧ digits.all isDigit then
    some (digitsValue 10 digits, input.drop count)
  else none

/-- What follows a given character. -/
def after? (c : Char) : List Char → Option (List Char)
  | d :: rest => if d = c then some rest else none
  | [] => none

/-- The number of days of a month. -/
def daysIn (year month : Nat) : Nat :=
  if month = 2 then
    if year % 4 = 0 ∧ (year % 100 ≠ 0 ∨ year % 400 = 0) then 29 else 28
  else if month = 4 ∨ month = 6 ∨ month = 9 ∨ month = 11 then 30
  else 31

/-- What follows a date. -/
def date? (input : List Char) : Option (List Char) := do
  let (year, rest) ← fixedDigits 4 input
  let rest ← after? '-' rest
  let (month, rest) ← fixedDigits 2 rest
  let rest ← after? '-' rest
  let (day, rest) ← fixedDigits 2 rest
  if 1 ≤ month ∧ month ≤ 12 ∧ 1 ≤ day ∧ day ≤ daysIn year month then some rest else none

/-- What follows hours and minutes. -/
def hourMinute? (input : List Char) : Option (List Char) := do
  let (hour, rest) ← fixedDigits 2 input
  let rest ← after? ':' rest
  let (minute, rest) ← fixedDigits 2 rest
  if hour ≤ 23 ∧ minute ≤ 59 then some rest else none

/-- What follows a time of day. -/
def time? (input : List Char) : Option (List Char) := do
  let rest ← hourMinute? input
  let rest ← after? ':' rest
  let (second, rest) ← fixedDigits 2 rest
  if 60 < second then none
  else match rest with
    | '.' :: d :: rest => if isDigit d then some (rest.dropWhile isDigit) else none
    | ['.'] => none
    | _ => some rest

/-- What follows an offset from universal time, if there is one. -/
def offset? : List Char → Option (List Char)
  | 'Z' :: rest | 'z' :: rest => some rest
  | '+' :: rest | '-' :: rest => hourMinute? rest
  | rest => some rest

/-- What follows a date, a time, or both. -/
def moment? (input : List Char) : Option (List Char) :=
  match date? input with
  | none => time? input
  | some rest =>
    match rest with
    | c :: later =>
      if c = 'T' ∨ c = 't' ∨ c = ' ' then
        match time? later with
        | some rest => offset? rest
        | none => some rest
      else some rest
    | [] => some rest

end TradingConfig.Toml
