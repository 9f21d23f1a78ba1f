/-
  TradingConfig.Proofs.Json.Scalar
  ────────────────────────────────
  **STRINGS AND INTEGERS READ BACK.**

  The text of a string holds an escape for every quote, backslash and
  control character; each escape is read as the character it was made from,
  and all other characters stand for themselves, so the string is read back
  (`stringText_quoted`).  The digits of an integer have no leading zero and
  end where no digit, point or exponent follows, so an integer between
  -2^63 and 2^64 - 1 is read back (`number_toDigits`).
-/
import Mathlib
import TradingConfig.Json.Printer
import TradingConfig.Json.Scalar

namespace TradingConfig.Json

/-! ## §1. Escapes. -/

theorem nibble?_hexDigit : ∀ n < 16, nibble? (.char (hexDigit n)) = some n := by
  decide

/-- The escape of a control character by its number. -/
theorem unicodeEscape_hexDigit {n : Nat} (small : n < 0x20) (rest : List Symbol) :
    unicodeEscape
        (.char '0' :: .char '0' :: .char (hexDigit (n / 16)) :: .char (hexDigit (n % 16)) :: rest)
      = .ok (Char.ofNat n, rest) := by
  have zero : nibble? (.char '0') = some 0 := by decide
  have high := nibble?_hexDigit (n / 16) (by omega)
  have low := nibble?_hexDigit (n % 16) (by omega)
  have unit : ((0 * 16 + 0) * 16 + n / 16) * 16 + n % 16 = n := by omega
  have read : fourHex (.char '0' :: .char '0' :: .char (hexDigit (n / 16))
      :: .char (hexDigit (n % 16)) :: rest) = .ok (n, rest) := by
    simp only [fourHex, zero, high, low, unit]
  have notTrailing : isTrailing n = false := by simp [isTrailing]; omega
  have notLeading : isLeading n = false := by simp [isLeading]; omega
  unfold unicodeEscape
  rw [read]
  show (if isTrailing n then _ else if isLeading n then _ else _) = _
  rw [notTrailing, notLeading]
  rfl

/-- One character of a string is read from its escaped form. -/
theorem stringBody_escapeChar (c : Char) (fuel : Nat) (rest : List Symbol) :
    stringBody (fuel + 1) ((escapeChar c).map Symbol.char ++ rest)
      = (stringBody fuel rest).map fun read => (.char c :: read.1, read.2) := by
  unfold escapeChar
  -- the two-character escapes first: quote, backslash and the named control characters
  split
  next h => subst h; rfl
  split
  next h => subst h; rfl
  split
  next h => subst h; rfl
  split
  next h => subst h; rfl
  split
  next h => subst h; rfl
  split
  next h =>
    have same : c = '\x08' := Char.toNat_inj.mp h
    subst same; rfl
  split
  next h =>
    have same : c = '\x0C' := Char.toNat_inj.mp h
    subst same; rfl
  split
  next control =>
    -- the other control characters are written by their number
    have back : Char.ofNat c.toNat = c := Char.ofNat_toNat c
    have read := unicodeEscape_hexDigit control rest
    rw [back] at read
    show (unicodeEscape (.char '0' :: .char '0' :: .char (hexDigit (c.toNat / 16))
      :: .char (hexDigit (c.toNat % 16)) :: rest) >>= _) = _
    rw [read]
    rfl
  next notQuote notBackslash _ _ _ _ _ visible =>
    -- what is left stands for itself
    show stringBody (fuel + 1) (.char c :: rest) = _
    simp only [stringBody, notQuote, notBackslash, visible, if_false]
    rfl

/-! ## §2. Strings. -/

/-- The content of a string is read up to its closing quote. -/
theorem stringBody_escaped (characters : List Char) {fuel : Nat}
    (enough : characters.length < fuel) (rest : List Symbol) :
    stringBody fuel ((characters.flatMap escapeChar).map Symbol.char ++ .char '"' :: rest)
      = .ok (characters.map Symbol.char, rest) := by
  induction characters generalizing fuel with
  | nil =>
    obtain ⟨fuel, rfl⟩ : ∃ k, fuel = k + 1 := ⟨fuel - 1, by simp at enough; omega⟩
    rfl
  | cons c characters ih =>
    obtain ⟨fuel, rfl⟩ : ∃ k, fuel = k + 1 := ⟨fuel - 1, by simp at enough; omega⟩
    have more : characters.length < fuel := by simpa using enough
    rw [List.flatMap_cons, List.map_append, List.append_assoc, stringBody_escapeChar, ih more]
    rfl

theorem characters?_map_char (characters : List Char) :
    characters? (characters.map Symbol.char) = some characters := by
  induction characters with
  | nil => rfl
  | cons c characters ih =>
    show (characters? (characters.map Symbol.char)).map (c :: ·) = _
    rw [ih]
    rfl

/-- A string is read back after its opening quote. -/
theorem stringText_quoted (text : String) {fuel : Nat} (enough : text.toList.length < fuel)
    (rest : List Symbol) :
    stringText fuel ((text.toList.flatMap escapeChar).map Symbol.char ++ .char '"' :: rest)
      = .ok (text, rest) := by
  unfold stringText
  rw [stringBody_escaped text.toList enough rest]
  dsimp only [bind, Except.bind]
  rw [characters?_map_char]
  show Except.ok (String.ofList text.toList, rest) = _
  rw [String.ofList_toList]

theorem length_le_flatMap_escapeChar (characters : List Char) :
    characters.length ≤ (characters.flatMap escapeChar).length := by
  induction characters with
  | nil => exact Nat.le_refl 0
  | cons c characters ih =>
    have nonempty : 1 ≤ (escapeChar c).length := by
      unfold escapeChar
      repeat' split
      all_goals simp
    rw [List.flatMap_cons, List.length_append, List.length_cons]
    omega

/-- The text of a string is longer than the string. -/
theorem length_lt_quoted (text : String) : text.toList.length + 2 ≤ (quoted text).length := by
  have escaped := length_le_flatMap_escapeChar text.toList
  simp only [quoted, List.cons_append, List.length_cons, List.length_append, List.length_nil]
  omega

/-! ## §3. Digits. -/

/-- What follows a numeral does not continue it. -/
def EndsNumeral : List Symbol → Prop
  | [] => True
  | s :: _ => digit? s = none ∧ s ≠ .char '.' ∧ s ≠ .char 'e' ∧ s ≠ .char 'E'

/-- The decimal digits of a number, as numbers. -/
def decimalDigits (n : Nat) : List Nat :=
  (Nat.toDigits 10 n).map fun c => c.toNat - 48

theorem digit?_of_isDigit {c : Char} (isDigit : c.isDigit = true) :
    digit? (.char c) = some (c.toNat - 48) := by
  have bounds : '0' ≤ c ∧ c ≤ '9' := by
    simpa [Char.isDigit, Char.le_def] using isDigit
  simp [digit?, bounds]

theorem takeDigits_append {digits : List Char} (all : ∀ c ∈ digits, c.isDigit = true)
    {rest : List Symbol} (ends : EndsNumeral rest) :
    takeDigits (digits.map Symbol.char ++ rest)
      = (digits.map (fun c => c.toNat - 48), rest) := by
  induction digits with
  | nil =>
    cases rest with
    | nil => rfl
    | cons s rest => simp [takeDigits, ends.1]
  | cons c digits ih =>
    have head := digit?_of_isDigit (all c List.mem_cons_self)
    have tail := ih fun d member => all d (List.mem_cons_of_mem c member)
    rw [List.map_cons, List.cons_append, takeDigits, head]
    dsimp only
    rw [tail, List.map_cons]

theorem digitsValue_decimalDigits (n : Nat) : digitsValue (decimalDigits n) = n := by
  have value := Nat.ofDigitChars_ten_toDigits (n := n)
  rw [Nat.ofDigitChars_eq_foldl] at value
  simpa [digitsValue, decimalDigits, List.foldl_map, Nat.mul_comm] using value

/-- The digits of a positive number do not start with zero. -/
theorem head?_toDigits {n : Nat} (positive : 0 < n) : (Nat.toDigits 10 n).head? ≠ some '0' := by
  induction n using Nat.strongRecOn with
  | _ n ih =>
    -- the first digit of a longer number is that of its tenth
    by_cases small : n < 10
    · have nonzero : ∀ d < 10, 0 < d → [Nat.digitChar d].head? ≠ some '0' := by decide
      rw [Nat.toDigits_of_lt_base small]
      exact nonzero n small positive
    · rw [Nat.toDigits_of_base_le (by decide) (by omega), List.head?_append]
      have shorter := ih (n / 10) (by omega) (by omega)
      cases digits : (Nat.toDigits 10 (n / 10)).head? with
      | none => simp [Nat.toDigits_ne_nil] at digits
      | some c =>
        rw [digits] at shorter
        simpa using shorter

/-- A digit that is not zero has a value that is not zero. -/
theorem digit_ne_zero {d : Char} (isDigit : d.isDigit = true) (notZero : d ≠ '0') :
    d.toNat - 48 ≠ 0 := by
  have bounds : '0' ≤ d ∧ d ≤ '9' := by
    simpa [Char.isDigit, Char.le_def] using isDigit
  have least : 48 ≤ d.toNat := bounds.1
  intro below
  have atLeast : d.toNat = 48 := by omega
  exact notZero (Char.toNat_inj.mp atLeast)

/-- The digits of a number are read as its digits before the point. -/
theorem wholePart_toDigits (n : Nat) {rest : List Symbol} (ends : EndsNumeral rest) :
    wholePart ((Nat.toDigits 10 n).map Symbol.char ++ rest)
      = .ok (decimalDigits n, rest) := by
  have all : ∀ c ∈ Nat.toDigits 10 n, c.isDigit = true := fun c member =>
    Nat.isDigit_of_mem_toDigits (by decide) (by decide) member
  have taken := takeDigits_append all ends
  have leading : n = 0 ∨ (Nat.toDigits 10 n).head? ≠ some '0' :=
    (Nat.eq_zero_or_pos n).imp id head?_toDigits
  unfold decimalDigits
  cases digits : Nat.toDigits 10 n with
  | nil => exact absurd digits Nat.toDigits_ne_nil
  | cons d ds =>
    rw [digits] at taken all leading
    have some : someDigits ((d :: ds).map Symbol.char ++ rest)
        = .ok ((d :: ds).map (fun c => c.toNat - 48), rest) := by
      unfold someDigits
      rw [taken]
      rfl
    unfold wholePart
    rw [some]
    cases ds with
    | nil =>
      simp only [List.map_cons, List.map_nil]
      cases d.toNat - 48 <;> rfl
    | cons e es =>
      -- a second digit: the number is not zero, so the first digit is not zero
      have notZero : d.toNat - 48 ≠ 0 := by
        rcases leading with zero | notZero
        · subst zero
          simp at digits
        · apply digit_ne_zero (all d List.mem_cons_self)
          rintro rfl
          exact notZero rfl
      obtain ⟨k, hk⟩ : ∃ k, d.toNat - 48 = k + 1 := ⟨d.toNat - 48 - 1, by omega⟩
      simp only [List.map_cons, hk]
      rfl

/-! ## §4. Integers. -/

/-- A numeral without point and exponent ends where `EndsNumeral` says. -/
theorem fractionPart_of_ends {rest : List Symbol} (ends : EndsNumeral rest) :
    fractionPart rest = .ok (none, rest) := by
  unfold fractionPart
  split
  · exact absurd rfl ends.2.1
  · rfl

theorem exponentPart_of_ends {rest : List Symbol} (ends : EndsNumeral rest) :
    exponentPart rest = .ok (none, rest) := by
  unfold exponentPart
  split
  all_goals first
    | exact absurd rfl ends.2.2.1
    | exact absurd rfl ends.2.2.2
    | rfl

/-- The integers that keep their kind when they are read. -/
def InRange (n : Int) : Prop :=
  -(2 ^ 63) ≤ n ∧ n < 2 ^ 64

/-- A plain numeral in range keeps its value and its kind. -/
theorem value_of_inRange (negative : Bool) (magnitude : Nat)
    (range : InRange (if negative then -(magnitude : Int) else magnitude))
    (signed : negative = true → 0 < magnitude) :
    (Numeral.mk negative (decimalDigits magnitude) [] none).value true
      = .ok (.num (.int (if negative then -(magnitude : Int) else magnitude))) := by
  unfold Numeral.value
  rw [digitsValue_decimalDigits]
  -- the limits differ: minus zero and what lies below -2^63 change their kind
  cases negative with
  | false =>
    have fits : magnitude ≤ significandLimit := by
      have upper : (magnitude : Int) < 2 ^ 64 := range.2
      unfold significandLimit
      rw [Nat.pow_eq]
      omega
    simp [fits]
  | true =>
    have positive : 0 < magnitude := signed rfl
    have fits : magnitude ≤ Nat.pow 2 63 := by
      have lower : -(2 ^ 63) ≤ -(magnitude : Int) := range.1
      rw [Nat.pow_eq]
      omega
    have small : decide (magnitude ≤ Nat.pow 2 63) = true := decide_eq_true fits
    have isPositive : decide (0 < magnitude) = true := decide_eq_true positive
    simp only [small, isPositive, Bool.not_true, Bool.and_false, Bool.false_and, Bool.and_self,
      Bool.false_eq_true, if_false, if_true]

/-- The digits of an integer are read as the integer. -/
theorem number_toDigits (negative : Bool) (magnitude : Nat)
    (range : InRange (if negative then -(magnitude : Int) else magnitude))
    (signed : negative = true → 0 < magnitude) {rest : List Symbol} (ends : EndsNumeral rest) :
    number negative ((Nat.toDigits 10 magnitude).map Symbol.char ++ rest)
      = .ok (.num (.int (if negative then -(magnitude : Int) else magnitude)), rest) := by
  have value := value_of_inRange negative magnitude range signed
  unfold number
  rw [wholePart_toDigits magnitude ends]
  show (fractionPart rest >>= _) = _
  rw [fractionPart_of_ends ends]
  show (exponentPart rest >>= _) = _
  rw [exponentPart_of_ends ends]
  show ((Numeral.mk negative (decimalDigits magnitude) [] none).value true >>= _) = _
  rw [value]
  rfl

end TradingConfig.Json
