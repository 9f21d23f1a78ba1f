/-
  TradingConfig.Proofs.Text.ByteOrder
  ────────────────────────────────
  **TEXTS COMPARE AS THEIR BYTES DO.**

  Texts are compared code point by code point.  UTF-8 writes a code point as
  its digits in base 64, the first one with a mark of how many follow
  (`utf8EncodeChar_append`), so of two code points the greater one has the
  greater bytes, whatever comes behind them (`utf8EncodeChar_lt`).  Texts
  are therefore in the order of their bytes (`utf8Bytes_lt_iff`).
-/
import Mathlib.Data.String.Basic
import TradingConfig.Text.KeyedList

namespace TradingConfig

open String (utf8EncodeChar)

/-! ## §1. Digits in base 64. -/

/-- The bytes of a code point, with `count` digits behind the one that is
marked, in front of further bytes. -/
def sextets (mark : Nat) : (count : Nat) → (point : Nat) → List UInt8 → List UInt8
  | 0, point, rest => UInt8.ofNat (point + mark) :: rest
  | count + 1, point, rest =>
    sextets mark count (point / 64) (UInt8.ofNat (point % 64 + 128) :: rest)

theorem byte_cons_lt {n m : Nat} {first second : List UInt8} (fits : n < 256) (fitsToo : m < 256)
    (less : n < m) : UInt8.ofNat n :: first < UInt8.ofNat m :: second := by
  rw [List.cons_lt_cons_iff, UInt8.ofNat_lt_iff_lt fits fitsToo]
  exact .inl less

/-- The first byte has the first digit. -/
theorem exists_sextets (mark count point : Nat) (rest : List UInt8) :
    ∃ tail, sextets mark count point rest = UInt8.ofNat (point / 64 ^ count + mark) :: tail := by
  induction count generalizing point rest with
  | zero =>
    rw [Nat.pow_zero, Nat.div_one]
    exact ⟨rest, rfl⟩
  | succ count ih =>
    rw [Nat.pow_succ', ← Nat.div_div_eq_div_mul]
    exact ih _ _

theorem sextets_lt_of_rest {first second : List UInt8} (mark count point : Nat)
    (less : first < second) :
    sextets mark count point first < sextets mark count point second := by
  induction count generalizing point first second with
  | zero => exact List.cons_lt_cons_iff.mpr (.inr ⟨rfl, less⟩)
  | succ count ih => exact ih _ (List.cons_lt_cons_iff.mpr (.inr ⟨rfl, less⟩))

/-- As many digits of a greater number. -/
theorem sextets_lt {mark count n m : Nat} (less : n < m) (fits : m / 64 ^ count + mark < 256)
    (first second : List UInt8) : sextets mark count n first < sextets mark count m second := by
  -- induction on the digits from the last one: it decides where all others agree
  induction count generalizing n m first second with
  | zero =>
    rw [Nat.pow_zero, Nat.div_one] at fits
    exact byte_cons_lt (by omega) fits (by omega)
  | succ count ih =>
    rw [Nat.pow_succ', ← Nat.div_div_eq_div_mul] at fits
    by_cases same : n / 64 = m / 64
    · show sextets mark count (n / 64) _ < sextets mark count (m / 64) _
      rw [same]
      exact sextets_lt_of_rest mark count _ (byte_cons_lt (by omega) (by omega) (by omega))
    · exact ih (by omega) fits _ _

/-! ## §2. Code points. -/

/-- How many digits of a code point follow the first one. -/
def trailing (point : Nat) : Nat :=
  if point ≤ 0x7f then 0 else if point ≤ 0x7ff then 1 else if point ≤ 0xffff then 2 else 3

/-- The mark of the first digit, by how many follow. -/
def leadMark : Nat → Nat
  | 0 => 0
  | 1 => 0xc0
  | 2 => 0xe0
  | _ => 0xf0

theorem val_lt (c : Char) : c.val.toNat < 0x110000 := by
  have valid := c.valid
  simp only [UInt32.isValidChar, Nat.isValidChar] at valid
  omega

theorem utf8EncodeChar_append (c : Char) (rest : List UInt8) :
    utf8EncodeChar c ++ rest
      = sextets (leadMark (trailing c.val.toNat)) (trailing c.val.toNat) c.val.toNat rest := by
  have bound := val_lt c
  unfold utf8EncodeChar trailing
  generalize c.val.toNat = n at bound
  -- the first digit is small, so nothing of it is cut off
  by_cases one : n ≤ 0x7f
  · simp [one, sextets, leadMark]
  by_cases two : n ≤ 0x7ff
  · have whole : n / 64 % 32 = n / 64 := by omega
    simp [one, two, whole, sextets, leadMark]
  by_cases three : n ≤ 0xffff
  · have whole : n / 4096 % 16 = n / 4096 := by omega
    simp [one, two, three, whole, sextets, leadMark, Nat.div_div_eq_div_mul]
  · have whole : n / 262144 % 8 = n / 262144 := by omega
    simp [one, two, three, whole, sextets, leadMark, Nat.div_div_eq_div_mul]

/-- The first byte of a code point, the mark included. -/
def leadByte (point : Nat) : Nat :=
  point / 64 ^ trailing point + leadMark (trailing point)

/-- The four sizes of code points. -/
theorem trailing_cases (point : Nat) :
    (point ≤ 0x7f ∧ trailing point = 0 ∧ leadByte point = point)
      ∨ (0x7f < point ∧ point ≤ 0x7ff ∧ trailing point = 1 ∧ leadByte point = point / 64 + 0xc0)
      ∨ (0x7ff < point ∧ point ≤ 0xffff ∧ trailing point = 2
        ∧ leadByte point = point / 4096 + 0xe0)
      ∨ (0xffff < point ∧ trailing point = 3 ∧ leadByte point = point / 262144 + 0xf0) := by
  unfold leadByte trailing
  by_cases one : point ≤ 0x7f
  · simp [one, leadMark]
  by_cases two : point ≤ 0x7ff
  · simp [one, two, leadMark]
    omega
  by_cases three : point ≤ 0xffff
  · simp [one, two, three, leadMark]
    omega
  · simp [one, two, three, leadMark]
    omega

/-- Of two code points the greater one has the greater bytes, whatever comes
behind them. -/
theorem utf8EncodeChar_lt {c d : Char} (less : c < d) (first second : List UInt8) :
    utf8EncodeChar c ++ first < utf8EncodeChar d ++ second := by
  have below : c.val.toNat < d.val.toNat := UInt32.lt_iff_toNat_lt.mp less
  have bound := val_lt d
  rw [utf8EncodeChar_append, utf8EncodeChar_append]
  generalize c.val.toNat = n at below
  generalize d.val.toNat = m at below bound
  have sizes := trailing_cases n
  have sizesToo := trailing_cases m
  by_cases same : trailing n = trailing m
  · have fits : leadByte m < 256 := by omega
    rw [same]
    exact sextets_lt below fits first second
  · -- where more digits follow, the first byte is greater
    have fits : leadByte m < 256 := by omega
    have leads : leadByte n < leadByte m := by omega
    obtain ⟨tail, bytes⟩ := exists_sextets (leadMark (trailing n)) (trailing n) n first
    obtain ⟨tailToo, bytesToo⟩ := exists_sextets (leadMark (trailing m)) (trailing m) m second
    rw [bytes, bytesToo]
    exact byte_cons_lt (Nat.lt_trans leads fits) fits leads

/-! ## §3. Texts. -/

/-- The bytes of a text. -/
def utf8Bytes (text : String) : List UInt8 := text.toUTF8.data.toList

theorem utf8Bytes_eq_flatMap (text : String) :
    utf8Bytes text = text.toList.flatMap utf8EncodeChar := by
  have written : (String.ofList text.toList).toUTF8.data.toList
      = text.toList.flatMap utf8EncodeChar := by
    rw [String.toUTF8_eq_toByteArray, String.toByteArray_ofList, List.utf8Encode,
      List.data_toByteArray]
  rw [String.ofList_toList] at written
  exact written

theorem flatMap_utf8EncodeChar_lt {first second : List Char} (less : first < second) :
    first.flatMap utf8EncodeChar < second.flatMap utf8EncodeChar := by
  induction first generalizing second with
  | nil =>
    cases second with
    | nil => exact absurd less (List.not_lt_nil [])
    | cons d rest =>
      obtain ⟨tail, bytes⟩ := exists_sextets (leadMark (trailing d.val.toNat))
        (trailing d.val.toNat) d.val.toNat (rest.flatMap utf8EncodeChar)
      rw [List.flatMap_nil, List.flatMap_cons, utf8EncodeChar_append, bytes]
      exact List.nil_lt_cons _ _
  | cons c others ih =>
    cases second with
    | nil => exact absurd less (List.not_lt_nil _)
    | cons d rest =>
      rw [List.flatMap_cons, List.flatMap_cons]
      rcases List.cons_lt_cons_iff.mp less with above | ⟨rfl, further⟩
      · exact utf8EncodeChar_lt above _ _
      · exact List.append_left_lt (ih further)

theorem utf8Bytes_lt_of_lt {first second : String} (less : first < second) :
    utf8Bytes first < utf8Bytes second := by
  rw [utf8Bytes_eq_flatMap, utf8Bytes_eq_flatMap]
  exact flatMap_utf8EncodeChar_lt (String.lt_iff_toList_lt.mp less)

/-- The order of texts is the order of their bytes. -/
theorem utf8Bytes_lt_iff {first second : String} :
    utf8Bytes first < utf8Bytes second ↔ first < second := by
  refine ⟨fun less => ?_, utf8Bytes_lt_of_lt⟩
  by_contra notBelow
  by_cases same : first = second
  · subst same
    exact List.lt_irrefl _ less
  · have above : second < first := KeyedList.lt_of_not_lt_of_ne notBelow same
    exact List.lt_irrefl _ (List.lt_trans less (utf8Bytes_lt_of_lt above))

end TradingConfig
