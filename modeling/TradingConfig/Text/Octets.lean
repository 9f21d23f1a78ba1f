/-
  TradingConfig.Text.Octets
  ────────────────────────────────
  **PLACES IN A TEXT, COUNTED IN OCTETS.**

  A place is the number of octets in front of it.  A part between two
  places can be taken out only where neither of them lies inside of a
  character.
-/

namespace TradingConfig

/-- The number of octets that characters take. -/
def octetCount : List Char → Nat
  | [] => 0
  | c :: rest => c.utf8Size + octetCount rest

/-- The characters from a place on. -/
def dropOctets? : (place : Nat) → List Char → Option (List Char)
  | 0, text => some text
  | _ + 1, [] => none
  | place + 1, c :: rest =>
    if c.utf8Size ≤ place + 1 then dropOctets? (place + 1 - c.utf8Size) rest else none

/-- The characters up to a place. -/
def takeOctets? : (place : Nat) → List Char → Option (List Char)
  | 0, _ => some []
  | _ + 1, [] => none
  | place + 1, c :: rest =>
    if c.utf8Size ≤ place + 1 then
      (takeOctets? (place + 1 - c.utf8Size) rest).map (c :: ·)
    else none

/-- The characters between two places. -/
def octetsBetween? (start stop : Nat) (text : List Char) : Option (List Char) :=
  (dropOctets? start text).bind (takeOctets? (stop - start))

end TradingConfig
