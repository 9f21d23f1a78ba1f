/-
  TradingConfig.Json.Value
  ────────────────────────────────
  **JSON VALUES.**

  The members of an object are a list of pairs in any order.  In a
  canonical value every object is a keyed list, so that equal contents are
  equal values (`canonical`).
-/
import TradingConfig.Number.Basic
import TradingConfig.Text.KeyedList

namespace TradingConfig

/-- A JSON value. -/
inductive Json where
  /-- The literal `null`. -/
  | null
  /-- The literals `true` and `false`. -/
  | bool (value : Bool)
  /-- A number. -/
  | num (value : Number)
  /-- A string. -/
  | str (text : String)
  /-- An array. -/
  | arr (items : List Json)
  /-- An object. -/
  | obj (members : List (String × Json))
  deriving Repr, Inhabited

namespace Json

/-! ## §1. Canonical values. -/

mutual

/-- The same value with every object as a keyed list. -/
def canonical : Json → Json
  | .arr items => .arr (canonicalItems items)
  | .obj members => .obj (KeyedList.ofPairs (canonicalMembers members))
  | scalar => scalar

/-- Every item made canonical. -/
def canonicalItems : List Json → List Json
  | [] => []
  | item :: rest => canonical item :: canonicalItems rest

/-- Every member's value made canonical, the members as they stand. -/
def canonicalMembers : List (String × Json) → List (String × Json)
  | [] => []
  | (key, value) :: rest => (key, canonical value) :: canonicalMembers rest

end

/-! ## §2. Access. -/

/-- The value of a member, `null` where there is none. -/
def member (key : String) : Json → Json
  | .obj members => (KeyedList.get? key members).getD .null
  | _ => .null

/-- The value of a member that is present. -/
def member? (key : String) : Json → Option Json
  | .obj members => KeyedList.get? key members
  | _ => none

/-- The text of a string. -/
def text? : Json → Option String
  | .str text => some text
  | _ => none

/-! ## §3. Equality of values. -/

mutual

/-- Whether two values are equal, where numbers count as equal by the given
test. -/
def sameBy (numbers : Number → Number → Bool) : Json → Json → Bool
  | .null, .null => true
  | .bool a, .bool b => a == b
  | .str a, .str b => a == b
  | .arr a, .arr b => sameItemsBy numbers a b
  | .obj a, .obj b => sameMembersBy numbers a b
  | .num a, .num b => numbers a b
  | _, _ => false

/-- Whether two lists of values are equal item by item. -/
def sameItemsBy (numbers : Number → Number → Bool) : List Json → List Json → Bool
  | [], [] => true
  | a :: as, b :: bs => sameBy numbers a b && sameItemsBy numbers as bs
  | _, _ => false

/-- Whether two lists of members are equal member by member. -/
def sameMembersBy (numbers : Number → Number → Bool) :
    List (String × Json) → List (String × Json) → Bool
  | [], [] => true
  | (k, a) :: as, (l, b) :: bs => k == l && sameBy numbers a b && sameMembersBy numbers as bs
  | _, _ => false

end

end Json

end TradingConfig
