/-
  TradingConfig.Codec.Basic
  ────────────────────────────────
  **READING AND WRITING TYPED VALUES AS JSON.**

  A codec pairs the reader of a type with its writer, so that both come
  from one description.
-/
import TradingConfig.Codec.Fault
import TradingConfig.Settings

namespace TradingConfig

/-- How the values of a type are read from JSON and written as JSON. -/
structure Codec (α : Type) where
  /-- Reads a value. -/
  decode : Json → Except DecodeFault α
  /-- Writes a value. -/
  encode : α → Json

namespace Codec

/-! ## §1. Scalars. -/

/-- Strings. -/
def string : Codec String where
  decode
    | .str text => .ok text
    | found => .error (.wrongType found "a string")
  encode := .str

/-- Truth values. -/
def bool : Codec Bool where
  decode
    | .bool value => .ok value
    | found => .error (.wrongType found "a boolean")
  encode := .bool

/-- Reads a natural number below a bound.  Numbers that are written with a
fraction or an exponent are refused, whatever their value. -/
def decodeBelow (bound : Nat) (wanted : String) : Json → Except DecodeFault Nat
  | .num (.int n) =>
    if 0 ≤ n ∧ n.toNat < bound then .ok n.toNat else .error (.outOfRange n wanted)
  | found => .error (.wrongType found wanted)

/-- Natural numbers of 32 bits. -/
def u32 : Codec UInt32 where
  decode found := (decodeBelow UInt32.size "u32" found).map UInt32.ofNat
  encode n := .num (.int n.toNat)

/-- Natural numbers of 16 bits. -/
def u16 : Codec UInt16 where
  decode found := (decodeBelow UInt16.size "u16" found).map UInt16.ofNat
  encode n := .num (.int n.toNat)

/-! ## §2. Lists, settings and optional values. -/

/-- Lists, as arrays. -/
def list {α : Type} (item : Codec α) : Codec (List α) where
  decode
    | .arr items => items.mapM item.decode
    | found => .error (.wrongType found "a sequence")
  encode items := .arr (items.map item.encode)

/-- Reads the members of an object as settings, the last binding of a name
first. -/
def decodeSettings : List (String × Json) → Settings → Except DecodeFault Settings
  | [], settings => .ok settings
  | (name, value) :: rest, settings => do
    let text ← string.decode value
    decodeSettings rest (settings.insert name text)

/-- Settings, as an object of strings. -/
def settings : Codec Settings where
  decode
    | .obj members => decodeSettings members .empty
    | found => .error (.wrongType found "a map")
  encode bindings := .obj (bindings.toList.map fun binding => (binding.1, .str binding.2))

/-- Values that may be absent; `null` counts as absent. -/
def optional {α : Type} (inner : Codec α) : Codec (Option α) where
  decode
    | .null => .ok none
    | found => (inner.decode found).map some
  encode
    | none => .null
    | some value => inner.encode value

end Codec

end TradingConfig
