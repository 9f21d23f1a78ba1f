/-
  TradingConfig.Codec.Record
  ────────────────────────────────
  **RECORDS.**

  A record is described by the list of its fields in order.  The
  description gives the reader and the writer:

      object  — the members in ascending order of their keys; the first bad
                one is reported, unknown ones are skipped, and then the
                first missing field is reported
      array   — the items are the fields in order; fields at the end may be
                left out if they may be absent
      writing — one member per field in order, hidden values left out
-/
import TradingConfig.Codec.Basic

namespace TradingConfig.Codec

/-- One field of a record. -/
structure Field (α : Type) where
  /-- The key of the member. -/
  key : String
  /-- How its value is read and written. -/
  codec : Codec α
  /-- The value of a field that is left out, if it may be left out. -/
  absent : Option α
  /-- Whether a value is left out in writing. -/
  hides : α → Bool

namespace Field

variable {α : Type}

/-- A field that must be present. -/
def required (key : String) (codec : Codec α) : Field α :=
  ⟨key, codec, none, fun _ => false⟩

/-- A field with a value for when it is left out; it is always written. -/
def withDefault (key : String) (codec : Codec α) (value : α) : Field α :=
  ⟨key, codec, some value, fun _ => false⟩

/-- A field that is left out where it has no value. -/
def optional (key : String) (codec : Codec α) : Field (Option α) :=
  ⟨key, codec.optional, some none, Option.isNone⟩

end Field

/-- The fields of a record, whose values together are of type `τ`. -/
inductive Fields : Type → Type 1 where
  /-- No field. -/
  | nil : Fields Unit
  /-- A field in front of others. -/
  | cons {α β : Type} (head : Field α) (tail : Fields β) : Fields (α × β)

namespace Fields

/-- The number of fields. -/
def count {τ : Type} : Fields τ → Nat
  | .nil => 0
  | .cons _ tail => tail.count + 1

/-- The keys of the fields in order. -/
def keys {τ : Type} : Fields τ → List String
  | .nil => []
  | .cons head tail => head.key :: tail.keys

/-- Whether a member can be read as the field that it belongs to, if it
belongs to one. -/
def checkMember {τ : Type} (key : String) (value : Json) : Fields τ → Except DecodeFault Unit
  | .nil => .ok ()
  | .cons head tail =>
    if head.key = key then (head.codec.decode value).map fun _ => ()
    else tail.checkMember key value

/-- Checks the members of an object in their order. -/
def checkMembers {τ : Type} (fields : Fields τ) : List (String × Json) → Except DecodeFault Unit
  | [] => .ok ()
  | (key, value) :: rest => do
    fields.checkMember key value
    fields.checkMembers rest

/-- The values of the fields from the members of an object. -/
def ofMembers {τ : Type} (members : List (String × Json)) : Fields τ → Except DecodeFault τ
  | .nil => .ok ()
  | .cons head tail => do
    let value ← match KeyedList.get? head.key members, head.absent with
      | some found, _ => head.codec.decode found
      | none, some value => .ok value
      | none, none => .error (.missingField head.key)
    let values ← tail.ofMembers members
    .ok (value, values)

/-- The values of the fields from the items of an array, `before` being the
number of fields in front; `short` is the fault of an array that ends in
front of a field that must be present. -/
def ofItems {τ : Type} (short : Nat → DecodeFault) :
    Fields τ → (before : Nat) → List Json → Except DecodeFault τ
  | .nil, _, _ => .ok ()
  | .cons head tail, before, [] =>
    match head.absent with
    | some value => do
      let values ← tail.ofItems short (before + 1) []
      .ok (value, values)
    | none => .error (short before)
  | .cons head tail, before, item :: rest => do
    let value ← head.codec.decode item
    let values ← tail.ofItems short (before + 1) rest
    .ok (value, values)

/-- The members of a record in the order of its fields. -/
def toMembers {τ : Type} : Fields τ → τ → List (String × Json)
  | .nil, _ => []
  | .cons head tail, (value, values) =>
    if head.hides value then tail.toMembers values
    else (head.key, head.codec.encode value) :: tail.toMembers values

end Fields

/-- A record type: its name, its fields, and the passage between their
values and the record. -/
def record {α τ : Type} (name : String) (fields : Fields τ) (make : τ → α) (parts : α → τ) :
    Codec α where
  decode
    | .obj members => do
      fields.checkMembers members
      let values ← fields.ofMembers members
      .ok (make values)
    | .arr items => do
      let values ← fields.ofItems (fun before => .tooFewItems before name fields.count) 0 items
      if fields.count < items.length then .error (.tooManyItems items.length)
      else .ok (make values)
    | found => .error (.wrongType found ("struct " ++ name))
  encode value := .obj (fields.toMembers (parts value))

end TradingConfig.Codec
