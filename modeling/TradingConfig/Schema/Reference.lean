/-
  TradingConfig.Schema.Reference
  ────────────────────────────────
  **REFERENCES INSIDE OF A SCHEMA FILE.**

  A reference names a place in the file that it stands in: a hash, then the
  steps from the file's value down to the place, each after a slash.  Any
  octet of it may be escaped by a percent sign and two hexadecimal digits,
  and those that are no plain character of a fragment have to be.  In the
  key of a step a slash is written `~1` and a tilde `~0`.  Without any step
  the whole file is meant.
-/
import TradingConfig.Json.Value
import TradingConfig.Text.Count
import TradingConfig.Text.Hex
import TradingConfig.Text.Pieces

namespace TradingConfig

/-! ## §1. The text of a reference. -/

/-- One octet of a reference. -/
inductive FragmentPart where
  /-- A character that stands for itself. -/
  | plain (c : Char)
  /-- An octet that has to be escaped. -/
  | octet (value : Nat)
  deriving DecidableEq, Repr

namespace FragmentPart

/-- The characters that mean the same with and without an escape. -/
def isUnreserved (c : Char) : Bool :=
  c.isAlphanum || "-._~".toList.contains c

/-- The characters that can stand for themselves. -/
def isPlain (c : Char) : Bool :=
  isUnreserved c || "!$&'()*+,;=:@/?".toList.contains c

/-- The part that an escaped octet stands for. -/
def ofOctet (value : Nat) : FragmentPart :=
  if value < 0x80 && isUnreserved (Char.ofNat value) then .plain (Char.ofNat value)
  else .octet value

/-- The parts of a text; none if it is not well formed. -/
def ofText? : List Char → Option (List FragmentPart)
  | [] => some []
  | '%' :: high :: low :: rest => do
    let high ← hexValue? high
    let low ← hexValue? low
    let parts ← ofText? rest
    some (ofOctet (16 * high + low) :: parts)
  | c :: rest => if isPlain c then (ofText? rest).map (.plain c :: ·) else none

/-- The octet of a part. -/
def byte : FragmentPart → UInt8
  | .plain c => UInt8.ofNat c.toNat
  | .octet value => UInt8.ofNat value

end FragmentPart

/-- A reference.  Spellings that differ only in escapes of unreserved
characters, or in the case of hexadecimal digits, are one reference. -/
structure Reference where
  /-- What follows the hash. -/
  parts : List FragmentPart
  deriving DecidableEq, Repr

namespace Reference

/-- Whether a text is about the file that it stands in. -/
def isLocal (text : String) : Bool :=
  text.isEmpty || text.toList.head? = some '#'

/-- The reference that a text spells. -/
def ofText? (text : String) : Option Reference :=
  match text.toList with
  | [] => some ⟨[]⟩
  | '#' :: rest => (FragmentPart.ofText? rest).map Reference.mk
  | _ => none

/-! ## §2. The place that it names. -/

/-- A key with its escapes resolved. -/
def unescapeKey : List Char → List Char
  | [] => []
  | '~' :: '0' :: rest => '~' :: unescapeKey rest
  | '~' :: '1' :: rest => '/' :: unescapeKey rest
  | c :: rest => c :: unescapeKey rest

/-- The value one step below a value: an item by its index, or a member by
its key. -/
def step? (value : Json) (name : List Char) : Option Json :=
  match value with
  | .arr items => (count? name).bind fun index => items[index]?
  | .obj members => KeyedList.get? (String.ofList (unescapeKey name)) members
  | _ => none

/-- The names of the steps; the octets have to be text. -/
def steps? (reference : Reference) : Option (List (List Char)) :=
  match reference.parts with
  | [] => some []
  | .plain '/' :: parts => do
    let text ← String.fromUTF8? ⟨(parts.map FragmentPart.byte).toArray⟩
    some (piecesBetween '/' text.toList)
  | _ => none

/-- The value at the place in a file. -/
def find? (reference : Reference) (file : Json) : Option Json :=
  reference.steps?.bind fun steps => steps.foldlM step? file

end Reference

end TradingConfig
