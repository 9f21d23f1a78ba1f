/-
  TradingConfig.Schema.Basic
  ────────────────────────────────
  **SCHEMAS OF DOCUMENTS.**

  A schema is a list of rules.  A rule refuses every value, restricts it by
  keywords, or asks for what the schema at another place of the file asks
  for.

  This is a part of JSON Schema, the part that the schema files of the three
  documents are written in, and not the whole of it: there is nothing here
  for keywords such as `enum`, `maxItems` or `anyOf`, for lists of types, or
  for a schema of all further members.  A file that uses them is not
  described by these rules.  Whatever is said about arbitrary schema files
  is said about an arbitrary validator (`TradingConfig.Store.Validator`).
-/
import TradingConfig.Schema.Reference

namespace TradingConfig

/-- The kinds of values that a schema can ask for. -/
inductive Kind where
  /-- Arrays. -/
  | array
  /-- The two truth values. -/
  | boolean
  /-- Numbers without a fractional part, whatever way they are written. -/
  | integer
  /-- The value `null`. -/
  | null
  /-- All numbers. -/
  | number
  /-- Objects. -/
  | object
  /-- Strings. -/
  | string
  deriving DecidableEq, Repr

namespace Kind

/-- The name of a kind. -/
def name : Kind → String
  | .array => "array"
  | .boolean => "boolean"
  | .integer => "integer"
  | .null => "null"
  | .number => "number"
  | .object => "object"
  | .string => "string"

/-- All kinds. -/
def all : List Kind := [.array, .boolean, .integer, .null, .number, .object, .string]

/-- The kind of a given name. -/
def ofName? (name : String) : Option Kind :=
  all.find? fun kind => kind.name == name

/-- Whether a value is of a kind. -/
def accepts : Kind → Json → Bool
  | .array, .arr _ => true
  | .boolean, .bool _ => true
  | .integer, .num value => value.isIntegral
  | .null, .null => true
  | .number, .num _ => true
  | .object, .obj _ => true
  | .string, .str _ => true
  | _, _ => false

end Kind

/-- The keywords of one schema object about the value itself, as far as they
are known here, over the type `σ` of the schemas below it. -/
structure Keywords (σ : Type) where
  /-- Whether members without a schema are refused. -/
  closed : Bool := false
  /-- The schema of every item of an array. -/
  items : Option σ := none
  /-- The greatest number. -/
  maximum : Option Number := none
  /-- The least number of characters of a string. -/
  minLength : Option Nat := none
  /-- The least number. -/
  minimum : Option Number := none
  /-- The schemas of members, in ascending order of their keys. -/
  properties : Option (List (String × σ)) := none
  /-- The members that an object must have, in the order given. -/
  required : List String := []
  /-- The kind of the value. -/
  kind : Option Kind := none
  /-- Whether the items of an array must differ. -/
  uniqueItems : Bool := false
  deriving Repr

/-- The schema of the member with a key, if it has one. -/
def Keywords.ofMember? {σ : Type} (keywords : Keywords σ) (key : String) : Option σ :=
  keywords.properties.bind fun properties => KeyedList.get? key properties

/-- One of the rules that a schema consists of. -/
inductive Rule where
  /-- Nothing is accepted. -/
  | refusal
  /-- All of the keywords must hold. -/
  | keywords (keywords : Keywords (List Rule))
  /-- The schema at a place of the file must accept the value, too. -/
  | recurring (reference : Reference)
  deriving Repr

/-- A schema: the rules that a value must satisfy.  Without any rule it
accepts every value. -/
abbrev Schema := List Rule

/-- What a schema file in the known keywords holds: a schema, and the schemas
at the places to which its rules recur. -/
structure SchemaBook where
  /-- The schema of the document. -/
  root : Schema
  /-- The schemas by their places. -/
  definitions : List (Reference × Schema)
  deriving Repr

/-- The schema at a place. -/
def SchemaBook.schemaAt (book : SchemaBook) (reference : Reference) : Schema :=
  (book.definitions.lookup reference).getD []

end TradingConfig
