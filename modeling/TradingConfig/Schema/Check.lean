/-
  TradingConfig.Schema.Check
  ────────────────────────────────
  **EVERY VIOLATION OF A SCHEMA.**

  A value is checked against all rules that apply to it; none stops
  another.  The violations are listed keyword by keyword in ascending
  order of the keywords' names, members in ascending order of their keys
  and items in their order.

  The rules are those of `TradingConfig.Schema.Basic`, so these are all
  violations of a file that is written in its keywords, and only of such a
  file.
-/
import TradingConfig.Schema.Violation

namespace TradingConfig.Schema

/-! ## §1. Rules that recur. -/

/-- A schema with the rules of other places put in where it recurs to them,
`fuel` times inside of each other. -/
def expandWithin (book : SchemaBook) : (fuel : Nat) → Schema → Schema
  | 0, schema => schema
  | fuel + 1, schema => schema.flatMap fun rule =>
    match rule with
    | .recurring reference => expandWithin book fuel (book.schemaAt reference)
    | other => [other]

/-- A schema with the rules of other places put in; a chain of places that
is longer than there are definitions runs in a circle. -/
def expand (book : SchemaBook) (schema : Schema) : Schema :=
  expandWithin book book.definitions.length schema

/-! ## §2. Keywords about one value. -/

/-- A violation at the value itself. -/
def here (breach : Breach) : Violation := ⟨[], breach⟩

/-- The keyword `type`. -/
def kindViolations (keywords : Keywords Schema) (value : Json) : List Violation :=
  match keywords.kind with
  | some kind => if kind.accepts value then [] else [here (.wrongKind value kind)]
  | none => []

/-- The keyword `maximum`. -/
def maximumViolations (keywords : Keywords Schema) (n : Number) : List Violation :=
  match keywords.maximum with
  | some limit => if limit.lt n then [here (.aboveMaximum (.num n) limit)] else []
  | none => []

/-- The keyword `minimum`. -/
def minimumViolations (keywords : Keywords Schema) (n : Number) : List Violation :=
  match keywords.minimum with
  | some limit => if n.lt limit then [here (.belowMinimum (.num n) limit)] else []
  | none => []

/-- The keyword `minLength`; characters are counted. -/
def lengthViolations (keywords : Keywords Schema) (text : String) : List Violation :=
  match keywords.minLength with
  | some limit => if text.toList.length < limit then [here (.tooShort (.str text) limit)] else []
  | none => []

/-- Whether some item of a list equals a later one. -/
def hasRepeated (equal : Json → Json → Bool) : List Json → Bool
  | [] => false
  | item :: rest => rest.any (equal item) || hasRepeated equal rest

/-- The greatest number of items among which the two zeros are one number. -/
def fewItems : Nat := 15

/-- The keyword `uniqueItems`.  Numbers are equal by their value; among many
items the two zeros are told apart. -/
def uniqueViolations (keywords : Keywords Schema) (items : List Json) : List Violation :=
  let numbers := if items.length ≤ fewItems then Number.same else Number.sameSigned
  if keywords.uniqueItems && hasRepeated (Json.sameBy numbers) items then
    [here (.repeatedItems (.arr items))]
  else []

/-- The members that have no schema, where all need one.  Where no member
can have one, the first member stands for all of them. -/
def unexpectedViolations (keywords : Keywords Schema) (members : List (String × Json)) :
    List Violation :=
  if keywords.closed then
    if keywords.properties.isNone then
      (members.take 1).map fun first => here (.refused first.2)
    else
      let names := (members.map Prod.fst).filter fun key => (keywords.ofMember? key).isNone
      if names.isEmpty then [] else [here (.unexpectedMembers names)]
  else []

/-- The keyword `required`. -/
def requiredViolations (keywords : Keywords Schema) (members : List (String × Json)) :
    List Violation :=
  (keywords.required.filter fun name => (KeyedList.get? name members).isNone).map fun name =>
    here (.missingMember name)

/-! ## §3. All rules. -/

mutual

/-- The violations of one rule. -/
def ruleViolations (book : SchemaBook) : Json → Rule → List Violation
  | value, .refusal => [here (.refused value)]
  | _, .recurring _ => []
  | .arr items, .keywords keywords =>
    (match keywords.items with
      | some schema => itemViolations book items 0 (expand book schema)
      | none => [])
      ++ kindViolations keywords (.arr items)
      ++ uniqueViolations keywords items
  | .obj members, .keywords keywords =>
    memberViolations book members keywords.ofMember?
      ++ unexpectedViolations keywords members
      ++ requiredViolations keywords members
      ++ kindViolations keywords (.obj members)
  | .num n, .keywords keywords =>
    maximumViolations keywords n ++ minimumViolations keywords n ++ kindViolations keywords (.num n)
  | .str text, .keywords keywords =>
    lengthViolations keywords text ++ kindViolations keywords (.str text)
  | .null, .keywords keywords => kindViolations keywords .null
  | .bool value, .keywords keywords => kindViolations keywords (.bool value)

/-- The violations of the items of an array from an index on. -/
def itemViolations (book : SchemaBook) : List Json → (index : Nat) → Schema → List Violation
  | [], _, _ => []
  | item :: rest, index, schema =>
    (schema.flatMap fun rule => (ruleViolations book item rule).map (.under (.item index)))
      ++ itemViolations book rest (index + 1) schema

/-- The violations of the members of an object that have a schema. -/
def memberViolations (book : SchemaBook) :
    List (String × Json) → (schemaOf : String → Option Schema) → List Violation
  | [], _ => []
  | (key, value) :: rest, schemaOf =>
    (match schemaOf key with
      | some schema => (expand book schema).flatMap fun rule =>
          (ruleViolations book value rule).map (.under (.member key))
      | none => [])
      ++ memberViolations book rest schemaOf

end

end TradingConfig.Schema

namespace TradingConfig.SchemaBook

/-- Every violation of a document against the schema of its file, where that
file keeps to the known keywords. -/
def violations (book : SchemaBook) (document : Json) : List Violation :=
  (Schema.expand book book.root).flatMap (Schema.ruleViolations book document)

end TradingConfig.SchemaBook
