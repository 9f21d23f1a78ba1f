/-
  TradingConfig.Schema.Compile
  ────────────────────────────────
  **FROM A JSON VALUE TO A SCHEMA.**

  A schema file is usable if every schema in it is well formed and names
  neither another dialect nor another file, and every reference that can be
  reached from its root leads to a schema.  A schema is well formed if it is
  a truth value, or an object whose keywords all have a value of their kind.

  This holds for files that keep to the keywords of
  `TradingConfig.Schema.Basic` and to the annotations of §2.  Of any other
  file the result says nothing: a keyword that is not known is passed over,
  though JSON Schema may give it a meaning, and a form that is not known is
  refused, though JSON Schema may have a use for it.

  References are followed keyword by keyword, in ascending order of the
  keywords' names.  Where a place is reached for the first time its rules
  are put in; from then on a rule recurs to it (§5).
-/
import TradingConfig.Schema.Basic

namespace TradingConfig.Schema

/-! ## §1. Following references. -/

/-- A computation that keeps the references followed so far, and fails at
one that leads nowhere. -/
abbrev Linking := StateT (List Reference) Option

/-- The schemas of members, one after the other. -/
def linkMembers : List (String × Linking Schema) → Linking (List (String × Schema))
  | [] => pure []
  | (key, link) :: rest => do
    let schema ← link
    let schemas ← linkMembers rest
    pure ((key, schema) :: schemas)

/-- The schemas of the keyword `properties`. -/
def linkProperties :
    Option (List (String × Linking Schema)) → Linking (Option (List (String × Schema)))
  | none => pure none
  | some members => some <$> linkMembers members

/-- The schema of the keyword `items`. -/
def linkItems : Option (Linking Schema) → Linking (Option Schema)
  | none => pure none
  | some link => some <$> link

/-- The keywords with all schemas below them.  The members of a closed
object belong to the keyword `additionalProperties` and come first. -/
def linkKeywords (keywords : Keywords (Linking Schema)) : Linking (Keywords Schema) :=
  if keywords.closed then do
    let properties ← linkProperties keywords.properties
    let items ← linkItems keywords.items
    pure { keywords with items := items, properties := properties }
  else do
    let items ← linkItems keywords.items
    let properties ← linkProperties keywords.properties
    pure { keywords with items := items, properties := properties }

/-- A well-formed schema object whose references are not followed yet. -/
structure Draft where
  /-- The rules at the place that it refers to. -/
  target : Linking Schema := pure []
  /-- Its own keywords. -/
  keywords : Keywords (Linking Schema) := {}

/-- The rules of a schema object: those at the place that it refers to,
then its own. -/
def Draft.link (draft : Draft) : Linking Schema := do
  let target ← draft.target
  let keywords ← linkKeywords draft.keywords
  pure (target ++ [.keywords keywords])

/-! ## §2. Keywords without schemas. -/

/-- Keywords that only say something about a schema, with the kinds of their
values. -/
def annotations : List (String × Kind) := [
  ("$comment", .string), ("$schema", .string), ("contentEncoding", .string),
  ("contentMediaType", .string), ("deprecated", .boolean), ("description", .string),
  ("examples", .array), ("format", .string), ("readOnly", .boolean), ("title", .string),
  ("writeOnly", .boolean)]

/-- The greatest limit on a length; a limit beyond it counts as this one. -/
def greatestLength : Nat := Nat.pow 2 64 - 1

/-- The strings of an array of distinct strings. -/
def distinctNames? : List Json → Option (List String)
  | [] => some []
  | .str name :: rest => do
    let names ← distinctNames? rest
    if names.contains name then none else some (name :: names)
  | _ :: _ => none

/-- Adds a keyword whose value holds no schema.  Only the forms of the known
keywords are told apart; the last case is for annotations, and passes over
what is neither a keyword here nor an annotation. -/
def simpleKeyword {σ : Type} (key : String) (value : Json) (keywords : Keywords σ) :
    Option (Keywords σ) :=
  match key, value with
  | "additionalProperties", .bool allowed => some { keywords with closed := !allowed }
  | "additionalProperties", _ => none
  | "maximum", .num limit => some { keywords with maximum := some limit }
  | "maximum", _ => none
  | "minLength", .num limit =>
    limit.toNat?.map fun n => { keywords with minLength := some (min n greatestLength) }
  | "minLength", _ => none
  | "minimum", .num limit => some { keywords with minimum := some limit }
  | "minimum", _ => none
  | "required", .arr names =>
    (distinctNames? names).map fun names => { keywords with required := names }
  | "required", _ => none
  | "type", .str name => (Kind.ofName? name).map fun kind => { keywords with kind := some kind }
  | "type", _ => none
  | "uniqueItems", .bool distinct => some { keywords with uniqueItems := distinct }
  | "uniqueItems", _ => none
  | key, value =>
    if (annotations.lookup key).all fun kind => kind.accepts value then some keywords else none

/-! ## §3. Schemas. -/

mutual

/-- The schema that a value describes, where `follow` gives the rules at the
place that a reference names. -/
def ofJson? (follow : String → Linking Schema) : Json → Option (Linking Schema)
  | .bool accepting => some (pure (if accepting then [] else [.refusal]))
  | .obj members => (draft? follow members).map Draft.link
  | _ => none

/-- The schema object with the given members. -/
def draft? (follow : String → Linking Schema) : List (String × Json) → Option Draft
  | [] => some {}
  | (key, value) :: rest => do
    let draft ← draft? follow rest
    match key, value with
    | "$ref", .str text => some { draft with target := follow text }
    | "$ref", _ => none
    | "items", item => do
      let items ← ofJson? follow item
      some { draft with keywords.items := some items }
    | "properties", .obj members => do
      let properties ← members? follow members
      some { draft with keywords.properties := some properties }
    | "properties", _ => none
    | "$defs", .obj members | "definitions", .obj members => do
      let _ ← members? follow members
      some draft
    | "$defs", _ | "definitions", _ => none
    | key, value => do
      let keywords ← simpleKeyword key value draft.keywords
      some { draft with keywords := keywords }

/-- The schemas that the members of an object describe, by their keys. -/
def members? (follow : String → Linking Schema) :
    List (String × Json) → Option (List (String × Linking Schema))
  | [] => some []
  | (key, value) :: rest => do
    let schema ← ofJson? follow value
    let schemas ← members? follow rest
    some ((key, schema) :: schemas)

end

/-! ## §4. Other dialects and files. -/

/-- The dialect of schema files. -/
def dialect : String := "https://json-schema.org/draft/2020-12/schema"

/-- Whether a name is that of the dialect; hashes at its end do not
matter. -/
def isOfDialect (name : String) : Bool :=
  (name.toList.reverse.dropWhile (· = '#')).reverse = dialect.toList

mutual

/-- Whether a schema and the schemas below it name no other dialect and no
other file. -/
def isSelfContained : Json → Bool
  | .obj members => keywordsSelfContained members
  | _ => true

/-- Whether the keywords of a schema object name no other dialect and no
other file. -/
def keywordsSelfContained : List (String × Json) → Bool
  | [] => true
  | (key, value) :: rest =>
    (match key, value with
      | "$schema", .str name => isOfDialect name
      | "$ref", .str text => Reference.isLocal text
      | "items", item => isSelfContained item
      | "properties", .obj members | "$defs", .obj members => membersSelfContained members
      | _, _ => true) && keywordsSelfContained rest

/-- Whether the schemas of members name no other dialect and no other
file. -/
def membersSelfContained : List (String × Json) → Bool
  | [] => true
  | (_, value) :: rest => isSelfContained value && membersSelfContained rest

end

/-! ## §5. Schema files. -/

/-- Whether the schema at a place refers to itself by the given text. -/
def refersBack (text : String) (schema : Json) : Bool :=
  (schema.member? "$ref").bind Json.text? = some text

/-- The rules at the place that a reference names.  A place is put in when
it is reached for the first time; later a rule recurs to it, except that a
place that refers to itself adds nothing any more.  At most `fuel` places
can lie inside of each other. -/
def follow (file : Json) : (fuel : Nat) → String → Linking Schema
  | 0, _ => failure
  | fuel + 1, text => do
    let reference ← Reference.ofText? text
    let target ← reference.find? file
    if (← get).contains reference then
      pure (if refersBack text target then [] else [.recurring reference])
    else
      modify (reference :: ·)
      let link ← ofJson? (follow file fuel) target
      link

mutual

/-- The number of references in a value. -/
def referenceCount : Json → Nat
  | .arr items => itemReferenceCount items
  | .obj members => memberReferenceCount members
  | _ => 0

/-- The number of references in the items of an array. -/
def itemReferenceCount : List Json → Nat
  | [] => 0
  | item :: rest => referenceCount item + itemReferenceCount rest

/-- The number of references in the members of an object. -/
def memberReferenceCount : List (String × Json) → Nat
  | [] => 0
  | (key, value) :: rest =>
    (if key = "$ref" then 1 else 0) + referenceCount value + memberReferenceCount rest

end

/-- The schema that a value in a file describes, with the references that
were followed.  Each of them is put in once at most, so their number bounds
how deep they lie inside of each other. -/
def compile? (file value : Json) : Option (Schema × List Reference) := do
  let link ← ofJson? (follow file (referenceCount file + 1)) value
  link []

end TradingConfig.Schema

namespace TradingConfig.SchemaBook

/-- The schemas of a file by the references to them. -/
def definitions? (file : Json) : List Reference → Option (List (Reference × Schema))
  | [] => some []
  | reference :: rest => do
    let target ← reference.find? file
    let (schema, _) ← Schema.compile? file target
    let definitions ← definitions? file rest
    some ((reference, schema) :: definitions)

/-- The content of a schema file in the known keywords; none if such a file
is not usable. -/
def ofJson? (file : Json) : Option SchemaBook := do
  guard (Schema.isSelfContained file)
  let (root, references) ← Schema.compile? file file
  let definitions ← definitions? file references
  some ⟨root, definitions⟩

end TradingConfig.SchemaBook
