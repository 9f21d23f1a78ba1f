/-
  TradingConfig.Proofs.Schema.Agreement
  ────────────────────────────────
  **A SCHEMA AND A CODEC OF ONE SHAPE.**

  A schema describes values with keywords, a codec with readers and writers.
  They agree (`Agrees`) if the codec reads the accepted values that are fit
  for it, and what it writes of such a value is kept.  In a mirror
  (`Mirrors`) it is the value itself; where a codec conforms (`Conforms`) it
  is accepted again, though members that were left out may be there.

  Agreement goes up from the scalars: an array agrees if its items do
  (`mirrors_list`), and an object without further members if its members do
  (`mirrors_record`, `conforms_record`).
-/
import TradingConfig.Proofs.Codec.Reading
import TradingConfig.Proofs.Json.Canonical
import TradingConfig.Proofs.Schema.Check

namespace TradingConfig

namespace Codec

variable {α β τ : Type}

/-! ## §1. Fields as they are read and written. -/

namespace Field

/-- The value of a field from its member, if there is one. -/
def read (field : Field α) : Option Json → Except DecodeFault α
  | some found => field.codec.decode found
  | none =>
    match field.absent with
    | some value => .ok value
    | none => .error (.missingField field.key)

/-- The member that is written of a value, if one is. -/
def written (field : Field α) (value : α) : Option Json :=
  if field.hides value then none else some (field.codec.encode value).canonical

end Field

namespace Fields

theorem ofMembers_cons (head : Field α) (tail : Fields β) (members : List (String × Json)) :
    (cons head tail).ofMembers members = (do
      let value ← head.read (KeyedList.get? head.key members)
      let values ← tail.ofMembers members
      Except.ok (value, values)) := by
  rw [ofMembers]
  cases KeyedList.get? head.key members with
  | some found => rfl
  | none =>
    unfold Field.read
    cases head.absent with
    | some value => rfl
    | none => rfl

theorem exists_parts_of_ofMembers {head : Field α} {tail : Fields β}
    {members : List (String × Json)} {values : α × β}
    (read : (cons head tail).ofMembers members = .ok values) :
    ∃ value rest, values = (value, rest)
      ∧ head.read (KeyedList.get? head.key members) = .ok value
      ∧ tail.ofMembers members = .ok rest := by
  rw [ofMembers_cons] at read
  obtain ⟨value, readHead, readRest⟩ := exists_ok_of_bind read
  obtain ⟨rest, readTail, made⟩ := exists_ok_of_bind readRest
  exact ⟨value, rest, (Except.ok.inj made).symm, readHead, readTail⟩

/-- Only the keys of fields are written. -/
theorem get?_toMembers_of_not_mem {fields : Fields τ} {values : τ} {key : String}
    (foreign : key ∉ fields.keys) :
    KeyedList.get? key (Json.canonicalMembers (fields.toMembers values)) = none := by
  refine KeyedList.get?_eq_none fun written => foreign ?_
  rw [Json.map_fst_canonicalMembers] at written
  exact (fields.map_fst_toMembers_sublist values).subset written

/-- Under the key of the first field stands what is written of its value, and
under the others what the other fields write. -/
theorem get?_toMembers_cons {head : Field α} {tail : Fields β} (fresh : head.key ∉ tail.keys)
    (value : α) (values : β) (key : String) :
    KeyedList.get? key (Json.canonicalMembers ((cons head tail).toMembers (value, values)))
      = if key = head.key then head.written value
        else KeyedList.get? key (Json.canonicalMembers (tail.toMembers values)) := by
  rw [toMembers_cons]
  unfold Field.written
  by_cases isHead : key = head.key
  · subst isHead
    rw [if_pos rfl]
    split
    · exact get?_toMembers_of_not_mem fresh
    · simp [Json.canonicalMembers, KeyedList.get?]
  · rw [if_neg isHead]
    split
    · rfl
    · simp [Json.canonicalMembers, KeyedList.get?, isHead]

end Fields

/-- Under the key of its first field a record has what is written of the
value there. -/
theorem member?_record {name : String} {head : Field α} {tail : Fields β} {make : α × β → τ}
    {parts : τ → α × β} (distinct : (Fields.cons head tail).keys.Nodup) (x : τ) :
    ((record name (.cons head tail) make parts).encode x).canonical.member? head.key
      = head.written (parts x).1 := by
  have fresh : head.key ∉ tail.keys := (List.nodup_cons.mp distinct).1
  have distinctWritten : ((Json.canonicalMembers
      ((Fields.cons head tail).toMembers (parts x))).map Prod.fst).Nodup := by
    rw [Json.map_fst_canonicalMembers]
    exact ((Fields.cons head tail).map_fst_toMembers_sublist (parts x)).nodup distinct
  show KeyedList.get? head.key (KeyedList.ofPairs _) = _
  rw [KeyedList.get?_ofPairs distinctWritten,
    show parts x = ((parts x).1, (parts x).2) from rfl, Fields.get?_toMembers_cons fresh,
    if_pos rfl]

end Codec

namespace Schema

open Codec

variable {α β τ : Type} {book : SchemaBook} {schema : Schema} {keywords : Keywords Schema}

/-! ## §2. Agreement. -/

/-- Of the values that a schema accepts a codec reads those that are `fit`,
and what it writes of one is `kept`. -/
structure Agrees (book : SchemaBook) (schema : Schema) (fit : Json → Prop)
    (kept : Json → Json → Prop) (codec : Codec α) : Prop where
  /-- Exactly the fit values are read. -/
  reads : ∀ {value}, value.IsCanonical → Accepts book schema value →
    ((∃ x, codec.decode value = .ok x) ↔ fit value)
  /-- What is written of a value is kept. -/
  writes : ∀ {value x}, value.IsCanonical → Accepts book schema value →
    codec.decode value = .ok x → kept value (codec.encode x).canonical

/-- A codec that writes every value as it was. -/
abbrev Mirrors (book : SchemaBook) (schema : Schema) (fit : Json → Prop) (codec : Codec α) : Prop :=
  Agrees book schema fit (fun before after => after = before) codec

/-- A codec that writes values which are accepted again. -/
abbrev Conforms (book : SchemaBook) (schema : Schema) (fit : Json → Prop) (codec : Codec α) :
    Prop :=
  Agrees book schema fit (fun _ after => Accepts book schema after) codec

theorem Mirrors.conforms {fit : Json → Prop} {codec : Codec α}
    (mirrors : Mirrors book schema fit codec) : Conforms book schema fit codec where
  reads := mirrors.reads
  writes canonical accepts read := by
    rw [mirrors.writes canonical accepts read]
    exact accepts

/-- A schema that accepts less. -/
theorem Mirrors.of_accepts {other : Schema} {fit : Json → Prop} {codec : Codec α}
    (mirrors : Mirrors book schema fit codec)
    (less : ∀ value, Accepts book other value → Accepts book schema value) :
    Mirrors book other fit codec where
  reads canonical accepts := mirrors.reads canonical (less _ accepts)
  writes canonical accepts := mirrors.writes canonical (less _ accepts)

/-- Which of the accepted values are fit can be said in other words. -/
theorem Mirrors.of_fit {fit other : Json → Prop} {codec : Codec α}
    (mirrors : Mirrors book schema fit codec)
    (same : ∀ {value}, Accepts book schema value → (fit value ↔ other value)) :
    Mirrors book schema other codec where
  reads canonical accepts := (mirrors.reads canonical accepts).trans (same accepts)
  writes := mirrors.writes

/-- A codec that reads every value that is accepted. -/
theorem Mirrors.total {fit : Json → Prop} {codec : Codec α}
    (mirrors : Mirrors book schema fit codec) (always : ∀ value, fit value) :
    Mirrors book schema (fun _ => True) codec :=
  mirrors.of_fit fun _ => iff_true_intro (always _)

/-! ## §3. Scalars and arrays. -/

theorem kind_of_accepts (accepts : Accepts book [.keywords keywords] value) {kind : Kind}
    (asked : keywords.kind = some kind) : kind.accepts value = true :=
  kind_of_accepted (accepts_keywords_iff.mp accepts) kind asked

theorem mirrors_string (kind : keywords.kind = some .string) :
    Mirrors book [.keywords keywords] (fun _ => True) string where
  reads {value} _ accepts := by
    have isText := kind_of_accepts accepts kind
    cases value with
    | str text => exact iff_of_true ⟨text, rfl⟩ trivial
    | _ => cases isText
  writes {value x} _ _ read := (eq_str_of_string read).symm

theorem mirrors_bool (kind : keywords.kind = some .boolean) :
    Mirrors book [.keywords keywords] (fun _ => True) bool where
  reads {value} _ accepts := by
    have isTruth := kind_of_accepts accepts kind
    cases value with
    | bool truth => exact iff_of_true ⟨truth, rfl⟩ trivial
    | _ => cases isTruth
  writes {value x} _ _ read := by
    cases value with
    | bool truth => exact congrArg Json.bool (Except.ok.inj read).symm
    | _ => cases read

/-- An integer literal. -/
def IsWhole (value : Json) : Prop :=
  ∃ n : Int, value = .num (.int n)

/-- An integer literal below a bound. -/
def IsBelow (bound : Nat) (value : Json) : Prop :=
  ∃ n : Int, value = .num (.int n) ∧ n < bound

/-- A codec of natural numbers below a bound reads the integer literals below
it, where the schema has no negative ones. -/
theorem mirrors_below {bound : Nat} {wanted : String} {ofNat : Nat → α} {toNat : α → Nat}
    {least : Int} (minimum : keywords.minimum = some (.int least)) (natural : 0 ≤ least)
    (back : ∀ {n}, n < bound → toNat (ofNat n) = n) :
    Mirrors book [.keywords keywords] (IsBelow bound)
      ⟨fun found => (decodeBelow bound wanted found).map ofNat,
        fun x => .num (.int (toNat x))⟩ where
  reads {value} _ accepts := by
    constructor
    · rintro ⟨x, read⟩
      obtain ⟨n, decoded, -⟩ := exists_ok_of_map read
      obtain ⟨rfl, below⟩ := decodeBelow_eq_ok_iff.mp decoded
      exact ⟨n, rfl, Int.ofNat_lt.mpr below⟩
    · -- the minimum leaves out the negative literals
      rintro ⟨n, rfl, below⟩
      have above := (limits_of_accepted (accepts_keywords_iff.mp accepts)).1 least minimum
      obtain ⟨m, rfl⟩ := Int.eq_ofNat_of_zero_le (Int.le_trans natural above)
      have decoded : decodeBelow bound wanted (.num (.int m)) = .ok m :=
        decodeBelow_eq_ok_iff.mpr ⟨rfl, Int.ofNat_lt.mp below⟩
      refine ⟨ofNat m, ?_⟩
      show (decodeBelow bound wanted (.num (.int m))).map ofNat = _
      rw [decoded]
      rfl
  writes {value x} _ _ read := by
    obtain ⟨n, decoded, rfl⟩ := exists_ok_of_map read
    obtain ⟨rfl, below⟩ := decodeBelow_eq_ok_iff.mp decoded
    show Json.num (.int (toNat (ofNat n))) = _
    rw [back below]

/-- Where an array is asked for, only arrays are accepted. -/
theorem exists_items_of_accepts {value : Json} (kind : keywords.kind = some .array)
    (accepts : Accepts book [.keywords keywords] value) : ∃ items, value = .arr items := by
  have isArray := kind_of_accepts accepts kind
  cases value with
  | arr items => exact ⟨items, rfl⟩
  | _ => cases isArray

/-- All items of an array are fit. -/
def ItemsFit (fit : Json → Prop) : Json → Prop
  | .arr items => ∀ item ∈ items, fit item
  | _ => True

section Items

variable {fit : Json → Prop} {item : Codec α} {items : List Json}
  (mirrors : Mirrors book schema fit item)
  (sound : ∀ found ∈ items, found.IsCanonical ∧ Accepts book schema found)

include mirrors sound

theorem exists_mapM_decode_iff :
    (∃ xs, items.mapM item.decode = .ok xs) ↔ ∀ found ∈ items, fit found := by
  rw [exists_mapM_iff]
  refine forall₂_congr fun found member => ?_
  obtain ⟨canonical, accepts⟩ := sound found member
  exact mirrors.reads canonical accepts

theorem map_encode_of_mapM {xs : List α} (read : items.mapM item.decode = .ok xs) :
    xs.map (fun x => (item.encode x).canonical) = items := by
  have each := mapM_eq_ok_iff.mp read
  clear read
  induction each with
  | nil => rfl
  | cons readFirst _ ih =>
    obtain ⟨⟨canonical, accepts⟩, others⟩ := List.forall_mem_cons.mp sound
    rw [List.map_cons, mirrors.writes canonical accepts readFirst, ih others]

end Items

/-- A list mirrors an array if its items mirror the items. -/
theorem mirrors_list {fit : Json → Prop} {item : Codec α} (kind : keywords.kind = some .array)
    (asked : keywords.items = some schema) (mirrors : Mirrors book schema fit item) :
    Mirrors book [.keywords keywords] (ItemsFit fit) (list item) := by
  have sound {items : List Json} (canonical : (Json.arr items).IsCanonical)
      (accepts : Accepts book [.keywords keywords] (.arr items)) :
      ∀ found ∈ items, found.IsCanonical ∧ Accepts book schema found :=
    fun found member => ⟨Json.isCanonical_arr_iff.mp canonical found member,
      accepts_of_mem (accepts_keywords_iff.mp accepts) asked member⟩
  constructor
  · intro value canonical accepts
    obtain ⟨items, rfl⟩ := exists_items_of_accepts kind accepts
    exact exists_mapM_decode_iff mirrors (sound canonical accepts)
  · intro value xs canonical accepts read
    obtain ⟨items, rfl⟩ := exists_items_of_accepts kind accepts
    show Json.arr (Json.canonicalItems (xs.map item.encode)) = .arr items
    rw [Json.canonicalItems_eq_map, List.map_map]
    exact congrArg Json.arr (map_encode_of_mapM mirrors (sound canonical accepts) read)

/-! ## §4. Objects without further members. -/

/-- The members of an object that is canonical and accepted. -/
structure Sound (book : SchemaBook) (keywords : Keywords Schema) (members : List (String × Json)) :
    Prop where
  /-- They are canonical. -/
  canonical : ∀ {key value}, KeyedList.get? key members = some value → value.IsCanonical
  /-- They are accepted. -/
  accepts : ∀ {key value schema}, KeyedList.get? key members = some value →
    keywords.ofMember? key = some schema → Accepts book schema value
  /-- None is missing. -/
  complete : ∀ key ∈ keywords.required, (KeyedList.get? key members).isSome

theorem sound_of_accepted {members : List (String × Json)}
    (canonical : (Json.obj members).IsCanonical)
    (accepted : ruleViolations book (.obj members) (.keywords keywords) = []) :
    Sound book keywords members where
  canonical found := canonical.get? found
  accepts found known := accepts_of_get? accepted found known
  complete key required := by
    rw [ruleViolations, List.append_eq_nil_iff, List.append_eq_nil_iff] at accepted
    have none := List.filter_eq_nil_iff.mp (List.map_eq_nil_iff.mp accepted.1.2) key required
    cases found : KeyedList.get? key members with
    | none => simp [found] at none
    | some value => rfl

/-- A closed object has no members but those that the schema describes. -/
theorem exists_schema_of_member {members : List (String × Json)} {key : String} {value : Json}
    (closed : keywords.closed = true)
    (accepted : ruleViolations book (.obj members) (.keywords keywords) = [])
    (inside : (key, value) ∈ members) : ∃ schema, keywords.ofMember? key = some schema := by
  rw [ruleViolations, List.append_eq_nil_iff, List.append_eq_nil_iff, List.append_eq_nil_iff]
    at accepted
  have expected := accepted.1.1.2
  unfold unexpectedViolations at expected
  rw [if_pos closed] at expected
  split at expected
  · -- nothing is described, so there is no member
    cases members with
    | nil => cases inside
    | cons first rest => cases expected
  · dsimp only at expected
    split at expected
    next empty =>
      have described := List.filter_eq_nil_iff.mp (List.isEmpty_iff.mp empty) key
        (List.mem_map_of_mem inside)
      cases known : keywords.ofMember? key with
      | none => simp [known] at described
      | some schema => exact ⟨schema, rfl⟩
    · cases expected

/-- Agreement of a member with a field, where `mandatory` members are never
missing.  What is kept is said of the member before and after. -/
structure FieldAgrees (book : SchemaBook) (schema : Schema) (fit : Json → Prop)
    (kept : Option Json → Option Json → Prop) (mandatory : Prop) (field : Codec.Field α) : Prop where
  /-- Exactly the fit values are read. -/
  reads : ∀ {value}, value.IsCanonical → Accepts book schema value →
    ((∃ x, field.codec.decode value = .ok x) ↔ fit value)
  /-- A member that may be missing has a value for when it is. -/
  absent : ¬ mandatory → ∃ x, field.absent = some x
  /-- What is written of the value is kept. -/
  writes : ∀ {member x}, (∀ value ∈ member, value.IsCanonical ∧ Accepts book schema value) →
    (mandatory → member.isSome) → field.read member = .ok x → kept member (field.written x)

/-- Agreement of the members of an object with the fields of a record. -/
def FieldsAgree (book : SchemaBook) (keywords : Keywords Schema) (fit : String → Json → Prop)
    (kept : Schema → Option Json → Option Json → Prop) : {τ : Type} → Fields τ → Prop
  | _, .nil => True
  | _, .cons head tail =>
    (∃ schema, keywords.ofMember? head.key = some schema
        ∧ FieldAgrees book schema (fit head.key) (kept schema) (head.key ∈ keywords.required) head)
      ∧ FieldsAgree book keywords fit kept tail

section Fields

variable {fit : String → Json → Prop} {kept : Schema → Option Json → Option Json → Prop}
  {fields : Fields τ} {members : List (String × Json)}

theorem checkMember_of_fit (agree : FieldsAgree book keywords fit kept fields)
    (sound : Sound book keywords members) {key : String} {value : Json}
    (found : KeyedList.get? key members = some value) (fits : fit key value) :
    fields.checkMember key value = .ok () := by
  induction fields with
  | nil => rfl
  | cons head tail ih =>
    obtain ⟨⟨schema, known, headAgrees⟩, tailAgree⟩ := agree
    unfold Fields.checkMember
    split
    next isHead =>
      subst isHead
      obtain ⟨x, read⟩ :=
        (headAgrees.reads (sound.canonical found) (sound.accepts found known)).mpr fits
      rw [read]
      rfl
    · exact ih tailAgree

theorem exists_ofMembers (agree : FieldsAgree book keywords fit kept fields)
    (sound : Sound book keywords members)
    (fits : ∀ key value, KeyedList.get? key members = some value → fit key value) :
    ∃ values, fields.ofMembers members = .ok values := by
  induction fields with
  | nil => exact ⟨(), rfl⟩
  | cons head tail ih =>
    obtain ⟨⟨schema, known, headAgrees⟩, tailAgree⟩ := agree
    obtain ⟨values, readTail⟩ := ih tailAgree
    have readHead : ∃ x, head.read (KeyedList.get? head.key members) = .ok x := by
      cases found : KeyedList.get? head.key members with
      | some value =>
        exact (headAgrees.reads (sound.canonical found) (sound.accepts found known)).mpr
          (fits head.key value found)
      | none =>
        -- a member that is missing need not be there
        have optional : head.key ∉ keywords.required := by
          intro required
          have present := sound.complete head.key required
          rw [found] at present
          cases present
        obtain ⟨x, absent⟩ := headAgrees.absent optional
        unfold Field.read
        rw [absent]
        exact ⟨x, rfl⟩
    obtain ⟨x, readHead⟩ := readHead
    rw [Fields.ofMembers_cons, readHead, readTail]
    exact ⟨(x, values), rfl⟩

theorem fit_of_ofMembers (agree : FieldsAgree book keywords fit kept fields)
    (sound : Sound book keywords members) {values : τ}
    (read : fields.ofMembers members = .ok values) :
    ∀ key ∈ fields.keys, ∀ value, KeyedList.get? key members = some value → fit key value := by
  induction fields with
  | nil => exact fun key member => absurd member List.not_mem_nil
  | cons head tail ih =>
    obtain ⟨⟨schema, known, headAgrees⟩, tailAgree⟩ := agree
    obtain ⟨x, rest, -, readHead, readTail⟩ := Fields.exists_parts_of_ofMembers read
    intro key member value found
    rcases List.mem_cons.mp member with rfl | later
    · rw [found] at readHead
      exact (headAgrees.reads (sound.canonical found) (sound.accepts found known)).mp ⟨x, readHead⟩
    · exact ih tailAgree readTail key later value found

theorem kept_of_ofMembers (agree : FieldsAgree book keywords fit kept fields)
    (sound : Sound book keywords members) (distinct : fields.keys.Nodup) {values : τ}
    (read : fields.ofMembers members = .ok values) :
    ∀ key ∈ fields.keys, ∃ schema, keywords.ofMember? key = some schema
      ∧ kept schema (KeyedList.get? key members)
        (KeyedList.get? key (Json.canonicalMembers (fields.toMembers values))) := by
  induction fields with
  | nil => exact fun key member => absurd member List.not_mem_nil
  | cons head tail ih =>
    obtain ⟨⟨schema, known, headAgrees⟩, tailAgree⟩ := agree
    obtain ⟨fresh, distinctTail⟩ := List.nodup_cons.mp distinct
    obtain ⟨x, rest, rfl, readHead, readTail⟩ := Fields.exists_parts_of_ofMembers read
    intro key member
    rw [Fields.get?_toMembers_cons fresh]
    rcases List.mem_cons.mp member with rfl | later
    · rw [if_pos rfl]
      refine ⟨schema, known, headAgrees.writes ?_ (sound.complete head.key) readHead⟩
      intro value found
      exact ⟨sound.canonical found, sound.accepts found known⟩
    · have other : key ≠ head.key := fun isHead => fresh (isHead ▸ later)
      rw [if_neg other]
      exact ih tailAgree distinctTail readTail key later

end Fields

/-- The members that a closed schema describes are the fields of a record. -/
structure Depicts (book : SchemaBook) (keywords : Keywords Schema) (fit : String → Json → Prop)
    (kept : Schema → Option Json → Option Json → Prop) (fields : Fields τ) : Prop where
  /-- An object is asked for. -/
  kind : keywords.kind = some .object
  /-- It has no further members. -/
  closed : keywords.closed = true
  /-- Every member that is described is a field. -/
  known : ∀ key ∈ (keywords.properties.getD []).map Prod.fst, key ∈ fields.keys
  /-- No two fields have one key. -/
  distinct : fields.keys.Nodup
  /-- The fields agree with the members. -/
  agree : FieldsAgree book keywords fit kept fields

/-- All members of an object are fit. -/
def MembersFit (fit : String → Json → Prop) (value : Json) : Prop :=
  ∀ key member, value.member? key = some member → fit key member

namespace Depicts

variable {fit : String → Json → Prop} {kept : Schema → Option Json → Option Json → Prop}
  {fields : Fields τ} {members : List (String × Json)}

theorem mem_keys_of_ofMember? (depicts : Depicts book keywords fit kept fields) {key : String}
    (described : keywords.ofMember? key = some schema) : key ∈ fields.keys := by
  obtain ⟨properties, listed, found⟩ := Option.bind_eq_some_iff.mp described
  refine depicts.known key ?_
  rw [listed]
  exact List.mem_map_of_mem (KeyedList.mem_of_get? found)

theorem mem_keys (depicts : Depicts book keywords fit kept fields)
    (accepted : ruleViolations book (.obj members) (.keywords keywords) = []) {key : String}
    {value : Json} (inside : (key, value) ∈ members) : key ∈ fields.keys := by
  obtain ⟨schema, described⟩ := exists_schema_of_member depicts.closed accepted inside
  exact depicts.mem_keys_of_ofMember? described

variable {name : String} {make : τ → α} {parts : α → τ}

/-- A record is read from an accepted object exactly if all members are
fit. -/
theorem reads (depicts : Depicts book keywords fit kept fields) {value : Json}
    (canonical : value.IsCanonical) (accepts : Accepts book [.keywords keywords] value) :
    (∃ x, (record name fields make parts).decode value = .ok x) ↔ MembersFit fit value := by
  have accepted := accepts_keywords_iff.mp accepts
  obtain ⟨members, rfl⟩ := exists_members_of_accepted depicts.kind accepted
  have sound := sound_of_accepted canonical accepted
  constructor
  · rintro ⟨x, read⟩ key member found
    obtain ⟨values, ofMembers, -⟩ := exists_values_of_record read
    have isField := depicts.mem_keys accepted (KeyedList.mem_of_get? found)
    exact fit_of_ofMembers depicts.agree sound ofMembers key isField member found
  · intro fits
    have ascending := (Json.isCanonical_obj_iff.mp canonical).1
    have checked : fields.checkMembers members = .ok () := by
      refine Fields.checkMembers_eq_ok fun member inside => ?_
      have found := KeyedList.get?_of_mem ascending inside
      exact checkMember_of_fit depicts.agree sound found (fits member.1 member.2 found)
    obtain ⟨values, ofMembers⟩ := exists_ofMembers depicts.agree sound fits
    refine ⟨make values, ?_⟩
    show (do
      fields.checkMembers members
      let values ← fields.ofMembers members
      Except.ok (make values)) = _
    rw [checked, ofMembers]
    rfl

/-- What a record writes of an accepted object: members of its fields, each
of them kept. -/
theorem exists_written (depicts : Depicts book keywords fit kept fields)
    (parts_make : ∀ values, parts (make values) = values)
    (canonical : (Json.obj members).IsCanonical)
    (accepts : Accepts book [.keywords keywords] (.obj members)) {x : α}
    (read : (record name fields make parts).decode (.obj members) = .ok x) :
    ∃ after, ((record name fields make parts).encode x).canonical = .obj after
      ∧ KeyedList.Ascending after
      ∧ (∀ key ∉ fields.keys, KeyedList.get? key after = none)
      ∧ ∀ key ∈ fields.keys, ∃ schema, keywords.ofMember? key = some schema
        ∧ kept schema (KeyedList.get? key members) (KeyedList.get? key after) := by
  have sound := sound_of_accepted canonical (accepts_keywords_iff.mp accepts)
  obtain ⟨values, ofMembers, rfl⟩ := exists_values_of_record read
  have distinct : ((Json.canonicalMembers (fields.toMembers values)).map Prod.fst).Nodup := by
    rw [Json.map_fst_canonicalMembers]
    exact (fields.map_fst_toMembers_sublist values).nodup depicts.distinct
  have lookUp := KeyedList.get?_ofPairs distinct
  refine ⟨_, rfl, KeyedList.ascending_ofPairs _, ?_, ?_⟩
  · intro key foreign
    rw [parts_make, lookUp, Fields.get?_toMembers_of_not_mem foreign]
  · intro key isField
    rw [parts_make, lookUp]
    exact kept_of_ofMembers depicts.agree sound depicts.distinct ofMembers key isField

end Depicts

/-! ## §5. Records that mirror an object. -/

/-- A field whose member is written as it was. -/
abbrev FieldMirrors (book : SchemaBook) (schema : Schema) (fit : Json → Prop) (mandatory : Prop)
    (field : Codec.Field α) : Prop :=
  FieldAgrees book schema fit (fun before after => after = before) mandatory field

/-- A member that is never missing, and whose field is always written. -/
theorem fieldMirrors_of_mandatory {fit : Json → Prop} {mandatory : Prop} {field : Codec.Field α}
    (mirrors : Mirrors book schema fit field.codec) (required : mandatory)
    (shown : ∀ x, field.hides x = false) : FieldMirrors book schema fit mandatory field where
  reads := mirrors.reads
  absent optional := absurd required optional
  writes {member x} sound present read := by
    obtain ⟨value, rfl⟩ := Option.isSome_iff_exists.mp (present required)
    obtain ⟨canonical, accepts⟩ := sound value rfl
    unfold Field.written
    rw [shown x, mirrors.writes canonical accepts read]
    rfl

/-- An optional member, which is not null where it is there. -/
theorem fieldMirrors_optional {fit : Json → Prop} {mandatory : Prop} {codec : Codec α}
    (key : String) (mirrors : Mirrors book schema fit codec)
    (notNull : ∀ value, Accepts book schema value → value ≠ .null) :
    FieldMirrors book schema fit mandatory (.optional key codec) := by
  have decode {value : Json} (accepts : Accepts book schema value) :
      codec.optional.decode value = (codec.decode value).map some := by
    cases value with
    | null => exact absurd rfl (notNull .null accepts)
    | _ => rfl
  constructor
  · intro value canonical accepts
    rw [← mirrors.reads canonical accepts]
    show (∃ x, codec.optional.decode value = .ok x) ↔ _
    rw [decode accepts]
    constructor
    · rintro ⟨x, read⟩
      obtain ⟨inner, readInner, -⟩ := exists_ok_of_map read
      exact ⟨inner, readInner⟩
    · rintro ⟨inner, read⟩
      rw [read]
      exact ⟨some inner, rfl⟩
  · exact fun _ => ⟨none, rfl⟩
  · intro member x sound _ read
    cases member with
    | none =>
      obtain rfl : none = x := Except.ok.inj read
      rfl
    | some value =>
      obtain ⟨canonical, accepts⟩ := sound value rfl
      have readOptional : codec.optional.decode value = .ok x := read
      rw [decode accepts] at readOptional
      obtain ⟨inner, readInner, rfl⟩ := exists_ok_of_map readOptional
      show some (codec.encode inner).canonical = some value
      rw [mirrors.writes canonical accepts readInner]

/-- A record mirrors an object if its fields mirror the members. -/
theorem mirrors_record {fit : String → Json → Prop} {fields : Fields τ} {name : String}
    {make : τ → α} {parts : α → τ}
    (depicts : Depicts book keywords fit (fun _ before after => after = before) fields)
    (parts_make : ∀ values, parts (make values) = values) :
    Mirrors book [.keywords keywords] (MembersFit fit) (record name fields make parts) where
  reads := depicts.reads
  writes {value x} canonical accepts read := by
    have accepted := accepts_keywords_iff.mp accepts
    obtain ⟨members, rfl⟩ := exists_members_of_accepted depicts.kind accepted
    obtain ⟨after, written, ascending, foreign, kept⟩ :=
      depicts.exists_written parts_make canonical accepts read
    rw [written]
    refine congrArg Json.obj (KeyedList.ext_of_ascending ascending
      (Json.isCanonical_obj_iff.mp canonical).1 fun key => ?_)
    by_cases isField : key ∈ fields.keys
    · obtain ⟨_, -, same⟩ := kept key isField
      exact same
    · -- neither list of members has a key that belongs to no field
      rw [foreign key isField]
      cases found : KeyedList.get? key members with
      | none => rfl
      | some value =>
        exact absurd (depicts.mem_keys accepted (KeyedList.mem_of_get? found)) isField

/-! ## §6. Records that conform to an object. -/

/-- A member that is there stays there, and what is there is accepted. -/
def Again (book : SchemaBook) (schema : Schema) (before after : Option Json) : Prop :=
  (before.isSome → after.isSome) ∧ ∀ value ∈ after, Accepts book schema value

/-- A field whose member is accepted again. -/
abbrev FieldConforms (book : SchemaBook) (schema : Schema) (fit : Json → Prop) (mandatory : Prop)
    (field : Codec.Field α) : Prop :=
  FieldAgrees book schema fit (Again book schema) mandatory field

theorem FieldMirrors.conforms {fit : Json → Prop} {mandatory : Prop} {field : Codec.Field α}
    (mirrors : FieldMirrors book schema fit mandatory field) :
    FieldConforms book schema fit mandatory field where
  reads := mirrors.reads
  absent := mirrors.absent
  writes sound present read := by
    rw [mirrors.writes sound present read]
    exact ⟨id, fun value inside => (sound value inside).2⟩

/-- A field that is always written, and whose value for a missing member is
accepted. -/
theorem fieldConforms_of_shown {fit : Json → Prop} {mandatory : Prop} {field : Codec.Field α}
    (conforms : Conforms book schema fit field.codec) (shown : ∀ x, field.hides x = false)
    (absent : ¬ mandatory → ∃ x, field.absent = some x)
    (added : ∀ x ∈ field.absent, Accepts book schema (field.codec.encode x).canonical) :
    FieldConforms book schema fit mandatory field where
  reads := conforms.reads
  absent := absent
  writes {member x} sound _ read := by
    have written : field.written x = some (field.codec.encode x).canonical := by
      unfold Field.written
      rw [shown x]
      rfl
    have accepts : Accepts book schema (field.codec.encode x).canonical := by
      cases member with
      | some value =>
        obtain ⟨canonical, accepts⟩ := sound value rfl
        exact conforms.writes canonical accepts read
      | none =>
        cases default : field.absent with
        | some value =>
          simp only [Field.read, default] at read
          obtain rfl := Except.ok.inj read
          exact added value default
        | none =>
          simp only [Field.read, default] at read
          cases read
    rw [written]
    refine ⟨fun _ => rfl, ?_⟩
    intro value inside
    obtain rfl := Option.some.inj inside
    exact accepts

theorem unexpectedViolations_eq_nil {members : List (String × Json)}
    (described : ∀ member ∈ members, (keywords.ofMember? member.1).isSome) :
    unexpectedViolations keywords members = [] := by
  unfold unexpectedViolations
  split
  · split
    next undescribed =>
      -- where nothing is described there can be no member
      cases members with
      | nil => rfl
      | cons first rest =>
        have known := described first List.mem_cons_self
        unfold Keywords.ofMember? at known
        rw [Option.isNone_iff_eq_none.mp undescribed] at known
        cases known
    · have none : ((members.map Prod.fst).filter
          fun key => (keywords.ofMember? key).isNone) = [] := by
        refine List.filter_eq_nil_iff.mpr fun key inside => ?_
        obtain ⟨member, isMember, rfl⟩ := List.mem_map.mp inside
        have known := described member isMember
        rw [Option.isSome_iff_exists] at known
        obtain ⟨schema, known⟩ := known
        simp [known]
      simp [none]
  · rfl

/-- A record conforms to an object if its fields conform to the members. -/
theorem conforms_record {fit : String → Json → Prop} {fields : Fields τ} {name : String}
    {make : τ → α} {parts : α → τ}
    (depicts : Depicts book keywords fit (Again book) fields)
    (parts_make : ∀ values, parts (make values) = values) :
    Conforms book [.keywords keywords] (MembersFit fit) (record name fields make parts) where
  reads := depicts.reads
  writes {value x} canonical accepts read := by
    have accepted := accepts_keywords_iff.mp accepts
    obtain ⟨members, rfl⟩ := exists_members_of_accepted depicts.kind accepted
    obtain ⟨after, written, ascending, foreign, kept⟩ :=
      depicts.exists_written parts_make canonical accepts read
    have isField {key : String} {value : Json} (inside : (key, value) ∈ after) :
        key ∈ fields.keys := by
      by_contra notField
      cases (foreign key notField).symm.trans (KeyedList.get?_of_mem ascending inside)
    rw [written, accepts_keywords_iff]
    apply accepted_obj depicts.kind
    · -- every member is accepted by the schema under which it is kept
      intro member inside schema asked
      obtain ⟨_, known, -, again⟩ := kept member.1 (isField inside)
      obtain rfl := Option.some.inj (known.symm.trans asked)
      exact again member.2 (KeyedList.get?_of_mem ascending inside)
    · -- only members of fields are written, and these are described
      refine unexpectedViolations_eq_nil fun member inside => ?_
      obtain ⟨_, known, -⟩ := kept member.1 (isField inside)
      exact Option.isSome_iff_exists.mpr ⟨_, known⟩
    · -- what must be there was there, and stays
      unfold requiredViolations
      refine List.map_eq_nil_iff.mpr (List.filter_eq_nil_iff.mpr fun key required => ?_)
      have present := (sound_of_accepted canonical accepted).complete key required
      obtain ⟨value, found⟩ := Option.isSome_iff_exists.mp present
      obtain ⟨_, -, stays, -⟩ :=
        kept key (depicts.mem_keys accepted (KeyedList.mem_of_get? found))
      have after := stays present
      obtain ⟨again, foundAgain⟩ := Option.isSome_iff_exists.mp after
      simp [foundAgain]

end Schema

end TradingConfig
