/-
  TradingConfig.Proofs.Schema.Check
  ────────────────────────────────
  **WHAT A SCHEMA ACCEPTS.**

  A value is accepted where none of the rules finds a violation
  (`Accepts`).  An object is accepted member by member
  (`Accepts.member`), an array item by item, and a member that its schema
  accepts adds nothing to the violations of the object that it is in
  (`ruleViolations_of_accepted`).
-/
import TradingConfig.Proofs.Text.KeyedList
import TradingConfig.Schema.Check

namespace TradingConfig

namespace Schema

variable {book : SchemaBook} {keywords : Keywords Schema} {schema : Schema} {value : Json}
  {members : List (String × Json)} {items : List Json} {key text : String}

/-- No rule of a schema finds a violation in a value. -/
def Accepts (book : SchemaBook) (schema : Schema) (value : Json) : Prop :=
  ∀ rule ∈ expand book schema, ruleViolations book value rule = []

theorem expand_keywords : expand book [.keywords keywords] = [.keywords keywords] := by
  unfold expand
  cases book.definitions.length <;> rfl

/-- A schema of one rule accepts what the rule does. -/
theorem accepts_keywords_iff :
    Accepts book [.keywords keywords] value
      ↔ ruleViolations book value (.keywords keywords) = [] := by
  unfold Accepts
  rw [expand_keywords, List.forall_mem_singleton]

/-- Keywords that ask for nothing find no violation. -/
theorem ruleViolations_empty (value : Json) : ruleViolations book value (.keywords {}) = [] := by
  cases value with
  | obj members =>
    have silent : memberViolations book members (Keywords.ofMember? ({} : Keywords Schema)) = [] := by
      induction members with
      | nil => rw [memberViolations]
      | cons member rest ih => rw [memberViolations, ih]; rfl
    rw [ruleViolations, silent]
    rfl
  | _ => rw [ruleViolations]; rfl

theorem expand_referring :
    expand book [.keywords keywords, .keywords {}] = [.keywords keywords, .keywords {}] := by
  unfold expand
  cases book.definitions.length <;> rfl

/-- A schema that refers to another one, and asks for nothing itself. -/
theorem accepts_referring_iff :
    Accepts book [.keywords keywords, .keywords {}] value ↔ Accepts book [.keywords keywords] value := by
  rw [accepts_keywords_iff]
  unfold Accepts
  rw [expand_referring]
  simp [ruleViolations_empty]

/-! ## §1. Members and items. -/

theorem memberViolations_cons {schemaOf : String → Option Schema} (member : String × Json)
    (rest : List (String × Json)) :
    memberViolations book (member :: rest) schemaOf
      = (match schemaOf member.1 with
          | some schema => (expand book schema).flatMap fun rule =>
              (ruleViolations book member.2 rule).map (.under (.member member.1))
          | none => [])
        ++ memberViolations book rest schemaOf := by
  cases known : schemaOf member.1 with
  | none => simp only [memberViolations, known]
  | some schema => simp only [memberViolations, known]

theorem memberViolations_append {schemaOf : String → Option Schema}
    (before after : List (String × Json)) :
    memberViolations book (before ++ after) schemaOf
      = memberViolations book before schemaOf ++ memberViolations book after schemaOf := by
  induction before with
  | nil => simp [memberViolations]
  | cons member rest ih =>
    rw [List.cons_append, memberViolations_cons, memberViolations_cons, ih, List.append_assoc]

theorem memberViolations_eq_nil_iff {schemaOf : String → Option Schema} :
    memberViolations book members schemaOf = []
      ↔ ∀ member ∈ members, ∀ schema ∈ schemaOf member.1, Accepts book schema member.2 := by
  induction members with
  | nil => simp [memberViolations]
  | cons member rest ih =>
    rw [memberViolations_cons, List.append_eq_nil_iff, ih, List.forall_mem_cons]
    refine and_congr ?_ Iff.rfl
    cases schemaOf member.1 with
    | none => simp
    | some schema =>
      simp only [List.flatMap_eq_nil_iff, List.map_eq_nil_iff, Option.mem_some_iff, forall_eq']
      exact Iff.rfl

theorem itemViolations_eq_nil_iff (index : Nat) :
    itemViolations book items index schema = []
      ↔ ∀ item ∈ items, ∀ rule ∈ schema, ruleViolations book item rule = [] := by
  induction items generalizing index with
  | nil => simp [itemViolations]
  | cons item rest ih =>
    rw [itemViolations, List.append_eq_nil_iff, ih, List.forall_mem_cons]
    simp only [List.flatMap_eq_nil_iff, List.map_eq_nil_iff]

/-! ## §2. What is known of an accepted value. -/

theorem kindViolations_eq_nil_iff :
    kindViolations keywords value = [] ↔ ∀ kind ∈ keywords.kind, kind.accepts value = true := by
  unfold kindViolations
  cases keywords.kind with
  | none => simp
  | some kind => simp

theorem kind_of_accepted (accepted : ruleViolations book value (.keywords keywords) = []) :
    ∀ kind ∈ keywords.kind, kind.accepts value = true := by
  rw [← kindViolations_eq_nil_iff]
  -- the keyword stands among the others, whatever the value is
  cases value with
  | arr items =>
    rw [ruleViolations, List.append_eq_nil_iff, List.append_eq_nil_iff] at accepted
    exact accepted.1.2
  | null | bool =>
    rw [ruleViolations] at accepted
    exact accepted
  | num | str | obj =>
    rw [ruleViolations, List.append_eq_nil_iff] at accepted
    exact accepted.2

theorem kindViolations_of_object (kind : keywords.kind = some .object) :
    kindViolations keywords (.obj members) = [] := by
  rw [kindViolations_eq_nil_iff, kind]
  intro asked same
  obtain rfl := Option.some.inj same
  rfl

/-- Where an object is asked for, only objects are accepted. -/
theorem exists_members_of_accepted (kind : keywords.kind = some .object)
    (accepted : ruleViolations book value (.keywords keywords) = []) :
    ∃ members, value = .obj members := by
  have isObject := kind_of_accepted accepted .object kind
  cases value with
  | obj members => exact ⟨members, rfl⟩
  | _ => cases isObject

/-- The members of an accepted object are accepted. -/
theorem accepts_of_get? (accepted : ruleViolations book (.obj members) (.keywords keywords) = [])
    (found : KeyedList.get? key members = some value)
    (known : keywords.ofMember? key = some schema) : Accepts book schema value := by
  rw [ruleViolations] at accepted
  simp only [List.append_eq_nil_iff] at accepted
  have all := memberViolations_eq_nil_iff.mp accepted.1.1.1
  exact all (key, value) (KeyedList.mem_of_get? found) schema known

/-- The items of an accepted array are accepted. -/
theorem accepts_of_mem (accepted : ruleViolations book (.arr items) (.keywords keywords) = [])
    (asked : keywords.items = some schema) (member : value ∈ items) :
    Accepts book schema value := by
  rw [ruleViolations, asked] at accepted
  simp only [List.append_eq_nil_iff] at accepted
  exact (itemViolations_eq_nil_iff 0).mp accepted.1.1 value member

/-- Two integers need not be scaled to be compared. -/
theorem align_int (a b : Int) :
    Binary64.align (Number.int a).exact (Number.int b).exact = (a, b) := by
  have signed (n : Int) : (Number.int n).exact.signed = n := by
    show (if decide (n < 0) then -(n.natAbs : Int) else n.natAbs) = n
    by_cases negative : n < 0
    · rw [if_pos (decide_eq_true negative)]
      omega
    · rw [if_neg (by simp [negative])]
      omega
  show ((Number.int a).exact.signed * Int.pow 2 0, (Number.int b).exact.signed * Int.pow 2 0) = _
  rw [signed, signed, show Int.pow 2 0 = 1 from rfl, Int.mul_one, Int.mul_one]

/-- Integers are compared as such. -/
theorem lt_int_iff {a b : Int} : (Number.int a).lt (.int b) = true ↔ a < b := by
  unfold Number.lt Binary64.lt
  rw [align_int]
  exact decide_eq_true_iff

/-- An accepted integer lies between the limits. -/
theorem limits_of_accepted {n : Int}
    (accepted : ruleViolations book (.num (.int n)) (.keywords keywords) = []) :
    (∀ limit, keywords.minimum = some (.int limit) → limit ≤ n)
      ∧ ∀ limit, keywords.maximum = some (.int limit) → n ≤ limit := by
  rw [ruleViolations, List.append_eq_nil_iff, List.append_eq_nil_iff] at accepted
  obtain ⟨⟨maximum, minimum⟩, -⟩ := accepted
  constructor
  · intro limit asked
    refine Int.not_lt.mp fun below => ?_
    simp [minimumViolations, asked, lt_int_iff.mpr below] at minimum
  · intro limit asked
    refine Int.not_lt.mp fun above => ?_
    simp [maximumViolations, asked, lt_int_iff.mpr above] at maximum

/-- An object is accepted if its members are, and all that it must have are
there and no others. -/
theorem accepted_obj (kind : keywords.kind = some .object)
    (accepted : ∀ member ∈ members, ∀ schema ∈ keywords.ofMember? member.1,
      Accepts book schema member.2)
    (expected : unexpectedViolations keywords members = [])
    (complete : requiredViolations keywords members = []) :
    ruleViolations book (.obj members) (.keywords keywords) = [] := by
  rw [ruleViolations, memberViolations_eq_nil_iff.mpr accepted, expected, complete,
    kindViolations_of_object kind]
  rfl

/-! ## §3. A member that makes no difference. -/

theorem unexpectedViolations_of_known {before after : List (String × Json)}
    (known : keywords.ofMember? key = some schema) :
    unexpectedViolations keywords (before ++ (key, value) :: after)
      = unexpectedViolations keywords (before ++ after) := by
  have described : keywords.properties.isNone = false := by
    cases properties : keywords.properties with
    | none =>
      unfold Keywords.ofMember? at known
      rw [properties] at known
      cases known
    | some _ => rfl
  have sameNames : ((before ++ (key, value) :: after).map Prod.fst).filter
        (fun key => (keywords.ofMember? key).isNone)
      = ((before ++ after).map Prod.fst).filter fun key => (keywords.ofMember? key).isNone := by
    simp [known]
  unfold unexpectedViolations
  rw [described, sameNames]
  rfl

theorem requiredViolations_of_optional {before after : List (String × Json)}
    (notRequired : key ∉ keywords.required) :
    requiredViolations keywords (before ++ (key, value) :: after)
      = requiredViolations keywords (before ++ after) := by
  unfold requiredViolations
  refine congrArg _ (List.filter_congr fun name required => ?_)
  have differs : name ≠ key := fun same => notRequired (same ▸ required)
  rw [KeyedList.get?_append, KeyedList.get?_append, KeyedList.get?, if_neg differs]

/-- A member that need not be there, and is accepted where it is, makes no
difference to the violations of its object. -/
theorem ruleViolations_of_accepted {before after : List (String × Json)}
    (kind : keywords.kind = some .object) (notRequired : key ∉ keywords.required)
    (known : keywords.ofMember? key = some schema) (accepted : Accepts book schema value) :
    ruleViolations book (.obj (before ++ (key, value) :: after)) (.keywords keywords)
      = ruleViolations book (.obj (before ++ after)) (.keywords keywords) := by
  have silent : memberViolations book [(key, value)] keywords.ofMember? = [] := by
    refine memberViolations_eq_nil_iff.mpr fun member here other asked => ?_
    obtain rfl := List.mem_singleton.mp here
    obtain rfl := Option.some.inj (known.symm.trans asked)
    exact accepted
  have members : memberViolations book (before ++ (key, value) :: after) keywords.ofMember?
      = memberViolations book (before ++ after) keywords.ofMember? := by
    rw [memberViolations_append, ← List.singleton_append, memberViolations_append, silent,
      memberViolations_append, List.nil_append]
  rw [ruleViolations, ruleViolations, members, unexpectedViolations_of_known known,
    requiredViolations_of_optional notRequired, kindViolations_of_object kind,
    kindViolations_of_object kind]

end Schema

/-- A document without violations is accepted. -/
theorem SchemaBook.violations_eq_nil_iff {book : SchemaBook} {document : Json} :
    book.violations document = [] ↔ Schema.Accepts book book.root document := by
  unfold violations
  rw [List.flatMap_eq_nil_iff]
  exact Iff.rfl

end TradingConfig
