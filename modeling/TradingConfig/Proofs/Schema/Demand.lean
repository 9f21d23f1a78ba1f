/-
  TradingConfig.Proofs.Schema.Demand
  ────────────────────────────────
  **ONE VIOLATION FOR EVERY BROKEN DEMAND.**

  What a schema asks of a value of a known shape is a list of demands, each
  with the violation that is listed where it is not met.  A schema demands
  them of the value (`Demands`) if what it lists is the broken ones and
  nothing else.  Objects and arrays collect the demands on what is inside of
  them, so those on a document are put together from those on its parts.
-/
import TradingConfig.Proofs.Schema.Check

namespace TradingConfig

/-! ## §1. Demands. -/

/-- Something that a schema asks for. -/
structure Demand where
  /-- Whether the value is as asked for. -/
  met : Bool
  /-- What is listed where it is not. -/
  violation : Violation

namespace Demand

variable {α : Type}

/-- The violations of the demands that are not met. -/
def broken (demands : List Demand) : List Violation :=
  (demands.filter fun demand => !demand.met).map Demand.violation

/-- A demand on a part, seen from one step further outside. -/
def under (step : Step) (demand : Demand) : Demand :=
  { demand with violation := demand.violation.under step }

/-- Demands on the member with a key. -/
def inMember (key : String) (demands : List Demand) : List Demand :=
  demands.map (under (.member key))

/-- Demands on members, by their keys. -/
def inMembers (members : List (String × List Demand)) : List Demand :=
  members.flatMap fun member => inMember member.1 member.2

/-- The demands on items, by the values that they are made of, from an index
on. -/
def inItems (demandsOf : α → List Demand) : List α → (index : Nat) → List Demand
  | [], _ => []
  | value :: rest, index =>
    (demandsOf value).map (under (.item index)) ++ inItems demandsOf rest (index + 1)

@[simp] theorem broken_nil : broken [] = [] :=
  rfl

theorem broken_append (first second : List Demand) :
    broken (first ++ second) = broken first ++ broken second := by
  unfold broken
  rw [List.filter_append, List.map_append]

theorem broken_singleton (demand : Demand) :
    broken [demand] = if demand.met then [] else [demand.violation] := by
  unfold broken
  cases met : demand.met <;> simp [met]

/-- The violations of a part are listed one step further outside, too. -/
theorem broken_under (step : Step) (demands : List Demand) :
    broken (demands.map (under step)) = (broken demands).map (.under step) := by
  unfold broken
  rw [List.filter_map, List.map_map, List.map_map]
  rfl

theorem broken_eq_nil_iff {demands : List Demand} :
    broken demands = [] ↔ ∀ demand ∈ demands, demand.met = true := by
  unfold broken
  rw [List.map_eq_nil_iff, List.filter_eq_nil_iff]
  simp

theorem broken_under_eq_nil_iff {step : Step} {demands : List Demand} :
    broken (demands.map (under step)) = [] ↔ broken demands = [] := by
  rw [broken_under, List.map_eq_nil_iff]

theorem broken_inMember_eq_nil_iff {key : String} {demands : List Demand} :
    broken (inMember key demands) = [] ↔ broken demands = [] :=
  broken_under_eq_nil_iff

theorem inMembers_cons (key : String) (demands : List Demand)
    (rest : List (String × List Demand)) :
    inMembers ((key, demands) :: rest) = inMember key demands ++ inMembers rest :=
  rfl

theorem inMembers_singleton (key : String) (demands : List Demand) :
    inMembers [(key, demands)] = inMember key demands :=
  List.append_nil _

theorem broken_inMembers_eq_nil_iff {members : List (String × List Demand)} :
    broken (inMembers members) = [] ↔ ∀ member ∈ members, broken member.2 = [] := by
  induction members with
  | nil => simp [inMembers]
  | cons member rest ih =>
    rw [inMembers_cons, broken_append, List.append_eq_nil_iff, broken_inMember_eq_nil_iff, ih,
      List.forall_mem_cons]

theorem inItems_append (demandsOf : α → List Demand) (before after : List α) (index : Nat) :
    inItems demandsOf (before ++ after) index
      = inItems demandsOf before index ++ inItems demandsOf after (index + before.length) := by
  induction before generalizing index with
  | nil => rfl
  | cons value rest ih =>
    rw [List.cons_append, inItems, ih, inItems, List.append_assoc, List.length_cons,
      Nat.add_assoc, Nat.add_comm 1]

theorem broken_inItems_eq_nil_iff {demandsOf : α → List Demand} {values : List α} {index : Nat} :
    broken (inItems demandsOf values index) = []
      ↔ ∀ value ∈ values, broken (demandsOf value) = [] := by
  induction values generalizing index with
  | nil => simp [inItems]
  | cons value rest ih =>
    rw [inItems, broken_append, List.append_eq_nil_iff, broken_under_eq_nil_iff, ih,
      List.forall_mem_cons]

/-- Where the demands on all other items are met, those on one item are all
that can be broken. -/
theorem broken_inItems_of_others {demandsOf : α → List Demand} {before after : List α} {value : α}
    (others : ∀ other ∈ before ++ after, broken (demandsOf other) = []) :
    broken (inItems demandsOf (before ++ value :: after) 0)
      = broken ((demandsOf value).map (under (.item before.length))) := by
  obtain ⟨earlier, later⟩ := List.forall_mem_append.mp others
  rw [inItems_append, broken_append, broken_inItems_eq_nil_iff.mpr earlier, inItems, broken_append,
    broken_inItems_eq_nil_iff.mpr later, List.nil_append, List.append_nil, Nat.zero_add]

end Demand

namespace Schema

open Demand

variable {book : SchemaBook} {keywords : Keywords Schema} {schema : Schema} {value : Json}
  {members : List (String × Json)} {demands others : List Demand} {text : String}

/-! ## §2. What a schema demands. -/

/-- A schema lists the broken demands on a value, and nothing else. -/
def Demands (book : SchemaBook) (schema : Schema) (value : Json) (demands : List Demand) : Prop :=
  (expand book schema).flatMap (ruleViolations book value) = broken demands

/-- So it accepts the value where all are met. -/
theorem Demands.accepts_iff (asks : Demands book schema value demands) :
    Accepts book schema value ↔ broken demands = [] := by
  rw [← asks, List.flatMap_eq_nil_iff]
  exact Iff.rfl

theorem demands_keywords_iff :
    Demands book [.keywords keywords] value demands
      ↔ ruleViolations book value (.keywords keywords) = broken demands := by
  unfold Demands
  rw [expand_keywords, List.flatMap_singleton]

/-- A schema that refers to another one, and asks for nothing itself. -/
theorem Demands.referring (asks : Demands book [.keywords keywords] value demands) :
    Demands book [.keywords keywords, .keywords {}] value demands := by
  unfold Demands at asks ⊢
  rw [expand_keywords, List.flatMap_singleton] at asks
  rw [expand_referring, List.flatMap_cons, List.flatMap_singleton, ruleViolations_empty,
    List.append_nil, asks]

/-! ## §3. Objects and arrays. -/

/-- What is demanded of the members of an object. -/
inductive MembersDemand (book : SchemaBook) (schemaOf : String → Option Schema) :
    List (String × Json) → List (String × List Demand) → Prop where
  /-- No members. -/
  | nil : MembersDemand book schemaOf [] []
  /-- A member of which something is demanded. -/
  | asked {key : String} {value : Json} {schema : Schema} {demands : List Demand}
      {members : List (String × Json)} {keyed : List (String × List Demand)}
      (known : schemaOf key = some schema) (asks : Demands book schema value demands)
      (rest : MembersDemand book schemaOf members keyed) :
      MembersDemand book schemaOf ((key, value) :: members) ((key, demands) :: keyed)
  /-- A member that is accepted whatever it is. -/
  | free {key : String} {value : Json} {schema : Schema}
      {members : List (String × Json)} {keyed : List (String × List Demand)}
      (known : schemaOf key = some schema) (asks : Demands book schema value [])
      (rest : MembersDemand book schemaOf members keyed) :
      MembersDemand book schemaOf ((key, value) :: members) keyed

variable {schemaOf : String → Option Schema} {keyed : List (String × List Demand)}

theorem MembersDemand.violations (inside : MembersDemand book schemaOf members keyed) :
    memberViolations book members schemaOf = broken (inMembers keyed) := by
  induction inside with
  | nil =>
    rw [memberViolations]
    rfl
  | asked known asks rest ih =>
    unfold Demands at asks
    rw [memberViolations_cons, known, ih, inMembers_cons, broken_append, inMember, broken_under,
      ← asks, List.map_flatMap]
  | free known asks rest ih =>
    unfold Demands at asks
    rw [memberViolations_cons, known, ih]
    dsimp only
    rw [← List.map_flatMap, asks]
    rfl

/-- An object that has what it must have, and nothing else, is demanded what
its members are. -/
theorem demands_obj (kind : keywords.kind = some .object)
    (expected : unexpectedViolations keywords members = [])
    (complete : requiredViolations keywords members = [])
    (inside : MembersDemand book keywords.ofMember? members keyed) :
    Demands book [.keywords keywords] (.obj members) (inMembers keyed) := by
  rw [demands_keywords_iff, ruleViolations, inside.violations, expected, complete,
    kindViolations_of_object kind]
  simp only [List.append_nil]

variable {α : Type} {form : α → Json} {demandsOf : α → List Demand} {values : List α}

theorem itemViolations_of_demands
    (asks : ∀ value, Demands book schema (form value) (demandsOf value)) (index : Nat) :
    itemViolations book (values.map form) index (expand book schema)
      = broken (inItems demandsOf values index) := by
  induction values generalizing index with
  | nil => rw [List.map_nil, itemViolations]; rfl
  | cons value rest ih =>
    have first := asks value
    unfold Demands at first
    rw [List.map_cons, itemViolations, ih, inItems, broken_append, broken_under, ← first,
      List.map_flatMap]

/-- An array is demanded what its items are, and that they differ where this
is asked for. -/
theorem demands_arr (kind : keywords.kind = some .array) (asked : keywords.items = some schema)
    (asks : ∀ value, Demands book schema (form value) (demandsOf value))
    (unique : uniqueViolations keywords (values.map form) = broken others) :
    Demands book [.keywords keywords] (.arr (values.map form))
      (inItems demandsOf values 0 ++ others) := by
  have isArray : kindViolations keywords (.arr (values.map form)) = [] := by
    rw [kindViolations_eq_nil_iff, kind]
    intro asked same
    obtain rfl := Option.some.inj same
    rfl
  rw [demands_keywords_iff, ruleViolations, asked]
  dsimp only
  rw [itemViolations_of_demands asks, isArray, unique, List.append_nil, broken_append]

/-- The items of an array that may repeat them. -/
theorem uniqueViolations_of_repeatable (repeatable : keywords.uniqueItems = false)
    (items : List Json) : uniqueViolations keywords items = [] := by
  unfold uniqueViolations
  rw [repeatable]
  rfl

/-- Where items may be repeated, an array is demanded what they are. -/
theorem demands_items (kind : keywords.kind = some .array) (asked : keywords.items = some schema)
    (repeatable : keywords.uniqueItems = false)
    (asks : ∀ value, Demands book schema (form value) (demandsOf value)) :
    Demands book [.keywords keywords] (.arr (values.map form)) (inItems demandsOf values 0) := by
  have all : Demands book [.keywords keywords] (.arr (values.map form)) (_ ++ []) :=
    demands_arr kind asked asks (uniqueViolations_of_repeatable repeatable _)
  rw [List.append_nil] at all
  exact all

/-- The violations of a document with one list are those of its records. -/
theorem violations_list {document items : Keywords Schema} {key : String}
    (root : book.root = [.keywords document]) (kind : document.kind = some .object)
    (expected : unexpectedViolations document [(key, .arr (values.map form))] = [])
    (complete : requiredViolations document [(key, .arr (values.map form))] = [])
    (known : document.ofMember? key = some [.keywords items])
    (isArray : items.kind = some .array) (repeatable : items.uniqueItems = false)
    (asked : items.items = some schema)
    (asks : ∀ value, Demands book schema (form value) (demandsOf value)) :
    book.violations (.obj [(key, .arr (values.map form))])
      = broken (inMembers [(key, inItems demandsOf values 0)]) := by
  have all : Demands book [.keywords document] (.obj [(key, .arr (values.map form))]) _ :=
    demands_obj kind expected complete
      (.asked known (demands_items isArray asked repeatable asks) .nil)
  rw [SchemaBook.violations, root]
  exact all

/-! ## §4. Items that differ. -/

theorem same_int_iff {a b : Int} : (Number.int a).same (.int b) = true ↔ a = b := by
  unfold Number.same Binary64.sameValue
  rw [align_int]
  exact beq_iff_eq

/-- Integers have no two zeros. -/
theorem sameSigned_int_iff {a b : Int} : (Number.int a).sameSigned (.int b) = true ↔ a = b := by
  unfold Number.sameSigned
  rw [Bool.and_eq_true, same_int_iff]
  constructor
  · exact And.left
  · rintro rfl
    exact ⟨rfl, beq_self_eq_true _⟩

/-- Where values are written one to one, items are repeated exactly where the
values are. -/
theorem hasRepeated_map_iff {equal : Json → Json → Bool}
    (same : ∀ a b, equal (form a) (form b) = true ↔ a = b) :
    hasRepeated equal (values.map form) = true ↔ ¬ values.Nodup := by
  induction values with
  | nil => simp [hasRepeated]
  | cons value rest ih =>
    rw [List.map_cons, hasRepeated, Bool.or_eq_true, ih, List.any_eq_true, List.nodup_cons,
      Classical.not_and_iff_not_or_not, Classical.not_not]
    refine or_congr ⟨?_, fun member => ?_⟩ Iff.rfl
    · rintro ⟨item, member, equals⟩
      obtain ⟨other, inRest, rfl⟩ := List.mem_map.mp member
      exact (same value other).mp equals ▸ inRest
    · exact ⟨form value, List.mem_map_of_mem member, (same value value).mpr rfl⟩

/-- The items are to differ: that is one demand, however many are repeated. -/
theorem uniqueViolations_map [DecidableEq α] (asked : keywords.uniqueItems = true)
    (few : ∀ a b, Json.sameBy Number.same (form a) (form b) = true ↔ a = b)
    (many : ∀ a b, Json.sameBy Number.sameSigned (form a) (form b) = true ↔ a = b) :
    uniqueViolations keywords (values.map form)
      = broken [⟨values.Nodup, here (.repeatedItems (.arr (values.map form)))⟩] := by
  -- few items are compared in another way than many, but both tell values apart
  have repeats : hasRepeated (Json.sameBy
      (if (values.map form).length ≤ fewItems then Number.same else Number.sameSigned))
      (values.map form) = !decide values.Nodup := by
    rw [Bool.eq_iff_iff, Bool.not_eq_true', decide_eq_false_iff_not]
    split
    · exact hasRepeated_map_iff few
    · exact hasRepeated_map_iff many
  unfold uniqueViolations
  dsimp only
  rw [asked, repeats, Bool.true_and, broken_singleton]
  cases decide values.Nodup <;> rfl

/-! ## §5. Texts and numbers. -/

theorem demands_text (limit : Nat) :
    Demands book [.keywords { minLength := some limit, kind := some .string }] (.str text)
      [⟨limit ≤ text.toList.length, here (.tooShort (.str text) limit)⟩] := by
  rw [demands_keywords_iff, ruleViolations, broken_singleton]
  -- of the keywords only the limit says something about a text
  show (if text.toList.length < limit then [here (.tooShort (.str text) limit)] else []) ++ [] = _
  by_cases long : limit ≤ text.toList.length
  · simp [long, Nat.not_lt.mpr long]
  · simp [long, Nat.lt_of_not_le long]

theorem lt_int (a b : Int) : (Number.int a).lt (.int b) = !decide (b ≤ a) := by
  rw [Bool.eq_iff_iff, lt_int_iff, Bool.not_eq_true', decide_eq_false_iff_not, Int.not_le]

theorem demands_minimum (limit n : Int) :
    Demands book [.keywords { minimum := some (.int limit), kind := some .integer }]
      (.num (.int n)) [⟨limit ≤ n, here (.belowMinimum (.num (.int n)) (.int limit))⟩] := by
  rw [demands_keywords_iff, ruleViolations, broken_singleton]
  show [] ++ (if (Number.int n).lt (.int limit) then _ else []) ++ [] = _
  rw [lt_int]
  cases decide (limit ≤ n) <;> rfl

theorem demands_limits (least greatest n : Int) :
    Demands book
      [.keywords {
        maximum := some (.int greatest), minimum := some (.int least), kind := some .integer }]
      (.num (.int n))
      [⟨n ≤ greatest, here (.aboveMaximum (.num (.int n)) (.int greatest))⟩,
        ⟨least ≤ n, here (.belowMinimum (.num (.int n)) (.int least))⟩] := by
  rw [demands_keywords_iff, ruleViolations, ← List.singleton_append, broken_append,
    broken_singleton, broken_singleton]
  -- the maximum is looked at first
  show (if (Number.int greatest).lt (.int n) then _ else [])
    ++ (if (Number.int n).lt (.int least) then _ else []) ++ [] = _
  rw [lt_int, lt_int, List.append_nil]
  cases decide (n ≤ greatest) <;> cases decide (least ≤ n) <;> rfl

end Schema

end TradingConfig
