/-
  TradingConfig.Proofs.Codec.Reading
  ────────────────────────────────
  **WHAT A VALUE WAS READ FROM.**

  Whatever a reader gives was there to be read: the items of a list come
  from the items of an array (`exists_item_of_list`), and a field of a
  record from the member of its key or, without one, from its default
  (`Fields.head_of_ofMembers`).
-/
import TradingConfig.Codec.Record
import TradingConfig.Proofs.Success

namespace TradingConfig.Codec

variable {α β τ : Type}

/-! ## §1. Scalars and lists. -/

theorem eq_str_of_string {value : Json} {text : String} (read : string.decode value = .ok text) :
    value = .str text := by
  cases value with
  | str found => exact congrArg Json.str (Except.ok.inj read)
  | _ => cases read

/-- A natural number is read from an integer literal. -/
theorem decodeBelow_eq_ok_iff {bound : Nat} {wanted : String} {value : Json} {n : Nat} :
    decodeBelow bound wanted value = .ok n ↔ value = .num (.int n) ∧ n < bound := by
  constructor
  · intro read
    unfold decodeBelow at read
    split at read
    next literal =>
      split at read
      next fits =>
        obtain rfl := Except.ok.inj read
        rw [Int.toNat_of_nonneg fits.1]
        exact ⟨rfl, fits.2⟩
      · cases read
    · cases read
  · rintro ⟨rfl, below⟩
    simp [decodeBelow, below]

/-- A list is read from an array, item by item. -/
theorem exists_item_of_list {item : Codec α} {value : Json} {xs : List α}
    (read : (list item).decode value = .ok xs) :
    ∃ items, value = .arr items ∧ ∀ x ∈ xs, ∃ found ∈ items, item.decode found = .ok x := by
  cases value with
  | arr items => exact ⟨items, rfl, exists_item_of_mapM read⟩
  | _ => cases read

/-- A value that is there is read by the codec of the value. -/
theorem decode_of_optional {inner : Codec α} {value : Json} {x : α}
    (read : inner.optional.decode value = .ok (some x)) : inner.decode value = .ok x := by
  have mapped : (inner.decode value).map some = .ok (some x) := by
    cases value with
    | null => cases read
    | _ => exact read
  cases decoded : inner.decode value with
  | error fault =>
    rw [decoded] at mapped
    cases mapped
  | ok found =>
    rw [decoded] at mapped
    exact congrArg Except.ok (Option.some.inj (Except.ok.inj mapped))

/-! ## §2. Records. -/

/-- From an object a record is made of the values of its fields. -/
theorem exists_values_of_record {name : String} {fields : Fields τ} {make : τ → α} {parts : α → τ}
    {members : List (String × Json)} {x : α}
    (read : (record name fields make parts).decode (.obj members) = .ok x) :
    ∃ values, fields.ofMembers members = .ok values ∧ x = make values := by
  obtain ⟨-, -, read⟩ := exists_ok_of_bind read
  obtain ⟨values, found, made⟩ := exists_ok_of_bind read
  exact ⟨values, found, (Except.ok.inj made).symm⟩

namespace Fields

variable {head : Field α} {tail : Fields β} {members : List (String × Json)} {value : α}
  {values : β}

/-- The value of a field is that of its member, or the default where there
is no member; the other fields are read from the same members. -/
theorem parts_of_ofMembers (read : (cons head tail).ofMembers members = .ok (value, values)) :
    ((∃ found, KeyedList.get? head.key members = some found ∧ head.codec.decode found = .ok value)
        ∨ head.absent = some value)
      ∧ tail.ofMembers members = .ok values := by
  unfold ofMembers at read
  -- wherever the value of the head comes from, the tail is read after it
  cases found : KeyedList.get? head.key members with
  | some member =>
    rw [found] at read
    obtain ⟨first, readFirst, read⟩ := exists_ok_of_bind read
    obtain ⟨others, readRest, made⟩ := exists_ok_of_bind read
    obtain ⟨rfl, rfl⟩ := Prod.mk.inj (Except.ok.inj made)
    exact ⟨.inl ⟨member, rfl, readFirst⟩, readRest⟩
  | none =>
    rw [found] at read
    cases absent : head.absent with
    | some default =>
      rw [absent] at read
      obtain ⟨first, same, read⟩ := exists_ok_of_bind read
      obtain ⟨others, readRest, made⟩ := exists_ok_of_bind read
      obtain ⟨rfl, rfl⟩ := Prod.mk.inj (Except.ok.inj made)
      exact ⟨.inr (congrArg some (Except.ok.inj same)), readRest⟩
    | none =>
      rw [absent] at read
      cases read

/-- A field that must be present is read from its member. -/
theorem required_of_ofMembers {key : String} {codec : Codec α}
    (read : (cons (.required key codec) tail).ofMembers members = .ok (value, values)) :
    (∃ found, KeyedList.get? key members = some found ∧ codec.decode found = .ok value)
      ∧ tail.ofMembers members = .ok values := by
  obtain ⟨present | absent, readRest⟩ := parts_of_ofMembers read
  · exact ⟨present, readRest⟩
  · cases absent

end Fields

end TradingConfig.Codec
