/-
  TradingConfig.Proofs.Json.Canonical
  ────────────────────────────────
  **CANONICAL VALUES.**

  In a canonical value the members of every object ascend by their keys,
  so a value is made canonical once (`isCanonical_canonical`) and its parts
  are canonical, too.  Every value that is read from bytes is canonical
  (`isCanonical_of_ofBytes`).
-/
import TradingConfig.Proofs.Codec.Laws
import TradingConfig.Proofs.Success

namespace TradingConfig.Json

/-- The members of every object in a value ascend by their keys. -/
def IsCanonical (value : Json) : Prop :=
  value.canonical = value

/-! ## §1. Parts of canonical values. -/

theorem isCanonical_arr_iff {items : List Json} :
    (arr items).IsCanonical ↔ ∀ item ∈ items, item.IsCanonical := by
  show arr (canonicalItems items) = arr items ↔ _
  rw [canonicalItems_eq_map, arr.injEq]
  nth_rewrite 2 [← List.map_id items]
  exact List.map_eq_map_iff

theorem isCanonical_obj_of {members : List (String × Json)}
    (ascending : KeyedList.Ascending members)
    (canonical : ∀ member ∈ members, member.2.IsCanonical) : (obj members).IsCanonical := by
  have same : canonicalMembers members = members := by
    rw [canonicalMembers_eq_map]
    nth_rewrite 2 [← List.map_id members]
    exact List.map_congr_left fun member inside => Prod.ext rfl (canonical member inside)
  show obj (KeyedList.ofPairs (canonicalMembers members)) = obj members
  rw [same, KeyedList.ofPairs_of_ascending ascending]

mutual

/-- A value is made canonical once. -/
theorem isCanonical_canonical : (value : Json) → value.canonical.IsCanonical
  | .null => rfl
  | .bool _ => rfl
  | .num _ => rfl
  | .str _ => rfl
  | .arr items => isCanonical_arr_iff.mpr (isCanonical_canonicalItems items)
  | .obj members =>
    isCanonical_obj_of (KeyedList.ascending_ofPairs _) fun member inside =>
      isCanonical_canonicalMembers members member (KeyedList.mem_of_mem_ofPairs inside)

theorem isCanonical_canonicalItems :
    (items : List Json) → ∀ item ∈ canonicalItems items, item.IsCanonical
  | [], _, inside => absurd inside List.not_mem_nil
  | item :: rest, found, inside => by
    rcases List.mem_cons.mp inside with rfl | later
    · exact isCanonical_canonical item
    · exact isCanonical_canonicalItems rest found later

theorem isCanonical_canonicalMembers :
    (members : List (String × Json)) → ∀ member ∈ canonicalMembers members, member.2.IsCanonical
  | [], _, inside => absurd inside List.not_mem_nil
  | (key, value) :: rest, found, inside => by
    rcases List.mem_cons.mp inside with rfl | later
    · exact isCanonical_canonical value
    · exact isCanonical_canonicalMembers rest found later

end

theorem isCanonical_obj_iff {members : List (String × Json)} :
    (obj members).IsCanonical
      ↔ KeyedList.Ascending members ∧ ∀ member ∈ members, member.2.IsCanonical := by
  constructor
  · intro canonical
    have same : KeyedList.ofPairs (canonicalMembers members) = members := obj.inj canonical
    refine ⟨same ▸ KeyedList.ascending_ofPairs _, fun member inside => ?_⟩
    rw [← same] at inside
    exact isCanonical_canonicalMembers members member (KeyedList.mem_of_mem_ofPairs inside)
  · rintro ⟨ascending, canonical⟩
    exact isCanonical_obj_of ascending canonical

theorem IsCanonical.get? {members : List (String × Json)} {key : String} {value : Json}
    (canonical : (obj members).IsCanonical)
    (found : KeyedList.get? key members = some value) : value.IsCanonical :=
  (isCanonical_obj_iff.mp canonical).2 (key, value) (KeyedList.mem_of_get? found)

/-! ## §2. What is read. -/

/-- What the readers give with some amount of fuel is canonical. -/
structure ReadsCanonical (fuel : Nat) : Prop where
  /-- A value. -/
  value : ∀ {room input found rest},
    Json.value fuel room input = .ok (found, rest) → found.IsCanonical
  /-- The items of an array. -/
  arrayItems : ∀ {room input items rest},
    Json.arrayItems fuel room input = .ok (items, rest) → ∀ item ∈ items, item.IsCanonical
  /-- Its further items. -/
  moreItems : ∀ {room input items rest},
    Json.moreItems fuel room input = .ok (items, rest) → ∀ item ∈ items, item.IsCanonical
  /-- The members of an object. -/
  objectMembers : ∀ {room input members rest},
    Json.objectMembers fuel room input = .ok (members, rest) →
      ∀ member ∈ members, member.2.IsCanonical
  /-- Its members after a quote. -/
  membersFrom : ∀ {room input members rest},
    Json.membersFrom fuel room input = .ok (members, rest) →
      ∀ member ∈ members, member.2.IsCanonical
  /-- Its further members. -/
  moreMembers : ∀ {room input members rest},
    Json.moreMembers fuel room input = .ok (members, rest) →
      ∀ member ∈ members, member.2.IsCanonical

theorem eq_of_literal {value found : Json} {expected : List Char} {input rest : List Symbol}
    (read : literal value expected input = .ok (found, rest)) : found = value := by
  induction expected generalizing input with
  | nil => exact (Prod.mk.inj (Except.ok.inj read)).1.symm
  | cons e expected ih =>
    cases input with
    | nil => cases read
    | cons s input =>
      unfold literal at read
      split at read
      · exact ih read
      · cases read

theorem exists_num_of_value {numeral : Numeral} {isPlain : Bool} {found : Json}
    (read : numeral.value isPlain = .ok found) : ∃ n, found = .num n := by
  unfold Numeral.value at read
  dsimp only at read
  split at read
  · exact ⟨_, (Except.ok.inj read).symm⟩
  split at read
  · exact ⟨_, (Except.ok.inj read).symm⟩
  split at read
  · exact ⟨_, (Except.ok.inj read).symm⟩
  · cases read

theorem exists_num_of_number {negative : Bool} {input rest : List Symbol} {found : Json}
    (read : number negative input = .ok (found, rest)) : ∃ n, found = .num n := by
  unfold number at read
  obtain ⟨⟨whole, _⟩, -, readFraction⟩ := exists_ok_of_bind read
  obtain ⟨⟨fraction, _⟩, -, readExponent⟩ := exists_ok_of_bind readFraction
  obtain ⟨⟨exponent, _⟩, -, readValue⟩ := exists_ok_of_bind readExponent
  obtain ⟨value, isValue, made⟩ := exists_ok_of_bind readValue
  obtain ⟨rfl, -⟩ := Prod.mk.inj (Except.ok.inj made)
  exact exists_num_of_value isValue

namespace ReadsCanonical

variable {fuel : Nat} (reads : ReadsCanonical fuel)

include reads

theorem value_succ {room : Nat} {input rest : List Symbol} {found : Json}
    (read : Json.value (fuel + 1) room input = .ok (found, rest)) : found.IsCanonical := by
  unfold Json.value at read
  split at read
  · cases read
  · rw [eq_of_literal read]; rfl
  · rw [eq_of_literal read]; rfl
  · rw [eq_of_literal read]; rfl
  · obtain ⟨n, rfl⟩ := exists_num_of_number read
    rfl
  · obtain ⟨⟨text, _⟩, -, made⟩ := exists_ok_of_bind read
    obtain ⟨rfl, -⟩ := Prod.mk.inj (Except.ok.inj made)
    rfl
  · split at read
    · cases read
    · obtain ⟨⟨items, _⟩, readItems, made⟩ := exists_ok_of_bind read
      obtain ⟨rfl, -⟩ := Prod.mk.inj (Except.ok.inj made)
      exact isCanonical_arr_iff.mpr (reads.arrayItems readItems)
  · split at read
    · cases read
    · obtain ⟨⟨members, _⟩, readMembers, made⟩ := exists_ok_of_bind read
      obtain ⟨rfl, -⟩ := Prod.mk.inj (Except.ok.inj made)
      exact isCanonical_obj_of (KeyedList.ascending_ofPairs _) fun member inside =>
        reads.objectMembers readMembers member (KeyedList.mem_of_mem_ofPairs inside)
  · split at read
    · obtain ⟨n, rfl⟩ := exists_num_of_number read
      rfl
    · cases read

/-- An item in front of further items. -/
theorem items_of_bind {room : Nat} {input rest : List Symbol} {items : List Json}
    (read : (do
      let (item, rest) ← Json.value fuel room input
      let (items, rest) ← Json.moreItems fuel room rest
      Except.ok (item :: items, rest)) = Except.ok (items, rest)) :
    ∀ item ∈ items, item.IsCanonical := by
  obtain ⟨⟨item, _⟩, readItem, read⟩ := exists_ok_of_bind read
  obtain ⟨⟨more, _⟩, readMore, made⟩ := exists_ok_of_bind read
  obtain ⟨rfl, -⟩ := Prod.mk.inj (Except.ok.inj made)
  exact List.forall_mem_cons.mpr ⟨reads.value readItem, reads.moreItems readMore⟩

theorem arrayItems_succ {room : Nat} {input rest : List Symbol} {items : List Json}
    (read : Json.arrayItems (fuel + 1) room input = .ok (items, rest)) :
    ∀ item ∈ items, item.IsCanonical := by
  unfold Json.arrayItems at read
  split at read
  · cases read
  · obtain ⟨rfl, -⟩ := Prod.mk.inj (Except.ok.inj read)
    exact List.forall_mem_nil _
  · exact reads.items_of_bind read

theorem moreItems_succ {room : Nat} {input rest : List Symbol} {items : List Json}
    (read : Json.moreItems (fuel + 1) room input = .ok (items, rest)) :
    ∀ item ∈ items, item.IsCanonical := by
  unfold Json.moreItems at read
  split at read
  · cases read
  · obtain ⟨rfl, -⟩ := Prod.mk.inj (Except.ok.inj read)
    exact List.forall_mem_nil _
  · split at read
    · cases read
    · exact reads.items_of_bind read
  · cases read

theorem objectMembers_succ {room : Nat} {input rest : List Symbol}
    {members : List (String × Json)}
    (read : Json.objectMembers (fuel + 1) room input = .ok (members, rest)) :
    ∀ member ∈ members, member.2.IsCanonical := by
  unfold Json.objectMembers at read
  split at read
  · cases read
  · obtain ⟨rfl, -⟩ := Prod.mk.inj (Except.ok.inj read)
    exact List.forall_mem_nil _
  · exact reads.membersFrom read
  · cases read

theorem membersFrom_succ {room : Nat} {input rest : List Symbol}
    {members : List (String × Json)}
    (read : Json.membersFrom (fuel + 1) room input = .ok (members, rest)) :
    ∀ member ∈ members, member.2.IsCanonical := by
  unfold Json.membersFrom at read
  obtain ⟨⟨key, _⟩, -, read⟩ := exists_ok_of_bind read
  dsimp only at read
  split at read
  · cases read
  · obtain ⟨⟨item, _⟩, readItem, read⟩ := exists_ok_of_bind read
    obtain ⟨⟨more, _⟩, readMore, made⟩ := exists_ok_of_bind read
    obtain ⟨rfl, -⟩ := Prod.mk.inj (Except.ok.inj made)
    exact List.forall_mem_cons.mpr ⟨reads.value readItem, reads.moreMembers readMore⟩
  · cases read

theorem moreMembers_succ {room : Nat} {input rest : List Symbol}
    {members : List (String × Json)}
    (read : Json.moreMembers (fuel + 1) room input = .ok (members, rest)) :
    ∀ member ∈ members, member.2.IsCanonical := by
  unfold Json.moreMembers at read
  split at read
  · cases read
  · obtain ⟨rfl, -⟩ := Prod.mk.inj (Except.ok.inj read)
    exact List.forall_mem_nil _
  · split at read
    · cases read
    · cases read
    · exact reads.membersFrom read
    · cases read
  · cases read

end ReadsCanonical

theorem readsCanonical (fuel : Nat) : ReadsCanonical fuel := by
  induction fuel with
  | zero =>
    -- without fuel nothing is read
    constructor <;> intro room input found rest read
    · unfold Json.value at read; cases read
    · unfold Json.arrayItems at read; cases read
    · unfold Json.moreItems at read; cases read
    · unfold Json.objectMembers at read; cases read
    · unfold Json.membersFrom at read; cases read
    · unfold Json.moreMembers at read; cases read
  | succ fuel ih =>
    exact ⟨ih.value_succ, ih.arrayItems_succ, ih.moreItems_succ, ih.objectMembers_succ,
      ih.membersFrom_succ, ih.moreMembers_succ⟩

/-- A value that is read from bytes is canonical. -/
theorem isCanonical_of_ofBytes {bytes : ByteArray} {found : Json}
    (read : ofBytes bytes = .ok found) : found.IsCanonical := by
  unfold ofBytes ofSymbols at read
  obtain ⟨⟨value, rest⟩, readValue, read⟩ := exists_ok_of_bind read
  dsimp only at read
  split at read
  · obtain rfl := Except.ok.inj read
    exact (readsCanonical _).value readValue
  · cases read

end TradingConfig.Json
