/-
  TradingConfig.Proofs.Success
  ────────────────────────────────
  **COMPUTATIONS THAT SUCCEED.**

  A computation that succeeds has succeeded at every step: both halves of a
  sequence have, and every item of a list that was mapped.
-/
import Mathlib.Data.List.Forall2

namespace TradingConfig

variable {ε α β : Type}

/-- Both halves of a computation that succeeds succeed. -/
theorem exists_ok_of_bind {first : Except ε α} {next : α → Except ε β} {result : β}
    (succeeded : (first >>= next) = .ok result) :
    ∃ value, first = .ok value ∧ next value = .ok result := by
  cases first with
  | error fault => cases succeeded
  | ok value => exact ⟨value, rfl, succeeded⟩

theorem eq_ok_of_mapError {δ : Type} {first : Except ε α} {form : ε → δ} {result : α}
    (ends : first.mapError form = .ok result) : first = .ok result := by
  cases first with
  | error fault => cases ends
  | ok found => exact congrArg Except.ok (Except.ok.inj ends)

theorem exists_ok_of_map {form : α → β} {first : Except ε α} {result : β}
    (succeeded : first.map form = .ok result) : ∃ value, first = .ok value ∧ form value = result := by
  cases first with
  | error fault => cases succeeded
  | ok value => exact ⟨value, rfl, Except.ok.inj succeeded⟩

/-! ## Lists that are mapped. -/

variable {read : α → Except ε β} {items : List α} {values : List β}

/-- A list is mapped item by item. -/
theorem mapM_eq_ok_iff :
    items.mapM read = .ok values
      ↔ List.Forall₂ (fun item value => read item = .ok value) items values := by
  induction items generalizing values with
  | nil =>
    rw [List.mapM_nil, List.forall₂_nil_left_iff]
    exact ⟨fun mapped => (Except.ok.inj mapped).symm, fun empty => empty ▸ rfl⟩
  | cons item rest ih =>
    rw [List.mapM_cons, List.forall₂_cons_left_iff]
    constructor
    · intro mapped
      obtain ⟨first, readFirst, mappedRest⟩ := exists_ok_of_bind mapped
      obtain ⟨others, readRest, made⟩ := exists_ok_of_bind mappedRest
      exact ⟨first, others, readFirst, ih.mp readRest, (Except.ok.inj made).symm⟩
    · rintro ⟨first, others, readFirst, readRest, rfl⟩
      rw [readFirst, ih.mpr readRest]
      rfl

/-- Every value comes from one of the items. -/
theorem exists_item_of_mapM (mapped : items.mapM read = .ok values) :
    ∀ value ∈ values, ∃ item ∈ items, read item = .ok value := by
  have each := mapM_eq_ok_iff.mp mapped
  clear mapped
  induction each with
  | nil => exact fun value member => absurd member List.not_mem_nil
  | @cons item first rest others readFirst _ ih =>
    intro value member
    rcases List.mem_cons.mp member with rfl | later
    · exact ⟨item, List.mem_cons_self, readFirst⟩
    · obtain ⟨source, inRest, readSource⟩ := ih value later
      exact ⟨source, List.mem_cons_of_mem item inRest, readSource⟩

/-- Of several items that cannot be mapped the first one is reported. -/
theorem exists_parts_of_mapM {fault : ε} (failed : items.mapM read = .error fault) :
    ∃ before item after, items = before ++ item :: after
      ∧ (∀ other ∈ before, ∃ value, read other = .ok value) ∧ read item = .error fault := by
  induction items with
  | nil => cases failed
  | cons first rest ih =>
    rw [List.mapM_cons] at failed
    cases tried : read first with
    | error other =>
      rw [tried] at failed
      obtain rfl : other = fault := Except.error.inj failed
      exact ⟨[], first, rest, rfl, by simp, tried⟩
    | ok value =>
      rw [tried] at failed
      cases onward : rest.mapM read with
      | error other =>
        rw [onward] at failed
        obtain rfl : other = fault := Except.error.inj failed
        obtain ⟨before, item, after, rfl, mapped, refused⟩ := ih onward
        have mappedToo := List.forall_mem_cons.mpr ⟨⟨value, tried⟩, mapped⟩
        exact ⟨first :: before, item, after, rfl, mappedToo, refused⟩
      | ok others =>
        rw [onward] at failed
        cases failed

/-- A list is mapped if each of its items can be. -/
theorem exists_mapM_iff :
    (∃ values, items.mapM read = .ok values) ↔ ∀ item ∈ items, ∃ value, read item = .ok value := by
  simp only [mapM_eq_ok_iff]
  induction items with
  | nil => exact iff_of_true ⟨[], .nil⟩ (by simp)
  | cons item rest ih =>
    rw [List.forall_mem_cons, ← ih]
    constructor
    · rintro ⟨values, each⟩
      obtain ⟨first, others, readFirst, readRest, -⟩ := List.forall₂_cons_left_iff.mp each
      exact ⟨⟨first, readFirst⟩, others, readRest⟩
    · rintro ⟨⟨first, readFirst⟩, others, readRest⟩
      exact ⟨first :: others, .cons readFirst readRest⟩

end TradingConfig
