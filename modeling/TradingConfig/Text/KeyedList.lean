/-
  TradingConfig.Text.KeyedList
  ────────────────────────────────
  **LISTS OF PAIRS IN ASCENDING ORDER OF THEIR KEYS.**

  A keyed list is a list of pairs whose keys strictly ascend, so that each
  key occurs once and equal contents are equal lists.  Keys are compared
  by code point, which is the order of their UTF-8 bytes.  Insertion keeps
  the order (`Ascending.insert`) and is read back by look-up
  (`get?_insert`).
-/

namespace TradingConfig.KeyedList

variable {α : Type}

/-- The pairs with `key` bound to `value`; an earlier binding is replaced. -/
def insert (key : String) (value : α) : List (String × α) → List (String × α)
  | [] => [(key, value)]
  | (k, v) :: rest =>
    if key < k then (key, value) :: (k, v) :: rest
    else if key = k then (key, value) :: rest
    else (k, v) :: insert key value rest

/-- The value bound to `key`. -/
def get? (key : String) : List (String × α) → Option α
  | [] => none
  | (k, v) :: rest => if key = k then some v else get? key rest

/-- The keyed list of arbitrary pairs: of several pairs with one key the
last one counts. -/
def ofPairs (pairs : List (String × α)) : List (String × α) :=
  pairs.foldl (fun sorted pair => insert pair.1 pair.2 sorted) []

/-- The keys strictly ascend. -/
def Ascending (pairs : List (String × α)) : Prop :=
  pairs.Pairwise fun a b => a.1 < b.1

instance (pairs : List (String × α)) : Decidable (Ascending pairs) :=
  inferInstanceAs (Decidable (pairs.Pairwise fun a b => a.1 < b.1))

/-- Two distinct keys of which the first is not the smaller one. -/
theorem lt_of_not_lt_of_ne {a b : String} (notBelow : ¬ a < b) (distinct : a ≠ b) : b < a := by
  rcases Decidable.em (b < a) with below | notAbove
  · exact below
  · exact absurd (String.le_antisymm (String.not_lt.mp notAbove) (String.not_lt.mp notBelow))
      distinct

/-- Every pair after an insertion is the inserted one or an old one. -/
theorem mem_insert {key : String} {value : α} {pairs : List (String × α)} {pair : String × α}
    (member : pair ∈ insert key value pairs) : pair = (key, value) ∨ pair ∈ pairs := by
  induction pairs with
  | nil => simp [insert] at member; simp [member]
  | cons head rest ih =>
    simp only [insert] at member
    split at member
    · rcases List.mem_cons.mp member with rfl | old
      · exact .inl rfl
      · exact .inr old
    · split at member
      · rcases List.mem_cons.mp member with rfl | old
        · exact .inl rfl
        · exact .inr (List.mem_cons_of_mem _ old)
      · rcases List.mem_cons.mp member with rfl | old
        · exact .inr List.mem_cons_self
        · exact (ih old).imp id (List.mem_cons_of_mem _)

/-- Insertion keeps the keys ascending. -/
theorem Ascending.insert {key : String} {value : α} {pairs : List (String × α)}
    (ascending : Ascending pairs) : Ascending (KeyedList.insert key value pairs) := by
  induction pairs with
  | nil => simp [KeyedList.insert, Ascending]
  | cons head rest ih =>
    obtain ⟨k, v⟩ := head
    have below : ∀ pair ∈ rest, k < pair.1 := (List.pairwise_cons.mp ascending).1
    have tail : Ascending rest := (List.pairwise_cons.mp ascending).2
    simp only [KeyedList.insert]
    split
    next less =>
      refine List.pairwise_cons.mpr ⟨?_, ascending⟩
      intro pair member
      rcases List.mem_cons.mp member with rfl | old
      · exact less
      · exact String.lt_trans less (below pair old)
    next notLess =>
      split
      next same =>
        subst same
        exact List.pairwise_cons.mpr ⟨below, tail⟩
      next distinct =>
        refine List.pairwise_cons.mpr ⟨?_, ih tail⟩
        intro pair member
        rcases mem_insert member with rfl | old
        · exact lt_of_not_lt_of_ne notLess distinct
        · exact below pair old

/-- Looking up a key after an insertion. -/
theorem get?_insert (key other : String) (value : α) (pairs : List (String × α)) :
    get? other (insert key value pairs) = if other = key then some value else get? other pairs := by
  induction pairs with
  | nil => simp [insert, get?]
  | cons head rest ih =>
    obtain ⟨k, v⟩ := head
    simp only [insert]
    split
    · simp [get?]
    · split
      next equal => subst equal; by_cases same : other = key <;> simp [get?, same]
      next distinct =>
        by_cases head : other = k
        · subst head; simp [get?, Ne.symm distinct]
        · simp [get?, head, ih]

end TradingConfig.KeyedList
