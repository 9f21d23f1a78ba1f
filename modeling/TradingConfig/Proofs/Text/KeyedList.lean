/-
  TradingConfig.Proofs.Text.KeyedList
  ────────────────────────────────
  **THE KEYED LIST OF PAIRS WITH DISTINCT KEYS.**

  Sorting pairs by their keys invents no pair (`mem_of_mem_ofPairs`), and
  where the keys are distinct it loses none either: look-up gives the same
  before and after (`get?_ofPairs`).  Pairs whose keys ascend stay as they
  are (`foldl_insert_of_ascending`), and look-ups tell them apart
  (`ext_of_ascending`).  Pairs with distinct keys are only put in order
  (`ofPairs_perm`), so it does not matter how they stood
  (`ofPairs_eq_of_perm`).  Of several pairs with one key the last one is kept
  (`get?_ofPairs_iff`).
-/
import TradingConfig.Text.KeyedList

namespace TradingConfig.KeyedList

variable {α : Type}

theorem mem_of_mem_foldl_insert {pairs sorted : List (String × α)} {pair : String × α}
    (member : pair ∈ pairs.foldl (fun sorted pair => insert pair.1 pair.2 sorted) sorted) :
    pair ∈ pairs ∨ pair ∈ sorted := by
  induction pairs generalizing sorted with
  | nil => exact .inr member
  | cons head rest ih =>
    rcases ih member with old | inserted
    · exact .inl (List.mem_cons_of_mem head old)
    · rcases mem_insert inserted with rfl | old
      · exact .inl List.mem_cons_self
      · exact .inr old

/-- Every pair of a keyed list is one of the pairs it was made from. -/
theorem mem_of_mem_ofPairs {pairs : List (String × α)} {pair : String × α}
    (member : pair ∈ ofPairs pairs) : pair ∈ pairs :=
  (mem_of_mem_foldl_insert member).resolve_right List.not_mem_nil

theorem get?_eq_none {key : String} {pairs : List (String × α)}
    (missing : key ∉ pairs.map Prod.fst) : get? key pairs = none := by
  induction pairs with
  | nil => rfl
  | cons head rest ih =>
    obtain ⟨k, v⟩ := head
    simp only [List.map_cons, List.mem_cons, not_or] at missing
    simp only [get?, missing.1, if_false]
    exact ih missing.2

/-- What is found under a key is one of the pairs. -/
theorem mem_of_get? {key : String} {value : α} {pairs : List (String × α)}
    (found : get? key pairs = some value) : (key, value) ∈ pairs := by
  induction pairs with
  | nil => cases found
  | cons head rest ih =>
    obtain ⟨k, v⟩ := head
    unfold get? at found
    split at found
    next same =>
      obtain rfl := Option.some.inj found
      rw [same]
      exact List.mem_cons_self
    · exact List.mem_cons_of_mem (k, v) (ih found)

/-- A key is looked up in the first pairs, then in the others. -/
theorem get?_append (key : String) (first second : List (String × α)) :
    get? key (first ++ second) = (get? key first).or (get? key second) := by
  induction first with
  | nil => rfl
  | cons head rest ih =>
    obtain ⟨k, v⟩ := head
    show (if key = k then some v else get? key (rest ++ second))
      = (if key = k then some v else get? key rest).or (get? key second)
    split
    · rfl
    · exact ih

theorem get?_foldl_insert {pairs : List (String × α)} (distinct : (pairs.map Prod.fst).Nodup)
    (key : String) (sorted : List (String × α)) :
    get? key (pairs.foldl (fun sorted pair => insert pair.1 pair.2 sorted) sorted)
      = (get? key pairs).or (get? key sorted) := by
  induction pairs generalizing sorted with
  | nil => rfl
  | cons head rest ih =>
    obtain ⟨k, v⟩ := head
    -- no later pair has the key of the first, so none covers it
    rw [List.map_cons, List.nodup_cons] at distinct
    rw [List.foldl_cons, ih distinct.2, get?_insert]
    by_cases same : key = k
    · subst same
      simp [get?, get?_eq_none distinct.1]
    · simp [get?, same]

/-- Looking up a key among pairs with distinct keys and in their keyed
list. -/
theorem get?_ofPairs {pairs : List (String × α)} (distinct : (pairs.map Prod.fst).Nodup)
    (key : String) : get? key (ofPairs pairs) = get? key pairs := by
  unfold ofPairs
  rw [get?_foldl_insert distinct]
  simp [get?]

/-- A key above all others goes to the end. -/
theorem insert_of_below {key : String} {value : α} {pairs : List (String × α)}
    (below : ∀ pair ∈ pairs, pair.1 < key) : insert key value pairs = pairs ++ [(key, value)] := by
  induction pairs with
  | nil => rfl
  | cons head rest ih =>
    obtain ⟨k, v⟩ := head
    have less : k < key := below (k, v) List.mem_cons_self
    have notLess : ¬ key < k := fun above => String.lt_irrefl k (String.lt_trans less above)
    have distinct : key ≠ k := fun same => String.lt_irrefl k (same ▸ less)
    have belowRest : ∀ pair ∈ rest, pair.1 < key :=
      fun pair member => below pair (List.mem_cons_of_mem (k, v) member)
    unfold insert
    rw [if_neg notLess, if_neg distinct, ih belowRest]
    rfl

/-- Pairs whose keys ascend are inserted one behind the other. -/
theorem foldl_insert_of_ascending (sorted : List (String × α)) {pairs : List (String × α)}
    (ascending : Ascending (sorted ++ pairs)) :
    pairs.foldl (fun sorted pair => insert pair.1 pair.2 sorted) sorted = sorted ++ pairs := by
  induction pairs generalizing sorted with
  | nil => exact (List.append_nil sorted).symm
  | cons head rest ih =>
    have below : ∀ pair ∈ sorted, pair.1 < head.1 := fun pair member =>
      (List.pairwise_append.mp ascending).2.2 pair member head List.mem_cons_self
    have onward : Ascending (sorted ++ [head] ++ rest) := by
      rw [List.append_assoc]
      exact ascending
    rw [List.foldl_cons, insert_of_below below, ih _ onward, List.append_assoc]
    rfl

/-- Keys that ascend are distinct. -/
theorem Ascending.nodup_keys {pairs : List (String × α)} (ascending : Ascending pairs) :
    (pairs.map Prod.fst).Nodup := by
  rw [List.Nodup, List.pairwise_map]
  refine ascending.imp fun {first second} less same => ?_
  exact String.lt_irrefl second.1 (same ▸ less)

theorem ascending_ofPairs (pairs : List (String × α)) : Ascending (ofPairs pairs) := by
  have inserted (pairs : List (String × α)) {sorted : List (String × α)}
      (ascending : Ascending sorted) :
      Ascending (pairs.foldl (fun sorted pair => insert pair.1 pair.2 sorted) sorted) := by
    induction pairs generalizing sorted with
    | nil => exact ascending
    | cons head rest ih => exact ih ascending.insert
  exact inserted pairs List.Pairwise.nil

/-- Pairs whose keys ascend are a keyed list. -/
theorem ofPairs_of_ascending {pairs : List (String × α)} (ascending : Ascending pairs) :
    ofPairs pairs = pairs :=
  foldl_insert_of_ascending [] ascending

/-- A new key takes its place among the others. -/
theorem insert_perm {key : String} {value : α} {pairs : List (String × α)}
    (fresh : key ∉ pairs.map Prod.fst) :
    (insert key value pairs).Perm ((key, value) :: pairs) := by
  induction pairs with
  | nil => exact .refl _
  | cons head rest ih =>
    obtain ⟨k, v⟩ := head
    simp only [List.map_cons, List.mem_cons, not_or] at fresh
    unfold insert
    by_cases less : key < k
    · rw [if_pos less]
    · rw [if_neg less, if_neg fresh.1]
      exact ((ih fresh.2).cons (k, v)).trans (.swap ..)

theorem foldl_insert_perm {pairs sorted : List (String × α)}
    (distinct : ((sorted ++ pairs).map Prod.fst).Nodup) :
    (pairs.foldl (fun sorted pair => insert pair.1 pair.2 sorted) sorted).Perm
      (sorted ++ pairs) := by
  -- induction on the pairs: those before the next one are put in order already
  induction pairs generalizing sorted with
  | nil => simp
  | cons head rest ih =>
    have fresh : head.1 ∉ sorted.map Prod.fst := by
      rw [List.map_append, List.map_cons, List.nodup_append] at distinct
      intro member
      exact distinct.2.2 head.1 member head.1 List.mem_cons_self rfl
    have moved : (insert head.1 head.2 sorted ++ rest).Perm (sorted ++ head :: rest) :=
      ((insert_perm fresh).append_right rest).trans List.perm_middle.symm
    have distinctNext : ((insert head.1 head.2 sorted ++ rest).map Prod.fst).Nodup :=
      (moved.map Prod.fst).nodup_iff.mpr distinct
    exact (ih distinctNext).trans moved

/-- Pairs with distinct keys are put in order, and that is all. -/
theorem ofPairs_perm {pairs : List (String × α)} (distinct : (pairs.map Prod.fst).Nodup) :
    (ofPairs pairs).Perm pairs := by
  rw [← List.nil_append pairs] at distinct
  exact foldl_insert_perm distinct

/-- The order of pairs with distinct keys does not matter. -/
theorem ofPairs_eq_of_perm {pairs others : List (String × α)}
    (distinct : (pairs.map Prod.fst).Nodup) (same : others.Perm pairs) :
    ofPairs others = ofPairs pairs := by
  have distinctToo : (others.map Prod.fst).Nodup := (same.map Prod.fst).nodup_iff.mpr distinct
  have reordered : (ofPairs others).Perm (ofPairs pairs) :=
    (ofPairs_perm distinctToo).trans (same.trans (ofPairs_perm distinct).symm)
  refine reordered.eq_of_pairwise ?_ (ascending_ofPairs others) (ascending_ofPairs pairs)
  intro first second _ _ below above
  exact absurd (String.lt_trans below above) (String.lt_irrefl first.1)

/-- A key below all others is not found. -/
theorem get?_of_below {key : String} {pairs : List (String × α)}
    (below : ∀ pair ∈ pairs, key < pair.1) : get? key pairs = none := by
  refine get?_eq_none fun member => ?_
  obtain ⟨pair, inPairs, rfl⟩ := List.mem_map.mp member
  exact String.lt_irrefl pair.1 (below pair inPairs)

/-- Every pair of a keyed list is found under its key. -/
theorem get?_of_mem {key : String} {value : α} {pairs : List (String × α)}
    (ascending : Ascending pairs) (member : (key, value) ∈ pairs) :
    get? key pairs = some value := by
  induction pairs with
  | nil => cases member
  | cons head rest ih =>
    obtain ⟨k, v⟩ := head
    obtain ⟨below, ascendingRest⟩ := List.pairwise_cons.mp ascending
    rcases List.mem_cons.mp member with here | later
    · obtain ⟨rfl, rfl⟩ := Prod.mk.inj here
      simp [get?]
    · have above : k < key := below (key, value) later
      have differs : key ≠ k := fun same => String.lt_irrefl k (same ▸ above)
      rw [get?, if_neg differs]
      exact ih ascendingRest later

/-- The first key of a keyed list is not above one that is found in it. -/
theorem not_lt_head {key k : String} {value v : α} {rest : List (String × α)}
    (ascending : Ascending ((k, v) :: rest)) (found : get? key ((k, v) :: rest) = some value) :
    ¬ key < k := by
  intro less
  have below : ∀ pair ∈ (k, v) :: rest, key < pair.1 := by
    intro pair member
    rcases List.mem_cons.mp member with rfl | later
    · exact less
    · exact String.lt_trans less ((List.pairwise_cons.mp ascending).1 pair later)
  rw [get?_of_below below] at found
  cases found

/-- Keyed lists that answer all look-ups alike are the same. -/
theorem ext_of_ascending {first second : List (String × α)} (ascending : Ascending first)
    (ascendingToo : Ascending second) (same : ∀ key, get? key first = get? key second) :
    first = second := by
  induction first generalizing second with
  | nil =>
    cases second with
    | nil => rfl
    | cons head rest =>
      have found := same head.1
      simp [get?] at found
  | cons head rest ih =>
    obtain ⟨k, v⟩ := head
    cases second with
    | nil =>
      have found := same k
      simp [get?] at found
    | cons other restToo =>
      obtain ⟨l, w⟩ := other
      -- each of the first keys is found in the other list, so neither is the smaller one
      have sameKey : k = l := by
        have inSecond : get? k ((l, w) :: restToo) = some v := by
          rw [← same k]
          simp [get?]
        have inFirst : get? l ((k, v) :: rest) = some w := by
          rw [same l]
          simp [get?]
        have notBelow := not_lt_head ascendingToo inSecond
        have notAbove := not_lt_head ascending inFirst
        exact String.le_antisymm (String.not_lt.mp notAbove) (String.not_lt.mp notBelow)
      subst sameKey
      have sameValue : v = w := by simpa [get?] using same k
      obtain ⟨below, ascendingRest⟩ := List.pairwise_cons.mp ascending
      obtain ⟨belowToo, ascendingRestToo⟩ := List.pairwise_cons.mp ascendingToo
      have sameRest : rest = restToo := by
        refine ih ascendingRest ascendingRestToo fun key => ?_
        by_cases isHead : key = k
        · rw [isHead, get?_of_below below, get?_of_below belowToo]
        · simpa [get?, isHead] using same key
      rw [sameValue, sameRest]

/-- The last of the pairs with `key` binds it to `value`. -/
def LastValue (pairs : List (String × α)) (key : String) (value : α) : Prop :=
  ∃ before after, pairs = before ++ (key, value) :: after ∧ key ∉ after.map Prod.fst

/-- The first pair counts where none of the others has its key. -/
theorem lastValue_cons {head : String × α} {rest : List (String × α)} {key : String} {value : α} :
    LastValue (head :: rest) key value
      ↔ LastValue rest key value ∨ key ∉ rest.map Prod.fst ∧ head = (key, value) := by
  constructor
  · rintro ⟨before, after, parts, missing⟩
    cases before with
    | nil =>
      obtain ⟨rfl, rfl⟩ := List.cons.inj parts
      exact .inr ⟨missing, rfl⟩
    | cons _ before =>
      obtain ⟨-, rfl⟩ := List.cons.inj parts
      exact .inl ⟨before, after, rfl, missing⟩
  · rintro (⟨before, after, rfl, missing⟩ | ⟨missing, rfl⟩)
    · exact ⟨head :: before, after, rfl, missing⟩
    · exact ⟨[], rest, rfl, missing⟩

/-- Every key has a last value. -/
theorem exists_lastValue_iff {pairs : List (String × α)} {key : String} :
    (∃ value, LastValue pairs key value) ↔ key ∈ pairs.map Prod.fst := by
  induction pairs with
  | nil => simp [LastValue]
  | cons head rest ih =>
    obtain ⟨k, v⟩ := head
    simp only [lastValue_cons, exists_or, ih, List.map_cons, List.mem_cons]
    by_cases later : key ∈ rest.map Prod.fst
    · simp [later]
    · simp [later, eq_comm]

/-- Of the pairs that are inserted the last one with a key counts; a key that
none of them has stays as it was. -/
theorem get?_foldl_insert_iff {pairs sorted : List (String × α)} {key : String} {value : α} :
    get? key (pairs.foldl (fun sorted pair => insert pair.1 pair.2 sorted) sorted) = some value
      ↔ LastValue pairs key value
        ∨ key ∉ pairs.map Prod.fst ∧ get? key sorted = some value := by
  -- induction on the pairs, for any list that the earlier ones have made
  induction pairs generalizing sorted with
  | nil => simp [LastValue]
  | cons head rest ih =>
    obtain ⟨k, v⟩ := head
    rw [List.foldl_cons, ih, get?_insert, lastValue_cons, List.map_cons, List.mem_cons, not_or]
    by_cases same : key = k
    · simp [same]
    · simp [same, Ne.symm same]

/-- Of several pairs with one key the last one is found in their keyed
list. -/
theorem get?_ofPairs_iff {pairs : List (String × α)} {key : String} {value : α} :
    get? key (ofPairs pairs) = some value ↔ LastValue pairs key value := by
  unfold ofPairs
  rw [get?_foldl_insert_iff]
  simp [get?]

theorem mem_ofPairs_iff {pairs : List (String × α)} {key : String} {value : α} :
    (key, value) ∈ ofPairs pairs ↔ LastValue pairs key value := by
  rw [← get?_ofPairs_iff]
  exact ⟨get?_of_mem (ascending_ofPairs pairs), mem_of_get?⟩

/-- Sorting pairs keeps their keys. -/
theorem mem_keys_ofPairs {pairs : List (String × α)} {key : String} :
    key ∈ (ofPairs pairs).map Prod.fst ↔ key ∈ pairs.map Prod.fst := by
  refine Iff.trans ?_ exists_lastValue_iff
  simp [← mem_ofPairs_iff]

end TradingConfig.KeyedList
