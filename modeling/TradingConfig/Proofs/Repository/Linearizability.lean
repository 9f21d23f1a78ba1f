/-
  TradingConfig.Proofs.Repository.Linearizability
  ────────────────────────────────
  **CALLS AT THE SAME TIME ARE LIKE CALLS IN SOME ORDER.**

  Calls of any number of repositories of one class, whose data paths have
  one lock key, are made at the same time, over the store in memory or over
  one file.  However their steps alternate, all calls come to their end, and
  what they answer and what is stored is as if they had been made one after
  the other, in an order that keeps calls apart that did not overlap
  (`DocumentClass.linearizable`).
-/
import TradingConfig.Proofs.Repository.Account
import TradingConfig.Proofs.Repository.Completion

namespace TradingConfig

namespace DocumentClass

variable {n : Nat} {σ V : Type} {documentClass : DocumentClass}

/-- An order of calls that were made at the same time, with their endings. -/
structure Linearization (requests : Fin n → Request σ documentClass.Document documentClass.Answer)
    (calls : Fin n → documentClass.Call) (view : σ → V)
    (stored : σ → Option documentClass.Document) (locks : Locks) (state : σ)
    (schedule : List (Fin n)) (traffic : Traffic n σ documentClass.Document documentClass.Answer)
    (order : List (Fin n))
    (endings : Fin n → Ending (Except RepositoryFault documentClass.Answer)) : Prop where
  /-- Each call has ended so. -/
  ended : ∀ i, traffic.progress i = .ended (endings i)
  /-- Each call occurs once. -/
  perm : order.Perm (List.finRange n)
  /-- A call that ended before another began comes before it. -/
  realTime : ∀ i j, Precedes schedule i j → [i, j].Sublist order
  /-- Made one after the other the calls end so, and the same is seen of the
  store. -/
  served : ∃ after, Request.serveEach (order.map requests) locks state
    = (order.map endings, traffic.locks, after) ∧ view after = view traffic.state
  /-- Every change that was answered with success is in the stored document,
  and nothing else. -/
  accounts : documentClass.Accounts (order.map fun i => (calls i, endings i)) (stored state)
    (stored traffic.state)
  /-- No identifier is created twice without a deletion in between. -/
  deletion : ∀ before i between j after id, order = before ++ i :: between ++ j :: after →
    documentClass.Changes (calls i) (endings i) → documentClass.createdId? (calls i) = some id →
    documentClass.Changes (calls j) (endings j) → documentClass.createdId? (calls j) = some id →
    ∃ k ∈ between, documentClass.Changes (calls k) (endings k)
      ∧ documentClass.deletedId? (calls k) = some id

/-- Whatever steps calls have taken that are made at the same time, all of
them can come to their end, and where all have, they have a
linearization. -/
def Linearizable (requests : Fin n → Request σ documentClass.Document documentClass.Answer)
    (calls : Fin n → documentClass.Call) (view : σ → V)
    (stored : σ → Option documentClass.Document) (locks : Locks) (state : σ) : Prop :=
  ∀ schedule traffic, (Traffic.start locks state).run? requests schedule = some traffic →
    (∃ rest final, (Traffic.start locks state).run? requests (schedule ++ rest) = some final
        ∧ final.Complete)
      ∧ (traffic.Complete → ∃ order endings,
        Linearization requests calls view stored locks state schedule traffic order endings)

/-! ## §1. Any store that always answers. -/

section Behaves

variable {repositories : Fin n → Repository σ documentClass.Document}
  {calls : Fin n → documentClass.Call} {store : Store σ documentClass.Document} {key : Path.Key}
  {view : σ → V} {behaviour : Behaviour V documentClass.Document} {locks : Locks}

theorem rivals (calls : Fin n → documentClass.Call)
    (sameStore : ∀ i, (repositories i).store = store) (sameKey : ∀ i, (repositories i).key = key) :
    Rivals (fun i => documentClass.request (repositories i) (calls i)) store key where
  store := sameStore
  key := sameKey
  transacts i := documentClass.transacts (calls i)
  singleLoad _ free := documentClass.singleLoad free

/-- Where every call is accounted for, so is a log. -/
theorem accounts_of_legal {kept : V → Prop} {contents : V → Option documentClass.Document}
    (accountable : ∀ i,
      documentClass.Accountable behaviour locks kept contents (repositories i) (calls i))
    {first seen : V} (keptFirst : kept first)
    {log : List (Fin n × Ending (Except RepositoryFault documentClass.Answer))}
    (legal : Traffic.Legal behaviour
      (fun i => documentClass.request (repositories i) (calls i)) locks first log seen) :
    documentClass.Accounts (log.map fun entry => (calls entry.1, entry.2)) (contents first)
        (contents seen)
      ∧ kept seen := by
  induction legal with
  | nil => exact ⟨rfl, keptFirst⟩
  | snoc i _ ih =>
    obtain ⟨accounts, keptBefore⟩ := ih
    obtain ⟨result, after, served, makes, keptAfter⟩ := accountable i _ keptBefore
    rw [served, List.map_append]
    exact ⟨accounts_append.mpr ⟨_, accounts, _, makes, rfl⟩, keptAfter⟩

theorem linearizable_of_behavesAs (sameStore : ∀ i, (repositories i).store = store)
    (sameKey : ∀ i, (repositories i).key = key) (behaves : store.BehavesAs view behaviour)
    {kept : V → Prop} {contents : V → Option documentClass.Document}
    (accountable : ∀ i,
      documentClass.Accountable behaviour locks kept contents (repositories i) (calls i))
    {stored : σ → Option documentClass.Document}
    (seen : ∀ state, stored state = contents (view state)) {state : σ}
    (keptFirst : kept (view state)) :
    Linearizable (fun i => documentClass.request (repositories i) (calls i)) calls view stored locks
      state := by
  intro schedule traffic ran
  have rivals := rivals calls sameStore sameKey
  refine ⟨Traffic.exists_completion rivals behaves ran, fun complete => ?_⟩
  obtain ⟨order, endings, perm, realTime, ended, sameLocks, legal⟩ :=
    Traffic.exists_order rivals behaves ran complete
  obtain ⟨after, served, same⟩ := legal.serveEach rivals behaves
  rw [List.map_map, List.map_map] at served
  have accounts : documentClass.Accounts (order.map fun i => (calls i, endings i)) (stored state)
      (stored traffic.state) := by
    obtain ⟨accounts, -⟩ := accounts_of_legal accountable keptFirst legal
    rw [List.map_map] at accounts
    rw [seen, seen]
    exact accounts
  refine ⟨order, endings, ended, perm, realTime, ⟨after, ?_, same⟩, accounts, ?_⟩
  · rw [sameLocks]
    exact served
  · rintro before i between j after id rfl iChanges iCreates jChanges jCreates
    rw [List.map_append, List.map_append, List.map_cons, List.map_cons] at accounts
    obtain ⟨entry, member, changes, deletes⟩ :=
      accounts.exists_deletion iChanges iCreates jChanges jCreates
    obtain ⟨k, between, rfl⟩ := List.mem_map.mp member
    exact ⟨k, between, changes, deletes⟩

end Behaves

/-! ## §2. The two stores. -/

/-- Calls at the same time of repositories of one class whose data paths
have one lock key are linearizable: over the store in memory, and over files,
whatever validator decides about their schemas, if all data paths that lead
anywhere lead to one file and each schema is a file apart. -/
theorem linearizable (documentClass : DocumentClass) (n : Nat) (calls : Fin n → documentClass.Call)
    (locations : Fin n → Location) (home : Place) (key : Path.Key)
    (shared : ∀ i, (locations i).data.key home = key) (locks : Locks) :
    (∀ memory, Linearizable
        (fun i => documentClass.request
          (.ofLocation (Store.memory documentClass.Document) home (locations i)) (calls i))
        calls Memory.document (fun memory => some memory.document) locks memory)
      ∧ ∀ validator tree file, (∀ i, (locations i).Apart tree) →
        (∀ i place, tree.locate (locations i).data = .ok place → tree.locate file = .ok place) →
        Linearizable
          (fun i => documentClass.request
            (.ofLocation (Store.checked documentClass.codec validator) home (locations i))
            (calls i))
          calls id (Behaviour.stored? documentClass.codec file) locks tree := by
  constructor
  · intro memory
    have sameStore : ∀ i, (Repository.ofLocation (Store.memory documentClass.Document) home
        (locations i)).store = Store.memory documentClass.Document := fun _ => rfl
    exact linearizable_of_behavesAs sameStore shared (Store.memory_behavesAs _)
      (fun i => documentClass.accountable_memory (calls i)) (fun _ => rfl) trivial
  · intro validator tree file apart leads
    have sameStore : ∀ i, (Repository.ofLocation (Store.checked documentClass.codec validator) home
        (locations i)).store = Store.checked documentClass.codec validator := fun _ => rfl
    have accountable : ∀ i, documentClass.Accountable (.files documentClass.codec validator) locks
        (FileTree.SameDirectories tree) (Behaviour.stored? documentClass.codec file)
        (.ofLocation (Store.checked documentClass.codec validator) home (locations i))
        (calls i) := by
      intro i
      apply accountable_files
      · exact apart i
      · exact leads i
    exact linearizable_of_behavesAs sameStore shared (Store.checked_behavesAs _ validator)
      accountable (fun _ => rfl) (.refl tree)

/-! ## §3. An instance. -/

/-- Two creations of one market and a read. -/
def sampleCalls : Fin 3 → markets.Call
  | 0 => .create ⟨"m", "M", "b", "c", true, "s"⟩
  | 1 => .create ⟨"m", "N", "b", "c", false, "t"⟩
  | 2 => .findAll

/-- One file, named in two ways. -/
def sampleLocations : Fin 3 → Location
  | 0 | 2 => Store.sampleLocation
  | 1 => ⟨⟨"./markets.json"⟩, ⟨"schema.json"⟩⟩

theorem sampleLocations_key (i : Fin 3) :
    (sampleLocations i).data.key [] = .absolute ["markets.json"] := by
  match i with
  | 0 => rfl
  | 1 => rfl
  | 2 => rfl

theorem sampleLocations_locate (i : Fin 3) :
    Store.sampleTree.locate (sampleLocations i).data = .ok ["markets.json"]
      ∧ Store.sampleTree.locate (sampleLocations i).data.scratch = .ok ["markets.json.tmp"]
      ∧ Store.sampleTree.locate (sampleLocations i).schema = .ok ["schema.json"] := by
  match i with
  | 0 => exact ⟨rfl, rfl, rfl⟩
  | 1 => exact ⟨rfl, rfl, rfl⟩
  | 2 => exact ⟨rfl, rfl, rfl⟩

/-- The read falls between the load and the save of the first creation, and
the second creation conflicts; over the file any steps are linearizable. -/
theorem linearizable_sample :
    (∃ traffic order endings,
      Linearization
          (fun i => markets.request
            (.ofLocation (Store.memory markets.Document) [] (sampleLocations i)) (sampleCalls i))
          sampleCalls Memory.document (fun memory => some memory.document) Locks.fresh
          (Memory.holding ([] : List MarketRecord)) [0, 0, 2, 0, 0, 0, 1, 1, 1] traffic order
          endings
        ∧ endings 0 = .result (.ok (.outcome (.found ⟨"m", "M", "b", "c", true, "s"⟩)))
        ∧ endings 1 = .result (.ok (.outcome .conflict)) ∧ endings 2 = .result (.ok (.all [])))
      ∧ Linearizable
        (fun i => markets.request
          (.ofLocation (Store.checked markets.codec) [] (sampleLocations i)) (sampleCalls i))
        sampleCalls id (Behaviour.stored? markets.codec ⟨"markets.json"⟩) Locks.fresh
        Store.sampleTree := by
  have both := linearizable .markets 3 sampleCalls sampleLocations [] (.absolute ["markets.json"])
    sampleLocations_key Locks.fresh
  constructor
  · obtain ⟨-, linearized⟩ :=
      both.1 (Memory.holding ([] : List MarketRecord)) [0, 0, 2, 0, 0, 0, 1, 1, 1] _ rfl
    obtain ⟨order, endings, linearization⟩ := linearized fun i => by
      match i with
      | 0 => exact ⟨_, rfl⟩
      | 1 => exact ⟨_, rfl⟩
      | 2 => exact ⟨_, rfl⟩
    refine ⟨_, order, endings, linearization, ?_, ?_, ?_⟩
    · exact (Progress.ended.inj (linearization.ended 0)).symm
    · exact (Progress.ended.inj (linearization.ended 1)).symm
    · exact (Progress.ended.inj (linearization.ended 2)).symm
  · refine both.2 .keywords Store.sampleTree ⟨"markets.json"⟩ (fun i => ?_)
      fun i place located => ?_
    · obtain ⟨data, scratch, schema⟩ := sampleLocations_locate i
      exact .of_locate schema data scratch (by decide) (by decide)
    · obtain ⟨data, -, -⟩ := sampleLocations_locate i
      exact data.symm.trans located

end DocumentClass

end TradingConfig
