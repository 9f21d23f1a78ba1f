/-
  TradingConfig.Proofs.Repository.Commutation
  ────────────────────────────────
  **CALLS ABOUT DIFFERENT IDENTIFIERS DO NOT MEET.**

  A call is decided by the first record of its identifier: on two documents
  in which that is the same it answers alike, and it edits both or neither
  (`Collection.Parallel`).  An edit leaves the records of other identifiers
  where a look-up finds them (`Lawful.find?_edit`), and two edits can be
  made in either order, but for two records that are added
  (`Lawful.edit_comm`).  So two changes of different identifiers can be made
  in either order (`Collection.changes_commute`).
-/
import TradingConfig.Proofs.Repository.Rewrite
import TradingConfig.Proofs.Repository.Transcript

namespace TradingConfig

namespace CollectionCall

variable {Entry Entity : Type}

/-- The identifier that a call is about; a list is about none. -/
def address? (identifier : Entity → String) : CollectionCall Entity → Option String
  | .findAll => none
  | .findById id | .delete id => some id
  | .create entity | .update entity => some (identifier entity)

/-- The change that a call plans, which does not depend on what makes a record
whole. -/
def edit (collection : Collection Entry Entity) (call : CollectionCall Entity) :
    List Entry → List Entry :=
  (call.plan collection fun _ => True).edit

/-- Every change is about an identifier. -/
theorem exists_address {call : CollectionCall Entity} (writes : call.writes = true)
    (identifier : Entity → String) : ∃ id, call.address? identifier = some id := by
  cases call with
  | findAll => cases writes
  | findById _ => cases writes
  | create entity => exact ⟨_, rfl⟩
  | update entity => exact ⟨_, rfl⟩
  | delete removed => exact ⟨_, rfl⟩

end CollectionCall

namespace Collection

variable {Entry Entity : Type} {collection : Collection Entry Entity}
  {document first second : List Entry} {call : CollectionCall Entity} {id other : String}

/-! ## §1. Records of other identifiers. -/

theorem Lawful.entryId_toEntry_ne (lawful : collection.Lawful) {entity : Entity}
    (differs : collection.entityId entity ≠ id) :
    collection.entryId (collection.toEntry entity) ≠ id := by
  rw [lawful.entryId_toEntry]
  exact differs

theorem find?_append_of_ne {entry : Entry} (differs : collection.entryId entry ≠ id)
    (document : List Entry) :
    collection.find? id (document ++ [entry]) = collection.find? id document := by
  unfold find?
  rw [List.find?_append, List.find?_cons_of_neg (by simpa using differs), List.find?_nil,
    Option.or_none]

theorem Lawful.find?_replace_of_ne (lawful : collection.Lawful) {entity : Entity}
    (differs : collection.entityId entity ≠ id) (document : List Entry) :
    collection.find? id (collection.replace entity document) = collection.find? id document := by
  unfold find?
  -- induction on the document, up to the record that is replaced
  induction document with
  | nil => rfl
  | cons head rest ih =>
    unfold replace
    by_cases here : collection.entryId head = collection.entityId entity
    · have revised := lawful.entryId_toEntry_ne differs
      have old : collection.entryId head ≠ id := here ▸ differs
      rw [if_pos here, lawful.revise_eq_toEntry here,
        List.find?_cons_of_neg (by simpa using revised),
        List.find?_cons_of_neg (by simpa using old)]
    · rw [if_neg here, List.find?_cons, List.find?_cons, ih]

theorem find?_remove_of_ne (differs : other ≠ id) (document : List Entry) :
    collection.find? id (collection.remove other document) = collection.find? id document := by
  unfold find? remove
  induction document with
  | nil => rfl
  | cons head rest ih =>
    by_cases here : collection.entryId head = other
    · have old : collection.entryId head ≠ id := here ▸ differs
      rw [List.eraseP_cons_of_pos (by simpa using here),
        List.find?_cons_of_neg (by simpa using old)]
    · rw [List.eraseP_cons_of_neg (by simpa using here), List.find?_cons, List.find?_cons, ih]

/-- An edit leaves the first record of every other identifier. -/
theorem Lawful.find?_edit (lawful : collection.Lawful)
    (addressed : call.address? collection.entityId = some other) (differs : other ≠ id)
    (document : List Entry) :
    collection.find? id (call.edit collection document) = collection.find? id document := by
  cases call with
  | findAll => rfl
  | findById _ => rfl
  | create entity =>
    obtain rfl : collection.entityId entity = other := Option.some.inj addressed
    exact find?_append_of_ne (lawful.entryId_toEntry_ne differs) document
  | update entity =>
    obtain rfl : collection.entityId entity = other := Option.some.inj addressed
    exact lawful.find?_replace_of_ne differs document
  | delete removed =>
    obtain rfl : removed = other := Option.some.inj addressed
    exact find?_remove_of_ne differs document

/-! ## §2. Two edits. -/

theorem replace_append_of_ne {entity : Entity} {entry : Entry}
    (differs : collection.entryId entry ≠ collection.entityId entity) (document : List Entry) :
    collection.replace entity (document ++ [entry])
      = collection.replace entity document ++ [entry] := by
  induction document with
  | nil => simp [replace, differs]
  | cons head rest ih =>
    rw [List.cons_append]
    unfold replace
    by_cases here : collection.entryId head = collection.entityId entity
    · rw [if_pos here, if_pos here]
      rfl
    · rw [if_neg here, if_neg here, ih]
      rfl

theorem remove_append_of_ne {entry : Entry} (differs : collection.entryId entry ≠ id)
    (document : List Entry) :
    collection.remove id (document ++ [entry]) = collection.remove id document ++ [entry] := by
  unfold remove
  induction document with
  | nil => simp [differs]
  | cons head rest ih =>
    rw [List.cons_append]
    by_cases here : collection.entryId head = id
    · rw [List.eraseP_cons_of_pos (by simpa using here),
        List.eraseP_cons_of_pos (by simpa using here)]
    · rw [List.eraseP_cons_of_neg (by simpa using here),
        List.eraseP_cons_of_neg (by simpa using here), ih]
      rfl

theorem Lawful.replace_comm (lawful : collection.Lawful) {entity another : Entity}
    (differs : collection.entityId entity ≠ collection.entityId another) (document : List Entry) :
    collection.replace entity (collection.replace another document)
      = collection.replace another (collection.replace entity document) := by
  -- induction on the document, up to the first of the two records
  induction document with
  | nil => rfl
  | cons head rest ih =>
    by_cases here : collection.entryId head = collection.entityId entity
    · have revised := lawful.entryId_toEntry_ne differs
      simp [replace, here, revised, lawful.revise_eq_toEntry here, differs]
    · by_cases there : collection.entryId head = collection.entityId another
      · have revised := lawful.entryId_toEntry_ne differs.symm
        simp [replace, there, revised, lawful.revise_eq_toEntry there, differs.symm]
      · simp [replace, here, there, ih]

theorem Lawful.remove_replace_of_ne (lawful : collection.Lawful) {entity : Entity}
    (differs : collection.entityId entity ≠ id) (document : List Entry) :
    collection.remove id (collection.replace entity document)
      = collection.replace entity (collection.remove id document) := by
  unfold remove
  -- as above; a record that is revised keeps its identifier
  induction document with
  | nil => rfl
  | cons head rest ih =>
    by_cases here : collection.entryId head = collection.entityId entity
    · have revised := lawful.entryId_toEntry_ne differs
      simp [replace, here, revised, lawful.revise_eq_toEntry here, differs]
    · by_cases there : collection.entryId head = id
      · simp [replace, there, differs.symm]
      · simp [replace, here, there, ih]

theorem remove_comm (differs : id ≠ other) (document : List Entry) :
    collection.remove id (collection.remove other document)
      = collection.remove other (collection.remove id document) := by
  unfold remove
  induction document with
  | nil => rfl
  | cons head rest ih =>
    by_cases here : collection.entryId head = id
    · simp [here, differs]
    · by_cases there : collection.entryId head = other
      · simp [there, differs.symm]
      · simp [here, there, ih]

/-- Edits of different identifiers can be made in either order, but for two
records that are added. -/
theorem Lawful.edit_comm (lawful : collection.Lawful) {call another : CollectionCall Entity}
    (addressed : call.address? collection.entityId = some id)
    (addressedToo : another.address? collection.entityId = some other) (differs : id ≠ other)
    (notBoth : ∀ entity added, call = .create entity → another ≠ .create added)
    (document : List Entry) :
    call.edit collection (another.edit collection document)
      = another.edit collection (call.edit collection document) := by
  -- an added record stands at the end, where the other edit passes it over
  cases call with
  | findAll => rfl
  | findById _ => rfl
  | create entity =>
    obtain rfl : collection.entityId entity = id := Option.some.inj addressed
    cases another with
    | findAll => rfl
    | findById _ => rfl
    | create added => exact absurd rfl (notBoth entity added rfl)
    | update replaced =>
      obtain rfl : collection.entityId replaced = other := Option.some.inj addressedToo
      exact (replace_append_of_ne (lawful.entryId_toEntry_ne differs) document).symm
    | delete removed =>
      obtain rfl : removed = other := Option.some.inj addressedToo
      exact (remove_append_of_ne (lawful.entryId_toEntry_ne differs) document).symm
  | update entity =>
    obtain rfl : collection.entityId entity = id := Option.some.inj addressed
    cases another with
    | findAll => rfl
    | findById _ => rfl
    | create added =>
      obtain rfl : collection.entityId added = other := Option.some.inj addressedToo
      exact replace_append_of_ne (lawful.entryId_toEntry_ne differs.symm) document
    | update replaced =>
      obtain rfl : collection.entityId replaced = other := Option.some.inj addressedToo
      exact lawful.replace_comm differs document
    | delete removed =>
      obtain rfl : removed = other := Option.some.inj addressedToo
      exact (lawful.remove_replace_of_ne differs document).symm
  | delete removed =>
    obtain rfl : removed = id := Option.some.inj addressed
    cases another with
    | findAll => rfl
    | findById _ => rfl
    | create added =>
      obtain rfl : collection.entityId added = other := Option.some.inj addressedToo
      exact remove_append_of_ne (lawful.entryId_toEntry_ne differs.symm) document
    | update replaced =>
      obtain rfl : collection.entityId replaced = other := Option.some.inj addressedToo
      exact lawful.remove_replace_of_ne differs.symm document
    | delete another =>
      obtain rfl : another = other := Option.some.inj addressedToo
      exact remove_comm differs document

/-! ## §3. One call on two documents. -/

/-- A change is made and told. -/
def Succeeds (result : Except RepositoryFault (CollectionAnswer Entity)) : Prop :=
  ∃ entity, result = .ok (.outcome (.found entity))

/-- A call on two documents: it answers alike, and it tells a change and edits
both, or it tells none and leaves both as they are. -/
inductive Parallel (collection : Collection Entry Entity) (call : CollectionCall Entity)
    (first second : List Entry) :
    Except RepositoryFault (CollectionAnswer Entity) × List Entry →
      Except RepositoryFault (CollectionAnswer Entity) × List Entry → Prop where
  /-- No change. -/
  | kept {result : Except RepositoryFault (CollectionAnswer Entity)}
      (fails : ¬ Succeeds result) :
      Parallel collection call first second (result, first) (result, second)
  /-- A change. -/
  | edited {entity : Entity} :
      Parallel collection call first second
        (.ok (.outcome (.found entity)), call.edit collection first)
        (.ok (.outcome (.found entity)), call.edit collection second)

/-- The first record of its identifier decides a call. -/
theorem Lawful.parallel (lawful : collection.Lawful)
    (addressed : call.address? collection.entityId = some id)
    (same : collection.find? id first = collection.find? id second) :
    collection.Parallel call first second ((call.program collection).evaluate first)
      ((call.program collection).evaluate second) := by
  cases call with
  | findAll => cases addressed
  | findById looked =>
    obtain rfl : looked = id := Option.some.inj addressed
    rw [CollectionCall.program, Program.evaluate_map, Program.evaluate_map, findById,
      Program.evaluate_reading, Program.evaluate_reading]
    unfold lookup
    rw [same]
    refine .kept ?_
    rintro ⟨entity, told⟩
    obtain ⟨answer, -, shape⟩ := exists_ok_of_map told
    cases shape
  | create entity =>
    obtain rfl : collection.entityId entity = id := Option.some.inj addressed
    rw [CollectionCall.program, Program.evaluate_map, Program.evaluate_map,
      lawful.evaluate_create, lawful.evaluate_create, same]
    cases collection.find? (collection.entityId entity) second with
    | some entry => exact .kept (not_exists.mpr fun entity told => by cases told)
    | none => exact .edited
  | update entity =>
    obtain rfl : collection.entityId entity = id := Option.some.inj addressed
    rw [CollectionCall.program, Program.evaluate_map, Program.evaluate_map,
      lawful.evaluate_update, lawful.evaluate_update, same]
    cases collection.find? (collection.entityId entity) second with
    | none => exact .kept (not_exists.mpr fun entity told => by cases told)
    | some entry => exact .edited
  | delete removed =>
    obtain rfl : removed = id := Option.some.inj addressed
    rw [CollectionCall.program, Program.evaluate_map, Program.evaluate_map, evaluate_delete,
      evaluate_delete, same]
    cases collection.find? removed second with
    | none => exact .kept (not_exists.mpr fun entity told => by cases told)
    | some entry =>
      simp only
      cases collection.toEntity entry with
      | error fault => exact .kept (not_exists.mpr fun entity told => by cases told)
      | ok entity => exact .edited

/-- Whether it edits or not, a call leaves the first record of every other
identifier. -/
theorem Lawful.find?_evaluate (lawful : collection.Lawful)
    (addressed : call.address? collection.entityId = some other) (differs : other ≠ id)
    (document : List Entry) :
    collection.find? id ((call.program collection).evaluate document).2
      = collection.find? id document := by
  have alike := lawful.parallel addressed (rfl : collection.find? other document = _)
  generalize (call.program collection).evaluate document = ended at alike
  cases alike with
  | kept _ => rfl
  | edited => exact lawful.find?_edit addressed differs document

/-! ## §4. Two changes. -/

/-- The documents that two calls leave, made in one order and in the other,
by what they answer. -/
structure Commuted (collection : Collection Entry Entity) (document : List Entry)
    (call another : CollectionCall Entity)
    (result resultToo : Except RepositoryFault (CollectionAnswer Entity))
    (after afterToo : List Entry) : Prop where
  /-- Two creations that both succeed add their records one behind the
  other. -/
  swapped : ∀ entity added, call = .create entity → another = .create added →
    Succeeds result → Succeeds resultToo →
    after = document ++ [collection.toEntry entity, collection.toEntry added]
      ∧ afterToo = document ++ [collection.toEntry added, collection.toEntry entity]
  /-- Otherwise the documents are the same. -/
  same : (∀ entity added, call = .create entity → another = .create added →
    ¬ (Succeeds result ∧ Succeeds resultToo)) → after = afterToo

/-- Where one of the two fails, there is nothing to swap. -/
theorem Commuted.of_fails {call another : CollectionCall Entity}
    {result resultToo : Except RepositoryFault (CollectionAnswer Entity)} (after : List Entry)
    (fails : ¬ (Succeeds result ∧ Succeeds resultToo)) :
    collection.Commuted document call another result resultToo after after where
  swapped := by
    intro entity added _ _ told toldToo
    exact absurd ⟨told, toldToo⟩ fails
  same _ := rfl

/-- Two calls of different identifiers, each of which runs on the document and
on the one that the other leaves. -/
theorem Lawful.commuted (lawful : collection.Lawful) {call another : CollectionCall Entity}
    (addressed : call.address? collection.entityId = some id)
    (addressedToo : another.address? collection.entityId = some other) (differs : id ≠ other)
    {ended endedAfter endedToo endedTooAfter :
      Except RepositoryFault (CollectionAnswer Entity) × List Entry}
    (alike : collection.Parallel call document endedToo.2 ended endedAfter)
    (alikeToo : collection.Parallel another document ended.2 endedToo endedTooAfter) :
    endedAfter.1 = ended.1 ∧ endedTooAfter.1 = endedToo.1
      ∧ collection.Commuted document call another ended.1 endedToo.1 endedTooAfter.2
        endedAfter.2 := by
  -- the edits meet only where both calls make one
  cases alike with
  | kept fails =>
    cases alikeToo with
    | kept _ => exact ⟨rfl, rfl, .of_fails _ fun both => fails both.1⟩
    | edited => exact ⟨rfl, rfl, .of_fails _ fun both => fails both.1⟩
  | edited =>
    cases alikeToo with
    | kept failsToo => exact ⟨rfl, rfl, .of_fails _ fun both => failsToo both.2⟩
    | edited =>
      refine ⟨rfl, rfl, ?_, fun notBoth => ?_⟩
      · rintro entity added rfl rfl - -
        constructor
        · exact List.append_assoc ..
        · exact List.append_assoc ..
      · refine (lawful.edit_comm addressed addressedToo differs ?_ document).symm
        intro entity added creates createsToo
        exact notBoth entity added creates createsToo ⟨⟨_, rfl⟩, ⟨_, rfl⟩⟩

/-- Two changes of different identifiers, over the store in memory and
whatever document it holds: each answers the same in either order, and the
two documents are the same, or two records are swapped at their end. -/
def ChangesCommute (collection : Collection Entry Entity) : Prop :=
  ∀ (location : Location) (key : Path.Key) (locks : Locks) (memory : Memory (List Entry))
    (call another : CollectionCall Entity), call.writes = true → another.writes = true →
    call.address? collection.entityId ≠ another.address? collection.entityId →
    ∃ result resultToo after afterToo,
      Request.serveEach (collection.requests location key [call, another]) locks memory
          = ([.result result, .result resultToo], locks, after)
        ∧ Request.serveEach (collection.requests location key [another, call]) locks memory
          = ([.result resultToo, .result result], locks, afterToo)
        ∧ collection.Commuted memory.document call another result resultToo after.document
          afterToo.document

/-- Under a poisoned lock no change is made. -/
theorem serveEach_of_poisoned {location : Location} {key : Path.Key} {locks : Locks}
    (poisoned : locks.isPoisoned key = true) {calls : List (CollectionCall Entity)}
    (writes : ∀ call ∈ calls, call.writes = true) (memory : Memory (List Entry)) :
    Request.serveEach (collection.requests location key calls) locks memory
      = (calls.map fun _ => .result (.error .poisoned), locks, memory) := by
  induction calls with
  | nil => rfl
  | cons call rest ih =>
    obtain ⟨first, others⟩ := List.forall_mem_cons.mp writes
    have refused : (call.writes && locks.isPoisoned key) = true := by
      rw [first, poisoned]
      rfl
    exact Request.serveEach_cons (Request.serve_of_refused refused) (ih others)

theorem evaluateEach_pair (call another : CollectionCall Entity) (document : List Entry) :
    collection.evaluateEach [call, another] document
      = ([((call.program collection).evaluate document).1,
          ((another.program collection).evaluate
            ((call.program collection).evaluate document).2).1],
        ((another.program collection).evaluate
          ((call.program collection).evaluate document).2).2) :=
  rfl

theorem Lawful.changesCommute (lawful : collection.Lawful) : collection.ChangesCommute := by
  intro location key locks memory call another writes writesToo apart
  cases poisoned : locks.isPoisoned key with
  | true =>
    have both : ∀ made ∈ [call, another], made.writes = true := by simp [writes, writesToo]
    have bothToo : ∀ made ∈ [another, call], made.writes = true := by simp [writes, writesToo]
    refine ⟨_, _, memory, memory, serveEach_of_poisoned poisoned both memory,
      serveEach_of_poisoned poisoned bothToo memory, .of_fails _ ?_⟩
    rintro ⟨⟨found, told⟩, -⟩
    cases told
  | false =>
    obtain ⟨id, addressed⟩ := CollectionCall.exists_address writes collection.entityId
    obtain ⟨other, addressedToo⟩ := CollectionCall.exists_address writesToo collection.entityId
    have differs : id ≠ other := by
      intro same
      exact apart (by rw [addressed, addressedToo, same])
    obtain ⟨after, served, document⟩ :=
      collection.serveEach_requests location poisoned [call, another] memory
    obtain ⟨afterToo, servedToo, documentToo⟩ :=
      collection.serveEach_requests location poisoned [another, call] memory
    -- each call finds the first record of its identifier also after the other one
    have found := lawful.find?_evaluate addressedToo differs.symm memory.document
    have foundToo := lawful.find?_evaluate addressed differs memory.document
    obtain ⟨same, sameToo, commuted⟩ := lawful.commuted addressed addressedToo differs
      (lawful.parallel addressed found.symm) (lawful.parallel addressedToo foundToo.symm)
    rw [evaluateEach_pair] at served document servedToo documentToo
    rw [sameToo] at served
    rw [same] at servedToo
    rw [← document, ← documentToo] at commuted
    exact ⟨_, _, after, afterToo, served, servedToo, commuted⟩

/-- A strategy that repeats a name, between two that have one identifier. -/
def contestedStrategies : List StrategyRecord :=
  [⟨"dip", "Dip", "Buys", "x.Dip", none⟩,
    ⟨"grid", "Grid", "", "x.Grid", some ⟨[⟨"at", "5"⟩, ⟨"at", "6"⟩]⟩⟩,
    ⟨"dip", "Dip 2", "", "x.Dip", some ⟨[]⟩⟩]

/-- A market to add. -/
def etherMarket : Market := ⟨"eth", "ETH", "ETH", "USD", true, "grid"⟩

/-- Another one. -/
def solanaMarket : Market := ⟨"sol", "SOL", "SOL", "USD", false, "dip"⟩

/-- Changes of different strategies commute, and so do changes of different
markets. -/
theorem changes_commute : strategies.ChangesCommute ∧ markets.ChangesCommute :=
  ⟨strategies_lawful.changesCommute, markets_lawful.changesCommute⟩

/-- A strategy that is malformed cannot be deleted, before or after the first
of two namesakes is revised; and two markets are added. -/
theorem changes_commute_contested :
    (∃ result resultToo after afterToo,
      Request.serveEach (strategies.requests strategyFiles .unnamed
          [.delete "grid", .update (.plain "dip" "Dip" "" "x.Dip")]) .fresh
          (.holding contestedStrategies)
          = ([.result result, .result resultToo], .fresh, after)
        ∧ Request.serveEach (strategies.requests strategyFiles .unnamed
          [.update (.plain "dip" "Dip" "" "x.Dip"), .delete "grid"]) .fresh
          (.holding contestedStrategies)
          = ([.result resultToo, .result result], .fresh, afterToo)
        ∧ strategies.Commuted contestedStrategies (.delete "grid")
          (.update (.plain "dip" "Dip" "" "x.Dip")) result resultToo after.document
          afterToo.document)
      ∧ ∃ result resultToo after afterToo,
        Request.serveEach (markets.requests marketFiles .unnamed
            [.create etherMarket, .create solanaMarket]) .fresh (.holding repeatedMarkets)
            = ([.result result, .result resultToo], .fresh, after)
          ∧ Request.serveEach (markets.requests marketFiles .unnamed
            [.create solanaMarket, .create etherMarket]) .fresh (.holding repeatedMarkets)
            = ([.result resultToo, .result result], .fresh, afterToo)
          ∧ markets.Commuted repeatedMarkets (.create etherMarket) (.create solanaMarket) result
            resultToo after.document afterToo.document :=
  ⟨changes_commute.1 strategyFiles .unnamed .fresh (.holding contestedStrategies) _ _ rfl rfl
      (by decide),
    changes_commute.2 marketFiles .unnamed .fresh (.holding repeatedMarkets) _ _ rfl rfl
      (by decide)⟩

end Collection

end TradingConfig
