/-
  TradingConfig.Proofs.Repository.Cancellation
  ────────────────────────────────
  **A CREATION AND A DELETION CANCEL.**

  While a record of a new identifier is in a document, calls of other
  identifiers answer as if it were not there, and the document without it is
  the one that they would leave (`Collection.Joined.step`).  So a deletion
  gives the entity back and leaves what the calls would have left alone
  (`Collection.creation_cancels`).
-/
import TradingConfig.Proofs.Repository.Commutation

namespace TradingConfig

namespace Collection

variable {Entry Entity : Type} {collection : Collection Entry Entity}
  {entity : Entity} {joined alone : List Entry}

/-! ## §1. A document with one more record. -/

/-- The first document has the record of an entity, whose identifier is new,
somewhere in the second one. -/
structure Joined (collection : Collection Entry Entity) (entity : Entity)
    (joined alone : List Entry) : Prop where
  /-- The record is there. -/
  found : collection.find? (collection.entityId entity) joined = some (collection.toEntry entity)
  /-- Without it the document is the second one. -/
  removed : collection.remove (collection.entityId entity) joined = alone
  /-- There the identifier does not occur. -/
  absent : collection.find? (collection.entityId entity) alone = none

/-- A creation joins the record to the document. -/
theorem Lawful.joined_append (lawful : collection.Lawful)
    (absent : collection.find? (collection.entityId entity) alone = none) :
    collection.Joined entity (alone ++ [collection.toEntry entity]) alone where
  found := find?_append absent _ (lawful.entryId_toEntry entity)
  removed := by
    have others : ∀ other ∈ alone, collection.entryId other ≠ collection.entityId entity :=
      fun other member same => CollectionCall.find?_eq_none_iff.mp absent
        (same ▸ List.mem_map_of_mem member)
    rw [remove_append_cons others (lawful.entryId_toEntry entity), List.append_nil]
  absent := absent

/-- A call of another identifier answers alike on both documents, and joined
documents stay joined. -/
theorem Joined.step (lawful : collection.Lawful) {call : CollectionCall Entity}
    (joins : collection.Joined entity joined alone)
    (apart : call.address? collection.entityId ≠ some (collection.entityId entity)) :
    (call ≠ .findAll → ((call.program collection).evaluate joined).1
        = ((call.program collection).evaluate alone).1)
      ∧ collection.Joined entity ((call.program collection).evaluate joined).2
        ((call.program collection).evaluate alone).2 := by
  cases addressed : call.address? collection.entityId with
  | none =>
    -- a list is not about an identifier; it changes nothing
    cases call with
    | findAll => exact ⟨fun differs => absurd rfl differs, joins⟩
    | _ => cases addressed
  | some other =>
    have differs : collection.entityId entity ≠ other := by
      intro same
      exact apart (addressed.trans (congrArg some same.symm))
    have same : collection.find? other joined = collection.find? other alone := by
      rw [← joins.removed]
      exact (find?_remove_of_ne differs joined).symm
    have alike := lawful.parallel addressed same
    generalize (call.program collection).evaluate joined = ended at alike
    generalize (call.program collection).evaluate alone = endedAlone at alike
    cases alike with
    | kept _ => exact ⟨fun _ => rfl, joins⟩
    | edited =>
      refine ⟨fun _ => rfl, ?_, ?_, ?_⟩
      · rw [lawful.find?_edit addressed differs.symm]
        exact joins.found
      · -- the deletion and the edit can be made in either order
        have deletes : (CollectionCall.delete (collection.entityId entity)).address?
            collection.entityId = some (collection.entityId entity) := rfl
        have commutes := lawful.edit_comm deletes addressed differs
          (fun _ _ creates => by cases creates) joined
        rw [← joins.removed]
        exact commutes
      · rw [lawful.find?_edit addressed differs.symm]
        exact joins.absent

/-! ## §2. Sessions. -/

/-- Calls answer alike, but for lists. -/
inductive AnswerAlike {R : Type} : List (CollectionCall Entity) → List R → List R → Prop where
  /-- No calls. -/
  | nil : AnswerAlike [] [] []
  /-- One more call. -/
  | cons {call : CollectionCall Entity} {calls : List (CollectionCall Entity)} {result other : R}
      {results others : List R} (alike : call ≠ .findAll → result = other)
      (rest : AnswerAlike calls results others) :
      AnswerAlike (call :: calls) (result :: results) (other :: others)

theorem AnswerAlike.map {R Q : Type} {calls : List (CollectionCall Entity)}
    {results others : List R} (alike : AnswerAlike calls results others) (form : R → Q) :
    AnswerAlike calls (results.map form) (others.map form) := by
  induction alike with
  | nil => exact .nil
  | cons same _ ih => exact .cons (fun differs => congrArg form (same differs)) ih

/-- Calls of other identifiers, one after the other, do not tell joined documents
apart. -/
theorem Joined.evaluateEach (lawful : collection.Lawful) {calls : List (CollectionCall Entity)}
    (apart : ∀ call ∈ calls,
      call.address? collection.entityId ≠ some (collection.entityId entity))
    (joins : collection.Joined entity joined alone) :
    AnswerAlike calls (collection.evaluateEach calls joined).1
        (collection.evaluateEach calls alone).1
      ∧ collection.Joined entity (collection.evaluateEach calls joined).2
        (collection.evaluateEach calls alone).2 := by
  -- induction on the calls; what is carried from call to call is that the documents are joined
  induction calls generalizing joined alone with
  | nil => exact ⟨.nil, joins⟩
  | cons call rest ih =>
    obtain ⟨first, others⟩ := List.forall_mem_cons.mp apart
    obtain ⟨alike, joinsNext⟩ := joins.step lawful first
    obtain ⟨alikeRest, joinsLast⟩ := ih others joinsNext
    exact ⟨.cons alike alikeRest, joinsLast⟩

/-- The deletion gives the entity back, and a look-up finds nothing then. -/
theorem Joined.delete_find (lawful : collection.Lawful)
    (joins : collection.Joined entity joined alone) :
    collection.evaluateEach [.delete (collection.entityId entity),
        .findById (collection.entityId entity)] joined
      = ([.ok (.outcome (.found entity)), .ok (.one none)], alone) := by
  have deleted : ((CollectionCall.delete (collection.entityId entity)).program collection).evaluate
      joined = (.ok (.outcome (.found entity)), alone) := by
    rw [CollectionCall.program, Program.evaluate_map, evaluate_delete, joins.found]
    simp only [lawful.toEntity_toEntry, joins.removed]
    rfl
  have missed : ((CollectionCall.findById (collection.entityId entity)).program
      collection).evaluate alone = (.ok (.one none), alone) := by
    rw [CollectionCall.program, Program.evaluate_map, findById, Program.evaluate_reading, lookup,
      joins.absent]
    rfl
  rw [evaluateEach_pair, deleted, missed]

/-- A trial of an entity: it is created, calls follow, it is deleted again, and
it is looked up. -/
def trial (collection : Collection Entry Entity) (entity : Entity)
    (calls : List (CollectionCall Entity)) : List (CollectionCall Entity) :=
  .create entity :: (calls ++ [.delete (collection.entityId entity),
    .findById (collection.entityId entity)])

/-- On a document without the identifier a trial leaves what the calls leave. -/
theorem Lawful.evaluateEach_trial (lawful : collection.Lawful)
    {calls : List (CollectionCall Entity)}
    (absent : collection.find? (collection.entityId entity) alone = none)
    (apart : ∀ call ∈ calls,
      call.address? collection.entityId ≠ some (collection.entityId entity)) :
    collection.evaluateEach (collection.trial entity calls) alone
      = (.ok (.outcome (.found entity))
          :: ((collection.evaluateEach calls (alone ++ [collection.toEntry entity])).1
            ++ [.ok (.outcome (.found entity)), .ok (.one none)]),
        (collection.evaluateEach calls alone).2) := by
  have created : ((CollectionCall.create entity).program collection).evaluate alone
      = (.ok (.outcome (.found entity)), alone ++ [collection.toEntry entity]) := by
    rw [CollectionCall.program, Program.evaluate_map, lawful.evaluate_create, absent]
    rfl
  obtain ⟨-, joins⟩ := (lawful.joined_append absent).evaluateEach lawful apart
  rw [trial, evaluateEach_cons, created, evaluateEach_append, joins.delete_find lawful]

/-! ## §3. Repositories. -/

/-- An entity of a new identifier is created, calls of other identifiers
follow, and it is deleted again, over the store in memory and whatever
document it holds.  Both changes give the entity, and a look-up finds nothing
then; the calls in between answer as they do alone, but for lists; and the
document is the one that they leave alone. -/
def CreationCancels (collection : Collection Entry Entity) : Prop :=
  ∀ (location : Location) (key : Path.Key) (locks : Locks) (memory : Memory (List Entry))
    (entity : Entity) (calls : List (CollectionCall Entity)), locks.isPoisoned key = false →
    (∀ entry ∈ memory.document, collection.entryId entry ≠ collection.entityId entity) →
    (∀ call ∈ calls, call.address? collection.entityId ≠ some (collection.entityId entity)) →
    ∃ results resultsAlone after afterAlone,
      Request.serveEach (collection.requests location key (collection.trial entity calls))
          locks memory
          = (.result (.ok (.outcome (.found entity))) :: (results
            ++ [.result (.ok (.outcome (.found entity))), .result (.ok (.one none))]), locks, after)
        ∧ Request.serveEach (collection.requests location key calls) locks memory
          = (resultsAlone, locks, afterAlone)
        ∧ AnswerAlike calls results resultsAlone
        ∧ after.document = afterAlone.document

theorem Lawful.creationCancels (lawful : collection.Lawful) : collection.CreationCancels := by
  intro location key locks memory entity calls unpoisoned fresh apart
  have absent : collection.find? (collection.entityId entity) memory.document = none := by
    simpa [find?] using fresh
  obtain ⟨alike, -⟩ := (lawful.joined_append absent).evaluateEach lawful apart
  obtain ⟨after, served, document⟩ := collection.serveEach_requests location unpoisoned
    (collection.trial entity calls) memory
  obtain ⟨afterAlone, servedAlone, documentAlone⟩ :=
    collection.serveEach_requests location unpoisoned calls memory
  rw [lawful.evaluateEach_trial absent apart] at served document
  refine ⟨_, _, after, afterAlone, ?_, servedAlone, alike.map Ending.result, ?_⟩
  · rw [served, List.map_cons, List.map_append]
    rfl
  · rw [document, documentAlone]

/-- The creation of a strategy and its deletion cancel, and so do those of a
market. -/
theorem creation_cancels : strategies.CreationCancels ∧ markets.CreationCancels :=
  ⟨strategies_lawful.creationCancels, markets_lawful.creationCancels⟩

/-- A strategy to try. -/
def trialStrategy : Strategy := .plain "trial" "Trial" "" "x.Trial"

/-- Calls while it is there: one strategy is revised, one refused, one
added. -/
def trialCalls : List (CollectionCall Strategy) :=
  [.findAll, .update (.plain "dip" "Dip" "" "x.Dip"), .delete "grid",
    .create (.plain "swing" "Swing" "" "x.Swing")]

/-- A strategy is tried beside a malformed one and two namesakes, and a market
beside two namesakes of which one is deleted. -/
theorem creation_cancels_contested :
    (∃ results resultsAlone after afterAlone,
      Request.serveEach (strategies.requests strategyFiles .unnamed
          (strategies.trial trialStrategy trialCalls)) .fresh (.holding contestedStrategies)
          = (.result (.ok (.outcome (.found trialStrategy))) :: (results
            ++ [.result (.ok (.outcome (.found trialStrategy))), .result (.ok (.one none))]),
            .fresh, after)
        ∧ Request.serveEach (strategies.requests strategyFiles .unnamed trialCalls) .fresh
          (.holding contestedStrategies) = (resultsAlone, .fresh, afterAlone)
        ∧ AnswerAlike trialCalls results resultsAlone
        ∧ after.document = afterAlone.document)
      ∧ ∃ results resultsAlone after afterAlone,
        Request.serveEach (markets.requests marketFiles .unnamed
            (markets.trial etherMarket [.delete "m", .findById "m"])) .fresh
            (.holding repeatedMarkets)
            = (.result (.ok (.outcome (.found etherMarket))) :: (results
              ++ [.result (.ok (.outcome (.found etherMarket))), .result (.ok (.one none))]),
              .fresh, after)
          ∧ Request.serveEach (markets.requests marketFiles .unnamed
            [.delete "m", .findById "m"]) .fresh (.holding repeatedMarkets)
            = (resultsAlone, .fresh, afterAlone)
          ∧ AnswerAlike ([.delete "m", .findById "m"] : List (CollectionCall Market)) results
            resultsAlone
          ∧ after.document = afterAlone.document :=
  ⟨creation_cancels.1 strategyFiles .unnamed .fresh (.holding contestedStrategies) trialStrategy
      trialCalls rfl (by decide) (by decide),
    creation_cancels.2 marketFiles .unnamed .fresh (.holding repeatedMarkets) etherMarket
      [.delete "m", .findById "m"] rfl (by decide) (by decide)⟩

end Collection

end TradingConfig
