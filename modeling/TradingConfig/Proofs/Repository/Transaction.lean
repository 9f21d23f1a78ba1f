/-
  TradingConfig.Proofs.Repository.Transaction
  ────────────────────────────────
  **A CALL IS A TRANSACTION.**

  Every call begins with a load, saves at most once and only loads after
  that; a fault of the store at any point ends it with that fault
  (`DocumentClass.transacts`).  A call without the lock is a single load
  (`DocumentClass.singleLoad`).  A call that saves is answered with
  success wherever the store does not fail (`DocumentClass.changes_of_saves`),
  so the save of a call never stands where its answer is an error.
-/
import TradingConfig.Proofs.Repository.Effect

namespace TradingConfig

namespace Program

variable {D Q R : Type}

/-! ## §1. Shapes of programs. -/

/-- A program that only loads, and that ends with the fault of a load that
fails. -/
inductive Reads : Program D (Except RepositoryFault R) → Prop where
  /-- The end. -/
  | done (result : Except RepositoryFault R) : Reads (.done result)
  /-- One more load. -/
  | load {next : Except StoreFault D → Program D (Except RepositoryFault R)}
      (stops : ∀ fault, next (.error fault) = fail (.store fault))
      (onward : ∀ document, Reads (next (.ok document))) : Reads (.load next)

/-- A program that saves at most once and only loads after that, and that
ends with the fault of a load or a save that fails. -/
inductive Transacts : Program D (Except RepositoryFault R) → Prop where
  /-- The end without a save. -/
  | done (result : Except RepositoryFault R) : Transacts (.done result)
  /-- One more load before the save. -/
  | load {next : Except StoreFault D → Program D (Except RepositoryFault R)}
      (stops : ∀ fault, next (.error fault) = fail (.store fault))
      (onward : ∀ document, Transacts (next (.ok document))) : Transacts (.load next)
  /-- The save. -/
  | save {document : D} {next : Except StoreFault Unit → Program D (Except RepositoryFault R)}
      (stops : ∀ fault, next (.error fault) = fail (.store fault))
      (onward : Reads (next (.ok ()))) : Transacts (.save document next)

/-- A program that loads once and does nothing else. -/
def SingleLoad (program : Program D R) : Prop :=
  ∃ result : Except StoreFault D → R, program = .load fun loaded => .done (result loaded)

/-- Whether a program saves, run on a document. -/
def saves : Program D R → D → Bool
  | .done _, _ => false
  | .load next, document => (next (.ok document)).saves document
  | .save _ _, _ => true

/-- After a load only loads are left. -/
theorem Reads.onward {next : Except StoreFault D → Program D (Except RepositoryFault R)}
    (reads : Reads (.load next)) (answer : Except StoreFault D) : Reads (next answer) := by
  cases reads with
  | load stops onward =>
    cases answer with
    | error fault => rw [stops]; exact .done _
    | ok document => exact onward document

/-- After a load at most one save is left. -/
theorem Transacts.onward {next : Except StoreFault D → Program D (Except RepositoryFault R)}
    (transacts : Transacts (.load next)) (answer : Except StoreFault D) :
    Transacts (next answer) := by
  cases transacts with
  | load stops onward =>
    cases answer with
    | error fault => rw [stops]; exact .done _
    | ok document => exact onward document

/-- After the save only loads are left. -/
theorem Transacts.reads_after_save {document : D}
    {next : Except StoreFault Unit → Program D (Except RepositoryFault R)}
    (transacts : Transacts (.save document next)) (answer : Except StoreFault Unit) :
    Reads (next answer) := by
  cases transacts with
  | save stops onward =>
    cases answer with
    | error fault => rw [stops]; exact .done _
    | ok _ => exact onward

theorem Reads.map {program : Program D (Except RepositoryFault Q)} (reads : Reads program)
    (form : Q → R) : Reads (program.map form) := by
  induction reads with
  | done result => exact .done _
  | load stops _ ih =>
    refine .load (fun fault => ?_) ih
    rw [stops]
    rfl

theorem Transacts.map {program : Program D (Except RepositoryFault Q)}
    (transacts : Transacts program) (form : Q → R) : Transacts (program.map form) := by
  induction transacts with
  | done result => exact .done _
  | load stops _ ih =>
    refine .load (fun fault => ?_) ih
    rw [stops]
    rfl
  | save stops onward =>
    refine .save (fun fault => ?_) (onward.map form)
    rw [stops]
    rfl

theorem saves_map (form : Q → R) (program : Program D (Except RepositoryFault Q)) (document : D) :
    (program.map form).saves document = program.saves document := by
  induction program with
  | done result => rfl
  | load next ih => exact ih (.ok document)
  | save saved next _ => rfl

/-- A program that does not save leaves the document as it is. -/
theorem evaluate_of_unsaved {program : Program D R} {document : D}
    (unsaved : program.saves document = false) : (program.evaluate document).2 = document := by
  induction program with
  | done result => rfl
  | load next ih => exact ih (.ok document) unsaved
  | save saved next _ => cases unsaved

theorem Reads.reading (view : D → Except Malformed R) : Reads (reading view) :=
  .load (fun _ => rfl) fun _ => .done _

theorem Reads.loading {next : D → Program D (Except RepositoryFault R)}
    (onward : ∀ document, Reads (next document)) : Reads (loading next) :=
  .load (fun _ => rfl) onward

theorem Transacts.reading (view : D → Except Malformed R) : Transacts (reading view) :=
  .load (fun _ => rfl) fun _ => .done _

theorem Transacts.loading {next : D → Program D (Except RepositoryFault R)}
    (onward : ∀ document, Transacts (next document)) : Transacts (loading next) :=
  .load (fun _ => rfl) onward

theorem Transacts.saving {saved : D} {next : Program D (Except RepositoryFault R)}
    (onward : Reads next) : Transacts (saving saved next) :=
  .save (fun _ => rfl) onward

end Program

/-! ## §2. Collections. -/

namespace Collection

open Program

variable {Entry Entity : Type} (collection : Collection Entry Entity)

theorem confirm_reads (id : String) : Reads (collection.confirm id) := by
  refine .loading fun document => ?_
  split
  · exact .done _
  · exact .done _

theorem create_transacts (entity : Entity) : Transacts (collection.create entity) := by
  refine .loading fun document => ?_
  split
  · exact .done _
  · exact .saving (collection.confirm_reads _)

theorem update_transacts (entity : Entity) : Transacts (collection.update entity) := by
  refine .loading fun document => ?_
  split
  · exact .done _
  · exact .saving (collection.confirm_reads _)

theorem delete_transacts (id : String) : Transacts (collection.delete id) := by
  refine .loading fun document => ?_
  split
  · exact .done _
  · split
    · exact .done _
    · exact .saving (.done _)

end Collection

namespace CollectionCall

open Program

variable {Entry Entity : Type} {collection : Collection Entry Entity}

theorem transacts (collection : Collection Entry Entity) (call : CollectionCall Entity) :
    Transacts (call.program collection) := by
  cases call with
  | findAll => exact (Transacts.reading _).map _
  | findById id => exact (Transacts.reading _).map _
  | create entity => exact (collection.create_transacts entity).map _
  | update entity => exact (collection.update_transacts entity).map _
  | delete id => exact (collection.delete_transacts id).map _

theorem exists_load (collection : Collection Entry Entity) (call : CollectionCall Entity) :
    ∃ next, call.program collection = .load next
      ∧ ∀ fault, next (.error fault) = Program.fail (.store fault) := by
  cases call with
  | findAll => exact ⟨_, rfl, fun _ => rfl⟩
  | findById id => exact ⟨_, rfl, fun _ => rfl⟩
  | create entity => exact ⟨_, rfl, fun _ => rfl⟩
  | update entity => exact ⟨_, rfl, fun _ => rfl⟩
  | delete id => exact ⟨_, rfl, fun _ => rfl⟩

theorem singleLoad (collection : Collection Entry Entity) {call : CollectionCall Entity}
    (free : call.writes = false) :
    (call.program collection).SingleLoad := by
  cases call with
  | findAll => exact ⟨_, rfl⟩
  | findById id => exact ⟨_, rfl⟩
  | create entity => cases free
  | update entity => cases free
  | delete id => cases free

/-- A call that saves is a change that is made. -/
theorem found_of_saves (lawful : collection.Lawful) (call : CollectionCall Entity)
    {document : List Entry} (saves : (call.program collection).saves document = true) :
    call.writes = true
      ∧ ∃ entity, ((call.program collection).evaluate document).1
          = .ok (.outcome (.found entity)) := by
  -- a branch that answers otherwise does not save
  cases call with
  | findAll => cases saves
  | findById id => cases saves
  | create entity =>
    refine ⟨rfl, entity, ?_⟩
    rw [program, saves_map, Collection.create] at saves
    rw [program, evaluate_map, lawful.evaluate_create]
    cases found : collection.find? (collection.entityId entity) document with
    | none => rfl
    | some entry => simp [Program.loading, Program.saves, found] at saves
  | update entity =>
    refine ⟨rfl, entity, ?_⟩
    rw [program, saves_map, Collection.update] at saves
    rw [program, evaluate_map, lawful.evaluate_update]
    cases found : collection.find? (collection.entityId entity) document with
    | none => simp [Program.loading, Program.saves, found] at saves
    | some entry => rfl
  | delete id =>
    rw [program, saves_map, Collection.delete] at saves
    rw [program, evaluate_map, Collection.evaluate_delete]
    cases found : collection.find? id document with
    | none => simp [Program.loading, Program.saves, found] at saves
    | some entry =>
      cases held : collection.toEntity entry with
      | error fault => simp [Program.loading, Program.saves, Program.fail, found, held] at saves
      | ok entity => exact ⟨rfl, entity, by simp only [held]; rfl⟩

end CollectionCall

/-! ## §3. Classes of documents. -/

namespace DocumentClass

open Program

/-- Whether an answer of a call under the lock says that a change was
made. -/
def tellsChange : (documentClass : DocumentClass) → documentClass.Answer → Bool
  | .strategies, answer | .markets, answer =>
    match answer with
    | .outcome outcome => outcome.isFound
    | _ => false
  | .exchange, _ => true

/-- A call is answered with a change that was made: a creation, an update or
a deletion with the entity, a save of the exchange with the exchange. -/
def Changes (documentClass : DocumentClass) (call : documentClass.Call)
    (ending : Ending (Except RepositoryFault documentClass.Answer)) : Prop :=
  documentClass.writes call = true
    ∧ ∃ answer, ending = .result (.ok answer) ∧ documentClass.tellsChange answer = true

theorem transacts (documentClass : DocumentClass) (call : documentClass.Call) :
    Transacts (documentClass.program call) := by
  cases documentClass with
  | strategies => exact CollectionCall.transacts Collection.strategies call
  | markets => exact CollectionCall.transacts Collection.markets call
  | exchange =>
    cases call with
    | get => exact .reading ExchangeRecord.toExchange
    | save exchange => exact .loading fun document => .saving (.reading ExchangeRecord.toExchange)

/-- Every call begins with a load, and ends with its fault if it fails. -/
theorem exists_load (documentClass : DocumentClass) (call : documentClass.Call) :
    ∃ next, documentClass.program call = .load next
      ∧ ∀ fault, next (.error fault) = Program.fail (.store fault) := by
  cases documentClass with
  | strategies => exact CollectionCall.exists_load Collection.strategies call
  | markets => exact CollectionCall.exists_load Collection.markets call
  | exchange =>
    cases call with
    | get => exact ⟨_, rfl, fun _ => rfl⟩
    | save exchange => exact ⟨_, rfl, fun _ => rfl⟩

/-- A call without the lock is a single load. -/
theorem singleLoad (documentClass : DocumentClass) {call : documentClass.Call}
    (free : documentClass.writes call = false) :
    (documentClass.program call).SingleLoad := by
  cases documentClass with
  | strategies =>
    exact CollectionCall.singleLoad Collection.strategies free
  | markets => exact CollectionCall.singleLoad Collection.markets free
  | exchange =>
    cases call with
    | get => exact ⟨_, rfl⟩
    | save exchange => cases free

/-- A call that saves is answered with the change it made. -/
theorem changes_of_saves (documentClass : DocumentClass) {call : documentClass.Call}
    {document : documentClass.Document}
    (saves : (documentClass.program call).saves document = true) :
    documentClass.Changes call (.result ((documentClass.program call).evaluate document).1) := by
  cases documentClass with
  | strategies =>
    obtain ⟨writes, entity, answer⟩ :=
      CollectionCall.found_of_saves Collection.strategies_lawful call saves
    exact ⟨writes, _, congrArg Ending.result answer, rfl⟩
  | markets =>
    obtain ⟨writes, entity, answer⟩ :=
      CollectionCall.found_of_saves Collection.markets_lawful call saves
    exact ⟨writes, _, congrArg Ending.result answer, rfl⟩
  | exchange =>
    cases call with
    | get => cases saves
    | save exchange =>
      exact ⟨rfl, exchange, congrArg (fun pair => Ending.result pair.1)
        (exchange.evaluate_save document), rfl⟩

end DocumentClass

end TradingConfig
