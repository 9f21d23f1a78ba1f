/-
  TradingConfig.Proofs.Repository.Poison
  ────────────────────────────────
  **WHICH LOCKS ARE POISONED, AND WHAT THAT CHANGES.**

  A store may crash in any of its calls.  A lock is poisoned exactly by the
  operations that ran under it and crashed (`Operation.isPoisoned_serveEach`);
  nothing else poisons one.  So a write is refused exactly after such a
  crash under the same key, and then the store is not called; every other
  operation ends as the replies say that it hears (`Operation.disciplined`).
-/
import TradingConfig.Proofs.Repository.Behaviour
import TradingConfig.Proofs.Repository.Completion
import TradingConfig.Repository.Replay

namespace TradingConfig

/-! ## §1. No program ends as if its lock were poisoned. -/

namespace Program

variable {σ D Q R : Type}

/-- Wherever a program ends, it does not say that its lock is poisoned. -/
def Unpoisoned : Program D (Except RepositoryFault R) → Prop
  | .done result => result ≠ .error .poisoned
  | .load next => ∀ answer, (next answer).Unpoisoned
  | .save _ next => ∀ answer, (next answer).Unpoisoned

theorem Unpoisoned.map {program : Program D (Except RepositoryFault Q)}
    (unpoisoned : program.Unpoisoned) (form : Q → R) : (program.map form).Unpoisoned := by
  induction program with
  | done result =>
    cases result with
    | error fault => exact fun same => unpoisoned (congrArg Except.error (Except.error.inj same))
    | ok value => exact fun same => by cases same
  | load next ih => exact fun answer => ih answer (unpoisoned answer)
  | save document next ih => exact fun answer => ih answer (unpoisoned answer)

theorem unpoisoned_reading (view : D → Except Malformed R) : (reading view).Unpoisoned := by
  intro loaded same
  cases loaded with
  | error fault => cases same
  | ok document =>
    have same : (view document).mapError RepositoryFault.malformed = .error .poisoned := same
    cases viewed : view document with
    | error fault => rw [viewed] at same; cases same
    | ok value => rw [viewed] at same; cases same

theorem unpoisoned_loading {next : D → Program D (Except RepositoryFault R)}
    (onward : ∀ document, (next document).Unpoisoned) : (loading next).Unpoisoned := by
  intro loaded
  cases loaded with
  | error fault => exact fun same => by cases same
  | ok document => exact onward document

theorem unpoisoned_saving {document : D} {next : Program D (Except RepositoryFault R)}
    (onward : next.Unpoisoned) : (saving document next).Unpoisoned := by
  intro saved
  cases saved with
  | error fault => exact fun same => by cases same
  | ok _ => exact onward

/-- So it does not over any store. -/
theorem Unpoisoned.run {program : Program D (Except RepositoryFault R)}
    (unpoisoned : program.Unpoisoned) (store : Store σ D) (location : Location) (state : σ) :
    (program.run store location state).1 ≠ .result (.error .poisoned) := by
  induction program generalizing state with
  | done result => exact fun same => unpoisoned (Ending.result.inj same)
  | load next ih =>
    unfold Program.run
    split
    · exact fun same => by cases same
    · exact ih _ (unpoisoned _) _
  | save document next ih =>
    unfold Program.run
    split
    · exact fun same => by cases same
    · exact ih _ (unpoisoned _) _

end Program

namespace Collection

open Program

variable {Entry Entity : Type} (collection : Collection Entry Entity)

theorem confirm_unpoisoned (id : String) : (collection.confirm id).Unpoisoned := by
  refine unpoisoned_loading fun document => ?_
  split
  · exact fun same => by cases same
  next entry _ =>
    cases held : collection.toEntity entry with
    | error fault => exact fun same => by cases same
    | ok entity => exact fun same => by cases same

theorem create_unpoisoned (entity : Entity) : (collection.create entity).Unpoisoned := by
  refine unpoisoned_loading fun document => ?_
  split
  · exact fun same => by cases same
  · exact unpoisoned_saving (collection.confirm_unpoisoned _)

theorem update_unpoisoned (entity : Entity) : (collection.update entity).Unpoisoned := by
  refine unpoisoned_loading fun document => ?_
  split
  · exact fun same => by cases same
  · exact unpoisoned_saving (collection.confirm_unpoisoned _)

theorem delete_unpoisoned (id : String) : (collection.delete id).Unpoisoned := by
  refine unpoisoned_loading fun document => ?_
  split
  · exact fun same => by cases same
  · split
    · exact fun same => by cases same
    · exact unpoisoned_saving fun same => by cases same

theorem unpoisoned_program (call : CollectionCall Entity) :
    (call.program collection).Unpoisoned := by
  cases call with
  | findAll => exact (unpoisoned_reading _).map _
  | findById id => exact (unpoisoned_reading _).map _
  | create entity => exact (collection.create_unpoisoned entity).map _
  | update entity => exact (collection.update_unpoisoned entity).map _
  | delete id => exact (collection.delete_unpoisoned id).map _

end Collection

theorem DocumentClass.unpoisoned_program (documentClass : DocumentClass)
    (call : documentClass.Call) : (documentClass.program call).Unpoisoned := by
  cases documentClass with
  | strategies => exact Collection.strategies.unpoisoned_program call
  | markets => exact Collection.markets.unpoisoned_program call
  | exchange =>
    cases call with
    | get => exact Program.unpoisoned_reading ExchangeRecord.toExchange
    | save exchange =>
      exact Program.unpoisoned_loading fun document =>
        Program.unpoisoned_saving (Program.unpoisoned_reading ExchangeRecord.toExchange)

/-! ## §2. Replies. -/

/-- Over the store that keeps its replies a program ends as over the store
itself, and so it does when it is replayed from the replies that were
added. -/
theorem Program.run_recorded {σ D R : Type} (store : Store σ D) (location : Location)
    (program : Program D R) (state : σ) (log : List (StoreReply D)) :
    ∃ replies,
      program.run store.recorded location (state, log)
          = ((program.run store location state).1, (program.run store location state).2,
            log ++ replies)
        ∧ program.replay replies = some (program.run store location state).1 := by
  -- induction on the program: the reply to its first call comes in front of the others
  induction program generalizing state log with
  | done result => exact ⟨[], by rw [List.append_nil]; rfl, rfl⟩
  | load next ih =>
    unfold Program.run
    cases called : store.load location state with
    | mk reply after =>
      have recorded : store.recorded.load location (state, log)
          = (reply, after, log ++ [.loaded reply]) := by
        simp only [Store.recorded, called]
      rw [recorded]
      cases reply with
      | crash => exact ⟨[.loaded .crash], rfl, rfl⟩
      | answer answer =>
        obtain ⟨replies, ran, replayed⟩ := ih answer after (log ++ [.loaded (.answer answer)])
        refine ⟨.loaded (.answer answer) :: replies, ?_, replayed⟩
        rw [List.append_assoc] at ran
        exact ran
  | save document next ih =>
    unfold Program.run
    cases called : store.save document location state with
    | mk reply after =>
      have recorded : store.recorded.save document location (state, log)
          = (reply, after, log ++ [.saved reply]) := by
        simp only [Store.recorded, called]
      rw [recorded]
      cases reply with
      | crash => exact ⟨[.saved .crash], rfl, rfl⟩
      | answer answer =>
        obtain ⟨replies, ran, replayed⟩ := ih answer after (log ++ [.saved (.answer answer)])
        refine ⟨.saved (.answer answer) :: replies, ?_, replayed⟩
        rw [List.append_assoc] at ran
        exact ran

namespace Request

variable {σ D R : Type} {request : Request σ D R} {locks : Locks} {state : σ}

/-- A request consumes no reply where it is refused. -/
theorem replies_of_refused
    (refused : (request.writes && locks.isPoisoned request.repository.key) = true) :
    request.replies locks state = [] := by
  have refusedToo : (request.recorded.writes
      && locks.isPoisoned request.recorded.repository.key) = true := refused
  unfold replies
  rw [serve_of_refused refusedToo]

/-- Where it is not, the replies say how it ends. -/
theorem replay_replies
    (admitted : (request.writes && locks.isPoisoned request.repository.key) = false) :
    request.program.replay (request.replies locks state)
      = some (request.serve locks state).1 := by
  have admittedToo : (request.recorded.writes
      && locks.isPoisoned request.recorded.repository.key) = false := admitted
  obtain ⟨heard, ran, replayed⟩ := request.program.run_recorded request.repository.store
    request.repository.location state []
  have ranRecorded : request.recorded.program.run request.recorded.repository.store
      request.recorded.repository.location (state, []) = _ := ran
  unfold replies
  rw [serve_of_admitted admittedToo, ranRecorded, ending_of_admitted admitted, ← replayed]
  cases request.program.run request.repository.store request.repository.location state with
  | mk ending after => cases ending <;> rfl

end Request

/-! ## §3. Sessions. -/

theorem Locks.isPoisoned_poison {locks : Locks} {key other : Path.Key} :
    (locks.poison other).isPoisoned key = true
      ↔ key = other ∨ locks.isPoisoned key = true := by
  unfold Locks.isPoisoned Locks.poison
  rw [List.contains_cons, Bool.or_eq_true, beq_iff_eq]

namespace Operation

variable {σ : Type} {operation : Operation σ} {locks : Locks} {state : σ} {key : Path.Key}

/-- Among operations that were served one has crashed under the lock of a
key. -/
def Crashed (served : List (Served σ)) (key : Path.Key) : Prop :=
  ∃ earlier ∈ served, earlier.operation.writes = true ∧ earlier.operation.key = key
    ∧ earlier.ending = .crash

/-- An operation poisons a lock exactly where it has crashed under it. -/
theorem isPoisoned_serve :
    (operation.request.serve locks state).2.1.isPoisoned key = true
      ↔ locks.isPoisoned key = true ∨ (operation.writes = true ∧ operation.key = key
        ∧ (operation.request.serve locks state).1 = .crash) := by
  cases refused : operation.request.writes
      && locks.isPoisoned operation.request.repository.key with
  | true =>
    rw [Request.serve_of_refused refused]
    refine ⟨.inl, ?_⟩
    rintro (poisoned | ⟨-, -, crashed⟩)
    · exact poisoned
    · cases crashed
  | false =>
    rw [Request.serve_of_admitted refused]
    cases operation.request.program.run operation.request.repository.store
        operation.request.repository.location state with
    | mk ending after =>
      cases ending with
      | result result =>
        refine ⟨.inl, ?_⟩
        rintro (poisoned | ⟨-, -, crashed⟩)
        · exact poisoned
        · cases crashed
      | crash =>
        -- the one ending that can add a key, and it does so only to a write
        show (if operation.writes then locks.poison operation.key else locks).isPoisoned key = true
          ↔ _
        cases operation.writes with
        | false =>
          refine ⟨.inl, ?_⟩
          rintro (poisoned | ⟨writes, -⟩)
          · exact poisoned
          · cases writes
        | true =>
          rw [if_pos rfl, Locks.isPoisoned_poison]
          constructor
          · rintro (rfl | poisoned)
            · exact .inr ⟨rfl, rfl, rfl⟩
            · exact .inl poisoned
          · rintro (poisoned | ⟨-, same, -⟩)
            · exact .inr poisoned
            · exact .inl same.symm

/-- After operations one after the other the locks are poisoned under which
one has crashed. -/
theorem isPoisoned_serveEach (operations : List (Operation σ)) :
    (serveEach operations locks state).2.1.isPoisoned key = true
      ↔ locks.isPoisoned key = true ∨ Crashed (serveEach operations locks state).1 key := by
  -- induction on the operations: what the first adds to the locks joins the disjunction
  induction operations generalizing locks state with
  | nil => exact ⟨.inl, fun either => either.resolve_right fun ⟨_, member, _⟩ => by cases member⟩
  | cons operation rest ih =>
    unfold serveEach
    simp only
    rw [ih, isPoisoned_serve, or_assoc]
    unfold Crashed
    rw [List.exists_mem_cons_iff]

/-- Where no lock was poisoned at first, only these are. -/
theorem isPoisoned_of_fresh (before : List (Operation σ)) :
    (serveEach before .fresh state).2.1.isPoisoned key = true
      ↔ Crashed (serveEach before .fresh state).1 key := by
  rw [isPoisoned_serveEach]
  exact or_iff_right Bool.noConfusion

/-- An operation says that its lock is poisoned exactly where it is a write
and its lock is. -/
theorem ends_poisoned_iff :
    (operation.request.serve locks state).1 = .result (.error .poisoned)
      ↔ (operation.writes && locks.isPoisoned operation.key) = true := by
  cases refused : operation.writes && locks.isPoisoned operation.key with
  | true =>
    rw [Request.serve_of_refused refused]
    exact ⟨fun _ => rfl, fun _ => rfl⟩
  | false =>
    refine ⟨fun poisoned => ?_, Bool.noConfusion⟩
    have never := (operation.documentClass.unpoisoned_program operation.call).run operation.store
      operation.location state
    rw [Request.ending_of_admitted refused] at poisoned
    exact absurd poisoned never

end Operation

/-! ## §4. Locks that are given back. -/

namespace Traffic

variable {σ D R : Type} {request : Request σ D R} {locks : Locks}

/-- The traffic of one request that holds its lock. -/
def underLock (request : Request σ D R) (locks : Locks)
    (rest : Program D (Except RepositoryFault R)) (state : σ) : Traffic 1 σ D R :=
  ⟨fun _ => .running rest,
    Function.update (fun _ => none) request.repository.key (some 0), locks, state⟩

/-- The traffic of one request that has ended and holds no lock. -/
def finished (ending : Ending (Except RepositoryFault R)) (locks : Locks) (state : σ) :
    Traffic 1 σ D R :=
  ⟨fun _ => .ended ending, fun _ => none, locks, state⟩

theorem put_underLock (rest : Program D (Except RepositoryFault R)) (state : σ)
    (ending : Ending (Except RepositoryFault R)) :
    ((underLock request locks rest state).put 0 (.ended ending)).hold request.repository.key none
      = finished ending locks state := by
  unfold put hold underLock finished
  simp only
  rw [Function.update_eq_const_of_subsingleton, Function.update_idem, Function.update_eq_self]
  rfl

/-- A write that holds its lock makes the next store call of its program. -/
theorem proceed_underLock (writes : request.writes = true)
    (rest : Program D (Except RepositoryFault R)) (state : σ) :
    (underLock request locks rest state).proceed request 0 rest
      = match rest.advance request.repository.store request.repository.location state with
        | (none, after) => finished .crash (locks.poison request.repository.key) after
        | (some onward, after) => underLock request locks onward after := by
  unfold proceed
  show (match rest.advance request.repository.store request.repository.location state with
    | (none, after) => (underLock request locks rest after).crash request 0
    | (some onward, after) => (underLock request locks rest after).put 0 _) = _
  cases rest.advance request.repository.store request.repository.location state with
  | mk onward? after =>
    cases onward? with
    | none =>
      show (underLock request locks rest after).crash request 0 = _
      unfold crash finish
      rw [if_pos writes, if_pos writes]
      exact put_underLock rest after .crash
    | some onward =>
      simp only [writes]
      unfold put underLock
      simp only
      rw [Function.update_eq_const_of_subsingleton]
      rfl

/-- A write ends step by step as its program does, and gives its lock back
even if it crashes. -/
theorem reaches_finished (locks : Locks) (writes : request.writes = true)
    (rest : Program D (Except RepositoryFault R)) (state : σ) :
    Reaches (fun _ : Fin 1 => request) (underLock request locks rest state)
      (match rest.run request.repository.store request.repository.location state with
        | (.result result, after) => finished (.result result) locks after
        | (.crash, after) => finished .crash (locks.poison request.repository.key) after) := by
  -- induction on what is left of the program, one step for each of its calls
  induction rest generalizing state with
  | done result =>
    have step : (underLock request locks (.done result) state).step? (fun _ => request) 0
        = some (finished (.result result) locks state) := by
      show some ((underLock request locks (.done result) state).finish request 0 _) = _
      unfold finish
      rw [if_pos writes, put_underLock]
    exact .step step (.refl _)
  | load next ih =>
    have step : (underLock request locks (.load next) state).step? (fun _ => request) 0
        = some ((underLock request locks (.load next) state).proceed request 0 (.load next)) := rfl
    rw [proceed_underLock writes, Program.advance] at step
    rw [Program.run]
    cases called : request.repository.store.load request.repository.location state with
    | mk reply after =>
      rw [called] at step
      cases reply with
      | crash => exact .step step (.refl _)
      | answer answer => exact .step step (ih answer after)
  | save document next ih =>
    have step : (underLock request locks (.save document next) state).step? (fun _ => request) 0
        = some ((underLock request locks (.save document next) state).proceed request 0
            (.save document next)) := rfl
    rw [proceed_underLock writes, Program.advance] at step
    rw [Program.run]
    cases called : request.repository.store.save document request.repository.location state with
    | mk reply after =>
      rw [called] at step
      cases reply with
      | crash => exact .step step (.refl _)
      | answer answer => exact .step step (ih answer after)

theorem put_start (locks : Locks) (state : σ) (ending : Ending (Except RepositoryFault R)) :
    (start locks state : Traffic 1 σ D R).put 0 (.ended ending) = finished ending locks state := by
  unfold put start finished
  simp only
  rw [Function.update_eq_const_of_subsingleton]
  rfl

theorem hold_start (rest : Program D (Except RepositoryFault R)) (state : σ) :
    ((start locks state : Traffic 1 σ D R).put 0 (.running rest)).hold request.repository.key
        (some 0)
      = underLock request locks rest state := by
  unfold put hold start underLock
  simp only
  rw [Function.update_eq_const_of_subsingleton]
  rfl

/-- A read that is alone ends with its one load. -/
theorem step_of_single (locks : Locks) (free : request.writes = false)
    (single : request.program.SingleLoad) (state : σ) :
    (start locks state).step? (fun _ : Fin 1 => request) 0
      = some (finished
          (request.program.run request.repository.store request.repository.location state).1 locks
          (request.program.run request.repository.store request.repository.location state).2) := by
  obtain ⟨result, program⟩ := single
  have step : (start locks state).step? (fun _ : Fin 1 => request) 0
      = some ((start locks state).proceed request 0 request.program) := by
    unfold step? start
    simp only [free]
    rfl
  rw [step, program, proceed, Program.advance, Program.run,
    show (start locks state : Traffic 1 σ D R).state = state from rfl]
  cases request.repository.store.load request.repository.location state with
  | mk reply after =>
    cases reply with
    | crash =>
      show some ((start locks after).crash request 0) = _
      have notWrites : ¬ request.writes = true := Bool.eq_false_iff.mp free
      rw [crash, if_neg notWrites, finish, if_neg notWrites, put_start]
    | answer answer =>
      simp only [free]
      exact congrArg some (put_start locks after _)

/-- A request that is alone ends step by step as it is served, and holds no
lock then. -/
theorem reaches_served (single : request.writes = false → request.program.SingleLoad)
    (locks : Locks) (state : σ) :
    Reaches (fun _ : Fin 1 => request) (start locks state)
      (finished (request.serve locks state).1 (request.serve locks state).2.1
        (request.serve locks state).2.2) := by
  cases writes : request.writes with
  | false =>
    have admitted : (request.writes && locks.isPoisoned request.repository.key) = false := by
      rw [writes]
      rfl
    have step := step_of_single locks writes (single writes) state
    rw [Request.serve_of_admitted admitted]
    cases ran : request.program.run request.repository.store request.repository.location state with
    | mk ending after =>
      rw [ran] at step
      cases ending with
      | result result => exact .step step (.refl _)
      | crash =>
        simp only [writes]
        exact .step step (.refl _)
  | true =>
    cases poisoned : locks.isPoisoned request.repository.key with
    | true =>
      have refused : (request.writes && locks.isPoisoned request.repository.key) = true := by
        rw [writes, poisoned]
        rfl
      have step : (start locks state).step? (fun _ : Fin 1 => request) 0
          = some ((start locks state).put 0 (.ended (.result (.error .poisoned)))) := by
        unfold step? start
        simp only [writes, poisoned]
        rfl
      rw [put_start] at step
      rw [Request.serve_of_refused refused]
      exact .step step (.refl _)
    | false =>
      have admitted : (request.writes && locks.isPoisoned request.repository.key) = false := by
        rw [writes, poisoned]
        rfl
      have step : (start locks state).step? (fun _ : Fin 1 => request) 0
          = some (underLock request locks request.program state) := by
        unfold step? start
        simp only [writes, poisoned]
        exact congrArg some (hold_start request.program state)
      refine .step step ?_
      rw [Request.serve_of_admitted admitted]
      have reached := reaches_finished locks writes request.program state
      cases ran : request.program.run request.repository.store request.repository.location
          state with
      | mk ending after =>
        rw [ran] at reached
        cases ending with
        | result result => exact reached
        | crash =>
          simp only [writes]
          exact reached

end Traffic

/-! ## §5. Operations after others. -/

namespace Operation

variable {σ : Type} {operation : Operation σ} {locks : Locks} {state : σ}

/-- What an operation does that comes after operations that were served, with
the locks and the state of the store that these have left. -/
structure Disciplined (served : List (Served σ)) (locks : Locks) (state : σ)
    (operation : Operation σ) : Prop where
  /-- A write says that its lock is poisoned exactly where an earlier write
  under the same key has crashed. -/
  refused_iff : operation.writes = true →
    ((operation.request.serve locks state).1 = .result (.error .poisoned)
      ↔ Crashed served operation.key)
  /-- Then it has not called the store, and nothing has changed. -/
  untouched : (operation.request.serve locks state).1 = .result (.error .poisoned) →
    operation.request.replies locks state = []
      ∧ operation.request.serve locks state = (.result (.error .poisoned), locks, state)
  /-- A read never says so and never poisons a lock, even if it crashes. -/
  read : operation.writes = false →
    (operation.request.serve locks state).1 ≠ .result (.error .poisoned)
      ∧ (operation.request.serve locks state).2.1 = locks
  /-- An operation that ends with a result, a success or any fault, poisons
  no lock. -/
  kept : ∀ result, (operation.request.serve locks state).1 = .result result →
    (operation.request.serve locks state).2.1 = locks
  /-- Step by step it ends in the same way, and holds no lock then. -/
  released : Traffic.Reaches (fun _ : Fin 1 => operation.request) (.start locks state)
    (.finished (operation.request.serve locks state).1 (operation.request.serve locks state).2.1
      (operation.request.serve locks state).2.2)
  /-- If it is a read, or no write under the same key has crashed, then the
  replies that it consumes determine how it ends, whatever happened under
  other keys. -/
  determined : (operation.writes = true → ¬ Crashed served operation.key) →
    operation.request.program.replay (operation.request.replies locks state)
      = some (operation.request.serve locks state).1

theorem locks_of_read (free : operation.writes = false) :
    (operation.request.serve locks state).2.1 = locks := by
  have admitted : (operation.writes && locks.isPoisoned operation.key) = false := by
    rw [free]
    rfl
  rw [Request.serve_of_admitted admitted]
  cases operation.request.program.run operation.request.repository.store
      operation.request.repository.location state with
  | mk ending after =>
    cases ending with
    | result result => rfl
    | crash => exact if_neg (Bool.eq_false_iff.mp free)

theorem locks_of_result {result : Except RepositoryFault operation.documentClass.Answer}
    (ended : (operation.request.serve locks state).1 = .result result) :
    (operation.request.serve locks state).2.1 = locks := by
  cases refused : operation.writes && locks.isPoisoned operation.key with
  | true => rw [Request.serve_of_refused refused]
  | false =>
    rw [Request.serve_of_admitted refused] at ended ⊢
    cases ran : operation.request.program.run operation.request.repository.store
        operation.request.repository.location state with
    | mk ending after =>
      rw [ran] at ended
      cases ending with
      | result other => rfl
      | crash => cases ended

/-- Whatever operations come first, of any classes, through any repositories
and over stores that may crash in any call, the next one is disciplined. -/
theorem disciplined (before : List (Operation σ)) (operation : Operation σ) (state : σ) :
    operation.Disciplined (serveEach before .fresh state).1 (serveEach before .fresh state).2.1
      (serveEach before .fresh state).2.2 where
  refused_iff writes := by
    rw [ends_poisoned_iff, writes, Bool.true_and]
    exact isPoisoned_of_fresh before
  untouched answered := by
    have refused := ends_poisoned_iff.mp answered
    exact ⟨Request.replies_of_refused refused, Request.serve_of_refused refused⟩
  read free := by
    refine ⟨fun answered => ?_, locks_of_read free⟩
    have refused := ends_poisoned_iff.mp answered
    rw [free] at refused
    cases refused
  kept _ := locks_of_result
  released := Traffic.reaches_served operation.documentClass.singleLoad _ _
  determined unpoisoned := by
    -- what crashed under other keys is in the locks, but the key of this one is not
    refine Request.replay_replies (Bool.eq_false_iff.mpr fun refused => ?_)
    obtain ⟨writes, isPoisoned⟩ := (Bool.and_eq_true ..).mp refused
    exact unpoisoned writes ((isPoisoned_of_fresh before).mp isPoisoned)

/-- An operation of a collection of markets, over a store that loads no
market and crashes in every save. -/
def fragile (file : String) (call : CollectionCall Market) : Operation Unit :=
  ⟨.markets, ⟨fun _ _ => (.answer (.ok []), ()), fun _ _ _ => (.crash, ())⟩, [],
    ⟨⟨file⟩, ⟨"schema.json"⟩⟩, call⟩

/-- A creation crashes.  After it a deletion is refused that names the file
in another spelling; a read of the file and a deletion in another file are
not. -/
example :
    (serveEach [fragile "./a.json" (.create default), fragile "a.json" (.delete "m"),
        fragile "a.json" .findAll, fragile "b.json" (.delete "m")] .fresh ()).1
      = [⟨fragile "./a.json" (.create default), .crash⟩,
        ⟨fragile "a.json" (.delete "m"), .result (.error .poisoned)⟩,
        ⟨fragile "a.json" .findAll, .result (.ok (.all []))⟩,
        ⟨fragile "b.json" (.delete "m"), .result (.ok (.outcome .notFound))⟩] :=
  rfl

end Operation

end TradingConfig
