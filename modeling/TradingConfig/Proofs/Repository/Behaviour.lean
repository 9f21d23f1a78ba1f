/-
  TradingConfig.Proofs.Repository.Behaviour
  ────────────────────────────────
  **STORES THAT ALWAYS ANSWER.**

  The store in memory and the store of files never crash, and their loads
  change nothing that later calls depend on.  Such a store is a function of
  what is seen of its state, its behaviour (`Store.BehavesAs`), and so is
  every program and every request over it (`Store.BehavesAs.run`,
  `Store.BehavesAs.serve`).
-/
import TradingConfig.Proofs.Repository.Transaction
import TradingConfig.Store.Checked
import TradingConfig.Store.Memory

namespace TradingConfig

/-! ## §1. Requests. -/

namespace Request

variable {σ D R : Type} {request : Request σ D R} {locks : Locks} {state after : σ}

/-- A poisoned lock is refused, and nothing is touched. -/
theorem serve_of_refused
    (refused : (request.writes && locks.isPoisoned request.repository.key) = true) :
    request.serve locks state = (.result (.error .poisoned), locks, state) := by
  obtain ⟨writes, poisoned⟩ := (Bool.and_eq_true ..).mp refused
  unfold serve Repository.call Program.runLocked
  rw [if_pos writes, if_pos poisoned]

/-- A request that is not refused ends as its program does. -/
theorem serve_of_run
    (admitted : request.writes = true → locks.isPoisoned request.repository.key = false)
    {result : Except RepositoryFault R}
    (ran : request.program.run request.repository.store request.repository.location state
      = (.result result, after)) :
    request.serve locks state = (.result result, locks, after) := by
  unfold serve Repository.call
  split
  next writes =>
    unfold Program.runLocked
    rw [admitted writes, ran]
    rfl
  next =>
    unfold Program.runFree
    rw [ran]

/-- A request that is not refused ends as its program does.  A crash of a
write poisons the lock, and nothing else does. -/
theorem serve_of_admitted
    (admitted : (request.writes && locks.isPoisoned request.repository.key) = false) :
    request.serve locks state
      = match request.program.run request.repository.store request.repository.location state with
        | (.result result, after) => (.result result, locks, after)
        | (.crash, after) =>
          (.crash, if request.writes then locks.poison request.repository.key else locks,
            after) := by
  unfold serve Repository.call
  cases writes : request.writes with
  | false =>
    unfold Program.runFree
    cases request.program.run request.repository.store request.repository.location state with
    | mk ending after => cases ending <;> rfl
  | true =>
    rw [writes, Bool.true_and] at admitted
    unfold Program.runLocked
    rw [admitted]
    rfl

theorem ending_of_admitted
    (admitted : (request.writes && locks.isPoisoned request.repository.key) = false) :
    (request.serve locks state).1
      = (request.program.run request.repository.store request.repository.location state).1 := by
  rw [serve_of_admitted admitted]
  cases request.program.run request.repository.store request.repository.location state with
  | mk ending after => cases ending <;> rfl

end Request

/-! ## §2. Behaviours. -/

/-- What a store answers and how it goes on, by what is seen of its state. -/
structure Behaviour (V D : Type) where
  /-- The answer to a load, which changes nothing that is seen. -/
  load : Location → V → Except StoreFault D
  /-- The answer to a save, and what is seen after it. -/
  save : D → Location → V → Except StoreFault Unit × V

/-- A store that always answers, by a behaviour. -/
structure Store.BehavesAs {σ V D : Type} (store : Store σ D) (view : σ → V)
    (behaviour : Behaviour V D) : Prop where
  /-- A load. -/
  load : ∀ location state, ∃ after,
    store.load location state = (.answer (behaviour.load location (view state)), after)
      ∧ view after = view state
  /-- A save. -/
  save : ∀ document location state, ∃ after,
    store.save document location state
        = (.answer (behaviour.save document location (view state)).1, after)
      ∧ view after = (behaviour.save document location (view state)).2

namespace Behaviour

variable {V D R : Type}

/-- The behaviour of the store in memory: what is seen is the document. -/
def memory (D : Type) : Behaviour D D where
  load _ document := .ok document
  save document _ _ := (.ok (), document)

/-- The behaviour of the store of files: what is seen is the tree. -/
def files (codec : Codec D) (validator : Validator := .keywords) : Behaviour FileTree D where
  load location tree := Store.loadDocument codec location tree.read validator
  save document location tree := Store.saveDocument codec document location tree validator

/-- Runs a program by a behaviour. -/
def run (behaviour : Behaviour V D) (location : Location) : Program D R → V → R × V
  | .done result, seen => (result, seen)
  | .load next, seen => behaviour.run location (next (behaviour.load location seen)) seen
  | .save document next, seen =>
    let (answer, seen) := behaviour.save document location seen
    behaviour.run location (next answer) seen

/-- A fault of the load ends the program. -/
theorem run_loading (behaviour : Behaviour V D) (location : Location)
    (next : D → Program D (Except RepositoryFault R)) (seen : V) :
    behaviour.run location (.loading next) seen
      = match behaviour.load location seen with
        | .error fault => (.error (.store fault), seen)
        | .ok document => behaviour.run location (next document) seen := by
  unfold Program.loading
  rw [run]
  cases behaviour.load location seen <;> rfl

/-- So does a fault of the save. -/
theorem run_saving (behaviour : Behaviour V D) (location : Location) (document : D)
    (next : Program D (Except RepositoryFault R)) (seen : V) :
    behaviour.run location (.saving document next) seen
      = match behaviour.save document location seen with
        | (.error fault, seen) => (.error (.store fault), seen)
        | (.ok (), seen) => behaviour.run location next seen := by
  unfold Program.saving
  rw [run]
  cases behaviour.save document location seen with
  | mk answer after => cases answer <;> rfl

/-- A program that starts with a load and succeeds has loaded a document. -/
theorem exists_loaded {behaviour : Behaviour V D} {location : Location}
    {next : D → Program D (Except RepositoryFault R)} {seen after : V} {result : R}
    (ran : behaviour.run location (.loading next) seen = (.ok result, after)) :
    ∃ document, behaviour.load location seen = .ok document
      ∧ behaviour.run location (next document) seen = (.ok result, after) := by
  rw [run_loading] at ran
  split at ran
  · cases ran
  next document loads => exact ⟨document, loads, ran⟩

/-- One that starts with a save has saved. -/
theorem exists_saved {behaviour : Behaviour V D} {location : Location} {document : D}
    {next : Program D (Except RepositoryFault R)} {seen after : V} {result : R}
    (ran : behaviour.run location (.saving document next) seen = (.ok result, after)) :
    ∃ between, behaviour.save document location seen = (.ok (), between)
      ∧ behaviour.run location next between = (.ok result, after) := by
  rw [run_saving] at ran
  split at ran
  · cases ran
  next between saved => exact ⟨between, saved, ran⟩

/-- A result of another form. -/
theorem run_map {Q : Type} (behaviour : Behaviour V D) (location : Location) (form : Q → R)
    (program : Program D (Except RepositoryFault Q)) (seen : V) :
    behaviour.run location (program.map form) seen
      = ((behaviour.run location program seen).1.map form,
        (behaviour.run location program seen).2) := by
  induction program generalizing seen with
  | done result => rfl
  | load next ih => exact ih (behaviour.load location seen) seen
  | save document next ih =>
    exact ih (behaviour.save document location seen).1 (behaviour.save document location seen).2

/-- Where the other form succeeds the program does. -/
theorem exists_run_of_map {Q : Type} {behaviour : Behaviour V D} {location : Location}
    {form : Q → R} {program : Program D (Except RepositoryFault Q)} {seen after : V} {result : R}
    (ran : behaviour.run location (program.map form) seen = (.ok result, after)) :
    ∃ value, behaviour.run location program seen = (.ok value, after) ∧ form value = result := by
  rw [run_map] at ran
  obtain ⟨mapped, left⟩ := Prod.mk.inj ran
  obtain ⟨value, told, same⟩ := exists_ok_of_map mapped
  exact ⟨value, Prod.ext told left, same⟩

/-- Serves a request by a behaviour; the locks stay as they are. -/
def serve {σ : Type} (behaviour : Behaviour V D) (locks : Locks) (request : Request σ D R)
    (seen : V) : Except RepositoryFault R × V :=
  if request.writes && locks.isPoisoned request.repository.key then (.error .poisoned, seen)
  else behaviour.run request.repository.location request.program seen

/-- Under a lock that is not poisoned a request ends as its program does. -/
theorem serve_of_unpoisoned {σ : Type} {behaviour : Behaviour V D} {locks : Locks}
    {request : Request σ D R} (unpoisoned : locks.isPoisoned request.repository.key = false)
    {seen : V} :
    behaviour.serve locks request seen
      = behaviour.run request.repository.location request.program seen := by
  unfold serve
  rw [unpoisoned, Bool.and_false]
  rfl

/-- A program that only loads changes nothing. -/
theorem run_of_reads {behaviour : Behaviour V D}
    {program : Program D (Except RepositoryFault R)} (reads : program.Reads) (location : Location)
    (seen : V) :
    (behaviour.run location program seen).2 = seen := by
  induction reads with
  | done result => rfl
  | @load next stops onward ih =>
    show (behaviour.run location (next (behaviour.load location seen)) seen).2 = seen
    cases behaviour.load location seen with
    | error fault => rw [stops]; rfl
    | ok document => exact ih document

/-- In memory a program is run as on the document. -/
theorem run_memory (location : Location) (program : Program D R) (document : D) :
    (memory D).run location program document = program.evaluate document := by
  induction program generalizing document with
  | done result => rfl
  | load next ih => exact ih (.ok document) document
  | save saved next ih => exact ih (.ok ()) saved

end Behaviour

/-! ## §3. The stores. -/

namespace Store

variable {σ V D R : Type} {store : Store σ D} {view : σ → V} {behaviour : Behaviour V D}

theorem memory_behavesAs (D : Type) :
    (Store.memory D).BehavesAs Memory.document (.memory D) where
  load _ _ := ⟨_, rfl, rfl⟩
  save _ _ _ := ⟨_, rfl, rfl⟩

theorem checked_behavesAs (codec : Codec D) (validator : Validator) :
    (checked codec validator).BehavesAs id (.files codec validator) where
  load _ _ := ⟨_, rfl, rfl⟩
  save _ _ _ := ⟨_, rfl, rfl⟩

/-- A program ends as its behaviour says. -/
theorem BehavesAs.run (behaves : store.BehavesAs view behaviour) (location : Location)
    (program : Program D R) (state : σ) :
    ∃ after, program.run store location state
        = (.result (behaviour.run location program (view state)).1, after)
      ∧ view after = (behaviour.run location program (view state)).2 := by
  induction program generalizing state with
  | done result => exact ⟨state, rfl, rfl⟩
  | load next ih =>
    obtain ⟨middle, loaded, same⟩ := behaves.load location state
    obtain ⟨after, ran, seen⟩ := ih (behaviour.load location (view state)) middle
    rw [same] at ran seen
    refine ⟨after, ?_, seen⟩
    unfold Program.run
    rw [loaded]
    exact ran
  | save document next ih =>
    obtain ⟨middle, saved, same⟩ := behaves.save document location state
    obtain ⟨after, ran, seen⟩ := ih (behaviour.save document location (view state)).1 middle
    rw [same] at ran seen
    refine ⟨after, ?_, seen⟩
    unfold Program.run
    rw [saved]
    exact ran

/-- Over files a program ends as their behaviour says. -/
theorem run_files (codec : Codec D) (validator : Validator) (location : Location)
    (program : Program D R) (tree : FileTree) :
    program.run (checked codec validator) location tree
      = (.result ((Behaviour.files codec validator).run location program tree).1,
          ((Behaviour.files codec validator).run location program tree).2) := by
  obtain ⟨after, ran, seen⟩ := (checked_behavesAs codec validator).run location program tree
  exact ran.trans (Prod.ext rfl seen)

/-- A request ends as its behaviour says. -/
theorem BehavesAs.serve (behaves : store.BehavesAs view behaviour) {request : Request σ D R}
    (keeps : request.repository.store = store) (locks : Locks) (state : σ) :
    ∃ after, request.serve locks state
        = (.result (behaviour.serve locks request (view state)).1, locks, after)
      ∧ view after = (behaviour.serve locks request (view state)).2 := by
  unfold Behaviour.serve
  split
  next refused => exact ⟨state, Request.serve_of_refused refused, rfl⟩
  next admitted =>
    obtain ⟨after, ran, seen⟩ := behaves.run request.repository.location request.program state
    rw [← keeps] at ran
    refine ⟨after, Request.serve_of_run (fun writes => ?_) ran, seen⟩
    rw [writes] at admitted
    simpa using admitted

/-- Over the store in memory a request ends as on the document. -/
theorem serve_memory (request : Request (Memory D) D R)
    (keeps : request.repository.store = Store.memory D) {locks : Locks}
    (unpoisoned : locks.isPoisoned request.repository.key = false) (held : Memory D) :
    ∃ after, request.serve locks held
        = (.result (request.program.evaluate held.document).1, locks, after)
      ∧ after.document = (request.program.evaluate held.document).2 := by
  have served := (memory_behavesAs D).serve keeps locks held
  rw [Behaviour.serve_of_unpoisoned unpoisoned, Behaviour.run_memory] at served
  exact served

end Store

/-! ## §4. Sessions. -/

/-- The first request is served before all others. -/
theorem Request.serveEach_cons {σ D R : Type} {request : Request σ D R}
    {others : List (Request σ D R)} {locks locksNext locksAfter : Locks} {state next after : σ}
    {ending : Ending (Except RepositoryFault R)}
    {endings : List (Ending (Except RepositoryFault R))}
    (served : request.serve locks state = (ending, locksNext, next))
    (servedOthers : serveEach others locksNext next = (endings, locksAfter, after)) :
    serveEach (request :: others) locks state = (ending :: endings, locksAfter, after) := by
  rw [serveEach, served]
  simp only
  rw [servedOthers]

/-- The last request is served after all others. -/
theorem Request.serveEach_concat {σ D R : Type} (requests : List (Request σ D R))
    (last : Request σ D R) {locks locksBefore locksAfter : Locks} {state before after : σ}
    {endings : List (Ending (Except RepositoryFault R))}
    {ending : Ending (Except RepositoryFault R)}
    (servedOthers : serveEach requests locks state = (endings, locksBefore, before))
    (servedLast : last.serve locksBefore before = (ending, locksAfter, after)) :
    serveEach (requests ++ [last]) locks state = (endings ++ [ending], locksAfter, after) := by
  -- induction on the requests that are served before it
  induction requests generalizing locks state endings with
  | nil =>
    obtain ⟨rfl, rest⟩ := Prod.mk.inj servedOthers
    obtain ⟨rfl, rfl⟩ := Prod.mk.inj rest
    rw [List.nil_append, serveEach, servedLast]
    rfl
  | cons request others ih =>
    cases served : request.serve locks state with
    | mk first rest =>
      obtain ⟨locksNext, next⟩ := rest
      cases servedRest : serveEach others locksNext next with
      | mk endingsRest restAfter =>
        have both := serveEach_cons served servedRest
        rw [servedOthers] at both
        obtain ⟨rfl, rest⟩ := Prod.mk.inj both
        obtain ⟨rfl, rfl⟩ := Prod.mk.inj rest
        exact serveEach_cons served (ih servedRest)

end TradingConfig
