/-
  TradingConfig.Proofs.Repository.Exclusion
  ────────────────────────────────
  **WRITES OF ONE FILE TAKE TURNS.**

  A write that is under way holds the lock of its key, whatever its store
  does.  So of two writes under one key each takes all its steps before or
  after the other (`Tells.ordered`), and of two writes under different keys
  neither waits (`not_takeTurns_of_key_ne`).  Two paths to one file have one
  key if neither goes back with `..`; if one of them does and the other does
  not, they have two keys, and a change can be lost (`created_market_lost`).
-/
import TradingConfig.Proofs.Repository.Removal
import TradingConfig.Proofs.Repository.Completion

namespace TradingConfig

namespace Traffic

variable {n : Nat} {σ D R : Type} {requests : Fin n → Request σ D R}
  {traffic next : Traffic n σ D R} {i j : Fin n} {schedule : List (Fin n)}

/-! ## §1. What a step does to the locks. -/

/-- The steps of a request, whatever its store answers. -/
inductive Turn (requests : Fin n → Request σ D R) (i : Fin n) (traffic : Traffic n σ D R) :
    Traffic n σ D R → Prop where
  /-- A request without the lock leaves the locks to the others. -/
  | free {progress : Progress D R} {state : σ} (free : (requests i).writes = false)
      (moved : progress ≠ .waiting) :
      Turn requests i traffic (({ traffic with state := state } : Traffic n σ D R).put i progress)
  /-- A write is refused under a poisoned lock. -/
  | refuse (writes : (requests i).writes = true) (waits : traffic.progress i = .waiting)
      (unheld : traffic.holder (requests i).repository.key = none) :
      Turn requests i traffic (traffic.put i (.ended (.result (.error .poisoned))))
  /-- A write takes its lock. -/
  | take (writes : (requests i).writes = true) (waits : traffic.progress i = .waiting)
      (unheld : traffic.holder (requests i).repository.key = none) :
      Turn requests i traffic
        ((traffic.put i (.running (requests i).program)).hold (requests i).repository.key (some i))
  /-- A write calls its store. -/
  | call {before after : Program D (Except RepositoryFault R)} {state : σ}
      (writes : (requests i).writes = true) (runs : traffic.progress i = .running before) :
      Turn requests i traffic
        (({ traffic with state := state } : Traffic n σ D R).put i (.running after))
  /-- A write ends, with or without a crash, and gives its lock back. -/
  | release {before : Program D (Except RepositoryFault R)}
      {ending : Ending (Except RepositoryFault R)} {locks : Locks} {state : σ}
      (writes : (requests i).writes = true) (runs : traffic.progress i = .running before) :
      Turn requests i traffic
        ((({ traffic with locks := locks, state := state } : Traffic n σ D R).put i
          (.ended ending)).hold (requests i).repository.key none)

/-- A request without the lock proceeds without one. -/
theorem turn_proceed_of_free (free : (requests i).writes = false)
    (program : Program D (Except RepositoryFault R)) :
    Turn requests i traffic (traffic.proceed (requests i) i program) := by
  have notWrites : ¬ (requests i).writes = true := Bool.eq_false_iff.mp free
  unfold proceed
  cases program.advance (requests i).repository.store (requests i).repository.location
      traffic.state with
  | mk left? state =>
    cases left? with
    | none =>
      simp only [crash, finish, if_neg notWrites]
      exact .free free (by intro same; cases same)
    | some left =>
      refine .free free ?_
      rw [free]
      cases left <;> (intro same; cases same)

/-- A write that runs proceeds under its lock, or crashes and gives it
back. -/
theorem turn_proceed_of_writes (writes : (requests i).writes = true)
    {before : Program D (Except RepositoryFault R)}
    (runs : traffic.progress i = .running before)
    (program : Program D (Except RepositoryFault R)) :
    Turn requests i traffic (traffic.proceed (requests i) i program) := by
  unfold proceed
  cases program.advance (requests i).repository.store (requests i).repository.location
      traffic.state with
  | mk left? state =>
    cases left? with
    | none =>
      simp only [crash, finish, if_pos writes]
      exact .release writes runs
    | some left =>
      rw [writes]
      exact .call writes runs

/-- A write that is done ends and gives its lock back; a request without the
lock just ends. -/
theorem turn_finish {rest : Program D (Except RepositoryFault R)}
    (runs : traffic.progress i = .running rest) (result : Except RepositoryFault R) :
    Turn requests i traffic (traffic.finish (requests i) i (.result result)) := by
  unfold finish
  cases writes : (requests i).writes with
  | true => exact .release writes runs
  | false => exact .free writes (by intro same; cases same)

/-- A request that waits is refused, or it starts. -/
theorem turn_of_waiting (waits : traffic.progress i = .waiting)
    (step : traffic.step? requests i = some next) : Turn requests i traffic next := by
  unfold step? at step
  rw [waits] at step
  dsimp only at step
  split at step
  next writes =>
    split at step
    next => cases step
    next unheld =>
      have unheld := Option.not_isSome_iff_eq_none.mp unheld
      split at step
      next => obtain rfl := Option.some.inj step; exact .refuse writes waits unheld
      next => obtain rfl := Option.some.inj step; exact .take writes waits unheld
  next notWrites =>
    obtain rfl := Option.some.inj step
    exact turn_proceed_of_free (Bool.eq_false_iff.mpr notWrites) _

/-- A request that runs goes on, or it ends. -/
theorem turn_of_running {rest : Program D (Except RepositoryFault R)}
    (runs : traffic.progress i = .running rest)
    (step : traffic.step? requests i = some next) : Turn requests i traffic next := by
  have proceeds : Turn requests i traffic (traffic.proceed (requests i) i rest) := by
    cases writes : (requests i).writes with
    | true => exact turn_proceed_of_writes writes runs _
    | false => exact turn_proceed_of_free writes _
  unfold step? at step
  rw [runs] at step
  cases rest with
  | done result =>
    obtain rfl := Option.some.inj step
    exact turn_finish runs result
  | load onward =>
    obtain rfl := Option.some.inj step
    exact proceeds
  | save document onward =>
    obtain rfl := Option.some.inj step
    exact proceeds

/-- Every step is one of them. -/
theorem turn_of_step? (step : traffic.step? requests i = some next) :
    Turn requests i traffic next := by
  cases progress : traffic.progress i with
  | waiting => exact turn_of_waiting progress step
  | running rest => exact turn_of_running progress step
  | ended ending =>
    unfold step? at step
    rw [progress] at step
    cases step

namespace Turn

/-- The others stay where they are. -/
theorem progress_of_ne (turn : Turn requests i traffic next) (other : j ≠ i) :
    next.progress j = traffic.progress j := by
  cases turn <;> exact put_progress_of_ne _ other _

/-- A request that takes a step no longer waits. -/
theorem not_waiting (turn : Turn requests i traffic next) : next.progress i ≠ .waiting := by
  intro waits
  cases turn with
  | free _ moved => exact moved ((put_progress_self ..).symm.trans waits)
  | _ => cases (put_progress_self ..).symm.trans waits

end Turn

/-! ## §2. What the steps so far tell. -/

/-- A request has taken its last step. -/
def HasEnded (traffic : Traffic n σ D R) (i : Fin n) : Prop :=
  ∃ ending, traffic.progress i = .ended ending

/-- Two writes under one lock. -/
structure Contend (requests : Fin n → Request σ D R) (i j : Fin n) : Prop where
  /-- They are two. -/
  differ : i ≠ j
  /-- The first is a write. -/
  writes : (requests i).writes = true
  /-- The second is a write. -/
  writesToo : (requests j).writes = true
  /-- They are under one lock. -/
  sameKey : (requests i).repository.key = (requests j).repository.key

theorem Contend.symm (contend : Contend requests i j) : Contend requests j i :=
  ⟨contend.differ.symm, contend.writesToo, contend.writes, contend.sameKey.symm⟩

/-- What the steps of a schedule tell of the traffic after them. -/
structure Tells (requests : Fin n → Request σ D R) (schedule : List (Fin n))
    (traffic : Traffic n σ D R) : Prop where
  /-- The requests that wait are those that have taken no step. -/
  waiting : ∀ i, traffic.progress i = .waiting ↔ i ∉ schedule
  /-- A write under way holds its lock. -/
  guarded : ∀ i rest, (requests i).writes = true → traffic.progress i = .running rest →
    traffic.holder (requests i).repository.key = some i
  /-- Of two writes under one lock that have both taken steps, one has ended,
  and all its steps were before those of the other. -/
  ordered : ∀ i j, Contend requests i j → i ∈ schedule → j ∈ schedule →
    (Precedes schedule i j ∧ traffic.HasEnded i) ∨ (Precedes schedule j i ∧ traffic.HasEnded j)

theorem tells_start (locks : Locks) (state : σ) : Tells requests [] (start locks state) where
  waiting _ := iff_of_true rfl List.not_mem_nil
  guarded _ _ _ runs := by cases runs
  ordered _ _ _ stepped := absurd stepped List.not_mem_nil

theorem precedes_concat_of_ne {k : Fin n} (precedes : Precedes schedule i j) (other : k ≠ i) :
    Precedes (schedule ++ [k]) i j := by
  obtain ⟨before, after, rfl, past, notYet⟩ := precedes
  refine ⟨before, after ++ [k], List.append_assoc .., ?_, notYet⟩
  simp [past, other.symm]

theorem precedes_concat_of_not_mem (absent : j ∉ schedule) (differ : i ≠ j) :
    Precedes (schedule ++ [j]) i j :=
  ⟨schedule, [j], rfl, by simpa using differ, absent⟩

namespace Tells

theorem waiting_step (tells : Tells requests schedule traffic)
    (turn : Turn requests i traffic next) (k : Fin n) :
    next.progress k = .waiting ↔ k ∉ schedule ++ [i] := by
  by_cases same : k = i
  · subst same
    exact iff_of_false turn.not_waiting (by simp)
  · rw [turn.progress_of_ne same, tells.waiting k]
    simp [same]

/-- A lock that is held stays with its holder while others step. -/
theorem guarded_step (tells : Tells requests schedule traffic)
    (turn : Turn requests i traffic next) (k : Fin n) (rest : Program D (Except RepositoryFault R))
    (writes : (requests k).writes = true) (runs : next.progress k = .running rest) :
    next.holder (requests k).repository.key = some k := by
  by_cases same : k = i
  · subst same
    cases turn with
    | free free _ => exact absurd writes (Bool.eq_false_iff.mp free)
    | refuse _ _ _ => cases (put_progress_self ..).symm.trans runs
    | take _ _ _ => exact hold_holder_self ..
    | call _ ran => exact tells.guarded k _ writes ran
    | release _ _ => cases (put_progress_self ..).symm.trans runs
  · rw [turn.progress_of_ne same] at runs
    have holds := tells.guarded k rest writes runs
    cases turn with
    | free _ _ => exact holds
    | refuse _ _ _ => exact holds
    | call _ _ => exact holds
    | take _ _ unheld =>
      -- the lock that is taken was free, so it is another one
      have other : (requests k).repository.key ≠ (requests i).repository.key := by
        intro sameKey
        rw [sameKey, unheld] at holds
        cases holds
      exact (Function.update_of_ne other ..).trans holds
    | release stepWrites ran =>
      -- the lock that is given back is one that the request itself holds
      have other : (requests k).repository.key ≠ (requests i).repository.key := by
        intro sameKey
        rw [sameKey, tells.guarded i _ stepWrites ran] at holds
        exact same (Option.some.inj holds).symm
      exact (Function.update_of_ne other ..).trans holds

/-- A request that has ended takes no step. -/
theorem not_ended_of_turn (turn : Turn requests i traffic next)
    (writes : (requests i).writes = true) : ¬ traffic.HasEnded i := by
  rintro ⟨ending, ended⟩
  cases turn with
  | free free _ => exact absurd writes (Bool.eq_false_iff.mp free)
  | refuse _ waits _ => cases waits.symm.trans ended
  | take _ waits _ => cases waits.symm.trans ended
  | call _ runs => cases runs.symm.trans ended
  | release _ runs => cases runs.symm.trans ended

/-- The first step of a write finds its lock free. -/
theorem unheld_of_turn (turn : Turn requests i traffic next)
    (writes : (requests i).writes = true) (waits : traffic.progress i = .waiting) :
    traffic.holder (requests i).repository.key = none := by
  cases turn with
  | free free _ => exact absurd writes (Bool.eq_false_iff.mp free)
  | refuse _ _ unheld => exact unheld
  | take _ _ unheld => exact unheld
  | call _ runs => cases waits.symm.trans runs
  | release _ runs => cases waits.symm.trans runs

/-- A write that takes its first step comes after every other one under its
lock that has taken steps: those have ended. -/
theorem ended_of_first_step (tells : Tells requests schedule traffic)
    (turn : Turn requests i traffic next) (contend : Contend requests j i)
    (stepped : j ∈ schedule) (fresh : i ∉ schedule) : traffic.HasEnded j := by
  have unheld := unheld_of_turn turn contend.writesToo ((tells.waiting i).mpr fresh)
  cases progress : traffic.progress j with
  | waiting => exact absurd stepped ((tells.waiting j).mp progress)
  | ended ending => exact ⟨ending, progress⟩
  | running rest =>
    have holds := tells.guarded j rest contend.writes progress
    rw [contend.sameKey, unheld] at holds
    cases holds

/-- What a step of the second of two writes tells of their order. -/
theorem ordered_of_step (tells : Tells requests schedule traffic)
    (turn : Turn requests i traffic next) (contend : Contend requests j i)
    (stepped : j ∈ schedule) : Precedes (schedule ++ [i]) j i ∧ next.HasEnded j := by
  have kept : traffic.HasEnded j → next.HasEnded j := by
    rintro ⟨ending, ended⟩
    exact ⟨ending, (turn.progress_of_ne contend.differ).trans ended⟩
  by_cases fresh : i ∈ schedule
  · -- one of the two has ended, and it is not the one that steps
    rcases tells.ordered j i contend stepped fresh with ⟨precedes, ended⟩ | ⟨-, ended⟩
    · exact ⟨precedes_concat_of_ne precedes contend.differ.symm, kept ended⟩
    · exact absurd ended (not_ended_of_turn turn contend.writesToo)
  · exact ⟨precedes_concat_of_not_mem fresh contend.differ,
      kept (tells.ended_of_first_step turn contend stepped fresh)⟩

theorem ordered_step (tells : Tells requests schedule traffic)
    (turn : Turn requests i traffic next) {j k : Fin n} (contend : Contend requests j k)
    (stepped : j ∈ schedule ++ [i]) (steppedToo : k ∈ schedule ++ [i]) :
    (Precedes (schedule ++ [i]) j k ∧ next.HasEnded j)
      ∨ (Precedes (schedule ++ [i]) k j ∧ next.HasEnded k) := by
  have before {k : Fin n} (other : k ≠ i) (member : k ∈ schedule ++ [i]) : k ∈ schedule := by
    simpa [other] using member
  by_cases second : k = i
  · subst second
    exact .inl (tells.ordered_of_step turn contend (before contend.differ stepped))
  by_cases first : j = i
  · subst first
    exact .inr (tells.ordered_of_step turn contend.symm (before contend.differ.symm steppedToo))
  -- a third request steps
  rcases tells.ordered j k contend (before first stepped) (before second steppedToo) with
    ⟨precedes, ending, ended⟩ | ⟨precedes, ending, ended⟩
  · exact .inl ⟨precedes_concat_of_ne precedes (Ne.symm first), ending,
      (turn.progress_of_ne first).trans ended⟩
  · exact .inr ⟨precedes_concat_of_ne precedes (Ne.symm second), ending,
      (turn.progress_of_ne second).trans ended⟩

theorem step (tells : Tells requests schedule traffic)
    (step : traffic.step? requests i = some next) : Tells requests (schedule ++ [i]) next :=
  have turn := turn_of_step? step
  { waiting := tells.waiting_step turn
    guarded := tells.guarded_step turn
    ordered := fun _ _ => tells.ordered_step turn }

theorem run {more : List (Fin n)} (tells : Tells requests schedule traffic)
    (ran : traffic.run? requests more = some next) : Tells requests (schedule ++ more) next := by
  -- induction on the steps that are left
  induction more generalizing schedule traffic with
  | nil =>
    obtain rfl := Option.some.inj ran
    rwa [List.append_nil]
  | cons i rest ih =>
    obtain ⟨middle, stepped, onward⟩ := Option.bind_eq_some_iff.mp ran
    rw [List.append_cons]
    exact ih (tells.step stepped) onward

end Tells

/-! ## §3. Taking turns. -/

/-- However the steps of all requests follow each other, of these two one
has taken all its steps before the other takes its first. -/
def TakeTurns (requests : Fin n → Request σ D R) (locks : Locks) (state : σ) (i j : Fin n) :
    Prop :=
  ∀ schedule traffic, (start locks state).run? requests schedule = some traffic →
    Precedes schedule i j ∨ Precedes schedule j i

/-- Writes under one lock take turns. -/
theorem Contend.takeTurns (contend : Contend requests i j) (locks : Locks) (state : σ) :
    TakeTurns requests locks state i j := by
  intro schedule traffic ran
  have tells := Tells.run (tells_start locks state) ran
  rw [List.nil_append] at tells
  by_cases stepped : i ∈ schedule
  · by_cases steppedToo : j ∈ schedule
    · exact (tells.ordered i j contend stepped steppedToo).imp And.left And.left
    · exact .inl ⟨schedule, [], (List.append_nil _).symm, List.not_mem_nil, steppedToo⟩
  · exact .inl ⟨[], schedule, rfl, stepped, List.not_mem_nil⟩

/-- A write whose lock is free and not poisoned takes it. -/
theorem step?_take (writes : (requests i).writes = true) (waits : traffic.progress i = .waiting)
    (unheld : traffic.holder (requests i).repository.key = none)
    (unpoisoned : traffic.locks.isPoisoned (requests i).repository.key = false) :
    traffic.step? requests i
      = some ((traffic.put i (.running (requests i).program)).hold (requests i).repository.key
          (some i)) := by
  unfold step?
  rw [waits]
  simp [writes, unheld, unpoisoned]

/-- After a step of the second of two no step of the first follows. -/
theorem not_mem_after_of_precedes (before : List (Fin n)) {after : List (Fin n)}
    (precedes : Precedes (before ++ j :: after) i j) : i ∉ after := by
  obtain ⟨early, late, split, past, notYet⟩ := precedes
  rcases List.append_eq_append_iff.mp split with ⟨between, rfl, rest⟩ | ⟨between, rfl, rest⟩
  · cases between with
    | nil =>
      rw [List.nil_append] at rest
      exact fun member => past (rest ▸ List.mem_cons_of_mem j member)
    | cons head between =>
      -- the step of the second would be among the early ones
      obtain ⟨rfl, -⟩ := List.cons.inj rest
      exact absurd (List.mem_append_right before List.mem_cons_self) notYet
  · exact fun member =>
      past (rest ▸ List.mem_append_right between (List.mem_cons_of_mem j member))

/-- Two writes under different locks can both take theirs. -/
theorem exists_run?_of_key_ne (differ : i ≠ j) (writes : (requests i).writes = true)
    (writesToo : (requests j).writes = true)
    (otherKey : (requests j).repository.key ≠ (requests i).repository.key) {locks : Locks}
    (unpoisoned : locks.isPoisoned (requests i).repository.key = false)
    (unpoisonedToo : locks.isPoisoned (requests j).repository.key = false) (state : σ) :
    ∃ traffic, (start locks state).run? requests [i, j] = some traffic
      ∧ traffic.progress i = .running (requests i).program
      ∧ traffic.progress j = .running (requests j).program ∧ traffic.state = state := by
  have waits : (start locks state : Traffic n σ D R).progress i = .waiting := rfl
  have unheld : (start locks state : Traffic n σ D R).holder (requests i).repository.key = none :=
    rfl
  have taken := step?_take writes waits unheld unpoisoned
  generalize underLock :
    ((start locks state).put i (.running (requests i).program)).hold (requests i).repository.key
      (some i) = first at taken
  have waits : first.progress j = .waiting := by
    rw [← underLock]
    exact put_progress_of_ne _ differ.symm _
  have unheld : first.holder (requests j).repository.key = none := by
    rw [← underLock]
    exact Function.update_of_ne otherKey ..
  have sameLocks : first.locks = locks := by
    rw [← underLock]
    rfl
  have takenToo := step?_take writesToo waits unheld (sameLocks ▸ unpoisonedToo)
  refine ⟨(first.put j (.running (requests j).program)).hold (requests j).repository.key (some j),
    by simp [run?, taken, takenToo], ?_, put_progress_self .., ?_⟩
  · refine (put_progress_of_ne first differ _).trans ?_
    rw [← underLock]
    exact put_progress_self ..
  · show first.state = state
    rw [← underLock]
    rfl

/-- Writes under different locks do not wait for each other. -/
theorem not_takeTurns_of_key_ne (differ : i ≠ j) (writes : (requests i).writes = true)
    (writesToo : (requests j).writes = true)
    (otherKey : (requests j).repository.key ≠ (requests i).repository.key) {locks : Locks}
    (unpoisoned : locks.isPoisoned (requests i).repository.key = false)
    (unpoisonedToo : locks.isPoisoned (requests j).repository.key = false) (state : σ) :
    ¬ TakeTurns requests locks state i j := by
  intro turns
  -- both take their locks, and the first goes on
  obtain ⟨taken, ran, runs, -, -⟩ := exists_run?_of_key_ne differ writes writesToo otherKey
    unpoisoned unpoisonedToo state
  obtain ⟨last, goesOn⟩ : ∃ last, taken.step? requests i = some last :=
    exists_step_of_running runs
  have ranOn : (start locks state).run? requests ([i, j] ++ [i]) = some last := by
    rw [run?_append, ran]
    simp [run?, goesOn]
  rcases turns _ _ ranOn with precedes | precedes
  · exact not_mem_after_of_precedes [i] precedes List.mem_cons_self
  · exact not_mem_after_of_precedes [] precedes List.mem_cons_self

/-! ## §4. A write step by step. -/

/-- A write that runs makes its next store call. -/
theorem exists_step?_call {rest left : Program D (Except RepositoryFault R)} {state : σ}
    (writes : (requests i).writes = true) (runs : traffic.progress i = .running rest)
    (unfinished : ∀ result, rest ≠ .done result)
    (advances : rest.advance (requests i).repository.store (requests i).repository.location
      traffic.state = (some left, state)) :
    ∃ next, traffic.step? requests i = some next ∧ next.progress i = .running left
      ∧ next.state = state ∧ ∀ j, j ≠ i → next.progress j = traffic.progress j := by
  refine ⟨({ traffic with state := state } : Traffic n σ D R).put i (.running left), ?_,
    put_progress_self .., rfl, fun j other => put_progress_of_ne _ other _⟩
  unfold step?
  rw [runs]
  cases rest with
  | done result => exact absurd rfl (unfinished result)
  | load onward =>
    show some (traffic.proceed (requests i) i (.load onward)) = _
    rw [proceed, advances, writes]
  | save document onward =>
    show some (traffic.proceed (requests i) i (.save document onward)) = _
    rw [proceed, advances, writes]

/-- A write that loads goes on with the answer. -/
theorem exists_step?_load {onward : Except StoreFault D → Program D (Except RepositoryFault R)}
    {answer : Except StoreFault D} {state : σ} (writes : (requests i).writes = true)
    (runs : traffic.progress i = .running (.load onward))
    (loads : (requests i).repository.store.load (requests i).repository.location traffic.state
      = (.answer answer, state)) :
    ∃ next, traffic.step? requests i = some next ∧ next.progress i = .running (onward answer)
      ∧ next.state = state ∧ ∀ j, j ≠ i → next.progress j = traffic.progress j := by
  refine exists_step?_call writes runs (fun result same => by cases same) ?_
  rw [Program.advance, loads]

/-- So does one that saves. -/
theorem exists_step?_save {document : D}
    {onward : Except StoreFault Unit → Program D (Except RepositoryFault R)}
    {answer : Except StoreFault Unit} {state : σ} (writes : (requests i).writes = true)
    (runs : traffic.progress i = .running (.save document onward))
    (saves : (requests i).repository.store.save document (requests i).repository.location
      traffic.state = (.answer answer, state)) :
    ∃ next, traffic.step? requests i = some next ∧ next.progress i = .running (onward answer)
      ∧ next.state = state ∧ ∀ j, j ≠ i → next.progress j = traffic.progress j := by
  refine exists_step?_call writes runs (fun result same => by cases same) ?_
  rw [Program.advance, saves]

/-- A write that is done ends. -/
theorem exists_step?_end {result : Except RepositoryFault R}
    (writes : (requests i).writes = true) (runs : traffic.progress i = .running (.done result)) :
    ∃ next, traffic.step? requests i = some next ∧ next.progress i = .ended (.result result)
      ∧ next.state = traffic.state ∧ ∀ j, j ≠ i → next.progress j = traffic.progress j := by
  refine ⟨(traffic.put i (.ended (.result result))).hold (requests i).repository.key none, ?_,
    put_progress_self .., rfl, fun j other => put_progress_of_ne _ other _⟩
  unfold step?
  rw [runs]
  show some (traffic.finish (requests i) i (.result result)) = _
  rw [finish, if_pos writes]

/-- What a write makes of what it loaded: it saves, loads what it saved and
is done. -/
structure Rewrites (request : Request σ D R) (seen : Except StoreFault D) (before after : σ)
    (result : Except RepositoryFault R) : Prop where
  /-- It is a write. -/
  writes : request.writes = true
  /-- It goes from a load to a save, from there to a load, and then ends. -/
  course : ∃ onward document confirm loaded, request.program = .load onward
    ∧ (∃ saved, onward seen = .save document saved ∧ saved (.ok ()) = .load confirm)
    ∧ request.repository.store.save document request.repository.location before
      = (.answer (.ok ()), after)
    ∧ request.repository.store.load request.repository.location after = (.answer loaded, after)
    ∧ confirm loaded = .done result

/-- A write that has loaded ends with its next three steps, while the others
wait or stand still. -/
theorem Rewrites.exists_run? {seen : Except StoreFault D} {before after : σ}
    {result : Except RepositoryFault R} (rewrites : Rewrites (requests i) seen before after result)
    {onward : Except StoreFault D → Program D (Except RepositoryFault R)}
    (program : (requests i).program = .load onward)
    (runs : traffic.progress i = .running (onward seen)) (state : traffic.state = before) :
    ∃ next, traffic.run? requests [i, i, i] = some next
      ∧ next.progress i = .ended (.result result) ∧ next.state = after
      ∧ ∀ j, j ≠ i → next.progress j = traffic.progress j := by
  obtain ⟨_, document, confirm, loaded, programToo, ⟨saved, continues, confirms⟩, saves, loads,
    ends⟩ := rewrites.course
  obtain rfl := Program.load.inj (program.symm.trans programToo)
  rw [continues] at runs
  obtain ⟨second, step, runs, stateSecond, others⟩ :=
    exists_step?_save rewrites.writes runs (by rw [state, saves])
  rw [confirms] at runs
  obtain ⟨third, stepSecond, runs, stateThird, othersThird⟩ :=
    exists_step?_load rewrites.writes runs (by rw [stateSecond, loads])
  rw [ends] at runs
  obtain ⟨last, stepThird, ended, stateLast, othersLast⟩ := exists_step?_end rewrites.writes runs
  refine ⟨last, by simp [run?, step, stepSecond, stepThird], ended, stateLast.trans stateThird, ?_⟩
  intro j other
  rw [othersLast j other, othersThird j other, others j other]

/-- Two writes under different locks that both load before either saves: the
second saves over what the first has saved. -/
theorem exists_run?_of_race (differ : i ≠ j)
    (otherKey : (requests j).repository.key ≠ (requests i).repository.key) {locks : Locks}
    (unpoisoned : locks.isPoisoned (requests i).repository.key = false)
    (unpoisonedToo : locks.isPoisoned (requests j).repository.key = false)
    {seen seenToo : Except StoreFault D} {before middle after : σ}
    {result resultToo : Except RepositoryFault R}
    (loads : (requests i).repository.store.load (requests i).repository.location before
      = (.answer seen, before))
    (loadsToo : (requests j).repository.store.load (requests j).repository.location before
      = (.answer seenToo, before))
    (first : Rewrites (requests i) seen before middle result)
    (second : Rewrites (requests j) seenToo middle after resultToo) :
    ∃ traffic, (start locks before).run? requests [i, j, i, j, i, i, i, j, j, j] = some traffic
      ∧ traffic.progress i = .ended (.result result)
      ∧ traffic.progress j = .ended (.result resultToo) ∧ traffic.state = after := by
  obtain ⟨onward, _, _, _, program, -⟩ := first.course
  obtain ⟨onwardToo, _, _, _, programToo, -⟩ := second.course
  obtain ⟨taken, ran, runs, runsToo, state⟩ := exists_run?_of_key_ne differ first.writes
    second.writes otherKey unpoisoned unpoisonedToo before
  rw [program] at runs
  rw [programToo] at runsToo
  -- both load the same state
  obtain ⟨loaded, step, runs, state, others⟩ :=
    exists_step?_load first.writes runs (by rw [state, loads])
  obtain ⟨both, stepToo, runsToo, state, othersToo⟩ :=
    exists_step?_load second.writes ((others j differ.symm).trans runsToo)
      (by rw [state, loadsToo])
  have runs := (othersToo i differ).trans runs
  -- then one saves after the other
  obtain ⟨saved, ranFirst, ended, state, others⟩ := first.exists_run? program runs state
  have runsToo := (others j differ.symm).trans runsToo
  obtain ⟨last, ranSecond, endedToo, state, others⟩ :=
    second.exists_run? programToo runsToo state
  refine ⟨last, ?_, (others i differ).trans ended, endedToo, state⟩
  show (start locks before).run? requests ([i, j] ++ ([i, j] ++ ([i, i, i] ++ [j, j, j]))) = _
  have ranLoads : taken.run? requests [i, j] = some both := by simp [run?, step, stepToo]
  simp only [run?_append, ran, ranLoads, ranFirst, ranSecond, Option.bind_some]

end Traffic

/-! ## §5. Two paths to one file. -/

/-- A write of the document at a path, by a repository that was built for
it. -/
structure Request.WritesAt {σ D R : Type} (request : Request σ D R) (tree : FileTree)
    (path : Path) : Prop where
  /-- It is a write. -/
  writes : request.writes = true
  /-- It is made to a repository of the path. -/
  built : ∃ store schema, request.repository = .ofLocation store tree.home ⟨path, schema⟩

theorem Request.WritesAt.key {σ D R : Type} {request : Request σ D R} {tree : FileTree}
    {path : Path} (writesAt : request.WritesAt tree path) :
    request.repository.key = path.key tree.home := by
  obtain ⟨store, schema, built⟩ := writesAt.built
  rw [built]
  rfl

/-- Writes of one file take turns exactly if its two paths have one key, and
they have if neither goes back with `..`, but not if only one does. -/
theorem Traffic.writes_of_one_file {tree : FileTree} {place : Place} {first second : Path}
    (leads : tree.locate first = .ok place) (leadsToo : tree.locate second = .ok place)
    (rooted : ".." ∉ tree.home) :
    (".." ∉ first.names → ".." ∉ second.names → first.key tree.home = second.key tree.home)
      ∧ (first.key tree.home = second.key tree.home → (".." ∈ first.names ↔ ".." ∈ second.names))
      ∧ ∀ {n : Nat} {σ D R : Type} (requests : Fin n → Request σ D R) (locks : Locks) (state : σ)
          (i j : Fin n), i ≠ j → (requests i).WritesAt tree first →
          (requests j).WritesAt tree second →
          (first.key tree.home = second.key tree.home → TakeTurns requests locks state i j)
            ∧ (first.key tree.home ≠ second.key tree.home →
              locks.isPoisoned (first.key tree.home) = false →
              locks.isPoisoned (second.key tree.home) = false →
              ¬ TakeTurns requests locks state i j) := by
  refine ⟨?_, FileTree.mem_names_iff_of_key_eq rooted leads leadsToo, ?_⟩
  · intro down downToo
    rw [FileTree.key_of_locate down leads, FileTree.key_of_locate downToo leadsToo]
  · intro n σ D R requests locks state i j differ writesAt writesAtToo
    constructor
    · intro sameKey
      have contend : Contend requests i j :=
        ⟨differ, writesAt.writes, writesAtToo.writes, by rw [writesAt.key, writesAtToo.key, sameKey]⟩
      exact contend.takeTurns locks state
    · intro otherKey unpoisoned unpoisonedToo
      rw [← writesAt.key] at unpoisoned
      rw [← writesAtToo.key] at unpoisonedToo
      have otherKeys : (requests j).repository.key ≠ (requests i).repository.key := by
        rw [writesAt.key, writesAtToo.key]
        exact otherKey.symm
      exact not_takeTurns_of_key_ne differ writesAt.writes writesAtToo.writes otherKeys
        unpoisoned unpoisonedToo state

/-! ## §6. Two creations at once. -/

theorem Store.load_checked {D : Type} {codec : Codec D} {validator : Validator}
    {location : Location} {tree : FileTree} {document : D}
    (loads : Store.loadDocument codec location tree.read validator = .ok document) :
    (Store.checked codec validator).load location tree = (.answer (.ok document), tree) := by
  unfold checked
  simp only [loads]

theorem Store.save_checked {D : Type} {codec : Codec D} {validator : Validator}
    {location : Location} {tree after : FileTree} {document : D}
    (saved : Store.saveDocument codec document location tree validator = (.ok (), after)) :
    (Store.checked codec validator).save document location tree
      = (.answer (.ok ()), after) := by
  unfold checked
  simp only [saved]


namespace Collection

/-- Two markets to create. -/
def firstMarket : Market := ⟨"eth", "ETH", "ETH", "USD", true, "grid"⟩

/-- The other one. -/
def secondMarket : Market := ⟨"btc", "BTC", "BTC", "USD", true, "grid"⟩

/-- A request to create a market in the file at a path. -/
def creation (path : Path) (market : Market) :
    Request FileTree (List MarketRecord) (CollectionAnswer Market) :=
  markets.onFiles MarketRecord.documentCodec .keywords ⟨path, marketFiles.schema⟩ (path.key [])
    (.create market)

/-- Two creations at once, the second through a path of its own. -/
def creations (path : Path) : Fin 2 → Request FileTree (List MarketRecord) (CollectionAnswer Market)
  | 0 => creation marketFiles.data firstMarket
  | 1 => creation path secondMarket

/-- The path of the markets with idle segments. -/
def idlePath : Path := ⟨"./datastore//markets.json"⟩

/-- The path of the markets with a way back. -/
def detour : Path := ⟨"datastore/../datastore/markets.json"⟩

/-- Through a path with idle segments the two creations take turns. -/
theorem writes_of_one_file_idle :
    (shelf "markets.schema.json" []).locate marketFiles.data = .ok ["datastore", "markets.json"]
      ∧ (shelf "markets.schema.json" []).locate idlePath = .ok ["datastore", "markets.json"]
      ∧ marketFiles.data.key [] = idlePath.key []
      ∧ Traffic.TakeTurns (creations idlePath) .fresh (shelf "markets.schema.json" []) 0 1 := by
  have leads : (shelf "markets.schema.json" []).locate marketFiles.data
      = .ok ["datastore", "markets.json"] := rfl
  have leadsToo : (shelf "markets.schema.json" []).locate idlePath
      = .ok ["datastore", "markets.json"] := rfl
  obtain ⟨sameKey, -, turns⟩ := Traffic.writes_of_one_file leads leadsToo List.not_mem_nil
  have same := sameKey (by decide) (by decide)
  have writesAt : (creations idlePath 0).WritesAt (shelf "markets.schema.json" [])
      marketFiles.data := ⟨rfl, _, _, rfl⟩
  have writesAtToo : (creations idlePath 1).WritesAt (shelf "markets.schema.json" []) idlePath :=
    ⟨rfl, _, _, rfl⟩
  exact ⟨leads, leadsToo, same,
    (turns (creations idlePath) .fresh _ 0 1 (by decide) writesAt writesAtToo).1 same⟩

/-- A path to the markets on the shelf. -/
structure LeadsToShelf (path : Path) : Prop where
  /-- It is read as the data file. -/
  reads : ∀ document, (shelf "markets.schema.json" document).read path
    = .ok (Store.documentText MarketRecord.documentCodec document).toUTF8
  /-- The data file is replaced through it. -/
  replaces : ∀ document next, Store.replaceFile path
      (Store.documentText MarketRecord.documentCodec next).toUTF8
      (shelf "markets.schema.json" document)
    = (.ok (), shelf "markets.schema.json" next)

theorem leadsToShelf_data : LeadsToShelf marketFiles.data := ⟨fun _ => rfl, fun _ _ => rfl⟩

theorem leadsToShelf_detour : LeadsToShelf detour := ⟨fun _ => rfl, fun _ _ => rfl⟩

section Creations

variable {path : Path} (leads : LeadsToShelf path)

include leads

theorem load_creation {document : List MarketRecord}
    (filled : ∀ market ∈ document, market.Filled) :
    (Store.checked MarketRecord.documentCodec).load ⟨path, marketFiles.schema⟩
        (shelf "markets.schema.json" document)
      = (.answer (.ok document), shelf "markets.schema.json" document) :=
  Store.load_checked (Shipped.loadDocument_of_filled filled (read_schema_shelf document)
    (leads.reads document))

theorem save_creation (document : List MarketRecord) {next : List MarketRecord}
    (filled : ∀ market ∈ next, market.Filled) :
    (Store.checked MarketRecord.documentCodec).save next ⟨path, marketFiles.schema⟩
        (shelf "markets.schema.json" document)
      = (.answer (.ok ()), shelf "markets.schema.json" next) := by
  have schema : (shelf "markets.schema.json" document).read
      (⟨path, marketFiles.schema⟩ : Location).schema = .ok Shipped.marketsSchema.toUTF8 :=
    read_schema_shelf document
  have passed := (Shipped.checkDocument_markets_iff schema).mpr filled
  exact Store.save_checked ((Store.saveDocument_of_check passed).trans
    (leads.replaces document next))

/-- A creation that has loaded an empty document. -/
theorem rewrites_creation {market : Market} (filled : market.toRecord.Filled)
    (before : List MarketRecord) :
    Traffic.Rewrites (creation path market) (.ok []) (shelf "markets.schema.json" before)
      (shelf "markets.schema.json" [market.toRecord]) (.ok (.outcome (.found market))) := by
  have filledAll : ∀ stored ∈ [market.toRecord], stored.Filled := by
    intro stored member
    rwa [List.mem_singleton.mp member]
  -- the schema on the shelf is too long to be compared by evaluation, so the calls are rewritten
  have store : (creation path market).repository.store
      = Store.checked MarketRecord.documentCodec := rfl
  have location : (creation path market).repository.location = ⟨path, marketFiles.schema⟩ := rfl
  refine ⟨rfl, _, [market.toRecord], _, .ok [market.toRecord], rfl, ⟨_, rfl, rfl⟩,
    by rw [store, location]; exact save_creation leads before filledAll,
    by rw [store, location]; exact load_creation leads filledAll, ?_⟩
  have found : markets.find? (markets.entityId market) [market.toRecord]
      = some market.toRecord := by
    have same : markets.entryId market.toRecord = markets.entityId market := rfl
    simp [find?, same]
  dsimp only
  rw [found]
  rfl

end Creations

/-- Through a path with a way back to the same file both creations load the
document without markets, both answer that they were made, and the first
market is lost. -/
theorem created_market_lost :
    (shelf "markets.schema.json" []).locate marketFiles.data = .ok ["datastore", "markets.json"]
      ∧ (shelf "markets.schema.json" []).locate detour = .ok ["datastore", "markets.json"]
      ∧ marketFiles.data.key [] ≠ detour.key []
      ∧ ∃ traffic : Traffic 2 FileTree (List MarketRecord) (CollectionAnswer Market),
          (Traffic.start .fresh (shelf "markets.schema.json" [])).run? (creations detour)
              [0, 1, 0, 1, 0, 0, 0, 1, 1, 1] = some traffic
            ∧ traffic.progress 0 = .ended (.result (.ok (.outcome (.found firstMarket))))
            ∧ traffic.progress 1 = .ended (.result (.ok (.outcome (.found secondMarket))))
            ∧ Store.loadDocument MarketRecord.documentCodec marketFiles traffic.state.read
              = .ok [secondMarket.toRecord] := by
  have otherKey : detour.key [] ≠ marketFiles.data.key [] := by decide
  have none : ∀ market ∈ ([] : List MarketRecord), market.Filled := by simp
  have filledSecond : ∀ market ∈ [secondMarket.toRecord], market.Filled := by decide
  have filledFirst : firstMarket.toRecord.Filled := by decide
  have filledOther : secondMarket.toRecord.Filled := by decide
  have first : Traffic.Rewrites (creations detour 0) _ _ _ _ :=
    rewrites_creation leadsToShelf_data filledFirst []
  have second : Traffic.Rewrites (creations detour 1) _ _ _ _ :=
    rewrites_creation leadsToShelf_detour filledOther [firstMarket.toRecord]
  have unpoisoned (key : Path.Key) : Locks.fresh.isPoisoned key = false := rfl
  obtain ⟨traffic, ran, ended, endedToo, state⟩ := Traffic.exists_run?_of_race (by decide) otherKey
    (unpoisoned _) (unpoisoned _) (load_creation leadsToShelf_data none)
    (load_creation leadsToShelf_detour none) first second
  refine ⟨rfl, rfl, otherKey.symm, traffic, ran, ended, endedToo, ?_⟩
  rw [state]
  exact load_shelf filledSecond

end Collection

end TradingConfig
