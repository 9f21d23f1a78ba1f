/-
  TradingConfig.Proofs.Repository.Completion
  ────────────────────────────────
  **NO REQUEST WAITS FOR EVER.**

  A request under the lock gives it back wherever its program ends: with a
  change, a conflict, a miss or a fault.  So whatever steps were taken,
  every request can still take its last one (`exists_completion`).
-/
import TradingConfig.Proofs.Repository.Linearize

namespace TradingConfig.Traffic

variable {n : Nat} {σ V D R : Type} {store : Store σ D} {view : σ → V} {behaviour : Behaviour V D}
  {requests : Fin n → Request σ D R} {key : Path.Key} {locks : Locks} {first : V}
  {log : List (Fin n × Ending (Except RepositoryFault R))} {traffic next final : Traffic n σ D R}
  {i : Fin n}

/-- A traffic that steps lead to. -/
def Reaches (requests : Fin n → Request σ D R) (traffic final : Traffic n σ D R) : Prop :=
  ∃ schedule, traffic.run? requests schedule = some final

theorem Reaches.refl (traffic : Traffic n σ D R) : Reaches requests traffic traffic :=
  ⟨[], rfl⟩

theorem Reaches.step (step : traffic.step? requests i = some next)
    (reaches : Reaches requests next final) : Reaches requests traffic final := by
  obtain ⟨schedule, ran⟩ := reaches
  refine ⟨i :: schedule, ?_⟩
  show (traffic.step? requests i).bind _ = _
  rw [step]
  exact ran

theorem Reaches.trans (reaches : Reaches requests traffic next)
    (onward : Reaches requests next final) : Reaches requests traffic final := by
  obtain ⟨before, ranBefore⟩ := reaches
  obtain ⟨after, ranAfter⟩ := onward
  refine ⟨before ++ after, ?_⟩
  rw [run?_append, ranBefore]
  exact ranAfter

/-! ## §1. Steps that can be taken. -/

theorem exists_step_of_running {rest : Program D (Except RepositoryFault R)}
    (runs : traffic.progress i = .running rest) : ∃ next, traffic.step? requests i = some next := by
  unfold step?
  rw [runs]
  cases rest with
  | done result => exact ⟨_, rfl⟩
  | load onward => exact ⟨_, rfl⟩
  | save document onward => exact ⟨_, rfl⟩

theorem exists_step_of_waiting (rivals : Rivals requests store key)
    (waits : traffic.progress i = .waiting) (unheld : traffic.holder key = none) :
    ∃ next, traffic.step? requests i = some next := by
  unfold step?
  rw [waits, rivals.key i, unheld]
  simp only [Option.isSome_none]
  cases (requests i).writes with
  | false => exact ⟨_, rfl⟩
  | true =>
    cases traffic.locks.isPoisoned key with
    | false => exact ⟨_, rfl⟩
    | true => exact ⟨_, rfl⟩

/-! ## §2. Requests that come to their end. -/

theorem Stepped.of_done (stepped : Stepped view behaviour requests key i traffic next)
    {result : Except RepositoryFault R} (runs : traffic.progress i = .running (.done result)) :
    (∃ ending, next.progress i = .ended ending) ∧ next.holder key = none := by
  cases stepped with
  | release _ => exact ⟨⟨_, put_progress_self ..⟩, hold_holder_self ..⟩
  | _ other => cases other.symm.trans runs

theorem Stepped.of_load (stepped : Stepped view behaviour requests key i traffic next)
    {onward : Except StoreFault D → Program D (Except RepositoryFault R)}
    (runs : traffic.progress i = .running (.load onward)) :
    ∃ answer, next.progress i = .running (onward answer) := by
  cases stepped with
  | load loads _ =>
    cases loads.symm.trans runs
    exact ⟨_, put_progress_self ..⟩
  | _ other => cases other.symm.trans runs

theorem Stepped.of_save (stepped : Stepped view behaviour requests key i traffic next)
    {document : D} {onward : Except StoreFault Unit → Program D (Except RepositoryFault R)}
    (runs : traffic.progress i = .running (.save document onward)) :
    ∃ answer, next.progress i = .running (onward answer) := by
  cases stepped with
  | save saves _ =>
    cases saves.symm.trans runs
    exact ⟨_, put_progress_self ..⟩
  | _ other => cases other.symm.trans runs

theorem Stepped.of_waiting (stepped : Stepped view behaviour requests key i traffic next)
    (waits : traffic.progress i = .waiting) :
    (∃ ending, next.progress i = .ended ending) ∨ ∃ rest, next.progress i = .running rest := by
  cases stepped with
  | read _ _ _ => exact .inl ⟨_, put_progress_self ..⟩
  | refuse _ _ _ => exact .inl ⟨_, put_progress_self ..⟩
  | take _ _ _ _ => exact .inr ⟨_, put_progress_self ..⟩
  | _ other => cases other.symm.trans waits

section Ends

variable (rivals : Rivals requests store key) (behaves : store.BehavesAs view behaviour)

include rivals behaves

theorem Logged.exists_logged (logged : Logged behaviour requests locks first view key log traffic)
    (reaches : Reaches requests traffic final) :
    ∃ more, Logged behaviour requests locks first view key more final := by
  obtain ⟨schedule, ran⟩ := reaches
  obtain ⟨more, loggedFinal, -⟩ := Logged.run rivals behaves schedule logged ran
  exact ⟨_, loggedFinal⟩

/-- The request under way can end, and gives the lock back. -/
theorem Logged.exists_end_of_running (rest : Program D (Except RepositoryFault R))
    (logged : Logged behaviour requests locks first view key log traffic)
    (runs : traffic.progress i = .running rest) :
    ∃ final, Reaches requests traffic final ∧ (∃ ending, final.progress i = .ended ending)
      ∧ final.holder key = none ∧ ∀ j, j ≠ i → final.progress j = traffic.progress j := by
  -- induction on what is left of the program; the steps are all of this request
  induction rest generalizing traffic log with
  | done result =>
    obtain ⟨next, step⟩ := exists_step_of_running runs
    have stepped := logged.stepped rivals behaves step
    obtain ⟨ended, unheld⟩ := stepped.of_done runs
    exact ⟨next, .step step (.refl next), ended, unheld, fun j => stepped.progress_of_ne⟩
  | load onward ih =>
    obtain ⟨next, step⟩ := exists_step_of_running runs
    have stepped := logged.stepped rivals behaves step
    obtain ⟨more, loggedNext⟩ := logged.step rivals stepped
    obtain ⟨answer, runsNext⟩ := stepped.of_load runs
    obtain ⟨final, reaches, ended, unheld, others⟩ := ih answer loggedNext runsNext
    exact ⟨final, .step step reaches, ended, unheld,
      fun j differs => (others j differs).trans (stepped.progress_of_ne differs)⟩
  | save document onward ih =>
    obtain ⟨next, step⟩ := exists_step_of_running runs
    have stepped := logged.stepped rivals behaves step
    obtain ⟨more, loggedNext⟩ := logged.step rivals stepped
    obtain ⟨answer, runsNext⟩ := stepped.of_save runs
    obtain ⟨final, reaches, ended, unheld, others⟩ := ih answer loggedNext runsNext
    exact ⟨final, .step step reaches, ended, unheld,
      fun j differs => (others j differs).trans (stepped.progress_of_ne differs)⟩

/-- A request that waits can end once the lock is free. -/
theorem Logged.exists_end_of_waiting
    (logged : Logged behaviour requests locks first view key log traffic)
    (waits : traffic.progress i = .waiting) (unheld : traffic.holder key = none) :
    ∃ final, Reaches requests traffic final ∧ ∃ ending, final.progress i = .ended ending := by
  obtain ⟨next, step⟩ := exists_step_of_waiting rivals waits unheld
  have stepped := logged.stepped rivals behaves step
  obtain ⟨more, loggedNext⟩ := logged.step rivals stepped
  rcases stepped.of_waiting waits with ended | ⟨rest, runs⟩
  · exact ⟨next, .step step (.refl next), ended⟩
  · obtain ⟨final, reaches, ended, -⟩ := loggedNext.exists_end_of_running rivals behaves rest runs
    exact ⟨final, .step step reaches, ended⟩

/-- Every request can end. -/
theorem Logged.exists_end (logged : Logged behaviour requests locks first view key log traffic)
    (i : Fin n) :
    ∃ final, Reaches requests traffic final ∧ ∃ ending, final.progress i = .ended ending := by
  cases progress : traffic.progress i with
  | ended ending => exact ⟨traffic, .refl traffic, ending, progress⟩
  | running rest =>
    obtain ⟨final, reaches, ended, -⟩ := logged.exists_end_of_running rivals behaves rest progress
    exact ⟨final, reaches, ended⟩
  | waiting =>
    cases holder : traffic.holder key with
    | none => exact logged.exists_end_of_waiting rivals behaves progress holder
    | some other =>
      -- the request that holds the lock ends first
      obtain ⟨rest, runs⟩ := logged.held other holder
      have differs : i ≠ other := by
        rintro rfl
        cases progress.symm.trans runs
      obtain ⟨middle, reaches, -, unheld, others⟩ :=
        logged.exists_end_of_running rivals behaves rest runs
      obtain ⟨more, loggedMiddle⟩ := logged.exists_logged rivals behaves reaches
      obtain ⟨final, onward, ended⟩ := loggedMiddle.exists_end_of_waiting rivals behaves
        ((others i differs).trans progress) unheld
      exact ⟨final, reaches.trans onward, ended⟩

/-- A request that has ended takes no further step. -/
theorem Logged.ended_stays (logged : Logged behaviour requests locks first view key log traffic)
    (reaches : Reaches requests traffic final)
    {ending : Ending (Except RepositoryFault R)} (ended : traffic.progress i = .ended ending) :
    final.progress i = .ended ending := by
  obtain ⟨schedule, ran⟩ := reaches
  induction schedule generalizing traffic log with
  | nil =>
    obtain rfl := Option.some.inj ran
    exact ended
  | cons j rest ih =>
    obtain ⟨next, step, ranRest⟩ := Option.bind_eq_some_iff.mp ran
    have differs : i ≠ j := by
      rintro rfl
      unfold step? at step
      rw [ended] at step
      cases step
    have stepped := logged.stepped rivals behaves step
    obtain ⟨more, loggedNext⟩ := logged.step rivals stepped
    exact ih loggedNext ((stepped.progress_of_ne differs).trans ended) ranRest

/-- The requests of a list can end, one after the other. -/
theorem Logged.exists_ends
    (logged : Logged behaviour requests locks first view key log traffic) (todo : List (Fin n)) :
    ∃ final, Reaches requests traffic final
      ∧ ∀ i ∈ todo, ∃ ending, final.progress i = .ended ending := by
  induction todo with
  | nil => exact ⟨traffic, .refl traffic, fun i member => absurd member List.not_mem_nil⟩
  | cons i rest ih =>
    obtain ⟨middle, reaches, endedRest⟩ := ih
    obtain ⟨more, loggedMiddle⟩ := logged.exists_logged rivals behaves reaches
    obtain ⟨final, onward, ended⟩ := loggedMiddle.exists_end rivals behaves i
    refine ⟨final, reaches.trans onward, ?_⟩
    intro j member
    rcases List.mem_cons.mp member with rfl | later
    · exact ended
    · obtain ⟨ending, endedBefore⟩ := endedRest j later
      exact ⟨ending, loggedMiddle.ended_stays rivals behaves onward endedBefore⟩

/-- Whatever steps were taken, all requests can come to their end. -/
theorem exists_completion {state : σ} {schedule : List (Fin n)}
    (ran : (start locks state).run? requests schedule = some traffic) :
    ∃ rest final, (start locks state).run? requests (schedule ++ rest) = some final
      ∧ final.Complete := by
  have logged : Logged behaviour requests locks (view state) view key [] (start locks state) :=
    logged_start rfl
  obtain ⟨log, loggedTraffic⟩ := logged.exists_logged rivals behaves ⟨schedule, ran⟩
  obtain ⟨final, ⟨rest, ranRest⟩, ended⟩ :=
    loggedTraffic.exists_ends rivals behaves (List.finRange n)
  refine ⟨rest, final, ?_, fun i => ended i (List.mem_finRange i)⟩
  rw [run?_append, ran]
  exact ranRest

end Ends

end TradingConfig.Traffic
