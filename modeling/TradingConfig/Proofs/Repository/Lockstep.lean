/-
  TradingConfig.Proofs.Repository.Lockstep
  ────────────────────────────────
  **TWO RUNS OF THE SAME CALLS.**

  Two states are related.  Where every program of a call ends alike from
  related states and keeps them related, so does every session
  (`Lockstep.serveEach`).  The relation may depend on a note that is taken
  of every call and of how it ended.
-/
import TradingConfig.Proofs.Repository.Twin

namespace TradingConfig.DocumentClass

variable {σ V N : Type} {documentClass : DocumentClass}
  {store : Store σ documentClass.Document} {view : σ → V}
  {behaviour : Behaviour V documentClass.Document} {location : Location} {key : Path.Key}
  {note : documentClass.Call → Ending (Except RepositoryFault documentClass.Answer) → N → N}
  {Related : N → V → V → Prop}

/-- The program of every call ends alike from related states, and keeps them
related. -/
def Lockstep (documentClass : DocumentClass) (behaviour : Behaviour V documentClass.Document)
    (location : Location)
    (note : documentClass.Call → Ending (Except RepositoryFault documentClass.Answer) → N → N)
    (Related : N → V → V → Prop) : Prop :=
  ∀ call noted first second, Related noted first second →
    ∃ result firstAfter secondAfter,
      behaviour.run location (documentClass.program call) first = (result, firstAfter)
        ∧ behaviour.run location (documentClass.program call) second = (result, secondAfter)
        ∧ Related (note call (.result result) noted) firstAfter secondAfter

/-- So does every call, unless it is refused; then it must not be noted. -/
theorem Lockstep.serve (lockstep : documentClass.Lockstep behaviour location note Related)
    (passes : ∀ call noted, note call (.result (.error .poisoned)) noted = noted)
    (behaves : store.BehavesAs view behaviour) (locks : Locks) (call : documentClass.Call)
    {noted : N} {first second : σ} (related : Related noted (view first) (view second)) :
    ∃ ending firstAfter secondAfter,
      (documentClass.request ⟨store, location, key⟩ call).serve locks first
          = (ending, locks, firstAfter)
        ∧ (documentClass.request ⟨store, location, key⟩ call).serve locks second
          = (ending, locks, secondAfter)
        ∧ Related (note call ending noted) (view firstAfter) (view secondAfter) := by
  let request := documentClass.request ⟨store, location, key⟩ call
  cases refused : request.writes && locks.isPoisoned request.repository.key with
  | true =>
    refine ⟨_, first, second, Request.serve_of_refused refused,
      Request.serve_of_refused refused, ?_⟩
    rw [passes]
    exact related
  | false =>
    have admitted : request.writes = true → locks.isPoisoned request.repository.key = false := by
      intro writes
      rw [writes] at refused
      exact refused
    obtain ⟨result, seen, seenSecond, ran, ranSecond, relatedAfter⟩ :=
      lockstep call noted (view first) (view second) related
    obtain ⟨firstAfter, runs, same⟩ := behaves.run location (documentClass.program call) first
    obtain ⟨secondAfter, runsSecond, sameSecond⟩ :=
      behaves.run location (documentClass.program call) second
    rw [ran] at runs same
    rw [ranSecond] at runsSecond sameSecond
    refine ⟨_, firstAfter, secondAfter, Request.serve_of_run admitted runs,
      Request.serve_of_run admitted runsSecond, ?_⟩
    rw [same, sameSecond]
    exact relatedAfter

/-- So do any number of calls. -/
theorem Lockstep.serveEach (lockstep : documentClass.Lockstep behaviour location note Related)
    (passes : ∀ call noted, note call (.result (.error .poisoned)) noted = noted)
    (behaves : store.BehavesAs view behaviour) (locks : Locks) (calls : List documentClass.Call)
    {noted : N} {first second : σ} (related : Related noted (view first) (view second)) :
    ∃ endings firstAfter secondAfter,
      Request.serveEach (calls.map (documentClass.request ⟨store, location, key⟩)) locks first
          = (endings, locks, firstAfter)
        ∧ Request.serveEach (calls.map (documentClass.request ⟨store, location, key⟩)) locks second
          = (endings, locks, secondAfter)
        ∧ Related ((calls.zip endings).foldl (fun noted entry => note entry.1 entry.2 noted) noted)
          (view firstAfter) (view secondAfter) := by
  induction calls generalizing noted first second with
  | nil => exact ⟨[], first, second, rfl, rfl, related⟩
  | cons call rest ih =>
    obtain ⟨ending, firstNext, secondNext, served, servedSecond, relatedNext⟩ :=
      lockstep.serve passes behaves locks call related
    obtain ⟨endings, firstAfter, secondAfter, ran, ranSecond, relatedAfter⟩ := ih relatedNext
    exact ⟨ending :: endings, firstAfter, secondAfter, Request.serveEach_cons served ran,
      Request.serveEach_cons servedSecond ranSecond, relatedAfter⟩

end TradingConfig.DocumentClass
