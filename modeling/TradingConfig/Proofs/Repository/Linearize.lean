/-
  TradingConfig.Proofs.Repository.Linearize
  ────────────────────────────────
  **REQUESTS AT THE SAME TIME ARE SERVED IN SOME ORDER.**

  Every request takes effect at one of its own steps: a read at its load, a
  request under the lock at its save, and if it does not save, where it
  gives the lock back.  The log lists the requests in the order in which they
  take effect, each with its ending.  The invariant (`Logged`) says that the
  log is what serving the requests one after the other gives, and that the
  request under way — there is at most one under the lock — goes on as the
  log says.  Each step keeps it (`Logged.step`), so each schedule does
  (`Logged.run`).
-/
import Mathlib.Data.List.FinRange
import TradingConfig.Proofs.Repository.Behaviour
import TradingConfig.Repository.Interleaving

namespace TradingConfig

/-- Requests over one store under one lock: those that take the lock save
at most once, the others are single loads. -/
structure Rivals {n : Nat} {σ D R : Type} (requests : Fin n → Request σ D R) (store : Store σ D)
    (key : Path.Key) : Prop where
  /-- They are over one store. -/
  store : ∀ i, (requests i).repository.store = store
  /-- They are under one lock. -/
  key : ∀ i, (requests i).repository.key = key
  /-- Each saves at most once. -/
  transacts : ∀ i, (requests i).program.Transacts
  /-- Without the lock each is a single load. -/
  singleLoad : ∀ i, (requests i).writes = false → (requests i).program.SingleLoad

namespace Traffic

variable {n : Nat} {σ V D R : Type}

@[simp] theorem put_progress_self (traffic : Traffic n σ D R) (i : Fin n)
    (progress : Progress D R) : (traffic.put i progress).progress i = progress :=
  Function.update_self ..

@[simp] theorem put_progress_of_ne (traffic : Traffic n σ D R) {i j : Fin n} (differs : j ≠ i)
    (progress : Progress D R) : (traffic.put i progress).progress j = traffic.progress j :=
  Function.update_of_ne differs ..

@[simp] theorem hold_holder_self (traffic : Traffic n σ D R) (key : Path.Key)
    (holder : Option (Fin n)) : (traffic.hold key holder).holder key = holder :=
  Function.update_self ..

/-! ## §1. What a step can be. -/

section Steps

variable (view : σ → V) (behaviour : Behaviour V D) (requests : Fin n → Request σ D R)
  (key : Path.Key) (i : Fin n)

/-- The steps of a request, by the behaviour of the store. -/
inductive Stepped (traffic : Traffic n σ D R) : Traffic n σ D R → Prop where
  /-- A read loads and ends. -/
  | read {state : σ} (waits : traffic.progress i = .waiting)
      (free : (requests i).writes = false) (seen : view state = view traffic.state) :
      Stepped traffic (({ traffic with state := state } : Traffic n σ D R).put i
        (.ended (.result (behaviour.run (requests i).repository.location (requests i).program
          (view traffic.state)).1)))
  /-- A poisoned lock is refused. -/
  | refuse (waits : traffic.progress i = .waiting) (writes : (requests i).writes = true)
      (poisoned : traffic.locks.isPoisoned key = true) :
      Stepped traffic (traffic.put i (.ended (.result (.error .poisoned))))
  /-- The lock is taken. -/
  | take (waits : traffic.progress i = .waiting) (writes : (requests i).writes = true)
      (unheld : traffic.holder key = none) (unpoisoned : traffic.locks.isPoisoned key = false) :
      Stepped traffic ((traffic.put i (.running (requests i).program)).hold key (some i))
  /-- A load under the lock. -/
  | load {next : Except StoreFault D → Program D (Except RepositoryFault R)} {state : σ}
      (runs : traffic.progress i = .running (.load next))
      (seen : view state = view traffic.state) :
      Stepped traffic (({ traffic with state := state } : Traffic n σ D R).put i
        (.running (next (behaviour.load (requests i).repository.location (view traffic.state)))))
  /-- A save under the lock. -/
  | save {document : D} {next : Except StoreFault Unit → Program D (Except RepositoryFault R)}
      {state : σ} (runs : traffic.progress i = .running (.save document next))
      (seen : view state = (behaviour.save document (requests i).repository.location
        (view traffic.state)).2) :
      Stepped traffic (({ traffic with state := state } : Traffic n σ D R).put i
        (.running (next (behaviour.save document (requests i).repository.location
          (view traffic.state)).1)))
  /-- The lock is given back. -/
  | release {result : Except RepositoryFault R}
      (runs : traffic.progress i = .running (.done result)) :
      Stepped traffic ((traffic.put i (.ended (.result result))).hold key none)

variable {view behaviour requests key i} {store : Store σ D}

/-- A request that waits reads, is refused, or takes the lock. -/
theorem stepped_of_waiting (rivals : Rivals requests store key)
    (behaves : store.BehavesAs view behaviour) {traffic next : Traffic n σ D R}
    (waits : traffic.progress i = .waiting) (step : traffic.step? requests i = some next) :
    Stepped view behaviour requests key i traffic next := by
  unfold step? at step
  rw [rivals.key i, waits] at step
  cases writes : (requests i).writes with
  | true =>
    rw [writes] at step
    cases unheld : traffic.holder key with
    | some other => rw [unheld] at step; cases step
    | none =>
      rw [unheld] at step
      cases poisoned : traffic.locks.isPoisoned key with
      | true =>
        rw [poisoned] at step
        obtain rfl := Option.some.inj step
        exact .refuse waits writes poisoned
      | false =>
        rw [poisoned] at step
        obtain rfl := Option.some.inj step
        exact .take waits writes unheld poisoned
  | false =>
    -- without the lock the request is one load, so it ends with its first step
    rw [writes] at step
    obtain rfl := Option.some.inj step
    obtain ⟨result, program⟩ := rivals.singleLoad i writes
    obtain ⟨after, loaded, seen⟩ := behaves.load (requests i).repository.location traffic.state
    have ends : Stepped view behaviour requests key i traffic _ := .read waits writes seen
    rw [program] at ends
    have proceeds : traffic.proceed (requests i) i (requests i).program
        = ({ traffic with state := after } : Traffic n σ D R).put i (.ended (.result
          (result (behaviour.load (requests i).repository.location (view traffic.state))))) := by
      unfold proceed
      rw [program, rivals.store i, Program.advance, loaded, writes]
    rw [proceeds]
    exact ends

/-- A request under the lock makes its next store call, or gives the lock
back after the last. -/
theorem stepped_of_running (rivals : Rivals requests store key)
    (behaves : store.BehavesAs view behaviour) {traffic next : Traffic n σ D R}
    {rest : Program D (Except RepositoryFault R)} (runs : traffic.progress i = .running rest)
    (writes : (requests i).writes = true) (step : traffic.step? requests i = some next) :
    Stepped view behaviour requests key i traffic next := by
  unfold step? at step
  rw [runs] at step
  cases rest with
  | done result =>
    obtain rfl := Option.some.inj step
    unfold finish
    rw [if_pos writes, rivals.key i]
    exact .release runs
  | load onward =>
    obtain rfl := Option.some.inj step
    obtain ⟨after, loaded, seen⟩ := behaves.load (requests i).repository.location traffic.state
    unfold proceed
    rw [rivals.store i, Program.advance, loaded, writes]
    exact .load runs seen
  | save document onward =>
    obtain rfl := Option.some.inj step
    obtain ⟨after, saved, seen⟩ :=
      behaves.save document (requests i).repository.location traffic.state
    unfold proceed
    rw [rivals.store i, Program.advance, saved, writes]
    exact .save runs seen

/-- Every step is one of them. -/
theorem stepped_of_step? (rivals : Rivals requests store key)
    (behaves : store.BehavesAs view behaviour) {traffic next : Traffic n σ D R}
    (locked : ∀ rest, traffic.progress i = .running rest → (requests i).writes = true)
    (step : traffic.step? requests i = some next) :
    Stepped view behaviour requests key i traffic next := by
  cases progress : traffic.progress i with
  | ended ending =>
    unfold step? at step
    rw [progress] at step
    cases step
  | waiting => exact stepped_of_waiting rivals behaves progress step
  | running rest => exact stepped_of_running rivals behaves progress (locked rest progress) step

end Steps

/-! ## §2. The log. -/

section Log

variable (behaviour : Behaviour V D) (requests : Fin n → Request σ D R) (locks : Locks) (first : V)

/-- A log that serving its requests one after the other gives, and what is
seen after it. -/
inductive Legal : List (Fin n × Ending (Except RepositoryFault R)) → V → Prop where
  /-- Nothing was served. -/
  | nil : Legal [] first
  /-- One more request was served. -/
  | snoc {log : List (Fin n × Ending (Except RepositoryFault R))} {seen : V} (i : Fin n)
      (legal : Legal log seen) :
      Legal (log ++ [(i, .result (behaviour.serve locks (requests i) seen).1)])
        (behaviour.serve locks (requests i) seen).2

variable (view : σ → V) (key : Path.Key)

/-- A request under way: it holds the lock, and it goes on as the log says
if it has taken effect, and as from its beginning if it has not. -/
structure UnderWay (log : List (Fin n × Ending (Except RepositoryFault R)))
    (traffic : Traffic n σ D R) (i : Fin n) (rest : Program D (Except RepositoryFault R)) :
    Prop where
  /-- It is under the lock. -/
  writes : (requests i).writes = true
  /-- It holds the lock. -/
  holds : traffic.holder key = some i
  /-- The lock is not poisoned. -/
  unpoisoned : locks.isPoisoned key = false
  /-- Whether it has saved. -/
  stage : (i ∉ log.map Prod.fst ∧ rest.Transacts
        ∧ behaviour.run (requests i).repository.location rest (view traffic.state)
          = behaviour.run (requests i).repository.location (requests i).program
              (view traffic.state))
      ∨ (rest.Reads ∧ (i, .result (behaviour.run (requests i).repository.location rest
          (view traffic.state)).1) ∈ log)

/-- The log accounts for the traffic. -/
structure Logged (log : List (Fin n × Ending (Except RepositoryFault R)))
    (traffic : Traffic n σ D R) : Prop where
  /-- No lock was poisoned. -/
  sameLocks : traffic.locks = locks
  /-- The log is one of requests served one after the other. -/
  legal : Legal behaviour requests locks first log (view traffic.state)
  /-- No request takes effect twice. -/
  nodup : (log.map Prod.fst).Nodup
  /-- A request that waits has no effect yet. -/
  waiting : ∀ i, traffic.progress i = .waiting → i ∉ log.map Prod.fst
  /-- A request that has ended has ended as the log says. -/
  ended : ∀ i ending, traffic.progress i = .ended ending → (i, ending) ∈ log
  /-- A request under way goes on as the log says. -/
  running : ∀ i rest, traffic.progress i = .running rest →
    UnderWay behaviour requests locks view key log traffic i rest
  /-- The lock is held by a request under way. -/
  held : ∀ i, traffic.holder key = some i → ∃ rest, traffic.progress i = .running rest

variable {behaviour requests locks first view key}

theorem logged_start {state : σ} (seen : view state = first) :
    Logged behaviour requests locks first view key [] (start locks state) where
  sameLocks := rfl
  legal := seen ▸ .nil
  nodup := List.nodup_nil
  waiting _ _ := List.not_mem_nil
  ended _ _ ended := by cases ended
  running _ _ runs := by cases runs
  held _ held := by cases held

/-! ## §3. What a step does to the log. -/

variable {log : List (Fin n × Ending (Except RepositoryFault R))} {traffic : Traffic n σ D R}
  {i : Fin n} {rest : Program D (Except RepositoryFault R)}

theorem nodup_snoc {ending : Ending (Except RepositoryFault R)} (nodup : (log.map Prod.fst).Nodup)
    (fresh : i ∉ log.map Prod.fst) : ((log ++ [(i, ending)]).map Prod.fst).Nodup := by
  rw [List.map_append, List.nodup_append]
  refine ⟨nodup, by simp, ?_⟩
  intro other old new member same
  simp only [List.map_cons, List.map_nil, List.mem_singleton] at member
  exact fresh (member ▸ same ▸ old)

/-- What is under way stays so while others read. -/
theorem UnderWay.append {j : Fin n}
    (underWay : UnderWay behaviour requests locks view key log traffic j rest)
    {next : Traffic n σ D R} (holder : next.holder = traffic.holder)
    (seen : view next.state = view traffic.state)
    {entry : Fin n × Ending (Except RepositoryFault R)} (others : entry.1 ≠ j) :
    UnderWay behaviour requests locks view key (log ++ [entry]) next j rest where
  writes := underWay.writes
  holds := by rw [holder]; exact underWay.holds
  unpoisoned := underWay.unpoisoned
  stage := by
    rw [seen]
    rcases underWay.stage with ⟨fresh, transacts, same⟩ | ⟨reads, member⟩
    · refine .inl ⟨?_, transacts, same⟩
      rw [List.map_append, List.mem_append]
      rintro (old | new)
      · exact fresh old
      · exact others (List.mem_singleton.mp new).symm
    · exact .inr ⟨reads, List.mem_append_left _ member⟩

/-- Only one request is under way. -/
theorem Logged.eq_of_running (logged : Logged behaviour requests locks first view key log traffic)
    {j : Fin n} {restOther : Program D (Except RepositoryFault R)}
    (runs : traffic.progress i = .running rest)
    (runsOther : traffic.progress j = .running restOther) : j = i := by
  have holds := (logged.running i rest runs).holds
  have holdsOther := (logged.running j restOther runsOther).holds
  exact Option.some.inj (holdsOther.symm.trans holds)

/-- The log after one request has come further: what the others have done is
accounted for as before. -/
theorem Logged.of_put (logged : Logged behaviour requests locks first view key log traffic)
    {next : Traffic n σ D R} {progress : Progress D R}
    {more : List (Fin n × Ending (Except RepositoryFault R))}
    (progressed : next.progress = Function.update traffic.progress i progress)
    (sameLocks : next.locks = traffic.locks)
    (legal : Legal behaviour requests locks first (log ++ more) (view next.state))
    (nodup : ((log ++ more).map Prod.fst).Nodup) (mine : ∀ entry ∈ more, entry.1 = i)
    (moved : progress ≠ .waiting)
    (ended : ∀ ending, progress = .ended ending → (i, ending) ∈ log ++ more)
    (running : ∀ j rest, next.progress j = .running rest →
      UnderWay behaviour requests locks view key (log ++ more) next j rest)
    (held : ∀ j, next.holder key = some j → ∃ rest, next.progress j = .running rest) :
    Logged behaviour requests locks first view key (log ++ more) next where
  sameLocks := sameLocks.trans logged.sameLocks
  legal := legal
  nodup := nodup
  waiting j waits := by
    rw [progressed] at waits
    by_cases same : j = i
    · subst same
      rw [Function.update_self] at waits
      exact absurd waits moved
    · rw [Function.update_of_ne same] at waits
      rw [List.map_append, List.mem_append]
      rintro (old | new)
      · exact logged.waiting j waits old
      · obtain ⟨entry, member, rfl⟩ := List.mem_map.mp new
        exact same (mine entry member)
  ended j ending endedAfter := by
    rw [progressed] at endedAfter
    by_cases same : j = i
    · subst same
      rw [Function.update_self] at endedAfter
      exact ended ending endedAfter
    · rw [Function.update_of_ne same] at endedAfter
      exact List.mem_append_left _ (logged.ended j ending endedAfter)
  running := running
  held := held

/-- A request that waits ends at once, and nothing that is seen changes. -/
theorem Logged.end_at_once (logged : Logged behaviour requests locks first view key log traffic)
    (waits : traffic.progress i = .waiting) {state : σ} (seen : view state = view traffic.state)
    {result : Except RepositoryFault R}
    (served : behaviour.serve locks (requests i) (view traffic.state)
      = (result, view traffic.state)) :
    Logged behaviour requests locks first view key (log ++ [(i, .result result)])
      (({ traffic with state := state } : Traffic n σ D R).put i (.ended (.result result))) := by
  have legal :
      Legal behaviour requests locks first (log ++ [(i, .result result)]) (view state) := by
    have legal := logged.legal.snoc i
    rw [served] at legal
    rw [seen]
    exact legal
  have fresh := logged.waiting i waits
  refine logged.of_put rfl rfl legal (nodup_snoc logged.nodup fresh) ?_ ?_ ?_ ?_ ?_
  · intro entry member
    rw [List.mem_singleton.mp member]
  · intro same
    cases same
  · intro ending same
    cases same
    exact List.mem_append_right _ List.mem_cons_self
  · intro j rest runs
    by_cases same : j = i
    · subst same
      cases (put_progress_self ..).symm.trans runs
    · have runs := (put_progress_of_ne _ same _).symm.trans runs
      refine UnderWay.append (logged.running j rest runs) ?_ ?_ ?_
      · rfl
      · exact seen
      · exact Ne.symm same
  · intro j holds
    obtain ⟨rest, runs⟩ := logged.held j holds
    have differs : j ≠ i := by
      rintro rfl
      cases waits.symm.trans runs
    exact ⟨rest, (put_progress_of_ne _ differs _).trans runs⟩

/-- A request takes the lock. -/
theorem Logged.take_lock (logged : Logged behaviour requests locks first view key log traffic)
    (transacts : (requests i).program.Transacts)
    (waits : traffic.progress i = .waiting) (writes : (requests i).writes = true)
    (unheld : traffic.holder key = none) (unpoisoned : locks.isPoisoned key = false) :
    Logged behaviour requests locks first view key (log ++ [])
      ((traffic.put i (.running (requests i).program)).hold key (some i)) := by
  have same : log ++ [] = log := List.append_nil log
  refine logged.of_put rfl rfl (same.symm ▸ logged.legal) (same.symm ▸ logged.nodup) ?_ ?_ ?_ ?_ ?_
  · intro entry member
    cases member
  · intro same
    cases same
  · intro ending same
    cases same
  · intro j rest runs
    by_cases here : j = i
    · subst here
      cases (put_progress_self ..).symm.trans runs
      rw [same]
      exact ⟨writes, hold_holder_self .., unpoisoned,
        .inl ⟨logged.waiting j waits, transacts, rfl⟩⟩
    · have runs := (put_progress_of_ne _ here _).symm.trans runs
      cases unheld.symm.trans (logged.running j rest runs).holds
  · intro j holds
    obtain rfl : i = j := Option.some.inj ((hold_holder_self ..).symm.trans holds)
    exact ⟨_, put_progress_self ..⟩

/-- The request under way goes on under the lock. -/
theorem Logged.go_on (logged : Logged behaviour requests locks first view key log traffic)
    (runs : traffic.progress i = .running rest) {state : σ}
    {more : List (Fin n × Ending (Except RepositoryFault R))}
    {left : Program D (Except RepositoryFault R)}
    (legal : Legal behaviour requests locks first (log ++ more) (view state))
    (nodup : ((log ++ more).map Prod.fst).Nodup) (mine : ∀ entry ∈ more, entry.1 = i)
    (underWay : UnderWay behaviour requests locks view key (log ++ more)
      { traffic with state := state } i left) :
    Logged behaviour requests locks first view key (log ++ more)
      (({ traffic with state := state } : Traffic n σ D R).put i (.running left)) := by
  refine logged.of_put rfl rfl legal nodup mine ?_ ?_ ?_ ?_
  · intro same
    cases same
  · intro ending same
    cases same
  · intro j rest runsAfter
    by_cases same : j = i
    · subst same
      cases (put_progress_self ..).symm.trans runsAfter
      exact ⟨underWay.writes, underWay.holds, underWay.unpoisoned, underWay.stage⟩
    · exact absurd (logged.eq_of_running runs ((put_progress_of_ne _ same _).symm.trans runsAfter))
        same
  · intro j holds
    obtain rfl : i = j := Option.some.inj (underWay.holds.symm.trans holds)
    exact ⟨left, put_progress_self ..⟩

/-- The request under way gives the lock back. -/
theorem Logged.give_back (logged : Logged behaviour requests locks first view key log traffic)
    (runs : traffic.progress i = .running rest)
    {more : List (Fin n × Ending (Except RepositoryFault R))}
    {ending : Ending (Except RepositoryFault R)}
    (legal : Legal behaviour requests locks first (log ++ more) (view traffic.state))
    (nodup : ((log ++ more).map Prod.fst).Nodup) (mine : ∀ entry ∈ more, entry.1 = i)
    (entry : (i, ending) ∈ log ++ more) :
    Logged behaviour requests locks first view key (log ++ more)
      ((traffic.put i (.ended ending)).hold key none) := by
  refine logged.of_put rfl rfl legal nodup mine ?_ ?_ ?_ ?_
  · intro same
    cases same
  · intro other same
    cases same
    exact entry
  · intro j rest runsAfter
    by_cases same : j = i
    · subst same
      cases (put_progress_self ..).symm.trans runsAfter
    · exact absurd (logged.eq_of_running runs ((put_progress_of_ne _ same _).symm.trans runsAfter))
        same
  · intro j holds
    cases (hold_holder_self (traffic.put i (.ended ending)) key none).symm.trans holds

/-! ## §4. Every step is accounted for. -/

variable {store : Store σ D} {next : Traffic n σ D R}

/-- A request under way that has not taken effect does so now: it ends as it
is about to end. -/
theorem Logged.take_effect (logged : Logged behaviour requests locks first view key log traffic)
    (rivals : Rivals requests store key) (unpoisoned : locks.isPoisoned key = false)
    {result : Except RepositoryFault R} {seen : V}
    (ran : behaviour.run (requests i).repository.location (requests i).program (view traffic.state)
      = (result, seen)) :
    Legal behaviour requests locks first (log ++ [(i, .result result)]) seen := by
  have legal := logged.legal.snoc i
  rw [← rivals.key i] at unpoisoned
  rw [Behaviour.serve_of_unpoisoned unpoisoned, ran] at legal
  exact legal

/-- A load under the lock changes nothing that the log says. -/
theorem Logged.load_on (logged : Logged behaviour requests locks first view key log traffic)
    {onward : Except StoreFault D → Program D (Except RepositoryFault R)}
    (runs : traffic.progress i = .running (.load onward)) {state : σ}
    (seen : view state = view traffic.state) :
    Logged behaviour requests locks first view key (log ++ [])
      (({ traffic with state := state } : Traffic n σ D R).put i
        (.running (onward (behaviour.load (requests i).repository.location
          (view traffic.state))))) := by
  obtain ⟨writes, holds, unpoisoned, stage⟩ := logged.running i _ runs
  refine logged.go_on runs ?_ ?_ ?_ ⟨writes, holds, unpoisoned, ?_⟩
  · rw [List.append_nil, seen]
    exact logged.legal
  · rw [List.append_nil]
    exact logged.nodup
  · intro entry member
    cases member
  · -- what is left of the program runs on as the program did before the load
    rw [List.append_nil]
    show (_ ∧ _ ∧ behaviour.run _ _ (view state) = behaviour.run _ _ (view state)) ∨ (_ ∧
      (i, Ending.result (behaviour.run _ _ (view state)).1) ∈ log)
    rw [seen]
    rcases stage with ⟨fresh, transacts, same⟩ | ⟨reads, member⟩
    · exact .inl ⟨fresh, transacts.onward _, same⟩
    · exact .inr ⟨reads.onward _, member⟩

/-- A request takes effect at its save: what is left of it only loads. -/
theorem Logged.save_on (logged : Logged behaviour requests locks first view key log traffic)
    (rivals : Rivals requests store key) {document : D}
    {onward : Except StoreFault Unit → Program D (Except RepositoryFault R)}
    (runs : traffic.progress i = .running (.save document onward)) {state : σ}
    (seen : view state = (behaviour.save document (requests i).repository.location
      (view traffic.state)).2) :
    ∃ more, Logged behaviour requests locks first view key (log ++ more)
      (({ traffic with state := state } : Traffic n σ D R).put i
        (.running (onward (behaviour.save document (requests i).repository.location
          (view traffic.state)).1))) := by
  obtain ⟨writes, holds, unpoisoned, stage⟩ := logged.running i _ runs
  rcases stage with ⟨fresh, transacts, same⟩ | ⟨reads, member⟩
  · have reads := transacts.reads_after_save (behaviour.save document
      (requests i).repository.location (view traffic.state)).1
    have unchanged := behaviour.run_of_reads reads (requests i).repository.location (view state)
    have ran : behaviour.run (requests i).repository.location (requests i).program
        (view traffic.state)
          = ((behaviour.run (requests i).repository.location (onward (behaviour.save document
              (requests i).repository.location (view traffic.state)).1) (view state)).1,
            view state) := by
      rw [← same]
      show behaviour.run _ (onward _) (behaviour.save document _ (view traffic.state)).2 = _
      rw [← seen]
      exact Prod.ext rfl unchanged
    refine ⟨_, logged.go_on runs (logged.take_effect rivals unpoisoned ran)
      (nodup_snoc logged.nodup fresh) ?_ ⟨writes, holds, unpoisoned, .inr ⟨reads, ?_⟩⟩⟩
    · intro entry member
      rw [List.mem_singleton.mp member]
    · exact List.mem_append_right _ List.mem_cons_self
  · -- a request that has saved does not save again
    cases reads

/-- A request that has not saved takes effect where it gives the lock
back. -/
theorem Logged.release_on (logged : Logged behaviour requests locks first view key log traffic)
    (rivals : Rivals requests store key) {result : Except RepositoryFault R}
    (runs : traffic.progress i = .running (.done result)) :
    ∃ more, Logged behaviour requests locks first view key (log ++ more)
      ((traffic.put i (.ended (.result result))).hold key none) := by
  obtain ⟨writes, holds, unpoisoned, stage⟩ := logged.running i _ runs
  rcases stage with ⟨fresh, transacts, same⟩ | ⟨reads, member⟩
  · refine ⟨[(i, .result result)], logged.give_back runs
      (logged.take_effect rivals unpoisoned same.symm) (nodup_snoc logged.nodup fresh) ?_
      (List.mem_append_right _ List.mem_cons_self)⟩
    intro entry member
    rw [List.mem_singleton.mp member]
  · refine ⟨[], logged.give_back runs ?_ ?_ ?_ (List.mem_append_left _ member)⟩
    · rw [List.append_nil]
      exact logged.legal
    · rw [List.append_nil]
      exact logged.nodup
    · intro entry member
      cases member

/-- Every step is accounted for in the log. -/
theorem Logged.step (logged : Logged behaviour requests locks first view key log traffic)
    (rivals : Rivals requests store key)
    (stepped : Stepped view behaviour requests key i traffic next) :
    ∃ more, Logged behaviour requests locks first view key (log ++ more) next := by
  cases stepped with
  | read waits free seen =>
    refine ⟨_, logged.end_at_once waits seen ?_⟩
    obtain ⟨result, program⟩ := rivals.singleLoad i free
    unfold Behaviour.serve
    rw [free, program]
    rfl
  | refuse waits writes poisoned =>
    refine ⟨_, logged.end_at_once waits rfl ?_⟩
    rw [logged.sameLocks] at poisoned
    unfold Behaviour.serve
    rw [writes, rivals.key i, poisoned]
    rfl
  | take waits writes unheld unpoisoned =>
    rw [logged.sameLocks] at unpoisoned
    exact ⟨[], logged.take_lock (rivals.transacts i) waits writes unheld unpoisoned⟩
  | load runs seen => exact ⟨[], logged.load_on runs seen⟩
  | save runs seen => exact logged.save_on rivals runs seen
  | release runs => exact logged.release_on rivals runs

/-! ## §5. Every schedule is accounted for. -/

theorem Stepped.progress_of_ne (stepped : Stepped view behaviour requests key i traffic next)
    {j : Fin n} (differs : j ≠ i) : next.progress j = traffic.progress j := by
  cases stepped with
  | read _ _ _ => exact put_progress_of_ne _ differs _
  | refuse _ _ _ => exact put_progress_of_ne _ differs _
  | take _ _ _ _ => exact put_progress_of_ne _ differs _
  | load _ _ => exact put_progress_of_ne _ differs _
  | save _ _ => exact put_progress_of_ne _ differs _
  | release _ => exact put_progress_of_ne _ differs _

theorem Logged.stepped (logged : Logged behaviour requests locks first view key log traffic)
    (rivals : Rivals requests store key) (behaves : store.BehavesAs view behaviour)
    (step : traffic.step? requests i = some next) :
    Stepped view behaviour requests key i traffic next :=
  stepped_of_step? rivals behaves (fun rest runs => (logged.running i rest runs).writes) step

theorem run?_append (before after : List (Fin n)) :
    traffic.run? requests (before ++ after)
      = (traffic.run? requests before).bind fun middle => middle.run? requests after := by
  induction before generalizing traffic with
  | nil => rfl
  | cons i rest ih =>
    show ((traffic.step? requests i).bind fun next => next.run? requests (rest ++ after)) = _
    cases step : traffic.step? requests i with
    | none => simp [run?, step]
    | some next =>
      rw [Option.bind_some, ih]
      simp [run?, step]

/-- A schedule is accounted for by a log, and each of its beginnings by a
beginning of the log. -/
theorem Logged.run (rivals : Rivals requests store key) (behaves : store.BehavesAs view behaviour)
    (schedule : List (Fin n)) {final : Traffic n σ D R}
    (logged : Logged behaviour requests locks first view key log traffic)
    (ran : traffic.run? requests schedule = some final) :
    ∃ more, Logged behaviour requests locks first view key (log ++ more) final
      ∧ ∀ before after, schedule = before ++ after → ∃ middle done left,
        traffic.run? requests before = some middle ∧ middle.run? requests after = some final
          ∧ Logged behaviour requests locks first view key (log ++ done) middle
          ∧ more = done ++ left := by
  -- induction on the schedule; the log grows at its end with every step
  induction schedule generalizing traffic log with
  | nil =>
    obtain rfl := Option.some.inj ran
    refine ⟨[], (List.append_nil log).symm ▸ logged, ?_⟩
    intro before after split
    obtain ⟨rfl, rfl⟩ := List.append_eq_nil_iff.mp split.symm
    exact ⟨traffic, [], [], rfl, rfl, (List.append_nil log).symm ▸ logged, rfl⟩
  | cons i rest ih =>
    obtain ⟨next, step, ranRest⟩ := Option.bind_eq_some_iff.mp ran
    obtain ⟨begun, loggedNext⟩ := logged.step rivals (logged.stepped rivals behaves step)
    obtain ⟨more, loggedFinal, beginnings⟩ := ih loggedNext ranRest
    refine ⟨begun ++ more, List.append_assoc .. ▸ loggedFinal, ?_⟩
    intro before after split
    cases before with
    | nil =>
      obtain rfl : i :: rest = after := split
      exact ⟨traffic, [], begun ++ more, rfl, ran, (List.append_nil log).symm ▸ logged, rfl⟩
    | cons j before =>
      obtain ⟨rfl, splitRest⟩ := List.cons.inj split
      obtain ⟨middle, done, left, ranBefore, ranAfter, loggedMiddle, rfl⟩ :=
        beginnings before after splitRest
      refine ⟨middle, begun ++ done, left, ?_, ranAfter, List.append_assoc .. ▸ loggedMiddle,
        (List.append_assoc ..).symm⟩
      show (traffic.step? requests i).bind _ = _
      rw [step]
      exact ranBefore

/-- A request that is not in a schedule stays where it is. -/
theorem Logged.progress_of_not_mem (rivals : Rivals requests store key)
    (behaves : store.BehavesAs view behaviour) {schedule : List (Fin n)} {final : Traffic n σ D R}
    (logged : Logged behaviour requests locks first view key log traffic)
    (ran : traffic.run? requests schedule = some final) {j : Fin n} (absent : j ∉ schedule) :
    final.progress j = traffic.progress j := by
  induction schedule generalizing traffic log with
  | nil =>
    obtain rfl := Option.some.inj ran
    rfl
  | cons i rest ih =>
    obtain ⟨next, step, ranRest⟩ := Option.bind_eq_some_iff.mp ran
    have stepped := logged.stepped rivals behaves step
    obtain ⟨begun, loggedNext⟩ := logged.step rivals stepped
    have differs : j ≠ i := fun same => absent (same ▸ List.mem_cons_self)
    rw [ih loggedNext ranRest fun member => absent (List.mem_cons_of_mem i member)]
    exact stepped.progress_of_ne differs

/-- A complete log lists every request with its ending. -/
theorem Logged.eq_map (logged : Logged behaviour requests locks first view key log traffic)
    {endings : Fin n → Ending (Except RepositoryFault R)}
    (ended : ∀ i, traffic.progress i = .ended (endings i)) :
    log = (log.map Prod.fst).map fun i => (i, endings i) := by
  rw [List.map_map]
  refine (List.map_id' log).symm.trans (List.map_congr_left fun entry member => ?_)
  have listed := logged.ended entry.1 (endings entry.1) (ended entry.1)
  exact List.inj_on_of_nodup_map logged.nodup member listed rfl

/-- Requests that have all ended were served as one after the other, in an
order in which each request comes before those that began after its end. -/
theorem exists_order (rivals : Rivals requests store key)
    (behaves : store.BehavesAs view behaviour) {schedule : List (Fin n)} {state : σ}
    {final : Traffic n σ D R} (ran : (start locks state).run? requests schedule = some final)
    (complete : final.Complete) :
    ∃ (order : List (Fin n)) (endings : Fin n → Ending (Except RepositoryFault R)),
      order.Perm (List.finRange n)
        ∧ (∀ i j, Precedes schedule i j → [i, j].Sublist order)
        ∧ (∀ i, final.progress i = .ended (endings i))
        ∧ final.locks = locks
        ∧ Legal behaviour requests locks (view state) (order.map fun i => (i, endings i))
            (view final.state) := by
  choose endings ended using complete
  have loggedStart : Logged behaviour requests locks (view state) view key [] (start locks state) :=
    logged_start rfl
  obtain ⟨log, logged, beginnings⟩ := Logged.run rivals behaves schedule loggedStart ran
  rw [List.nil_append] at logged
  have listed : ∀ i, i ∈ log.map Prod.fst := fun i =>
    List.mem_map.mpr ⟨(i, endings i), logged.ended i _ (ended i), rfl⟩
  refine ⟨log.map Prod.fst, endings, ?_, ?_, ended, logged.sameLocks, ?_⟩
  · exact (List.perm_ext_iff_of_nodup logged.nodup (List.nodup_finRange n)).mpr fun i =>
      ⟨fun _ => List.mem_finRange i, fun _ => listed i⟩
  · rintro i j ⟨before, after, split, ends, begins⟩
    obtain ⟨middle, done, left, ranBefore, ranAfter, loggedMiddle, rfl⟩ :=
      beginnings before after split
    rw [List.nil_append] at loggedMiddle
    -- the first request had ended in the middle, the second had not begun
    have endedMiddle : middle.progress i = .ended (endings i) := by
      rw [← ended i]
      exact (loggedMiddle.progress_of_not_mem rivals behaves ranAfter ends).symm
    have waitsMiddle : middle.progress j = .waiting :=
      loggedStart.progress_of_not_mem rivals behaves ranBefore begins
    have inDone : i ∈ done.map Prod.fst :=
      List.mem_map.mpr ⟨(i, endings i), loggedMiddle.ended i _ endedMiddle, rfl⟩
    have inLeft : j ∈ left.map Prod.fst := by
      have inLog := listed j
      rw [List.map_append, List.mem_append] at inLog
      exact inLog.resolve_left (loggedMiddle.waiting j waitsMiddle)
    rw [List.map_append]
    exact (List.singleton_sublist.mpr inDone).append (List.singleton_sublist.mpr inLeft)
  · rw [← logged.eq_map ended]
    exact logged.legal

/-- A log is what serving its requests one after the other gives. -/
theorem Legal.serveEach (rivals : Rivals requests store key)
    (behaves : store.BehavesAs view behaviour) {seen : V} {state : σ}
    (legal : Legal behaviour requests locks (view state) log seen) :
    ∃ after, Request.serveEach (log.map fun entry => requests entry.1) locks state
        = (log.map Prod.snd, locks, after) ∧ view after = seen := by
  generalize atFirst : view state = first at legal
  induction legal with
  | nil => exact ⟨state, rfl, atFirst⟩
  | snoc i _ ih =>
    obtain ⟨before, servedOthers, seenBefore⟩ := ih
    obtain ⟨after, served, seenAfter⟩ := behaves.serve (rivals.store i) locks before
    rw [seenBefore] at served seenAfter
    refine ⟨after, ?_, seenAfter⟩
    rw [List.map_append, List.map_append]
    exact Request.serveEach_concat _ _ servedOthers served

end Log

end Traffic

end TradingConfig
