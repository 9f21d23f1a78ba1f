/-
  TradingConfig.Proofs.Repository.Transcript
  ────────────────────────────────
  **WHAT A CALL ASKS OF ITS STORE, WHATEVER THE STORE REPLIES.**

  A store may fail, crash, and contradict itself from one call to the next.
  The plan of a repository call says which documents it changes, into what,
  and how it ends once the change is saved (`Plan`).  Every program follows
  its plan (`DocumentClass.follows`): it takes one of four courses
  (`Plan.Course`).  What holds of the courses then holds of what is said
  while a call is served, over every store (`DocumentClass.follows_plan`).
-/
import TradingConfig.Proofs.Repository.Removal
import TradingConfig.Repository.Transcript
import TradingConfig.Store.Scripted

namespace TradingConfig

variable {σ D Q R : Type}

/-! ## §1. Runs of a program, by what is said. -/

/-- The ending that a reply puts to a repository call; none if the call goes
on. -/
def Reply.halts {α : Type} : Reply α → Option (Ending (Except RepositoryFault R))
  | .answer (.ok _) => none
  | .answer (.error fault) => some (.result (.error (.store fault)))
  | .crash => some .crash

/-- The ending that an event puts to a repository call. -/
def StoreEvent.halts : StoreEvent D → Option (Ending (Except RepositoryFault R))
  | .loaded reply => reply.halts
  | .saved _ reply => reply.halts

namespace Program

/-- The program makes these calls, hears these replies, and ends so. -/
inductive Talks : Program D R → List (StoreEvent D) → Ending R → Prop where
  /-- There is nothing left to say. -/
  | done (result : R) : Talks (.done result) [] (.result result)
  /-- A load is answered. -/
  | loaded {next : Except StoreFault D → Program D R} {answer : Except StoreFault D}
      {events : List (StoreEvent D)} {ending : Ending R}
      (onward : Talks (next answer) events ending) :
      Talks (.load next) (.loaded (.answer answer) :: events) ending
  /-- A load crashes. -/
  | loadCrashed {next : Except StoreFault D → Program D R} :
      Talks (.load next) [.loaded .crash] .crash
  /-- A save is answered. -/
  | saved {document : D} {next : Except StoreFault Unit → Program D R}
      {answer : Except StoreFault Unit} {events : List (StoreEvent D)} {ending : Ending R}
      (onward : Talks (next answer) events ending) :
      Talks (.save document next) (.saved document (.answer answer) :: events) ending
  /-- A save crashes. -/
  | saveCrashed {document : D} {next : Except StoreFault Unit → Program D R} :
      Talks (.save document next) [.saved document .crash] .crash

/-- Over the store that keeps what is said a program ends as over the store
itself, and what was added is what it says and hears. -/
theorem run_transcribed (store : Store σ D) (location : Location) (program : Program D R)
    (state : σ) (log : List (StoreEvent D)) :
    ∃ events,
      program.run store.transcribed location (state, log)
          = ((program.run store location state).1, (program.run store location state).2,
            log ++ events)
        ∧ program.Talks events (program.run store location state).1 := by
  -- induction on the program: its first call and the reply come in front of the others
  induction program generalizing state log with
  | done result => exact ⟨[], by rw [List.append_nil]; rfl, .done result⟩
  | load next ih =>
    unfold run
    cases called : store.load location state with
    | mk reply after =>
      have transcribed : store.transcribed.load location (state, log)
          = (reply, after, log ++ [.loaded reply]) := by
        simp only [Store.transcribed, called]
      rw [transcribed]
      cases reply with
      | crash => exact ⟨[.loaded .crash], rfl, .loadCrashed⟩
      | answer answer =>
        obtain ⟨events, ran, talks⟩ := ih answer after (log ++ [.loaded (.answer answer)])
        refine ⟨.loaded (.answer answer) :: events, ?_, .loaded talks⟩
        rw [List.append_assoc] at ran
        exact ran
  | save document next ih =>
    unfold run
    cases called : store.save document location state with
    | mk reply after =>
      have transcribed : store.transcribed.save document location (state, log)
          = (reply, after, log ++ [.saved document reply]) := by
        simp only [Store.transcribed, called]
      rw [transcribed]
      cases reply with
      | crash => exact ⟨[.saved document .crash], rfl, .saveCrashed⟩
      | answer answer =>
        obtain ⟨events, ran, talks⟩ := ih answer after (log ++ [.saved document (.answer answer)])
        refine ⟨.saved document (.answer answer) :: events, ?_, .saved talks⟩
        rw [List.append_assoc] at ran
        exact ran

/-! ## §2. Programs in another form. -/

theorem map_reading (form : Q → R) (view : D → Except Malformed Q) :
    (reading view).map form = reading fun document => (view document).map form := by
  refine congrArg load (funext fun answer => congrArg done ?_)
  cases answer with
  | error fault => rfl
  | ok document =>
    show ((view document).mapError RepositoryFault.malformed).map form
      = ((view document).map form).mapError RepositoryFault.malformed
    cases view document <;> rfl

theorem map_loading (form : Q → R) (next : D → Program D (Except RepositoryFault Q)) :
    (loading next).map form = loading fun document => (next document).map form :=
  congrArg load (funext fun answer => by cases answer <;> rfl)

theorem map_saving (form : Q → R) (document : D) (next : Program D (Except RepositoryFault Q)) :
    (saving document next).map form = saving document (next.map form) :=
  congrArg (save document) (funext fun answer => by cases answer <;> rfl)

/-- A program that reads hears one reply, and ends with what it makes of
that. -/
theorem Talks.of_reading {view : D → Except Malformed R} {events : List (StoreEvent D)}
    {ending : Ending (Except RepositoryFault R)} (talks : (reading view).Talks events ending) :
    ∃ reply, events = [.loaded reply] ∧ (reply.halts = some ending
      ∨ ∃ document, reply = .answer (.ok document)
        ∧ ending = .result ((view document).mapError .malformed)) := by
  unfold reading at talks
  cases talks with
  | loadCrashed => exact ⟨.crash, rfl, .inl rfl⟩
  | @loaded _ answer _ _ onward =>
    cases onward
    cases answer with
    | error fault => exact ⟨_, rfl, .inl rfl⟩
    | ok document => exact ⟨_, rfl, .inr ⟨document, rfl, rfl⟩⟩

/-- A program that loads hears a failure and ends, or goes on. -/
theorem Talks.of_loading {next : D → Program D (Except RepositoryFault R)}
    {events : List (StoreEvent D)} {ending : Ending (Except RepositoryFault R)}
    (talks : (loading next).Talks events ending) :
    (∃ reply, events = [.loaded reply] ∧ reply.halts = some ending)
      ∨ ∃ document rest, events = .loaded (.answer (.ok document)) :: rest
        ∧ (next document).Talks rest ending := by
  unfold loading at talks
  cases talks with
  | loadCrashed => exact .inl ⟨.crash, rfl, rfl⟩
  | @loaded _ answer rest _ onward =>
    cases answer with
    | error fault =>
      cases onward
      exact .inl ⟨.answer (.error fault), rfl, rfl⟩
    | ok document => exact .inr ⟨document, rest, rfl, onward⟩

/-- So does one that saves. -/
theorem Talks.of_saving {document : D} {next : Program D (Except RepositoryFault R)}
    {events : List (StoreEvent D)} {ending : Ending (Except RepositoryFault R)}
    (talks : (saving document next).Talks events ending) :
    (∃ reply, events = [.saved document reply] ∧ reply.halts = some ending)
      ∨ ∃ rest, events = .saved document (.answer (.ok ())) :: rest
        ∧ next.Talks rest ending := by
  unfold saving at talks
  cases talks with
  | saveCrashed => exact .inl ⟨.crash, rfl, rfl⟩
  | @saved _ _ answer rest _ onward =>
    cases answer with
    | error fault =>
      cases onward
      exact .inl ⟨.answer (.error fault), rfl, rfl⟩
    | ok _ => exact .inr ⟨rest, rfl, onward⟩

end Program

/-! ## §3. Plans. -/

/-- How a call ends once its change is saved. -/
inductive Closing (D R : Type) where
  /-- At once, with an answer about the document it had loaded. -/
  | atOnce (tells : D → R → Prop)
  /-- With another load, and a result about the document that it gives. -/
  | reload (tells : D → Except RepositoryFault R → Prop)

/-- What is said after the save of a document, and how the call ends. -/
def Closing.Ends (closing : Closing D R) (document : D) (events : List (StoreEvent D))
    (ending : Ending (Except RepositoryFault R)) : Prop :=
  match closing with
  | .atOnce tells => events = [] ∧ ∃ answer, tells document answer ∧ ending = .result (.ok answer)
  | .reload tells => ∃ reply, events = [.loaded reply] ∧ (reply.halts = some ending
      ∨ ∃ reloaded result, reply = .answer (.ok reloaded) ∧ tells reloaded result
        ∧ ending = .result result)

/-- What a call does with a store. -/
structure Plan (D R : Type) where
  /-- The documents that it changes. -/
  proceeds : D → Prop
  /-- What it saves for the document that it has loaded. -/
  edit : D → D
  /-- How it ends after that. -/
  closing : Closing D R

namespace Plan

/-- A call that changes nothing. -/
def reads : Plan D R where
  proceeds _ := False
  edit := id
  closing := .atOnce fun _ _ => False

/-- No call follows one that fails, and its failure is how it ends. -/
def Stops (ending : Ending (Except RepositoryFault R)) : List (StoreEvent D) → Prop
  | [] => True
  | event :: rest =>
    (∀ halt, event.halts = some halt → rest = [] ∧ ending = halt) ∧ Stops ending rest

/-- What is said by a call that keeps to its plan. -/
structure Followed (plan : Plan D R) (events : List (StoreEvent D))
    (ending : Ending (Except RepositoryFault R)) : Prop where
  /-- It begins with a load. -/
  opens : ∃ reply rest, events = .loaded reply :: rest
  /-- It saves once at most. -/
  once : events.countP StoreEvent.isSave ≤ 1
  /-- A failure ends it. -/
  stops : Stops ending events
  /-- It crashes only where the store does. -/
  crashes : ending = .crash → ∃ event ∈ events, event.halts = some ending
  /-- It saves exactly where it has loaded a document that it changes. -/
  saves : (∃ event ∈ events, event.isSave = true)
    ↔ ∃ document rest, events = .loaded (.answer (.ok document)) :: rest
      ∧ plan.proceeds document
  /-- Where it does not save, it loads once and that is all. -/
  alone : (∀ event ∈ events, event.isSave = false) → ∃ reply, events = [.loaded reply]
  /-- A save that succeeds is that of the change, and it closes as planned. -/
  closes : ∀ saved, .saved saved (.answer (.ok ())) ∈ events → ∃ document rest,
    events = .loaded (.answer (.ok document)) :: .saved saved (.answer (.ok ())) :: rest
      ∧ saved = plan.edit document ∧ plan.closing.Ends document rest ending

/-- The courses that a call can take under its plan. -/
inductive Course (plan : Plan D R) :
    List (StoreEvent D) → Ending (Except RepositoryFault R) → Prop where
  /-- The load fails. -/
  | unloaded {reply : Reply D} {ending : Ending (Except RepositoryFault R)}
      (halts : reply.halts = some ending) : Course plan [.loaded reply] ending
  /-- The document is not to be changed. -/
  | settled {document : D} (stays : ¬ plan.proceeds document) (result : Except RepositoryFault R) :
      Course plan [.loaded (.answer (.ok document))] (.result result)
  /-- The save fails. -/
  | unsaved {document : D} {reply : Reply Unit} {ending : Ending (Except RepositoryFault R)}
      (proceeds : plan.proceeds document) (halts : reply.halts = some ending) :
      Course plan [.loaded (.answer (.ok document)), .saved (plan.edit document) reply] ending
  /-- The save succeeds. -/
  | saved {document : D} {rest : List (StoreEvent D)} {ending : Ending (Except RepositoryFault R)}
      (proceeds : plan.proceeds document) (ends : plan.closing.Ends document rest ending) :
      Course plan
        (.loaded (.answer (.ok document)) :: .saved (plan.edit document) (.answer (.ok ())) :: rest)
        ending

end Plan

namespace Plan

variable {plan : Plan D R} {event : StoreEvent D} {events rest : List (StoreEvent D)}
  {document : D} {ending : Ending (Except RepositoryFault R)}

theorem stops_of_halts (halts : event.halts = some ending) : Stops ending [event] :=
  ⟨fun _ halted => ⟨rfl, Option.some.inj (halts.symm.trans halted)⟩, trivial⟩

theorem Stops.cons (stops : Stops ending rest)
    (goesOn : event.halts = (none : Option (Ending (Except RepositoryFault R)))) :
    Stops ending (event :: rest) :=
  ⟨fun _ halted => (by rw [goesOn] at halted; cases halted), stops⟩

end Plan

namespace Closing

variable {closing : Closing D R} {document : D} {events : List (StoreEvent D)}
  {ending : Ending (Except RepositoryFault R)}

theorem Ends.loads (ends : closing.Ends document events ending) :
    ∀ event ∈ events, event.isSave = false := by
  cases closing with
  | atOnce tells =>
    obtain ⟨rfl, -⟩ := ends
    exact fun event member => by cases member
  | reload tells =>
    obtain ⟨reply, rfl, -⟩ := ends
    exact fun event member => by rw [List.mem_singleton.mp member]; rfl

theorem Ends.stops (ends : closing.Ends document events ending) : Plan.Stops ending events := by
  cases closing with
  | atOnce tells =>
    obtain ⟨rfl, -⟩ := ends
    trivial
  | reload tells =>
    obtain ⟨reply, rfl, halts | ⟨reloaded, result, rfl, -, -⟩⟩ := ends
    · exact Plan.stops_of_halts halts
    · exact Plan.Stops.cons trivial rfl

theorem Ends.crashes (ends : closing.Ends document events ending) (crashed : ending = .crash) :
    ∃ event ∈ events, event.halts = some ending := by
  cases closing with
  | atOnce tells =>
    obtain ⟨-, answer, -, answered⟩ := ends
    rw [answered] at crashed
    cases crashed
  | reload tells =>
    obtain ⟨reply, rfl, halts | ⟨reloaded, result, -, -, answered⟩⟩ := ends
    · exact ⟨_, List.mem_cons_self, halts⟩
    · rw [answered] at crashed
      cases crashed

end Closing

namespace Plan

variable {plan : Plan D R} {events : List (StoreEvent D)}
  {ending : Ending (Except RepositoryFault R)}

theorem Course.opens (course : plan.Course events ending) :
    ∃ reply rest, events = .loaded reply :: rest := by
  cases course <;> exact ⟨_, _, rfl⟩

theorem Course.once (course : plan.Course events ending) :
    events.countP StoreEvent.isSave ≤ 1 := by
  cases course with
  | unloaded halts => exact Nat.zero_le 1
  | settled stays result => exact Nat.zero_le 1
  | unsaved proceeds halts => exact Nat.le_refl 1
  | @saved document rest _ proceeds ends =>
    have none : rest.countP StoreEvent.isSave = 0 :=
      List.countP_eq_zero.mpr fun event member => by simp [ends.loads event member]
    rw [List.countP_cons, List.countP_cons, none]
    exact Nat.le_refl 1

theorem Course.stops (course : plan.Course events ending) : Stops ending events := by
  cases course with
  | unloaded halts => exact stops_of_halts halts
  | settled stays result => exact Stops.cons trivial rfl
  | @unsaved document reply _ proceeds halts =>
    have last : Stops ending [.saved (plan.edit document) reply] := stops_of_halts halts
    exact last.cons rfl
  | saved proceeds ends => exact (ends.stops.cons rfl).cons rfl

theorem Course.crashes (course : plan.Course events ending) (crashed : ending = .crash) :
    ∃ event ∈ events, event.halts = some ending := by
  cases course with
  | unloaded halts => exact ⟨_, List.mem_cons_self, halts⟩
  | settled stays result => cases crashed
  | unsaved proceeds halts => exact ⟨_, List.mem_cons_of_mem _ List.mem_cons_self, halts⟩
  | saved proceeds ends =>
    obtain ⟨event, member, halts⟩ := ends.crashes crashed
    exact ⟨event, List.mem_cons_of_mem _ (List.mem_cons_of_mem _ member), halts⟩

theorem Course.saves_iff (course : plan.Course events ending) :
    (∃ event ∈ events, event.isSave = true)
      ↔ ∃ document rest, events = .loaded (.answer (.ok document)) :: rest
        ∧ plan.proceeds document := by
  have second {first : StoreEvent D} {saved : D} {reply : Reply Unit}
      {rest : List (StoreEvent D)} :
      ∃ event ∈ first :: .saved saved reply :: rest, event.isSave = true :=
    ⟨_, List.mem_cons_of_mem _ List.mem_cons_self, rfl⟩
  have only {reply : Reply D} : ¬ ∃ event ∈ [StoreEvent.loaded reply], event.isSave = true := by
    rintro ⟨event, member, saves⟩
    obtain rfl := List.mem_singleton.mp member
    cases saves
  -- a load that fails gives no document, and a settled one is not to be changed
  cases course with
  | unloaded halts =>
    refine iff_of_false only ?_
    rintro ⟨document, rest, same, -⟩
    cases same
    cases halts
  | settled stays result =>
    refine iff_of_false only ?_
    rintro ⟨document, rest, same, proceeds⟩
    cases same
    exact stays proceeds
  | unsaved proceeds halts => exact iff_of_true second ⟨_, _, rfl, proceeds⟩
  | saved proceeds ends => exact iff_of_true second ⟨_, _, rfl, proceeds⟩

theorem Course.alone (course : plan.Course events ending)
    (loads : ∀ event ∈ events, event.isSave = false) : ∃ reply, events = [.loaded reply] := by
  cases course with
  | unloaded halts => exact ⟨_, rfl⟩
  | settled stays result => exact ⟨_, rfl⟩
  | unsaved proceeds halts => cases loads _ (List.mem_cons_of_mem _ List.mem_cons_self)
  | saved proceeds ends => cases loads _ (List.mem_cons_of_mem _ List.mem_cons_self)

/-- Every document that is handed over is the change of the one that was
loaded, and it is handed over right after that. -/
theorem Course.edited (course : plan.Course events ending) {saved : D} {reply : Reply Unit}
    (member : .saved saved reply ∈ events) :
    ∃ document rest, events = .loaded (.answer (.ok document)) :: .saved saved reply :: rest
      ∧ plan.proceeds document ∧ saved = plan.edit document
      ∧ (∀ event ∈ rest, event.isSave = false)
      ∧ (reply = .answer (.ok ()) → plan.closing.Ends document rest ending) := by
  cases course with
  | unloaded halts => cases List.mem_singleton.mp member
  | settled stays result => cases List.mem_singleton.mp member
  | unsaved proceeds halts =>
    rcases List.mem_cons.mp member with same | member
    · cases same
    obtain ⟨rfl, rfl⟩ := StoreEvent.saved.inj (List.mem_singleton.mp member)
    refine ⟨_, [], rfl, proceeds, rfl, fun event none => (by cases none), ?_⟩
    rintro rfl
    cases halts
  | saved proceeds ends =>
    -- the load is no save, and after the save there are loads only
    rcases List.mem_cons.mp member with same | member
    · cases same
    rcases List.mem_cons.mp member with same | member
    · obtain ⟨rfl, rfl⟩ := StoreEvent.saved.inj same
      exact ⟨_, _, rfl, proceeds, rfl, ends.loads, fun _ => ends⟩
    · cases ends.loads _ member

/-- Every course follows the plan. -/
theorem Course.followed (course : plan.Course events ending) : plan.Followed events ending where
  opens := course.opens
  once := course.once
  stops := course.stops
  crashes := course.crashes
  saves := course.saves_iff
  alone := course.alone
  closes saved member := by
    obtain ⟨document, rest, said, -, edited, -, ends⟩ := course.edited member
    exact ⟨document, rest, said, edited, ends rfl⟩

end Plan

/-- Every run of the program takes a course under the plan. -/
def Program.Follows (program : Program D (Except RepositoryFault R)) (plan : Plan D R) : Prop :=
  ∀ events ending, program.Talks events ending → plan.Course events ending

/-- A program that loads and is done follows every plan that changes
nothing. -/
theorem Program.follows_reading {view : D → Except Malformed R} :
    (reading view).Follows .reads := by
  intro events ending talks
  obtain ⟨reply, rfl, halts | ⟨document, rfl, rfl⟩⟩ := talks.of_reading
  · exact .unloaded halts
  · exact .settled id _

/-- A program that loads follows a plan if it is done with every document
that is not to be changed, and saves the change of every other one before it
closes as planned. -/
theorem Program.follows_loading {plan : Plan D R} {next : D → Program D (Except RepositoryFault R)}
    (onward : ∀ document,
      (¬ plan.proceeds document ∧ ∃ result, next document = .done result)
        ∨ (plan.proceeds document ∧ ∃ last, next document = .saving (plan.edit document) last
          ∧ ∀ {rest ending}, last.Talks rest ending → plan.closing.Ends document rest ending)) :
    (loading next).Follows plan := by
  intro events ending talks
  obtain ⟨reply, rfl, halts⟩ | ⟨document, rest, rfl, further⟩ := talks.of_loading
  · exact .unloaded halts
  rcases onward document with ⟨stays, result, done⟩ | ⟨proceeds, last, saves, closes⟩
  · rw [done] at further
    cases further
    exact .settled stays result
  · rw [saves] at further
    obtain ⟨reply, rfl, halts⟩ | ⟨rest, rfl, onwards⟩ := further.of_saving
    · exact .unsaved proceeds halts
    · exact .saved proceeds (closes onwards)

/-! ## §4. The plans of the calls. -/

/-- What is told of a record that is whole or not, if this is what it
holds. -/
inductive Told {α : Type} (whole : Prop) (held : Except Malformed α) :
    Except RepositoryFault α → Prop where
  /-- It is malformed. -/
  | malformed {fault : Malformed} (broken : ¬ whole) (refused : held = .error fault) :
      Told whole held (.error (.malformed fault))
  /-- It is mapped. -/
  | mapped {value : α} (sound : whole) (holds : held = .ok value) : Told whole held (.ok value)

theorem told_mapError {α : Type} {whole : Prop} {held : Except Malformed α}
    (sound : (∃ value, held = .ok value) ↔ whole) :
    Told whole held (held.mapError .malformed) := by
  cases held with
  | error fault => exact .malformed (fun isWhole => by cases sound.mpr isWhole; contradiction) rfl
  | ok value => exact .mapped (sound.mp ⟨value, rfl⟩) rfl

section Collections

variable {Entry Entity : Type} (collection : Collection Entry Entity) (whole : Entry → Prop)

/-- What is told of an identifier from the document that was loaded after a
save, and from nothing else. -/
inductive Collection.Confirms (id : String) (reloaded : List Entry) :
    Except RepositoryFault (CollectionAnswer Entity) → Prop where
  /-- It is not there. -/
  | missing (absent : id ∉ collection.ids reloaded) :
      Confirms id reloaded (.error (.unconfirmed id))
  /-- Its first record is malformed, or it is mapped. -/
  | found {entry : Entry} {result : Except RepositoryFault Entity}
      (first : collection.find? id reloaded = some entry)
      (told : Told (whole entry) (collection.toEntity entry) result) :
      Confirms id reloaded (result.map fun entity => .outcome (.found entity))

/-- The plan of a call of a collection. -/
def CollectionCall.plan : CollectionCall Entity → Plan (List Entry) (CollectionAnswer Entity)
  | .findAll | .findById _ => .reads
  | .create entity => {
      proceeds := fun document => collection.entityId entity ∉ collection.ids document
      edit := fun document => document ++ [collection.toEntry entity]
      closing := .reload (collection.Confirms whole (collection.entityId entity)) }
  | .update entity => {
      proceeds := fun document => collection.entityId entity ∈ collection.ids document
      edit := collection.replace entity
      closing := .reload (collection.Confirms whole (collection.entityId entity)) }
  | .delete id => {
      proceeds := fun document => ∃ entry, collection.find? id document = some entry ∧ whole entry
      edit := collection.remove id
      closing := .atOnce fun document answer => ∃ entry entity,
        collection.find? id document = some entry ∧ collection.toEntity entry = .ok entity
          ∧ answer = .outcome (.found entity) }

end Collections

/-- The plan of a call of the exchange. -/
def ExchangeCall.plan : ExchangeCall → Plan ExchangeRecord Exchange
  | .get => .reads
  | .save exchange => {
      proceeds := fun _ => True
      edit := fun document => exchange.toRecord document.credentials
      closing := .reload fun reloaded => Told reloaded.DistinctNames reloaded.toExchange }

/-- The plan of a call of any class. -/
def DocumentClass.plan : (documentClass : DocumentClass) → documentClass.Call →
    Plan documentClass.Document documentClass.Answer
  | .strategies => CollectionCall.plan .strategies StrategyRecord.DistinctNames
  | .markets => CollectionCall.plan .markets fun _ => True
  | .exchange => ExchangeCall.plan

/-! ## §5. Every call follows its plan. -/

namespace Collection

open Program

variable {Entry Entity : Type} {collection : Collection Entry Entity} {whole : Entry → Prop}

theorem mem_ids_of_find? {id : String} {document : List Entry} {entry : Entry}
    (found : collection.find? id document = some entry) : id ∈ collection.ids document := by
  by_contra absent
  rw [CollectionCall.find?_eq_none_iff.mpr absent] at found
  cases found

/-- The load after a save ends as planned. -/
theorem ends_of_confirm
    (sound : ∀ {entry}, (∃ entity, collection.toEntity entry = .ok entity) ↔ whole entry)
    {id : String} {document : List Entry} {events : List (StoreEvent (List Entry))}
    {ending : Ending (Except RepositoryFault (CollectionAnswer Entity))}
    (talks : ((collection.confirm id).map .outcome).Talks events ending) :
    (Closing.reload (collection.Confirms whole id)).Ends document events ending := by
  rw [confirm, map_loading] at talks
  obtain ⟨reply, rfl, halts⟩ | ⟨reloaded, rest, rfl, onward⟩ := talks.of_loading
  · exact ⟨reply, rfl, .inl halts⟩
  cases found : collection.find? id reloaded with
  | none =>
    rw [found] at onward
    cases onward
    have absent : id ∉ collection.ids reloaded := CollectionCall.find?_eq_none_iff.mp found
    exact ⟨_, rfl, .inr ⟨reloaded, _, rfl, .missing absent, rfl⟩⟩
  | some entry =>
    rw [found] at onward
    cases onward
    refine ⟨_, rfl, .inr ⟨reloaded, _, rfl, .found found (told_mapError sound), ?_⟩⟩
    cases collection.toEntity entry with
    | error fault => rfl
    | ok entity => rfl

theorem follows_create
    (sound : ∀ {entry}, (∃ entity, collection.toEntity entry = .ok entity) ↔ whole entry)
    (entity : Entity) :
    ((collection.create entity).map .outcome).Follows
      ((CollectionCall.create entity).plan collection whole) := by
  rw [create, map_loading]
  refine follows_loading fun document => ?_
  cases found : collection.find? (collection.entityId entity) document with
  | some entry =>
    exact .inl ⟨fun absent => absent (mem_ids_of_find? found), _, rfl⟩
  | none =>
    exact .inr ⟨CollectionCall.find?_eq_none_iff.mp found, _,
      map_saving CollectionAnswer.outcome _ _, ends_of_confirm sound⟩

theorem follows_update
    (sound : ∀ {entry}, (∃ entity, collection.toEntity entry = .ok entity) ↔ whole entry)
    (entity : Entity) :
    ((collection.update entity).map .outcome).Follows
      ((CollectionCall.update entity).plan collection whole) := by
  rw [update, map_loading]
  refine follows_loading fun document => ?_
  cases found : collection.find? (collection.entityId entity) document with
  | none =>
    exact .inl ⟨fun present => CollectionCall.find?_eq_none_iff.mp found present, _, rfl⟩
  | some entry =>
    exact .inr ⟨mem_ids_of_find? found, _, map_saving CollectionAnswer.outcome _ _,
      ends_of_confirm sound⟩

theorem follows_delete
    (sound : ∀ {entry}, (∃ entity, collection.toEntity entry = .ok entity) ↔ whole entry)
    (id : String) :
    ((collection.delete id).map .outcome).Follows
      ((CollectionCall.delete id).plan collection whole) := by
  rw [delete, map_loading]
  refine follows_loading fun document => ?_
  cases found : collection.find? id document with
  | none =>
    refine .inl ⟨?_, _, rfl⟩
    rintro ⟨entry, first, -⟩
    rw [found] at first
    cases first
  | some entry =>
    cases held : collection.toEntity entry with
    | error fault =>
      -- the first record decides, also where a later one is whole
      refine .inl ⟨?_, .error (.malformed fault), by simp only [held]; rfl⟩
      rintro ⟨other, first, isWhole⟩
      rw [found] at first
      obtain rfl := Option.some.inj first
      obtain ⟨entity, holds⟩ := sound.mpr isWhole
      rw [held] at holds
      cases holds
    | ok entity =>
      refine .inr ⟨⟨entry, found, sound.mp ⟨entity, held⟩⟩,
        (done (.ok (.found entity))).map .outcome, ?_, fun {rest ending} talks => ?_⟩
      · simp only [held]
        exact map_saving CollectionAnswer.outcome _ _
      · cases talks
        exact ⟨rfl, _, ⟨entry, entity, found, held, rfl⟩, rfl⟩

theorem follows
    (sound : ∀ {entry}, (∃ entity, collection.toEntity entry = .ok entity) ↔ whole entry)
    (call : CollectionCall Entity) :
    (call.program collection).Follows (call.plan collection whole) := by
  cases call with
  | findAll =>
    rw [CollectionCall.program, findAll, map_reading]
    exact follows_reading
  | findById id =>
    rw [CollectionCall.program, findById, map_reading]
    exact follows_reading
  | create entity => exact follows_create sound entity
  | update entity => exact follows_update sound entity
  | delete id => exact follows_delete sound id

end Collection

theorem Exchange.follows_save (exchange : Exchange) :
    exchange.save.Follows (ExchangeCall.save exchange).plan := by
  unfold save
  refine Program.follows_loading fun document =>
    .inr ⟨trivial, _, rfl, fun {rest ending} talks => ?_⟩
  unfold get at talks
  obtain ⟨reply, rfl, halts | ⟨reloaded, rfl, rfl⟩⟩ := talks.of_reading
  · exact ⟨reply, rfl, .inl halts⟩
  · have told : Told reloaded.DistinctNames reloaded.toExchange
        (reloaded.toExchange.mapError .malformed) :=
      told_mapError ExchangeRecord.exists_toExchange_iff
    exact ⟨_, rfl, .inr ⟨reloaded, _, rfl, told, rfl⟩⟩

namespace DocumentClass

theorem follows (documentClass : DocumentClass) (call : documentClass.Call) :
    (documentClass.program call).Follows (documentClass.plan call) := by
  cases documentClass with
  | strategies => exact Collection.follows StrategyRecord.exists_toStrategy_iff call
  | markets =>
    exact Collection.follows (fun {stored} => ⟨fun _ => trivial, fun _ => ⟨stored.toMarket, rfl⟩⟩)
      call
  | exchange =>
    cases call with
    | get => exact Program.follows_reading
    | save exchange => exact exchange.follows_save

/-- A call that takes no lock changes nothing. -/
theorem not_proceeds_of_reads (documentClass : DocumentClass) {call : documentClass.Call}
    (reads : documentClass.writes call = false) (document : documentClass.Document) :
    ¬ (documentClass.plan call).proceeds document := by
  cases documentClass <;> cases call <;> first | exact id | cases reads

end DocumentClass

/-! ## §6. Transcripts. -/

namespace Request

variable (request : Request σ D R) {locks : Locks} (state : σ)

/-- Nothing is said where a request is refused. -/
theorem transcript_of_refused
    (refused : (request.writes && locks.isPoisoned request.repository.key) = true) :
    request.transcript locks state = [] := by
  have refusedToo : (request.transcribed.writes
      && locks.isPoisoned request.transcribed.repository.key) = true := refused
  unfold transcript
  rw [serve_of_refused refusedToo]

/-- Where it is not, its program says and hears the transcript. -/
theorem talks_transcript
    (admitted : (request.writes && locks.isPoisoned request.repository.key) = false) :
    request.program.Talks (request.transcript locks state) (request.serve locks state).1 := by
  have admittedToo : (request.transcribed.writes
      && locks.isPoisoned request.transcribed.repository.key) = false := admitted
  obtain ⟨events, ran, talks⟩ := request.program.run_transcribed request.repository.store
    request.repository.location state []
  have ranTranscribed : request.transcribed.program.run request.transcribed.repository.store
      request.transcribed.repository.location (state, []) = _ := ran
  have said : request.transcript locks state = events := by
    -- a crash changes the locks, and nothing that was said
    unfold transcript
    rw [serve_of_admitted admittedToo, ranTranscribed]
    cases request.program.run request.repository.store request.repository.location state with
    | mk ending after => cases ending <;> rfl
  rw [said, ending_of_admitted admitted]
  exact talks

end Request

namespace DocumentClass

/-- Over every store, whatever it replies to each load and save, a call that
its lock does not refuse keeps to its plan; and one that takes no lock loads
once and does nothing else. -/
theorem call_follows_plan (documentClass : DocumentClass)
    (repository : Repository σ documentClass.Document) (call : documentClass.Call) (locks : Locks)
    (state : σ)
    (admitted : documentClass.writes call = true → locks.isPoisoned repository.key = false) :
    (documentClass.plan call).Followed
        ((documentClass.request repository call).transcript locks state)
        ((documentClass.request repository call).serve locks state).1
      ∧ (documentClass.writes call = false → ∃ reply,
        (documentClass.request repository call).transcript locks state = [.loaded reply]) := by
  have free : (documentClass.writes call && locks.isPoisoned repository.key) = false := by
    cases writes : documentClass.writes call with
    | false => rfl
    | true => exact admitted writes
  have talks := (documentClass.request repository call).talks_transcript state free
  have followed := (documentClass.follows call _ _ talks).followed
  refine ⟨followed, fun reads => followed.alone fun event member => ?_⟩
  -- a save would be that of a document that the plan changes
  by_contra saves
  obtain ⟨document, -, -, proceeds⟩ :=
    followed.saves.mp ⟨event, member, (Bool.not_eq_false _).mp saves⟩
  exact documentClass.not_proceeds_of_reads reads document proceeds

/-- The repository of the instance, over a store with given replies. -/
def scriptedStrategies : Repository (Script (List StrategyRecord)) (List StrategyRecord) :=
  ⟨Store.scripted _, ⟨⟨"strategies.json"⟩, ⟨"schema.json"⟩⟩, .unnamed⟩

/-- Two records of one identifier, of which the first is malformed. -/
def contested : List StrategyRecord :=
  [⟨"a", "A", "", "c", some ⟨[⟨"n", "1"⟩, ⟨"n", "2"⟩]⟩⟩, ⟨"a", "A", "", "c", none⟩]

/-- A store that gives the malformed record, takes a new one, and then has
neither. -/
def forgetful : Script (List StrategyRecord) :=
  ⟨[.answer (.ok contested), .answer (.ok [])], [.answer (.ok ())], []⟩

/-- An update over a store that contradicts itself: it is saved, and not
confirmed. -/
theorem call_follows_plan_forgetful :
    Locks.fresh.isPoisoned scriptedStrategies.key = false
      ∧ (strategies.plan (.update (.plain "a" "B" "" "c"))).Followed
        [.loaded (.answer (.ok contested)),
          .saved [⟨"a", "B", "", "c", some ⟨[]⟩⟩, ⟨"a", "A", "", "c", none⟩] (.answer (.ok ())),
          .loaded (.answer (.ok []))]
        (.result (.error (.unconfirmed "a"))) := by
  have followed := (call_follows_plan strategies scriptedStrategies
    (.update (.plain "a" "B" "" "c")) .fresh forgetful fun _ => rfl).1
  exact ⟨rfl, followed⟩

end DocumentClass

end TradingConfig
