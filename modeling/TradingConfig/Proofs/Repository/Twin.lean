/-
  TradingConfig.Proofs.Repository.Twin
  ────────────────────────────────
  **FILES BEHAVE LIKE A DOCUMENT IN MEMORY.**

  A repository over files is run beside its twin, a repository over the
  store in memory that holds the document of the files.  After every call
  either both have given the same answer and the files load as the twin's
  document, or the store has failed, the data file is as it was and the twin
  takes the call back (`Store.run_checked`).  So it goes on for a session of
  any length (`twinned_of_load`).
-/
import TradingConfig.Proofs.Repository.Behaviour
import TradingConfig.Proofs.Store.SaveLoad

namespace TradingConfig

/-! ## §1. One program. -/

namespace Store

open FileTree Program

variable {D R : Type} {codec : Codec D} {validator : Validator} {location : Location}
  {program : Program D (Except RepositoryFault R)} {tree : FileTree} {document : D}

/-- Over files that load as a document a program that only loads ends as on
the document, and touches nothing. -/
theorem run_checked_of_reads (reads : Reads program)
    (loads : loadDocument codec location tree.read validator = .ok document) :
    program.run (checked codec validator) location tree
        = (.result (program.evaluate document).1, tree)
      ∧ (program.evaluate document).2 = document := by
  induction reads with
  | done result => exact ⟨rfl, rfl⟩
  | @load next stops onward ih =>
    show (next (loadDocument codec location tree.read validator)).run (checked codec validator)
      location tree = _ ∧ _
    rw [loads]
    exact ih document

/-- Over files that load as a document a call ends as on the document, and
the files load as the document after it; or the store fails, and the data
file is as before. -/
theorem run_checked (faithful : codec.Faithful Json.nestingLimit) (transacts : Transacts program)
    (apart : location.Apart tree)
    (loads : loadDocument codec location tree.read validator = .ok document) :
    ∃ result after, program.run (checked codec validator) location tree = (.result result, after)
      ∧ SameDirectories tree after
      ∧ ((result = (program.evaluate document).1
          ∧ loadDocument codec location after.read validator = .ok (program.evaluate document).2
          ∧ (program.saves document = false → after = tree))
        ∨ ((∃ fault, result = .error (.store fault))
          ∧ loadDocument codec location after.read validator = .ok document
          ∧ after.read location.data = tree.read location.data)) := by
  induction transacts with
  | done result =>
    exact ⟨result, tree, rfl, .refl tree, .inl ⟨rfl, loads, fun _ => rfl⟩⟩
  | @load next stops onward ih =>
    show ∃ result after,
      (next (loadDocument codec location tree.read validator)).run (checked codec validator)
        location tree = _ ∧ _
    rw [loads]
    exact ih document
  | @save saved next stops reads =>
    show ∃ result after, (next (saveDocument codec saved location tree validator).1).run
      (checked codec validator) location (saveDocument codec saved location tree validator).2
        = _ ∧ _
    cases ended : saveDocument codec saved location tree validator with
    | mk answer after =>
      have same := sameDirectories_of_save ended
      cases answer with
      | ok _ =>
        -- the loads that follow find the document that was saved
        have loadsAfter := load_after_save faithful apart ended
        obtain ⟨ran, document⟩ := run_checked_of_reads reads loadsAfter
        refine ⟨_, after, ran, same, .inl ⟨rfl, ?_, fun unsaved => by cases unsaved⟩⟩
        show loadDocument codec location after.read validator
          = .ok ((next (.ok ())).evaluate saved).2
        rw [document]
        exact loadsAfter
      | error fault =>
        -- the fault is the answer, and the document that was there is still there
        obtain ⟨data, loadsAfter⟩ := load_after_failed_save apart loads ended
        refine ⟨.error (.store fault), after, ?_, same, .inr ⟨⟨fault, rfl⟩, loadsAfter, data⟩⟩
        simp only
        rw [stops]
        rfl

/-- Where the first load fails a call ends with its fault and touches
nothing. -/
theorem run_checked_of_load_error
    {next : Except StoreFault D → Program D (Except RepositoryFault R)}
    (stops : ∀ fault, next (.error fault) = fail (.store fault)) {fault : StoreFault}
    (fails : loadDocument codec location tree.read validator = .error fault) :
    (Program.load next).run (checked codec validator) location tree
      = (.result (.error (.store fault)), tree) := by
  show (next (loadDocument codec location tree.read validator)).run (checked codec validator)
    location tree = _
  rw [fails, stops]
  rfl

end Store

/-! ## §2. Sessions. -/

namespace DocumentClass

variable (documentClass : DocumentClass) (location : Location) (key : Path.Key)

/-- A repository over files. -/
def onFiles (validator : Validator := .keywords) : Repository FileTree documentClass.Document :=
  ⟨Store.checked documentClass.codec validator, location, key⟩

/-- A repository over the store in memory. -/
def inMemory : Repository (Memory documentClass.Document) documentClass.Document :=
  ⟨Store.memory documentClass.Document, location, key⟩

/-- A session on the files and its twin go together.  Call by call, either
the answers agree and the files load as the twin's document; or the store
fails, the data file stays as it was, and the twin is set back.  The data
file changes only under a call that is answered with its change. -/
def Twinned (validator : Validator) (locks : Locks) :
    List documentClass.Call → FileTree → Memory documentClass.Document → Prop
  | [], _, _ => True
  | call :: rest, tree, memory =>
    ∃ ending after twinEnding twinAfter,
      (documentClass.request (documentClass.onFiles location key validator) call).serve locks tree
          = (ending, locks, after)
        ∧ (documentClass.request (documentClass.inMemory location key) call).serve locks memory
          = (twinEnding, locks, twinAfter)
        ∧ (after.read location.data ≠ tree.read location.data → documentClass.Changes call ending)
        ∧ ((ending = twinEnding
            ∧ Store.loadDocument documentClass.codec location after.read validator
              = .ok twinAfter.document
            ∧ Twinned validator locks rest after twinAfter)
          ∨ ((∃ fault, ending = .result (.error (.store fault)))
            ∧ after.read location.data = tree.read location.data
            ∧ Twinned validator locks rest after memory))

variable {documentClass location key} {validator : Validator} {locks : Locks}

/-- Where the files load as the twin's document the two go together. -/
theorem twinned_of_load (unpoisoned : locks.isPoisoned key = false)
    (calls : List documentClass.Call) {tree : FileTree} (apart : location.Apart tree)
    {memory : Memory documentClass.Document}
    (loads : Store.loadDocument documentClass.codec location tree.read validator
      = .ok memory.document) :
    documentClass.Twinned location key validator locks calls tree memory := by
  -- induction on the calls: the files stay apart and load as what the twin holds
  induction calls generalizing tree memory with
  | nil => trivial
  | cons call rest ih =>
    obtain ⟨result, after, ran, same, outcome⟩ :=
      Store.run_checked documentClass.codec_faithful (documentClass.transacts call) apart loads
    have apartAfter := apart.of_sameDirectories same
    obtain ⟨twinAfter, twinServed, twinDocument⟩ := Store.serve_memory
      (documentClass.request (documentClass.inMemory location key) call) rfl unpoisoned memory
    have served : (documentClass.request (documentClass.onFiles location key validator) call).serve
        locks tree = (.result result, locks, after) :=
      Request.serve_of_run (fun _ => unpoisoned) ran
    refine ⟨_, after, _, twinAfter, served, twinServed, ?_, ?_⟩
    · -- only a call that saves can change the data file, and then its answer says so
      intro changed
      rcases outcome with ⟨rfl, -, untouched⟩ | ⟨-, -, data⟩
      · cases saves : (documentClass.program call).saves memory.document with
        | false =>
          rw [untouched saves] at changed
          exact absurd rfl changed
        | true => exact documentClass.changes_of_saves saves
      · exact absurd data changed
    · rcases outcome with ⟨rfl, loadsAfter, -⟩ | ⟨⟨fault, rfl⟩, loadsAfter, data⟩
      · have loadsTwin : Store.loadDocument documentClass.codec location after.read validator
            = .ok twinAfter.document := loadsAfter.trans (congrArg Except.ok twinDocument.symm)
        exact .inl ⟨rfl, loadsTwin, ih apartAfter loadsTwin⟩
      · exact .inr ⟨⟨fault, rfl⟩, data, ih apartAfter loadsAfter⟩

/-- Where the first load fails every call answers with its fault, and
nothing is touched. -/
theorem serveEach_of_load_error (unpoisoned : locks.isPoisoned key = false)
    (calls : List documentClass.Call) {tree : FileTree} {fault : StoreFault}
    (fails : Store.loadDocument documentClass.codec location tree.read validator = .error fault) :
    Request.serveEach
        (calls.map (documentClass.request (documentClass.onFiles location key validator))) locks
        tree
      = (calls.map fun _ => .result (.error (.store fault)), locks, tree) := by
  induction calls with
  | nil => rfl
  | cons call rest ih =>
    obtain ⟨next, program, stops⟩ := documentClass.exists_load call
    have ran := Store.run_checked_of_load_error stops fails
    rw [← program] at ran
    have served : (documentClass.request (documentClass.onFiles location key validator) call).serve
        locks tree = (.result (.error (.store fault)), locks, tree) :=
      Request.serve_of_run (fun _ => unpoisoned) ran
    exact Request.serveEach_cons served ih

/-- A repository over files, whatever validator decides about schemas and
wherever the schema is a file apart: if the first load fails, every call of
a session answers with its fault and nothing is touched; otherwise the
session and that of a twin over the loaded document go together. -/
theorem files_follow_memory (validator : Validator) (documentClass : DocumentClass)
    (location : Location) (key : Path.Key) (locks : Locks)
    (unpoisoned : locks.isPoisoned key = false) (tree : FileTree) (apart : location.Apart tree)
    (calls : List documentClass.Call) :
    (∀ fault, Store.loadDocument documentClass.codec location tree.read validator = .error fault →
        Request.serveEach
            (calls.map (documentClass.request (documentClass.onFiles location key validator))) locks
            tree
          = (calls.map fun _ => .result (.error (.store fault)), locks, tree))
      ∧ ∀ document,
        Store.loadDocument documentClass.codec location tree.read validator = .ok document →
        documentClass.Twinned location key validator locks calls tree (Memory.holding document) :=
  ⟨fun _ fails => serveEach_of_load_error unpoisoned calls fails,
    fun _ loads => twinned_of_load unpoisoned calls apart loads⟩

/-- Before the first save there is no data file and every call fails; after
it a session and its twin go together. -/
theorem files_follow_memory_sample :
    Request.serveEach ([.findAll, .create ⟨"m", "M", "b", "c", true, "s"⟩].map
        (markets.request (markets.onFiles Store.sampleLocation .unnamed))) Locks.fresh
        Store.sampleTree
      = ([.result (.error (.store (.file ⟨"markets.json"⟩ .notFound))),
          .result (.error (.store (.file ⟨"markets.json"⟩ .notFound)))],
          Locks.fresh, Store.sampleTree)
      ∧ ∃ tree, Store.loadDocument markets.codec Store.sampleLocation tree.read
          = .ok Store.sampleDocument
        ∧ markets.Twinned Store.sampleLocation .unnamed .keywords Locks.fresh
          [.findAll, .create ⟨"m", "M", "b", "c", true, "s"⟩] tree
          (Memory.holding Store.sampleDocument) := by
  constructor
  · have fails : Store.loadDocument markets.codec Store.sampleLocation Store.sampleTree.read
        = .error (.file ⟨"markets.json"⟩ .notFound) := by
      unfold Store.loadDocument
      rw [Store.sample_schema]
      rfl
    exact (files_follow_memory .keywords .markets Store.sampleLocation .unnamed Locks.fresh rfl
      Store.sampleTree Store.sample_apart _).1 _ fails
  · obtain ⟨tree, saved⟩ := Store.sample_saved
    have loads := Store.load_after_save markets.codec_faithful Store.sample_apart saved
    have apart := Store.sample_apart.of_sameDirectories (Store.sameDirectories_of_save saved)
    exact ⟨tree, loads, (files_follow_memory .keywords .markets Store.sampleLocation .unnamed
      Locks.fresh rfl tree apart _).2 _ loads⟩

end DocumentClass

end TradingConfig
