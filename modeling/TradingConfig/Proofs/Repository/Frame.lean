/-
  TradingConfig.Proofs.Repository.Frame
  ────────────────────────────────
  **WHAT A SESSION LEAVES ALONE.**

  Whatever calls a repository over files is given, and however they end, no
  directory comes or goes, and no place differs afterwards but that of the
  data file and that of its scratch file (`confined_serveEach`).  Where the
  data file cannot be found nothing is touched at all
  (`serveEach_of_lost`).
-/
import TradingConfig.Proofs.Repository.Twin

namespace TradingConfig

open FileTree

/-! ## §1. Confined changes. -/

/-- Two trees with the same directories that differ at most in the data file
of a location and in its scratch file. -/
structure Location.Confined (location : Location) (before after : FileTree) : Prop where
  /-- No directory comes or goes. -/
  directories : SameDirectories before after
  /-- Every other place is as it was. -/
  elsewhere : ∀ place, before.locate location.data ≠ .ok place →
    before.locate location.data.scratch ≠ .ok place → after.node? place = before.node? place

namespace Location.Confined

variable {location : Location} {first second third before after : FileTree}

theorem refl (tree : FileTree) : location.Confined tree tree :=
  ⟨.refl tree, fun _ _ _ => rfl⟩

theorem trans (confined : location.Confined first second)
    (next : location.Confined second third) : location.Confined first third where
  directories := confined.directories.trans next.directories
  elsewhere place notData notScratch := by
    -- the two files are at the same places in the tree between
    have back {path : Path} (leads : second.locate path = .ok place) :
        first.locate path = .ok place := confined.directories.symm.locate leads
    rw [next.elsewhere place (fun leads => notData (back leads))
      (fun leads => notScratch (back leads))]
    exact confined.elsewhere place notData notScratch

end Location.Confined

namespace Store

variable {D R : Type} {codec : Codec D} {validator : Validator} {location : Location}

/-- A save touches the data file and the scratch file only. -/
theorem confined_of_save {document : D} {tree after : FileTree} {result : Except StoreFault Unit}
    (saved : saveDocument codec document location tree validator = (result, after)) :
    location.Confined tree after where
  directories := sameDirectories_of_save saved
  elsewhere place notData notScratch := by
    cases result with
    | error fault => exact node?_of_failed_save saved notScratch
    | ok _ =>
      rw [saveDocument_of_check (checkDocument_of_saveDocument saved)] at saved
      obtain ⟨target, leads, -, -, others⟩ := replaceFile_ok saved
      exact others place (fun same => notData (same ▸ leads)) notScratch

/-- So does a program, whatever it loads and saves. -/
theorem confined_run (program : Program D R) (tree : FileTree) :
    location.Confined tree ((Behaviour.files codec validator).run location program tree).2 := by
  induction program generalizing tree with
  | done result => exact .refl tree
  | load next ih => exact ih _ tree
  | save document next ih => exact (confined_of_save rfl).trans (ih _ _)

end Store

/-! ## §2. Sessions. -/

namespace DocumentClass

variable {documentClass : DocumentClass} {validator : Validator} {location : Location}
  {key : Path.Key}

theorem confined_serve (call : documentClass.Call) (locks : Locks) (tree : FileTree) :
    location.Confined tree
      ((documentClass.request (documentClass.onFiles location key validator) call).serve locks
        tree).2.2 := by
  let request := documentClass.request (documentClass.onFiles location key validator) call
  have keeps : request.repository.store = Store.checked documentClass.codec validator := rfl
  obtain ⟨after, served, seen⟩ :=
    (Store.checked_behavesAs documentClass.codec validator).serve keeps locks tree
  rw [served]
  rw [show after = _ from seen]
  unfold Behaviour.serve
  split
  · exact .refl tree
  · exact Store.confined_run _ tree

/-- A call without the lock touches nothing. -/
theorem tree_of_free {call : documentClass.Call} (free : documentClass.writes call = false)
    (locks : Locks) (tree : FileTree) :
    ((documentClass.request (documentClass.onFiles location key validator) call).serve locks
      tree).2.2 = tree := by
  let request := documentClass.request (documentClass.onFiles location key validator) call
  have keeps : request.repository.store = Store.checked documentClass.codec validator := rfl
  obtain ⟨after, served, seen⟩ :=
    (Store.checked_behavesAs documentClass.codec validator).serve keeps locks tree
  rw [served]
  rw [show after = _ from seen]
  unfold Behaviour.serve
  split
  · rfl
  · obtain ⟨result, single⟩ := documentClass.singleLoad free
    show ((Behaviour.files documentClass.codec validator).run location
      (documentClass.program call) tree).2 = tree
    rw [single]
    rfl

/-- A session of any length, whatever its calls and however they end. -/
theorem confined_serveEach (calls : List documentClass.Call) (locks : Locks) (tree : FileTree) :
    location.Confined tree
      (Request.serveEach
        (calls.map (documentClass.request (documentClass.onFiles location key validator))) locks
        tree).2.2 := by
  induction calls generalizing locks tree with
  | nil => exact .refl tree
  | cons call rest ih => exact (confined_serve call locks tree).trans (ih _ _)

/-- Where the files do not load nothing is touched. -/
theorem serve_of_load_error (call : documentClass.Call) (locks : Locks) {tree : FileTree}
    {fault : StoreFault}
    (fails : Store.loadDocument documentClass.codec location tree.read validator = .error fault) :
    ∃ ending, (documentClass.request (documentClass.onFiles location key validator) call).serve
      locks tree = (ending, locks, tree) := by
  let request := documentClass.request (documentClass.onFiles location key validator) call
  cases refused : request.writes && locks.isPoisoned request.repository.key with
  | true => exact ⟨_, Request.serve_of_refused refused⟩
  | false =>
    obtain ⟨next, program, stops⟩ := documentClass.exists_load call
    have ran := Store.run_checked_of_load_error stops fails
    rw [← program] at ran
    refine ⟨_, Request.serve_of_run (fun writes => ?_) ran⟩
    rw [show request.writes = true from writes] at refused
    exact refused

/-- Where the data file cannot be found nothing is touched. -/
theorem serveEach_of_lost (calls : List documentClass.Call) (locks : Locks) {tree : FileTree}
    (lost : ∀ place, tree.locate location.data ≠ .ok place) :
    (Request.serveEach
      (calls.map (documentClass.request (documentClass.onFiles location key validator))) locks
      tree).2.2 = tree := by
  cases loaded : Store.loadDocument documentClass.codec location tree.read validator with
  | ok document =>
    obtain ⟨-, bytes, data⟩ := Store.exists_read_of_load loaded
    obtain ⟨place, leads, -⟩ := read_eq_ok_iff.mp data
    exact absurd leads (lost place)
  | error fault =>
    induction calls with
    | nil => rfl
    | cons call rest ih =>
      obtain ⟨ending, served⟩ := serve_of_load_error call locks loaded
      rw [List.map_cons, Request.serveEach, served]
      exact ih

end DocumentClass

end TradingConfig
