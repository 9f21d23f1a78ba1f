/-
  TradingConfig.Watcher.Timeline
  ────────────────────────────────
  **EDITS BETWEEN THE STEPS OF A WATCHER.**

  The start of the program and its watcher go on step by step: the documents
  are read, the watcher is made, it takes its baseline, and from then on
  every poll looks at the contents and then reloads.  Edits of the data files
  can fall between any two of these steps.
-/
import TradingConfig.Watcher

namespace TradingConfig

/-- How far the start and the watcher have come. -/
inductive Phase where
  /-- Nothing was read yet. -/
  | starting
  /-- The documents could not be read, and the program has stopped. -/
  | stopped
  /-- The documents were read. -/
  | loaded (snapshot : Snapshot)
  /-- The watcher is there, without a baseline. -/
  | created (watcher : Watcher)
  /-- The watcher is between two polls. -/
  | waiting (watcher : Watcher)
  /-- The watcher has looked at the contents, and reloads next. -/
  | looked (watcher : Watcher) (contents : Fingerprint)

namespace Phase

/-- The watcher, once there is one. -/
def watcher? : Phase → Option Watcher
  | .created watcher | .waiting watcher | .looked watcher _ => some watcher
  | _ => none

/-- The snapshot that subscribers see. -/
def shown? (phase : Phase) : Option Snapshot :=
  phase.watcher?.map fun watcher => watcher.channel.current

/-- The contents that the watcher compares with. -/
def baseline? (phase : Phase) : Option Fingerprint :=
  phase.watcher?.bind Watcher.baseline

/-- The steps up to the end of the next poll that begins after now. -/
def remaining : Phase → Nat
  | .starting => 5
  | .stopped => 0
  | .loaded _ => 4
  | .created _ => 3
  | .waiting _ => 2
  | .looked _ _ => 3

/-- Whether the next step takes up what an earlier one has read: the baseline
after the startup load, or the reload after a look. -/
def isPending : Phase → Bool
  | .loaded _ | .created _ | .looked _ _ => true
  | _ => false

end Phase

/-- A moment of the program and its files. -/
structure Moment where
  /-- The files. -/
  tree : FileTree
  /-- How far the program has come. -/
  phase : Phase
  /-- The contents of the data files when the snapshot was read that is
  shown now, or will be once there is a watcher. -/
  source : Fingerprint

/-- What can happen next. -/
inductive WatchEvent where
  /-- A data file is made, changed or removed. -/
  | edit (documentClass : DocumentClass) (node : Option Node)
  /-- The program takes its next step. -/
  | step

/-- The tree after an edit of a path; where the path leads nowhere nothing
can be edited. -/
def FileTree.put (tree : FileTree) (path : Path) (node : Option Node) : FileTree :=
  match tree.locate path, node with
  | .ok place, some node => tree.set place node
  | .ok place, none => tree.erase place
  | .error _, _ => tree

namespace Moment

/-- The program before its first step. -/
def initial (tree : FileTree) : Moment := ⟨tree, .starting, []⟩

/-- The contents of the data files. -/
def contents (datastore : Datastore) (moment : Moment) : Fingerprint :=
  Watcher.fingerprint datastore moment.tree.read

/-- The next step of the program. -/
def step (datastore : Datastore) (moment : Moment) : Moment :=
  let files := moment.tree.read
  let contents := moment.contents datastore
  match moment.phase with
  | .starting =>
    match datastore.snapshot files with
    | .error _ => { moment with phase := .stopped }
    | .ok snapshot => { moment with phase := .loaded snapshot, source := contents }
  | .stopped => moment
  | .loaded snapshot => { moment with phase := .created (.create datastore snapshot) }
  | .created watcher => { moment with phase := .waiting (watcher.start files) }
  | .waiting watcher => { moment with phase := .looked watcher contents }
  | .looked watcher looked =>
    match watcher.reload looked files with
    | (watcher, true) => { moment with phase := .waiting watcher, source := contents }
    | (watcher, false) => { moment with phase := .waiting watcher }

/-- The moment after an event. -/
def after (datastore : Datastore) (moment : Moment) : WatchEvent → Moment
  | .edit documentClass node =>
    { moment with tree := moment.tree.put (datastore.location documentClass).data node }
  | .step => moment.step datastore

/-- The moment after events, one after the other. -/
def run (datastore : Datastore) (events : List WatchEvent) (moment : Moment) : Moment :=
  events.foldl (after datastore) moment

/-- No event changes the contents of the data files between two steps that
belong together. -/
def Undisturbed (datastore : Datastore) : List WatchEvent → Moment → Prop
  | [], _ => True
  | event :: rest, moment =>
    (moment.phase.isPending = true →
        (moment.after datastore event).contents datastore = moment.contents datastore)
      ∧ Undisturbed datastore rest (moment.after datastore event)

end Moment

end TradingConfig
