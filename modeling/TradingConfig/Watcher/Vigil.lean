/-
  TradingConfig.Watcher.Vigil
  ────────────────────────────────
  **A WATCHER THAT POLLS BETWEEN EDITS.**

  The watcher takes its baseline from the contents that its first snapshot
  was read from.  From then on files are edited in whatever way, and polls
  look at what is there then; no edit falls into a poll.  The vigil remembers
  the files behind the snapshot that was published last.
-/
import TradingConfig.Watcher

namespace TradingConfig

/-- Some data file has other bytes in two trees, or can be read in one of
them only. -/
def Datastore.DataDiffer (datastore : Datastore) (first second : FileTree) : Prop :=
  ∃ documentClass, (second.read (datastore.location documentClass).data).toOption
    ≠ (first.read (datastore.location documentClass).data).toOption

/-- A watcher between two polls, and its files. -/
structure Vigil where
  /-- The files. -/
  tree : FileTree
  /-- The watcher. -/
  watcher : Watcher
  /-- The files as they were when the snapshot was read that was published
  last. -/
  origin : FileTree

/-- What can happen between two polls, and a poll. -/
inductive VigilEvent where
  /-- Files are edited, and these are the files now. -/
  | edit (tree : FileTree)
  /-- The watcher polls. -/
  | poll

namespace Vigil

/-- The watcher when it starts with the snapshot of the files. -/
def begin (datastore : Datastore) (tree : FileTree) (initial : Snapshot) : Vigil :=
  ⟨tree, (Watcher.create datastore initial).start tree.read, tree⟩

/-- Whether a poll would publish a snapshot now. -/
def publishes (vigil : Vigil) : Bool := (vigil.watcher.poll vigil.tree.read).2

/-- The snapshot that subscribers see. -/
def shown (vigil : Vigil) : Snapshot := vigil.watcher.channel.current

/-- The vigil after an event. -/
def after (vigil : Vigil) : VigilEvent → Vigil
  | .edit tree => { vigil with tree := tree }
  | .poll =>
    match vigil.watcher.poll vigil.tree.read with
    | (watcher, true) => { vigil with watcher := watcher, origin := vigil.tree }
    | (watcher, false) => { vigil with watcher := watcher }

/-- The vigil after events, one after the other. -/
def run (vigil : Vigil) (events : List VigilEvent) : Vigil :=
  events.foldl after vigil

/-- No poll among the events publishes a snapshot. -/
def Silent : List VigilEvent → Vigil → Prop
  | [], _ => True
  | .edit tree :: rest, vigil => Silent rest (vigil.after (.edit tree))
  | .poll :: rest, vigil => vigil.publishes = false ∧ Silent rest (vigil.after .poll)

end Vigil

end TradingConfig
