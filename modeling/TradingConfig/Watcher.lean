/-
  TradingConfig.Watcher
  ────────────────────────────────
  **WATCHING THE DATA FILES.**

  A watcher looks at the contents of the data files at every poll.  Where
  they differ from the contents behind the snapshot it published last, it
  reads a new snapshot.  One that can be read is published and its contents
  become the new baseline; otherwise everything stays as it is, so that the
  next poll tries again.
-/
import TradingConfig.Datastore

namespace TradingConfig

/-- The contents of the data files in order; none for a file that cannot be
read. -/
abbrev Fingerprint := List (Option ByteArray)

/-- Where snapshots are published. -/
structure Channel where
  /-- The snapshot that a subscriber sees. -/
  current : Snapshot
  /-- Whether there is a subscriber. -/
  subscribed : Bool
  deriving DecidableEq

/-- The channel after a snapshot was sent; without subscriber it is lost. -/
def Channel.send (channel : Channel) (snapshot : Snapshot) : Channel :=
  if channel.subscribed then { channel with current := snapshot } else channel

/-- A watcher of a datastore. -/
structure Watcher where
  /-- The files. -/
  datastore : Datastore
  /-- The contents behind the published snapshot, once they were taken. -/
  baseline : Option Fingerprint
  /-- Where snapshots are published. -/
  channel : Channel

namespace Watcher

/-- A watcher with an initial snapshot that did not look at the files yet. -/
def create (datastore : Datastore) (initial : Snapshot) : Watcher :=
  ⟨datastore, none, ⟨initial, true⟩⟩

/-- The contents of the data files. -/
def fingerprint (datastore : Datastore) (files : Store.Files) : Fingerprint :=
  datastore.dataPaths.map fun path => (files path).toOption

/-- The watcher with the present contents as its baseline. -/
def start (watcher : Watcher) (files : Store.Files) : Watcher :=
  { watcher with baseline := some (fingerprint watcher.datastore files) }

/-- The second half of a poll: with contents seen before, the files are
read; whether a snapshot was published. -/
def reload (watcher : Watcher) (contents : Fingerprint) (files : Store.Files) : Watcher × Bool :=
  if watcher.baseline = some contents then (watcher, false)
  else match watcher.datastore.snapshot files with
    | .error _ => (watcher, false)
    | .ok snapshot =>
      ({ watcher with baseline := some contents, channel := watcher.channel.send snapshot }, true)

/-- A poll: a look at the contents, then a reading if they have changed. -/
def poll (watcher : Watcher) (files : Store.Files) : Watcher × Bool :=
  watcher.reload (fingerprint watcher.datastore files) files

/-- Several polls of the same files; whether any of them published. -/
def polls (files : Store.Files) : (count : Nat) → Watcher → Watcher × Bool
  | 0, watcher => (watcher, false)
  | count + 1, watcher =>
    let (watcher, first) := watcher.poll files
    let (watcher, later) := polls files count watcher
    (watcher, first || later)

/-- The watcher without its subscriber. -/
def unsubscribe (watcher : Watcher) : Watcher :=
  { watcher with channel := { watcher.channel with subscribed := false } }

end Watcher

/-- A watcher between two polls. -/
structure WatcherRun where
  /-- The watcher. -/
  watcher : Watcher
  /-- Whether it goes on polling. -/
  running : Bool

namespace WatcherRun

/-- The run after a sign to stop, which comes before the next poll. -/
def stop (run : WatcherRun) : WatcherRun :=
  { run with running := false }

/-- The run after time for a number of polls has passed. -/
def pass (run : WatcherRun) (files : Store.Files) (count : Nat) : WatcherRun × Bool :=
  if run.running then
    let (watcher, published) := Watcher.polls files count run.watcher
    ({ run with watcher := watcher }, published)
  else (run, false)

end WatcherRun

end TradingConfig
