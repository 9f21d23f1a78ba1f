/-
  TradingConfig.Snapshot.Interleaving
  ────────────────────────────────
  **A SNAPSHOT READ WHILE OTHERS WRITE.**

  The three documents of a snapshot are read one after the other, without a
  lock.  Calls of the repositories can be served before, between and after
  the readings.
-/
import TradingConfig.Datastore
import TradingConfig.Repository.Session

namespace TradingConfig

/-- How far the reading of a snapshot has come. -/
inductive SnapshotProgress where
  /-- Nothing was read. -/
  | begun
  /-- The strategies were read. -/
  | readStrategies (strategies : List Strategy)
  /-- The markets were read, too. -/
  | readMarkets (strategies : List Strategy) (markets : List Market)
  /-- The last document was read, or one could not be. -/
  | ended (result : Except RepositoryFault Snapshot)

namespace SnapshotProgress

/-- Whether there is something left to read. -/
def isUnderWay : SnapshotProgress → Bool
  | .ended _ => false
  | _ => true

/-- Whether the document of a class was read. -/
def hasRead : SnapshotProgress → DocumentClass → Bool
  | .begun, _ => false
  | .readStrategies _, documentClass => documentClass = .strategies
  | .readMarkets _ _, documentClass => documentClass ≠ .exchange
  | .ended _, _ => true

/-- Reads the next document. -/
def next (datastore : Datastore) (files : Store.Files) : SnapshotProgress → SnapshotProgress
  | .begun =>
    match datastore.readStrategies files with
    | .error fault => .ended (.error fault)
    | .ok strategies => .readStrategies strategies
  | .readStrategies strategies =>
    match datastore.readMarkets files with
    | .error fault => .ended (.error fault)
    | .ok markets => .readMarkets strategies markets
  | .readMarkets strategies markets =>
    match datastore.readExchange files with
    | .error fault => .ended (.error fault)
    | .ok exchange => .ended (.ok ⟨strategies, markets, exchange⟩)
  | .ended result => .ended result

/-- Three readings of files that nobody changes give their snapshot. -/
theorem next_next_next (datastore : Datastore) (files : Store.Files) :
    (((SnapshotProgress.begun.next datastore files).next datastore files).next datastore files)
      = .ended (datastore.snapshot files) := by
  unfold Datastore.snapshot Snapshot.gather
  unfold next
  cases datastore.readStrategies files with
  | error fault => rfl
  | ok strategies =>
    cases datastore.readMarkets files with
    | error fault => rfl
    | ok markets =>
      cases datastore.readExchange files with
      | error fault => rfl
      | ok exchange => rfl

end SnapshotProgress

/-- What can happen next while a snapshot is read. -/
inductive SnapshotEvent where
  /-- The next document is read. -/
  | read
  /-- A call of a repository is served. -/
  | call (documentClass : DocumentClass) (call : documentClass.Call)

/-- A moment in which a snapshot is read. -/
structure SnapshotReading where
  /-- The files. -/
  tree : FileTree
  /-- The write locks of the documents. -/
  locks : Locks
  /-- How far the reading has come. -/
  progress : SnapshotProgress

namespace SnapshotReading

/-- The moment before the first document is read. -/
def start (tree : FileTree) (locks : Locks) : SnapshotReading := ⟨tree, locks, .begun⟩

/-- The moment after an event; `home` is the working directory of the
repositories. -/
def after (datastore : Datastore) (home : Place) (reading : SnapshotReading) :
    SnapshotEvent → SnapshotReading
  | .read => { reading with progress := reading.progress.next datastore reading.tree.read }
  | .call documentClass call =>
    let request := documentClass.request (datastore.repository home documentClass) call
    let (_, locks, tree) := request.serve reading.locks reading.tree
    { reading with tree := tree, locks := locks }

/-- The moment after events, one after the other. -/
def run (datastore : Datastore) (home : Place) (events : List SnapshotEvent)
    (reading : SnapshotReading) : SnapshotReading :=
  events.foldl (after datastore home) reading

/-- The files at every instant between the start of a reading and its end,
in their order. -/
def instants (datastore : Datastore) (home : Place) :
    List SnapshotEvent → SnapshotReading → List FileTree
  | [], reading => if reading.progress.isUnderWay then [reading.tree] else []
  | event :: rest, reading =>
    if reading.progress.isUnderWay then
      reading.tree :: instants datastore home rest (reading.after datastore home event)
    else []

/-- Whether a call can change a document that was read already. -/
def misses (reading : SnapshotReading) : SnapshotEvent → Bool
  | .read => false
  | .call documentClass call =>
    documentClass.writes call && reading.progress.hasRead documentClass

/-- Whether a call can change a document that is still to be read. -/
def catches (reading : SnapshotReading) : SnapshotEvent → Bool
  | .read => false
  | .call documentClass call =>
    documentClass.writes call && !reading.progress.hasRead documentClass

/-- Once a call was made that the reading misses, no call is made that it
catches. -/
def InOrder (datastore : Datastore) (home : Place) :
    (missed : Bool) → List SnapshotEvent → SnapshotReading → Prop
  | _, [], _ => True
  | missed, event :: rest, reading =>
    (missed = true → reading.catches event = false)
      ∧ InOrder datastore home (missed || reading.misses event) rest
          (reading.after datastore home event)

end SnapshotReading

end TradingConfig
