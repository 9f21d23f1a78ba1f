/-
  TradingConfig.Proofs.Watcher.Edits
  ────────────────────────────────
  **EDITS OF THE DATA FILES.**

  Once the documents could be read, edits of the data files leave every other
  place alone, and the data files stay where they were (`Edited.locate`).  So
  two trees in which the data files hold the same are read alike
  (`Edited.read_eq`).
-/
import TradingConfig.Proofs.Datastore.Readings
import TradingConfig.Watcher.Timeline

namespace TradingConfig

open FileTree

/-! ## §1. What a snapshot tells. -/

namespace Datastore

variable {datastore : Datastore}

/-- Where the documents can be read every data file is there. -/
theorem exists_data_of_snapshot {files : Store.Files} {snapshot : Snapshot}
    (reads : datastore.snapshot files = .ok snapshot) (documentClass : DocumentClass) :
    ∃ content, files (datastore.location documentClass).data = .ok content := by
  obtain ⟨strategies, markets, exchange⟩ := readings_of_snapshot reads
  cases documentClass with
  | strategies =>
    obtain ⟨document, loads, -⟩ := Program.exists_ok_of_seen strategies
    exact (Store.exists_read_of_load loads).2
  | markets =>
    obtain ⟨document, loads, -⟩ := Program.exists_ok_of_seen markets
    exact (Store.exists_read_of_load loads).2
  | exchange =>
    obtain ⟨document, loads, -⟩ := Program.exists_ok_of_seen exchange
    exact (Store.exists_read_of_load loads).2

/-- Contents that look the same are the same, file by file. -/
theorem toOption_eq_of_fingerprint {files others : Store.Files}
    (same : Watcher.fingerprint datastore others = Watcher.fingerprint datastore files)
    (documentClass : DocumentClass) :
    (others (datastore.location documentClass).data).toOption
      = (files (datastore.location documentClass).data).toOption := by
  obtain ⟨strategies, rest⟩ := List.cons.inj same
  obtain ⟨markets, rest⟩ := List.cons.inj rest
  obtain ⟨exchange, -⟩ := List.cons.inj rest
  cases documentClass with
  | strategies => exact strategies
  | markets => exact markets
  | exchange => exact exchange

/-! ## §2. Edited trees. -/

/-- A tree that edits of the data files can lead to from a first one: every
place but those of the data files is as it was. -/
structure Edited (datastore : Datastore) (first tree : FileTree) : Prop where
  /-- The working directory stays. -/
  home : tree.home = first.home
  /-- Every other place is as it was. -/
  elsewhere : ∀ place,
    (∀ documentClass, first.locate (datastore.location documentClass).data ≠ .ok place) →
    tree.node? place = first.node? place

namespace Edited

variable {first tree other : FileTree} {snapshot : Snapshot}

theorem refl (tree : FileTree) : Edited datastore tree tree :=
  ⟨rfl, fun _ _ => rfl⟩

/-- The data files stay where they were when the documents were read first:
the directories above them are not data files. -/
theorem locate (edited : Edited datastore first tree)
    (reads : datastore.snapshot first.read = .ok snapshot) {documentClass : DocumentClass}
    {place : Place} (leads : first.locate (datastore.location documentClass).data = .ok place) :
    tree.locate (datastore.location documentClass).data = .ok place := by
  refine locate_of_directories edited.home (fun directory isDirectory => ?_) leads
  rw [edited.elsewhere directory fun dataClass leadsHere => ?_]
  · exact isDirectory
  · obtain ⟨content, data⟩ := exists_data_of_snapshot reads dataClass
    obtain ⟨dataPlace, leadsThere, isFile⟩ := read_eq_ok_iff.mp data
    obtain rfl : directory = dataPlace := Except.ok.inj (leadsHere.symm.trans leadsThere)
    rw [isDirectory] at isFile
    cases isFile

/-- One more edit. -/
theorem put (edited : Edited datastore first tree)
    (reads : datastore.snapshot first.read = .ok snapshot) (documentClass : DocumentClass)
    (node : Option Node) :
    Edited datastore first (tree.put (datastore.location documentClass).data node) := by
  obtain ⟨content, data⟩ := exists_data_of_snapshot reads documentClass
  obtain ⟨place, leads, isFile⟩ := read_eq_ok_iff.mp data
  have below : place ≠ [] := by
    rintro rfl
    cases isFile
  unfold FileTree.put
  rw [edited.locate reads leads]
  cases node with
  | none =>
    refine ⟨edited.home, fun elsewhere notData => ?_⟩
    have notHere : elsewhere ≠ place := fun same => notData documentClass (same ▸ leads)
    rw [node?_erase tree elsewhere below, if_neg notHere]
    exact edited.elsewhere elsewhere notData
  | some node =>
    refine ⟨edited.home, fun elsewhere notData => ?_⟩
    have notHere : elsewhere ≠ place := fun same => notData documentClass (same ▸ leads)
    rw [node?_set tree node elsewhere below, if_neg notHere]
    exact edited.elsewhere elsewhere notData

/-- What the data files hold decides about everything. -/
theorem read_eq (edited : Edited datastore first tree) (editedToo : Edited datastore first other)
    (reads : datastore.snapshot first.read = .ok snapshot) {seen : Snapshot}
    (readsTree : datastore.snapshot tree.read = .ok seen)
    (same : Watcher.fingerprint datastore other.read = Watcher.fingerprint datastore tree.read) :
    other.read = tree.read := by
  refine read_of_node? (editedToo.home.trans edited.home.symm) fun place => ?_
  by_cases isData : ∃ documentClass,
      first.locate (datastore.location documentClass).data = .ok place
  · -- a data file: it can be read in the one tree, so it holds the same in the other
    obtain ⟨documentClass, leads⟩ := isData
    obtain ⟨content, data⟩ := exists_data_of_snapshot readsTree documentClass
    have dataToo : other.read (datastore.location documentClass).data = .ok content := by
      have option := toOption_eq_of_fingerprint same documentClass
      rw [data] at option
      cases found : other.read (datastore.location documentClass).data with
      | error fault => rw [found] at option; cases option
      | ok contentToo =>
        rw [found] at option
        exact congrArg Except.ok (Option.some.inj option)
    obtain ⟨here, leadsHere, isFile⟩ := read_eq_ok_iff.mp data
    obtain ⟨there, leadsThere, isFileToo⟩ := read_eq_ok_iff.mp dataToo
    obtain rfl : place = here :=
      Except.ok.inj ((edited.locate reads leads).symm.trans leadsHere)
    obtain rfl : place = there :=
      Except.ok.inj ((editedToo.locate reads leads).symm.trans leadsThere)
    rw [isFile, isFileToo]
  · have notData : ∀ documentClass,
        first.locate (datastore.location documentClass).data ≠ .ok place :=
      fun documentClass leads => isData ⟨documentClass, leads⟩
    rw [editedToo.elsewhere place notData, edited.elsewhere place notData]

end Edited

end Datastore

end TradingConfig
