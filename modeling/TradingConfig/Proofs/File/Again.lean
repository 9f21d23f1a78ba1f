/-
  TradingConfig.Proofs.File.Again
  ────────────────────────────────
  **REPLACING A FILE A SECOND TIME.**

  Whether a file can be replaced depends on where the directories are, and
  a replacement neither makes nor removes one.  So a replacement that
  succeeded succeeds once more; with the same content it leaves every place
  as it was left the first time (`replaceFile_again`).
-/
import TradingConfig.Proofs.File.Alike

namespace TradingConfig

namespace FileTree.SameDirectories

variable {before after : FileTree} (same : SameDirectories before after) {path : Path}
  {place : Place}

include same

/-- A file that can be made can be made in the other tree, too. -/
theorem create {created : FileTree} (made : before.create path = .ok (place, created)) :
    after.create path = .ok (place, after.set place (.file .empty)) := by
  obtain ⟨located, notDirectory, -⟩ := create_eq_ok made
  unfold FileTree.create
  rw [same.locate located]
  dsimp only [Bind.bind, Except.bind]
  split
  next here => exact absurd here (same.notDirectory notDirectory)
  · rfl

/-- A renamed file is given the same place. -/
theorem locateTarget (located : before.locateTarget path = .ok place) :
    after.locateTarget path = .ok place := by
  obtain ⟨_, vetted, located⟩ := exists_ok_of_bind located
  obtain ⟨parent, walked, located⟩ := exists_ok_of_bind located
  have start : after.start path = before.start path := by
    unfold FileTree.start
    rw [same.home]
  unfold FileTree.locateTarget
  rw [vetted, start]
  dsimp only [Bind.bind, Except.bind]
  rw [same.walk walked]
  dsimp only
  split at located
  · cases located
  · cases located
  next here =>
    -- of the tree only directories matter from here on
    rw [(same.directory parent).mpr here]
    simp only [same.directory]
    exact located

end FileTree.SameDirectories

namespace Store

open FileTree

variable {path : Path} {content : ByteArray} {tree after : FileTree}

/-- A replacement that succeeds has made the scratch file and found the place
to move it to. -/
theorem exists_target_of_replaceFile (replaced : replaceFile path content tree = (.ok (), after)) :
    ∃ scratch place,
      tree.create path.scratch = .ok (scratch, tree.set scratch (.file .empty))
        ∧ (filled tree scratch content).locateTarget path = .ok place
        ∧ after = ((filled tree scratch content).erase scratch).set place (.file content) := by
  cases made : tree.create path.scratch with
  | error cause =>
    unfold replaceFile at replaced
    rw [made] at replaced
    cases replaced
  | ok found =>
    obtain ⟨scratch, created⟩ := found
    obtain ⟨-, -, rfl⟩ := create_eq_ok made
    refine ⟨scratch, ?_⟩
    cases target : (filled tree scratch content).locateTarget path with
    | error cause =>
      rw [replaceFile_of_lost made target] at replaced
      cases replaced
    | ok place =>
      rw [replaceFile_of_target made target] at replaced
      exact ⟨place, rfl, rfl, (Prod.mk.inj replaced).2.symm⟩

/-- What is at a place once the scratch file has been moved. -/
theorem node?_moved (tree : FileTree) {scratch place : Place} (below : scratch ≠ [])
    (belowTarget : place ≠ []) (content : ByteArray) (other : Place) :
    (((filled tree scratch content).erase scratch).set place (.file content)).node? other
      = if other = place then some (.file content)
        else if other = scratch then none else tree.node? other := by
  rw [node?_set _ _ _ belowTarget, node?_erase _ _ below, node?_filled _ below]
  split
  · rfl
  · split <;> rfl

/-- A file that was replaced is replaced again by the same content, and every
place stays as it is. -/
theorem replaceFile_again (replaced : replaceFile path content tree = (.ok (), after)) :
    ∃ again, replaceFile path content after = (.ok (), again)
      ∧ again.home = after.home ∧ again.node? = after.node? := by
  obtain ⟨-, -, same, -⟩ := replaceFile_ok replaced
  obtain ⟨scratch, place, made, target, rfl⟩ := exists_target_of_replaceFile replaced
  obtain ⟨-, notDirectory, -⟩ := create_eq_ok made
  obtain ⟨-, notDirectoryTarget⟩ := locateTarget_eq_ok target
  have below := ne_nil_of_node? notDirectory
  have belowTarget := ne_nil_of_node? notDirectoryTarget
  -- the scratch file is there in both trees when the target is looked up
  have sameFilled : SameDirectories (filled tree scratch content) (filled _ scratch content) :=
    (SameDirectories.filled notDirectory content).symm.trans
      (same.trans (SameDirectories.filled (same.notDirectory notDirectory) content))
  refine ⟨_, replaceFile_of_target (same.create made) (sameFilled.locateTarget target), rfl, ?_⟩
  funext other
  rw [node?_moved _ below belowTarget, node?_moved _ below belowTarget]
  split
  · rfl
  · split <;> rfl

end Store

end TradingConfig
