/-
  TradingConfig.Proofs.File.Replace
  ────────────────────────────────
  **WHAT REPLACING A FILE DOES TO A TREE.**

  Replacing a file never makes or removes a directory.  Where it succeeds
  the content is at the place of the path, and every other place but that
  of the scratch file is as before (`replaceFile_ok`).  Where it fails the
  place of the scratch file is the only one that can differ
  (`replaceFile_error`).
-/
import TradingConfig.Proofs.File.Tree
import TradingConfig.Store.Checked

namespace TradingConfig

namespace FileTree

/-! ## §1. Files that come and go. -/

theorem ne_nil_of_node? {tree : FileTree} {place : Place}
    (notDirectory : tree.node? place ≠ some .directory) : place ≠ [] := by
  rintro rfl
  exact notDirectory rfl

namespace SameDirectories

theorem set_file {tree : FileTree} {place : Place}
    (notDirectory : tree.node? place ≠ some .directory) (content : ByteArray) :
    SameDirectories tree (tree.set place (.file content)) where
  home := rfl
  directory other := by
    rw [node?_set tree (.file content) other (ne_nil_of_node? notDirectory)]
    split
    next same => subst same; simp [notDirectory]
    · rfl

theorem erase {tree : FileTree} {place : Place}
    (notDirectory : tree.node? place ≠ some .directory) :
    SameDirectories tree (tree.erase place) where
  home := rfl
  directory other := by
    rw [node?_erase tree other (ne_nil_of_node? notDirectory)]
    split
    next same => subst same; simp [notDirectory]
    · rfl

theorem notDirectory {before after : FileTree} (same : SameDirectories before after)
    {place : Place} (elsewhere : before.node? place ≠ some .directory) :
    after.node? place ≠ some .directory :=
  fun here => elsewhere ((same.directory place).mp here)

/-- A file that is made and then filled. -/
theorem filled {tree : FileTree} {place : Place} (notDirectory : tree.node? place ≠ some .directory)
    (content : ByteArray) :
    SameDirectories tree ((tree.set place (.file .empty)).set place (.file content)) := by
  have created := set_file notDirectory .empty
  exact created.trans (set_file (created.notDirectory notDirectory) content)

end SameDirectories

/-! ## §2. The operations of a replacement. -/

theorem create_eq_ok {tree created : FileTree} {path : Path} {place : Place}
    (made : tree.create path = .ok (place, created)) :
    tree.locate path = .ok place ∧ tree.node? place ≠ some .directory
      ∧ created = tree.set place (.file .empty) := by
  obtain ⟨found, located, made⟩ := exists_ok_of_bind made
  split at made
  · cases made
  next notDirectory =>
    obtain ⟨rfl, rfl⟩ := Prod.mk.inj (Except.ok.inj made)
    exact ⟨located, fun here => notDirectory here, rfl⟩

/-- Where no slash was trimmed from the segments of a path, they end in the
name that is left. -/
theorem segments_of_whole {segments slashless : List String} (kept : slashless <+: segments)
    (noSlash : ¬ slashless.length < segments.length) (nonempty : slashless ≠ []) :
    segments = slashless.dropLast ++ [slashless.getLastD ""] := by
  have whole : slashless = segments :=
    kept.eq_of_length (Nat.le_antisymm kept.length_le (Nat.le_of_not_lt noSlash))
  have last : slashless.getLastD "" = slashless.getLast nonempty := by
    rw [List.getLastD_eq_getLast?, List.getLast?_eq_some_getLast nonempty]
    rfl
  rw [last, List.dropLast_concat_getLast nonempty, whole]

/-- The place that a renamed file is given is the one that its path leads
to. -/
theorem locateTarget_eq_ok {tree : FileTree} {path : Path} {target : Place}
    (located : tree.locateTarget path = .ok target) :
    tree.locate path = .ok target ∧ tree.node? target ≠ some .directory := by
  obtain ⟨_, vetted, located⟩ := exists_ok_of_bind located
  obtain ⟨parent, walked, located⟩ := exists_ok_of_bind located
  have kept : (path.segments.reverse.dropWhile (· = "")).reverse <+: path.segments := by
    rw [← List.reverse_suffix, List.reverse_reverse]
    exact List.dropWhile_suffix _
  generalize (path.segments.reverse.dropWhile (· = "")).reverse = slashless at located walked kept
  split at located
  · cases located
  · cases located
  next here =>
    simp only at located
    split at located
    · cases located
    next isName =>
      split at located
      · cases located
      next short =>
        split at located
        · cases located
        next noSlash =>
          split at located
          · cases located
          next notDirectory =>
            obtain rfl := Except.ok.inj located
            simp only [Bool.or_eq_true, decide_eq_true_eq, not_or] at isName
            refine ⟨?_, notDirectory⟩
            have nonempty : slashless ≠ [] := by
              rintro rfl
              exact isName.1 rfl
            unfold locate
            rw [vetted]
            show tree.walk (tree.start path) path.segments = _
            rw [segments_of_whole kept noSlash nonempty, walk_append, walked]
            show tree.walk parent [slashless.getLastD ""] = _
            rw [walk_cons here, if_neg isName.1, if_neg isName.2, if_neg short]
            rfl

theorem rename_eq_ok {tree renamed : FileTree} {source : Place} {content : ByteArray}
    {target : Path} (moved : tree.rename source content target = .ok renamed) :
    ∃ place, tree.locate target = .ok place ∧ tree.node? place ≠ some .directory
      ∧ renamed = (tree.erase source).set place (.file content) := by
  obtain ⟨place, located, moved⟩ := exists_ok_of_bind moved
  obtain ⟨leads, notDirectory⟩ := locateTarget_eq_ok located
  exact ⟨place, leads, notDirectory, (Except.ok.inj moved).symm⟩

end FileTree

namespace Store

open FileTree

/-! ## §3. Replacements. -/

/-- A replacement that fails leaves every place as it was, except that of
the scratch file. -/
theorem replaceFile_error {path : Path} {content : ByteArray} {tree after : FileTree}
    {fault : StoreFault} (failed : replaceFile path content tree = (.error fault, after)) :
    SameDirectories tree after
      ∧ ∀ place, tree.locate path.scratch ≠ .ok place → after.node? place = tree.node? place := by
  unfold replaceFile at failed
  split at failed
  · obtain ⟨-, rfl⟩ := Prod.mk.inj failed
    exact ⟨SameDirectories.refl tree, fun _ _ => rfl⟩
  next scratch created made =>
    obtain ⟨beside, notDirectory, rfl⟩ := create_eq_ok made
    have below := ne_nil_of_node? notDirectory
    have sameFilled := SameDirectories.filled notDirectory content
    simp only at failed
    split at failed
    · -- the renaming failed: the scratch file was made, filled and removed
      obtain ⟨-, rfl⟩ := Prod.mk.inj failed
      refine ⟨sameFilled.trans (SameDirectories.erase (sameFilled.notDirectory notDirectory)), ?_⟩
      intro place elsewhere
      have other : place ≠ scratch := fun same => elsewhere (same ▸ beside)
      rw [node?_erase _ _ below, node?_set _ _ _ below, node?_set _ _ _ below]
      simp [other]
    · cases (Prod.mk.inj failed).1

/-- A replacement that succeeds puts the content at the place of the path
and leaves every other place as it was, except that of the scratch file. -/
theorem replaceFile_ok {path : Path} {content : ByteArray} {tree after : FileTree}
    (replaced : replaceFile path content tree = (.ok (), after)) :
    ∃ place, tree.locate path = .ok place ∧ SameDirectories tree after
      ∧ after.node? place = some (.file content)
      ∧ ∀ other, other ≠ place → tree.locate path.scratch ≠ .ok other →
        after.node? other = tree.node? other := by
  unfold replaceFile at replaced
  split at replaced
  · cases (Prod.mk.inj replaced).1
  next scratch created made =>
    obtain ⟨beside, notDirectory, rfl⟩ := create_eq_ok made
    have below := ne_nil_of_node? notDirectory
    have sameFilled := SameDirectories.filled notDirectory content
    simp only at replaced
    split at replaced
    · cases (Prod.mk.inj replaced).1
    next renamed moved =>
      obtain ⟨-, rfl⟩ := Prod.mk.inj replaced
      obtain ⟨place, leads, notDirectoryTarget, rfl⟩ := rename_eq_ok moved
      -- the target is looked up once the scratch file is there, which moves no path
      have belowTarget := ne_nil_of_node? notDirectoryTarget
      have sameErased := SameDirectories.erase (sameFilled.notDirectory notDirectory)
      have sameRenamed := sameErased.trans
        (SameDirectories.set_file (sameErased.notDirectory notDirectoryTarget) content)
      refine ⟨place, (locate_eq_ok_iff sameFilled).mp leads, sameFilled.trans sameRenamed, ?_, ?_⟩
      · rw [node?_set _ _ _ belowTarget, if_pos rfl]
      · intro other notPlace elsewhere
        have notScratch : other ≠ scratch := fun same => elsewhere (same ▸ beside)
        rw [node?_set _ _ _ belowTarget, node?_erase _ _ below, node?_set _ _ _ below,
          node?_set _ _ _ below]
        simp [notPlace, notScratch]

/-- After a replacement the scratch file is gone, whatever was there, unless
it could not be made in the first place and nothing was touched. -/
theorem replaceFile_scratch {path : Path} {content : ByteArray} {tree after : FileTree}
    {result : Except StoreFault Unit} (replaced : replaceFile path content tree = (result, after))
    {scratch : Place} (beside : tree.locate path.scratch = .ok scratch) :
    ((∃ fault, result = .error fault) ∧ after = tree) ∨ after.node? scratch = none := by
  unfold replaceFile at replaced
  split at replaced
  · obtain ⟨rfl, rfl⟩ := Prod.mk.inj replaced
    exact .inl ⟨⟨_, rfl⟩, rfl⟩
  next found created made =>
    obtain ⟨located, notDirectory, rfl⟩ := create_eq_ok made
    obtain rfl : scratch = found := Except.ok.inj (beside.symm.trans located)
    have below := ne_nil_of_node? notDirectory
    have sameFilled := SameDirectories.filled notDirectory content
    simp only at replaced
    split at replaced
    · obtain ⟨-, rfl⟩ := Prod.mk.inj replaced
      rw [node?_erase _ _ below, if_pos rfl]
      exact .inr rfl
    next renamed moved =>
      obtain ⟨-, rfl⟩ := Prod.mk.inj replaced
      obtain ⟨place, leads, notDirectoryTarget, rfl⟩ := rename_eq_ok moved
      have leadsBefore : tree.locate path = .ok place := (locate_eq_ok_iff sameFilled).mp leads
      have differs : scratch ≠ place := locate_scratch_ne leadsBefore beside
      rw [node?_set _ _ _ (ne_nil_of_node? notDirectoryTarget), if_neg differs,
        node?_erase _ _ below, if_pos rfl]
      exact .inr rfl

end Store

end TradingConfig
