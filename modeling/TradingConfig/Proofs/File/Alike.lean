/-
  TradingConfig.Proofs.File.Alike
  ────────────────────────────────
  **TREES THAT DIFFER IN ONE FILE.**

  What a replacement of a file does to a tree depends on where directories
  and files are, not on what the files hold.  So two trees that differ in
  the content of one file do so after that file is replaced in both, each
  by a content of its own, and both replacements end alike
  (`replaceFile_congr`).
-/
import TradingConfig.Proofs.File.Replace

namespace TradingConfig

namespace FileTree

/-! ## §1. Operations on trees of one shape. -/

namespace SameShape

variable {before after : FileTree} (same : SameShape before after)

include same

theorem directory_iff (place : Place) :
    after.node? place = some .directory ↔ before.node? place = some .directory := by
  obtain ⟨here, there⟩ | ⟨here, there⟩ | ⟨first, second, here, there⟩ := same.cases_node? place
  · simp [here, there]
  · simp [here, there]
  · simp [here, there]

theorem start (path : Path) : after.start path = before.start path := by
  unfold FileTree.start
  rw [same.home]

/-- A file is made at the same place, or fails to be with the same fault. -/
theorem create (path : Path) :
    after.create path
      = (before.create path).map fun made => (made.1, after.set made.1 (.file .empty)) := by
  unfold FileTree.create
  rw [same.locate]
  cases before.locate path with
  | error fault => rfl
  | ok place =>
    dsimp only [Bind.bind, Except.bind]
    obtain ⟨here, there⟩ | ⟨here, there⟩ | ⟨first, second, here, there⟩ := same.cases_node? place
    · rw [here, there]
      rfl
    · rw [here, there]
      rfl
    · rw [here, there]
      rfl

theorem locateTarget (path : Path) : after.locateTarget path = before.locateTarget path := by
  unfold FileTree.locateTarget
  rw [same.start]
  cases vet path with
  | error fault => rfl
  | ok _ =>
    dsimp only [Bind.bind, Except.bind]
    rw [same.walk]
    cases before.walk (before.start path)
        (path.segments.reverse.dropWhile (· = "")).reverse.dropLast with
    | error fault => rfl
    | ok parent =>
      simp only [same.directory_iff]
      obtain ⟨here, there⟩ | ⟨here, there⟩ | ⟨first, second, here, there⟩ :=
        same.cases_node? parent
      · rw [here, there]
      · rw [here, there]
      · rw [here, there]

end SameShape

/-! ## §2. Trees that differ in one file. -/

/-- Two trees with the same nodes but for the content of the file at one
place. -/
structure DifferAt (place : Place) (first second : FileTree) : Prop where
  /-- The working directory is the same. -/
  home : second.home = first.home
  /-- There is a file at the place in both. -/
  file : (∃ content, first.node? place = some (.file content))
    ∧ ∃ content, second.node? place = some (.file content)
  /-- Every other place has the same node. -/
  elsewhere : ∀ other, other ≠ place → second.node? other = first.node? other

namespace DifferAt

variable {place : Place} {first second : FileTree}

theorem sameShape (differ : DifferAt place first second) : SameShape first second where
  home := differ.home
  shape other := by
    by_cases here : other = place
    · obtain ⟨⟨content, holds⟩, others, holdsOthers⟩ := differ.file
      rw [here, holds, holdsOthers]
      rfl
    · rw [differ.elsewhere other here]

/-- A path that does not lead to the place is read alike. -/
theorem read (differ : DifferAt place first second) {path : Path}
    (leads : first.locate path ≠ .ok place) : second.read path = first.read path := by
  refine read_congr (differ.sameShape.locate path) fun other located => ?_
  apply differ.elsewhere
  rintro rfl
  exact leads located

theorem below (differ : DifferAt place first second) : place ≠ [] := by
  obtain ⟨⟨content, holds⟩, -⟩ := differ.file
  apply ne_nil_of_node?
  intro directory
  rw [holds] at directory
  cases directory

/-- They still do with other contents in the file. -/
theorem set_file (differ : DifferAt place first second) (content others : ByteArray) :
    DifferAt place (first.set place (.file content)) (second.set place (.file others)) where
  home := differ.home
  file := by
    rw [node?_set _ _ _ differ.below, node?_set _ _ _ differ.below, if_pos rfl, if_pos rfl]
    exact ⟨⟨content, rfl⟩, others, rfl⟩
  elsewhere other notPlace := by
    rw [node?_set _ _ _ differ.below, node?_set _ _ _ differ.below, if_neg notPlace,
      if_neg notPlace, differ.elsewhere other notPlace]

end DifferAt

end FileTree

namespace Store

open FileTree

/-! ## §3. Replacing the file in both. -/

/-- The tree while the scratch file is filled. -/
def filled (tree : FileTree) (scratch : Place) (content : ByteArray) : FileTree :=
  (tree.set scratch (.file .empty)).set scratch (.file content)

theorem node?_filled (tree : FileTree) {scratch : Place} (below : scratch ≠ [])
    (content : ByteArray) (other : Place) :
    (filled tree scratch content).node? other
      = if other = scratch then some (.file content) else tree.node? other := by
  unfold filled
  rw [node?_set _ _ _ below, node?_set _ _ _ below]
  split <;> rfl

variable {place scratch : Place} {first second : FileTree} {path : Path}

theorem sameShape_filled (same : SameShape first second) (below : scratch ≠ [])
    (content others : ByteArray) :
    SameShape (filled first scratch content) (filled second scratch others) where
  home := same.home
  shape other := by
    rw [node?_filled first below, node?_filled second below]
    split
    · rfl
    · exact same.shape other

/-- The trees differ as before once the scratch file is gone. -/
theorem differAt_cleared (differ : DifferAt place first second) (below : scratch ≠ [])
    (apart : scratch ≠ place) (content others : ByteArray) :
    DifferAt place ((filled first scratch content).erase scratch)
      ((filled second scratch others).erase scratch) where
  home := differ.home
  file := by
    rw [node?_erase _ _ below, node?_filled first below, if_neg apart.symm, if_neg apart.symm,
      node?_erase _ _ below, node?_filled second below, if_neg apart.symm, if_neg apart.symm]
    exact differ.file
  elsewhere other notPlace := by
    rw [node?_erase _ _ below, node?_filled second below, node?_erase _ _ below,
      node?_filled first below, differ.elsewhere other notPlace]
    by_cases here : other = scratch
    · rw [if_pos here, if_pos here]
    · rw [if_neg here, if_neg here, if_neg here, if_neg here]

section Made

variable {tree : FileTree} {content : ByteArray}
  (made : tree.create path.scratch = .ok (scratch, tree.set scratch (.file .empty)))

include made

/-- Once the scratch file is made, all that can fail is to find the place
that it is moved to. -/
theorem replaceFile_of_lost {cause : FileFault}
    (lost : (filled tree scratch content).locateTarget path = .error cause) :
    replaceFile path content tree
      = (.error (.file path cause), (filled tree scratch content).erase scratch) := by
  have moved : (filled tree scratch content).rename scratch content path = .error cause := by
    unfold rename
    rw [lost]
    rfl
  unfold filled at moved
  unfold replaceFile
  rw [made]
  simp only
  rw [moved]
  rfl

theorem replaceFile_of_target
    (target : (filled tree scratch content).locateTarget path = .ok place) :
    replaceFile path content tree
      = (.ok (), ((filled tree scratch content).erase scratch).set place (.file content)) := by
  have moved : (filled tree scratch content).rename scratch content path
      = .ok (((filled tree scratch content).erase scratch).set place (.file content)) := by
    unfold rename
    rw [target]
    rfl
  unfold filled at moved ⊢
  unfold replaceFile
  rw [made]
  simp only
  rw [moved]

end Made

/-- Whatever the two contents are, both replacements end alike, and the
trees differ in the file afterwards as before. -/
theorem replaceFile_congr (differ : DifferAt place first second)
    (leads : first.locate path = .ok place) (content others : ByteArray) :
    (replaceFile path others second).1 = (replaceFile path content first).1
      ∧ DifferAt place (replaceFile path content first).2 (replaceFile path others second).2 := by
  have same := differ.sameShape
  cases made : first.create path.scratch with
  | error cause =>
    have madeSecond := same.create path.scratch
    rw [made] at madeSecond
    unfold replaceFile
    rw [made, madeSecond]
    exact ⟨rfl, differ⟩
  | ok found =>
    obtain ⟨scratch, created⟩ := found
    obtain ⟨beside, notDirectory, rfl⟩ := create_eq_ok made
    have madeSecond := same.create path.scratch
    rw [made] at madeSecond
    have below : scratch ≠ [] := ne_nil_of_node? notDirectory
    have apart : scratch ≠ place := locate_scratch_ne leads beside
    have cleared := differAt_cleared differ below apart content others
    have sameTarget := (sameShape_filled same below content others).locateTarget path
    cases target : (filled first scratch content).locateTarget path with
    | error cause =>
      rw [replaceFile_of_lost made target, replaceFile_of_lost madeSecond (sameTarget.trans target)]
      exact ⟨rfl, cleared⟩
    | ok moved =>
      rw [replaceFile_of_target made target,
        replaceFile_of_target madeSecond (sameTarget.trans target)]
      -- the place that the file is moved to is the one that the path leads to
      obtain ⟨located, -⟩ := locateTarget_eq_ok target
      have leadsBefore : first.locate path = .ok moved :=
        (locate_eq_ok_iff (SameDirectories.filled notDirectory content)).mp located
      obtain rfl : place = moved := Except.ok.inj (leads.symm.trans leadsBefore)
      exact ⟨rfl, cleared.set_file content others⟩

end Store

end TradingConfig
