/-
  TradingConfig.Proofs.File.Tree
  ────────────────────────────────
  **WHERE PATHS LEAD.**

  Where a path leads depends only on which places are directories
  (`locate_eq_ok_iff`); files that come, change and go do not matter.  A
  path and its scratch path never lead to one place
  (`locate_scratch_ne`), since the names that they end in differ.  A path
  without `..` has the place that it leads to as its key
  (`key_of_locate`); one with `..` keeps it in its key
  (`mem_names_iff_of_key_eq`).
-/
import TradingConfig.File.Tree
import TradingConfig.Proofs.File.Path
import TradingConfig.Proofs.Success

namespace TradingConfig

namespace FileTree

/-! ## §1. Walking. -/

/-- One step of a walk that starts from a directory. -/
theorem walk_cons {tree : FileTree} {place : Place} (here : tree.node? place = some .directory)
    (segment : String) (rest : List String) :
    tree.walk place (segment :: rest)
      = if Path.isIdle segment then tree.walk place rest
        else if segment = ".." then tree.walk place.dropLast rest
        else if nameLimit < segment.utf8ByteSize then .error .nameTooLong
        else tree.walk (place ++ [segment]) rest := by
  rw [walk, here]

/-- Where there is no directory a walk cannot go on. -/
theorem exists_walk_cons_error {tree : FileTree} {place : Place}
    (elsewhere : tree.node? place ≠ some .directory) :
    ∃ fault, ∀ segment rest, tree.walk place (segment :: rest) = .error fault := by
  cases node : tree.node? place with
  | none => exact ⟨.notFound, fun segment rest => by rw [walk, node]⟩
  | some found =>
    cases found with
    | file content => exact ⟨.notDirectory, fun segment rest => by rw [walk, node]⟩
    | directory => exact absurd node elsewhere

theorem walk_append (tree : FileTree) (place : Place) (first rest : List String) :
    tree.walk place (first ++ rest)
      = (tree.walk place first).bind fun middle => tree.walk middle rest := by
  induction first generalizing place with
  | nil => rfl
  | cons segment first ih =>
    rw [List.cons_append]
    by_cases here : tree.node? place = some .directory
    · rw [walk_cons here, walk_cons here]
      split
      · exact ih place
      split
      · exact ih place.dropLast
      split
      · rfl
      · exact ih (place ++ [segment])
    · obtain ⟨fault, failed⟩ := exists_walk_cons_error here
      rw [failed, failed]
      rfl

/-- A walk over two lists of segments passes through a place between
them. -/
theorem exists_walk_of_append {tree : FileTree} {place target : Place} {first rest : List String}
    (walked : tree.walk place (first ++ rest) = .ok target) :
    ∃ middle, tree.walk place first = .ok middle ∧ tree.walk middle rest = .ok target := by
  rw [walk_append] at walked
  cases reached : tree.walk place first with
  | error fault => rw [reached] at walked; cases walked
  | ok middle => rw [reached] at walked; exact ⟨middle, rfl, walked⟩

/-- Every segment starts from a directory. -/
theorem node?_of_walk_cons {tree : FileTree} {place target : Place} {segment : String}
    {rest : List String} (walked : tree.walk place (segment :: rest) = .ok target) :
    tree.node? place = some .directory := by
  by_cases here : tree.node? place = some .directory
  · exact here
  · obtain ⟨fault, failed⟩ := exists_walk_cons_error here
    rw [failed] at walked
    cases walked

/-- Segments that lead nowhere end where they start. -/
theorem walk_idle {tree : FileTree} {place target : Place} {idle : List String}
    (allIdle : ∀ segment ∈ idle, Path.isIdle segment = true)
    (walked : tree.walk place idle = .ok target) : target = place := by
  induction idle with
  | nil => exact (Except.ok.inj walked).symm
  | cons segment idle ih =>
    rw [walk_cons (node?_of_walk_cons walked),
      if_pos (allIdle segment List.mem_cons_self)] at walked
    exact ih (fun other member => allIdle other (List.mem_cons_of_mem segment member)) walked

/-- A name leads one place further down. -/
theorem walk_name {tree : FileTree} {place target : Place} {name : String}
    (isName : Path.IsName name) (walked : tree.walk place [name] = .ok target) :
    target = place ++ [name] := by
  have forward : ¬ Path.isIdle name = true := by simp [isName.notIdle]
  rw [walk_cons (node?_of_walk_cons walked), if_neg forward, if_neg isName.notParent] at walked
  split at walked
  · cases walked
  · exact (Except.ok.inj walked).symm

/-- Where a path that ends in a name leads to, there is a directory above,
whose place the segments in front of the name lead to. -/
theorem exists_directory_of_locate {tree : FileTree} {path : Path} {place : Place}
    {parents : List String} {name : String} (segments : path.segments = parents ++ [name])
    (isName : Path.IsName name) (located : tree.locate path = .ok place) :
    ∃ directory, tree.walk (tree.start path) parents = .ok directory
      ∧ tree.node? directory = some .directory ∧ place = directory ++ [name] := by
  obtain ⟨_, -, walked⟩ := exists_ok_of_bind located
  rw [segments] at walked
  obtain ⟨directory, reached, onward⟩ := exists_walk_of_append walked
  exact ⟨directory, reached, node?_of_walk_cons onward, walk_name isName onward⟩

/-! ## §2. Trees with the same directories. -/

/-- A walk that succeeds does so wherever its directories are directories,
too. -/
theorem walk_of_directories {before after : FileTree}
    (kept : ∀ place, before.node? place = some .directory → after.node? place = some .directory)
    {place target : Place} {segments : List String}
    (walked : before.walk place segments = .ok target) :
    after.walk place segments = .ok target := by
  induction segments generalizing place with
  | nil => exact walked
  | cons segment segments ih =>
    -- the walk starts from a directory, which is one in the other tree too
    have here := node?_of_walk_cons walked
    rw [walk_cons here] at walked
    rw [walk_cons (kept place here)]
    split at walked
    next idle => rw [if_pos idle]; exact ih walked
    next notIdle =>
      rw [if_neg notIdle]
      split at walked
      next back => rw [if_pos back]; exact ih walked
      next forward =>
        rw [if_neg forward]
        split at walked
        · cases walked
        next short => rw [if_neg short]; exact ih walked

theorem locate_of_directories {before after : FileTree} (home : after.home = before.home)
    (kept : ∀ place, before.node? place = some .directory → after.node? place = some .directory)
    {path : Path} {place : Place} (located : before.locate path = .ok place) :
    after.locate path = .ok place := by
  obtain ⟨_, vetted, walked⟩ := exists_ok_of_bind located
  have start : after.start path = before.start path := by
    unfold FileTree.start
    rw [home]
  unfold FileTree.locate
  rw [vetted, start]
  exact walk_of_directories kept walked

/-- Two trees in which the same places are directories. -/
structure SameDirectories (before after : FileTree) : Prop where
  /-- The working directory is the same. -/
  home : after.home = before.home
  /-- A place is a directory in both or in none. -/
  directory : ∀ place, after.node? place = some .directory ↔ before.node? place = some .directory

namespace SameDirectories

theorem refl (tree : FileTree) : SameDirectories tree tree :=
  ⟨rfl, fun _ => Iff.rfl⟩

theorem symm {before after : FileTree} (same : SameDirectories before after) :
    SameDirectories after before :=
  ⟨same.home.symm, fun place => (same.directory place).symm⟩

theorem trans {first second third : FileTree} (same : SameDirectories first second)
    (next : SameDirectories second third) : SameDirectories first third :=
  ⟨next.home.trans same.home, fun place => (next.directory place).trans (same.directory place)⟩

theorem walk {before after : FileTree} (same : SameDirectories before after)
    {place target : Place} {segments : List String}
    (walked : before.walk place segments = .ok target) :
    after.walk place segments = .ok target :=
  walk_of_directories (fun place => (same.directory place).mpr) walked

theorem locate {before after : FileTree} (same : SameDirectories before after) {path : Path}
    {place : Place} (located : before.locate path = .ok place) :
    after.locate path = .ok place :=
  locate_of_directories same.home (fun place => (same.directory place).mpr) located

end SameDirectories

/-- A path leads to the same place in both trees. -/
theorem locate_eq_ok_iff {before after : FileTree} (same : SameDirectories before after)
    {path : Path} {place : Place} :
    after.locate path = .ok place ↔ before.locate path = .ok place :=
  ⟨same.symm.locate, same.locate⟩

/-! ## §3. Trees of one shape. -/

end FileTree

/-- A node without the content of a file. -/
def Node.blank : Node → Node
  | .directory => .directory
  | .file _ => .file .empty

namespace FileTree

/-- Two trees that differ in nothing but the contents of files. -/
structure SameShape (before after : FileTree) : Prop where
  /-- The working directory is the same. -/
  home : after.home = before.home
  /-- At every place there is a directory, a file or nothing in both. -/
  shape : ∀ place, (after.node? place).map Node.blank = (before.node? place).map Node.blank

namespace SameShape

variable {before after : FileTree}

theorem of_node? (home : after.home = before.home)
    (same : ∀ place, after.node? place = before.node? place) : SameShape before after :=
  ⟨home, fun place => congrArg _ (same place)⟩

theorem cases_node? (same : SameShape before after) (place : Place) :
    (before.node? place = none ∧ after.node? place = none)
      ∨ (before.node? place = some .directory ∧ after.node? place = some .directory)
      ∨ ∃ first second, before.node? place = some (.file first)
        ∧ after.node? place = some (.file second) := by
  have shape := same.shape place
  cases here : before.node? place with
  | none =>
    rw [here, Option.map_none, Option.map_eq_none_iff] at shape
    exact .inl ⟨rfl, shape⟩
  | some node =>
    obtain ⟨other, there, blank⟩ := Option.map_eq_some_iff.mp (here ▸ shape)
    cases node with
    | directory =>
      cases other with
      | directory => exact .inr (.inl ⟨rfl, there⟩)
      | file second => cases blank
    | file first =>
      cases other with
      | directory => cases blank
      | file second => exact .inr (.inr ⟨first, second, rfl, there⟩)

/-- Paths lead to the same places, and fail alike. -/
theorem walk (same : SameShape before after) (segments : List String) (place : Place) :
    after.walk place segments = before.walk place segments := by
  induction segments generalizing place with
  | nil => rfl
  | cons segment rest ih =>
    unfold FileTree.walk
    obtain ⟨here, there⟩ | ⟨here, there⟩ | ⟨first, second, here, there⟩ := same.cases_node? place
    · rw [here, there]
    · rw [here, there]
      simp only [ih]
    · rw [here, there]

theorem locate (same : SameShape before after) (path : Path) :
    after.locate path = before.locate path := by
  unfold FileTree.locate FileTree.start
  simp only [same.home, same.walk]

end SameShape

/-- A path that leads to the same place with the same node is read as
before. -/
theorem read_congr {before after : FileTree} {path : Path}
    (located : after.locate path = before.locate path)
    (kept : ∀ place, before.locate path = .ok place → after.node? place = before.node? place) :
    after.read path = before.read path := by
  unfold read
  rw [located]
  cases leads : before.locate path with
  | error fault => rfl
  | ok place =>
    dsimp only [Bind.bind, Except.bind]
    rw [kept place leads]

/-- Trees with the same nodes are read alike. -/
theorem read_of_node? {before after : FileTree} (home : after.home = before.home)
    (same : ∀ place, after.node? place = before.node? place) : after.read = before.read :=
  funext fun path =>
    read_congr ((SameShape.of_node? home same).locate path) fun place _ => same place

/-! ## §4. The place of a scratch file. -/

theorem text_ne_empty_of_vet {path : Path} {passed : Unit} (vetted : vet path = .ok passed) :
    path.text ≠ "" := by
  intro empty
  simp [vet, empty] at vetted

/-- Where a path ends in no name the scratch file lies below its place. -/
theorem scratch_ne_of_none {tree : FileTree} {path : Path} {place scratch : Place}
    (split : path.splitName? = none) (written : path.text ≠ "")
    (walked : tree.walk (tree.start path) path.segments = .ok place)
    (walkedBeside : tree.walk (tree.start path.scratch) path.scratch.segments = .ok scratch) :
    scratch ≠ place := by
  obtain ⟨parents, idle, segments, allIdle, segmentsBeside⟩ :=
    Path.exists_segments_scratch_of_none split written
  have start : tree.start path.scratch = tree.start path := by
    unfold FileTree.start
    rw [Path.isAbsolute_scratch_of_none split written]
  rw [segments] at walked
  rw [segmentsBeside, start] at walkedBeside
  -- both walks pass through one place; only idle segments follow it in the path
  obtain ⟨middle, reached, onward⟩ := exists_walk_of_append walked
  obtain ⟨middle', reached', onwardBeside⟩ := exists_walk_of_append walkedBeside
  obtain rfl : middle = middle' := Except.ok.inj (reached.symm.trans reached')
  have ending : Path.IsName Path.scratchEnding := ⟨by decide, by decide, by decide⟩
  rw [walk_idle allIdle onward, walk_name ending onwardBeside]
  intro same
  have lengths := congrArg List.length same
  simp at lengths

/-- Where a path ends in a name the scratch file has another name. -/
theorem scratch_ne_of_name {tree : FileTree} {path : Path} {place scratch : Place}
    {parent : List String} {name : String} (split : path.splitName? = some (parent, name))
    (walked : tree.walk (tree.start path) path.segments = .ok place)
    (walkedBeside : tree.walk (tree.start path.scratch) path.scratch.segments = .ok scratch) :
    scratch ≠ place := by
  obtain ⟨before, idle, segments, allIdle, isName⟩ := Path.exists_segments_of_splitName? split
  obtain ⟨parents, segmentsBeside⟩ := Path.exists_segments_scratch_of_name split
  rw [segments, List.append_cons] at walked
  rw [segmentsBeside] at walkedBeside
  obtain ⟨middle, reached, onward⟩ := exists_walk_of_append walked
  obtain ⟨above, -, atName⟩ := exists_walk_of_append reached
  obtain ⟨aboveBeside, -, atScratch⟩ := exists_walk_of_append walkedBeside
  rw [walk_idle allIdle onward, walk_name isName atName, walk_name isName.scratch atScratch]
  intro same
  have names : name ++ Path.scratchEnding = name := by
    obtain ⟨-, last⟩ := List.append_inj' same rfl
    exact (List.cons.inj last).1
  have lengths := congrArg (fun text => text.toList.length) names
  simp [Path.scratchEnding] at lengths

/-- A path and its scratch path never lead to one place. -/
theorem locate_scratch_ne {tree : FileTree} {path : Path} {place scratch : Place}
    (located : tree.locate path = .ok place) (beside : tree.locate path.scratch = .ok scratch) :
    scratch ≠ place := by
  obtain ⟨_, vetted, walked⟩ := exists_ok_of_bind located
  obtain ⟨_, -, walkedBeside⟩ := exists_ok_of_bind beside
  cases split : path.splitName? with
  | none => exact scratch_ne_of_none split (text_ne_empty_of_vet vetted) walked walkedBeside
  | some found => exact scratch_ne_of_name split walked walkedBeside

/-! ## §5. The key of a path. -/

/-- Without `..` a walk goes down, name by name. -/
theorem walk_down {tree : FileTree} {place target : Place} {segments : List String}
    (down : ".." ∉ segments) (walked : tree.walk place segments = .ok target) :
    target = place ++ segments.filter fun segment => !Path.isIdle segment := by
  induction segments generalizing place with
  | nil => rw [List.filter_nil, List.append_nil]; exact (Except.ok.inj walked).symm
  | cons segment rest ih =>
    rw [List.mem_cons, not_or] at down
    rw [walk_cons (node?_of_walk_cons walked)] at walked
    by_cases idle : Path.isIdle segment = true
    · rw [if_pos idle] at walked
      rw [List.filter_cons_of_neg (by simp [idle])]
      exact ih down.2 walked
    · rw [if_neg idle, if_neg (Ne.symm down.1)] at walked
      split at walked
      · cases walked
      · rw [List.filter_cons_of_pos (by simp [idle]), List.append_cons]
        exact ih down.2 walked

/-- The key of a path is its names, seen from where its resolution starts. -/
theorem key_of_vet (tree : FileTree) {path : Path} {passed : Unit} (vetted : vet path = .ok passed) :
    path.key tree.home = .absolute (tree.start path ++ path.names) := by
  unfold Path.key start
  rw [if_neg (text_ne_empty_of_vet vetted)]
  cases path.isAbsolute with
  | true => rfl
  | false => rfl

/-- A path without `..` has the place that it leads to as its key. -/
theorem key_of_locate {tree : FileTree} {path : Path} {place : Place} (down : ".." ∉ path.names)
    (located : tree.locate path = .ok place) : path.key tree.home = .absolute place := by
  obtain ⟨_, vetted, walked⟩ := exists_ok_of_bind located
  -- `..` is no idle segment, so it is not among the segments either
  have downSegments : ".." ∉ path.segments := fun member =>
    down (List.mem_filter.mpr ⟨member, by decide⟩)
  rw [key_of_vet tree vetted, walk_down downSegments walked]
  rfl

/-- Of two paths with one key both go back somewhere, or none does. -/
theorem mem_names_iff_of_key_eq {tree : FileTree} {first second : Path} {place placeToo : Place}
    (rooted : ".." ∉ tree.home) (located : tree.locate first = .ok place)
    (locatedToo : tree.locate second = .ok placeToo)
    (sameKey : first.key tree.home = second.key tree.home) :
    ".." ∈ first.names ↔ ".." ∈ second.names := by
  obtain ⟨_, vetted, -⟩ := exists_ok_of_bind located
  obtain ⟨_, vettedToo, -⟩ := exists_ok_of_bind locatedToo
  rw [key_of_vet tree vetted, key_of_vet tree vettedToo] at sameKey
  have sameNames := Path.Key.absolute.inj sameKey
  have fromStart (path : Path) : ".." ∈ path.names ↔ ".." ∈ tree.start path ++ path.names := by
    have below : ".." ∉ tree.start path := by
      unfold start
      split
      · exact List.not_mem_nil
      · exact rooted
    simp [below]
  rw [fromStart first, fromStart second, sameNames]

end FileTree

end TradingConfig
