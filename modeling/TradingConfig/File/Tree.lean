/-
  TradingConfig.File.Tree
  ────────────────────────────────
  **A FILE TREE WITHOUT LINKS.**

  A tree maps places — the names on the way from the root — to
  directories and files.  A path is resolved segment by segment (`walk`):
  every segment needs a directory to start from, an idle segment stays, and
  `..` goes back to the parent.  The operations are those that a document
  store needs: read, create, fill, rename and remove.
-/
import TradingConfig.File.Path
import TradingConfig.File.Fault

namespace TradingConfig

/-- The names on the way from the root. -/
abbrev Place := List String

/-- Contents of files are compared byte by byte. -/
instance contentDecidableEq : DecidableEq ByteArray := ByteArray.decEq

/-- What can be at a place. -/
inductive Node where
  /-- A directory. -/
  | directory
  /-- A file with its content. -/
  | file (content : ByteArray)
  deriving DecidableEq

/-- A file tree and a working directory in it. -/
structure FileTree where
  /-- The working directory. -/
  home : Place
  /-- What is at each place; the root is a directory in any case. -/
  nodes : List (Place × Node)
  deriving DecidableEq

namespace FileTree

/-! ## §1. Places. -/

/-- What is bound to a place in a list of nodes. -/
def find? (place : Place) : List (Place × Node) → Option Node
  | [] => none
  | (p, node) :: rest => if p = place then some node else find? place rest

/-- What is at a place. -/
def node? (tree : FileTree) (place : Place) : Option Node :=
  if place = [] then some .directory else find? place tree.nodes

/-- A list of nodes with the one at a place replaced, or added at the end. -/
def bind (place : Place) (node : Node) : List (Place × Node) → List (Place × Node)
  | [] => [(place, node)]
  | (p, old) :: rest => if p = place then (p, node) :: rest else (p, old) :: bind place node rest

/-- The tree with a node put at a place. -/
def set (tree : FileTree) (place : Place) (node : Node) : FileTree :=
  { tree with nodes := bind place node tree.nodes }

/-- The tree with nothing at a place. -/
def erase (tree : FileTree) (place : Place) : FileTree :=
  { tree with nodes := tree.nodes.filter fun entry => entry.1 ≠ place }

theorem find?_bind (place other : Place) (node : Node) (nodes : List (Place × Node)) :
    find? other (bind place node nodes)
      = if other = place then some node else find? other nodes := by
  induction nodes with
  | nil => simp only [bind, find?, eq_comm]
  | cons head rest ih =>
    obtain ⟨p, old⟩ := head
    by_cases here : p = place
    · subst here; by_cases same : other = p <;> simp [bind, find?, same, eq_comm]
    · by_cases same : p = other
      · subst same; simp [bind, find?, here]
      · simp [bind, find?, here, same, ih]

theorem find?_filter (place other : Place) (nodes : List (Place × Node)) :
    find? other (nodes.filter fun entry => entry.1 ≠ place)
      = if other = place then none else find? other nodes := by
  induction nodes with
  | nil => simp [find?]
  | cons head rest ih =>
    obtain ⟨p, old⟩ := head
    by_cases here : p = place
    · subst here
      by_cases same : other = p
      · simpa [same] using ih
      · simpa [find?, same, Ne.symm same] using ih
    · by_cases same : p = other
      · subst same; simp [find?, here]
      · simpa [find?, here, same] using ih

/-- What is at a place after a node was put somewhere below the root. -/
theorem node?_set (tree : FileTree) {place : Place} (node : Node) (other : Place)
    (below : place ≠ []) :
    (tree.set place node).node? other = if other = place then some node else tree.node? other := by
  unfold node? set
  by_cases root : other = []
  · simp [root, Ne.symm below]
  · simp [root, find?_bind]

/-- What is at a place after one below the root was emptied. -/
theorem node?_erase (tree : FileTree) {place : Place} (other : Place) (below : place ≠ []) :
    (tree.erase place).node? other = if other = place then none else tree.node? other := by
  unfold node? erase
  by_cases root : other = []
  · simp [root, Ne.symm below]
  · simpa [root] using find?_filter place other tree.nodes

/-! ## §2. Resolving a path. -/

/-- The greatest number of bytes of a name. -/
def nameLimit : Nat := 255

/-- The greatest number of bytes of a path. -/
def pathLimit : Nat := 4095

/-- The place that segments lead to.  Every segment starts from a
directory; nothing needs to be at the place itself. -/
def walk (tree : FileTree) : Place → (segments : List String) → Except FileFault Place
  | place, [] => .ok place
  | place, segment :: rest =>
    match tree.node? place with
    | none => .error .notFound
    | some (.file _) => .error .notDirectory
    | some .directory =>
      if Path.isIdle segment then tree.walk place rest
      else if segment = ".." then tree.walk place.dropLast rest
      else if nameLimit < segment.utf8ByteSize then .error .nameTooLong
      else tree.walk (place ++ [segment]) rest

/-- Whether a text can be handed over as a path at all. -/
def vet (path : Path) : Except FileFault Unit :=
  if path.text.toList.contains (Char.ofNat 0) then .error .nulInPath
  else if path.text = "" then .error .notFound
  else if pathLimit < path.text.utf8ByteSize then .error .nameTooLong
  else .ok ()

/-- Where the resolution of a path starts. -/
def start (tree : FileTree) (path : Path) : Place :=
  if path.isAbsolute then [] else tree.home

/-- The place that a path leads to. -/
def locate (tree : FileTree) (path : Path) : Except FileFault Place := do
  vet path
  tree.walk (tree.start path) path.segments

/-- The place that a path gives to a file that is renamed to it. -/
def locateTarget (tree : FileTree) (path : Path) : Except FileFault Place := do
  vet path
  let slashless := (path.segments.reverse.dropWhile (· = "")).reverse
  let parent ← tree.walk (tree.start path) slashless.dropLast
  match tree.node? parent with
  | none => .error .notFound
  | some (.file _) => .error .notDirectory
  | some .directory =>
    let name := slashless.getLastD ""
    if Path.isIdle name || name = ".." then .error .busy
    else if nameLimit < name.utf8ByteSize then .error .nameTooLong
    else if slashless.length < path.segments.length then .error .notDirectory
    else if tree.node? (parent ++ [name]) = some .directory then .error .isDirectory
    else .ok (parent ++ [name])

/-! ## §3. Files. -/

/-- The content of a file. -/
def read (tree : FileTree) (path : Path) : Except FileFault ByteArray := do
  match tree.node? (← tree.locate path) with
  | none => .error .notFound
  | some .directory => .error .isDirectory
  | some (.file content) => .ok content

/-- Makes an empty file; a file that is there is emptied.  Gives its place
too. -/
def create (tree : FileTree) (path : Path) : Except FileFault (Place × FileTree) := do
  let place ← tree.locate path
  match tree.node? place with
  | some .directory => .error .isDirectory
  | _ => .ok (place, tree.set place (.file .empty))

/-- Moves the file at a place to a path; a file that is there is replaced. -/
def rename (tree : FileTree) (source : Place) (content : ByteArray) (target : Path) :
    Except FileFault FileTree := do
  let place ← tree.locateTarget target
  .ok ((tree.erase source).set place (.file content))

/-! ## §4. Edits by hand. -/

/-- Whether a place is another one or below it. -/
def isWithin (outer inner : Place) : Bool :=
  outer.isPrefixOf inner

/-- The places on the way to a place, from the root on. -/
def ancestors (place : Place) : List Place :=
  (List.range place.length).map fun depth => place.take depth

/-- The tree with directories at all places on the way to a place. -/
def makeParents (tree : FileTree) (place : Place) : FileTree :=
  (ancestors place).foldl (fun tree parent =>
    if (tree.node? parent).isSome then tree else tree.set parent .directory) tree

/-- The tree after an edit: what was at the path is gone, and the new node,
if there is one, is there with all its parents. -/
def edit (tree : FileTree) (path : Path) (node : Option Node) : FileTree :=
  let place := (if path.isAbsolute then [] else tree.home) ++ path.names
  let cleared := { tree with nodes := tree.nodes.filter fun entry => !isWithin place entry.1 }
  match node with
  | none => cleared
  | some node => (cleared.makeParents place).set place node

end FileTree

end TradingConfig
