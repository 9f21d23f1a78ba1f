/-
  TradingConfig.File.Path
  ────────────────────────────────
  **PATHS AS TEXT.**

  A path is kept as it was written; nothing is normalised on the way.  This
  file joins paths, derives the scratch path beside a data file, and gives
  the lexical key by which two spellings of one path are recognised.
-/
import TradingConfig.Text.Pieces

namespace TradingConfig

/-- A path as it was written. -/
structure Path where
  /-- The text of the path. -/
  text : String
  deriving DecidableEq, Repr, Inhabited

namespace Path

/-! ## §1. Segments. -/

/-- The pieces of a path between its slashes; the piece in front of a
leading slash is empty. -/
def segments (path : Path) : List String :=
  (piecesBetween '/' path.text.toList).map String.ofList

/-- Whether a path starts at the root. -/
def isAbsolute (path : Path) : Bool :=
  path.text.toList.head? = some '/'

/-- Whether a segment leads nowhere: an empty one, or a single dot. -/
def isIdle (segment : String) : Bool :=
  segment = "" || segment = "."

/-- The segments that lead somewhere. -/
def names (path : Path) : List String :=
  path.segments.filter fun segment => !isIdle segment

/-! ## §2. Joining. -/

/-- The path of `name` as seen from `directory`: an absolute name stands
for itself, and a slash is put between the two where there is none. -/
def join (directory name : Path) : Path :=
  if name.isAbsolute then name
  else if directory.text = "" || directory.text.toList.getLast? = some '/' then
    ⟨directory.text ++ name.text⟩
  else ⟨directory.text ++ "/" ++ name.text⟩

/-! ## §3. The scratch path. -/

/-- The segments without idle ones at the end; the first segment stays. -/
def trimEnd : List String → List String
  | [] => []
  | first :: rest => first :: (rest.reverse.dropWhile isIdle).reverse

/-- The segments of the parent and the name of the file, if the last
segment that leads somewhere is a name. -/
def splitName? (path : Path) : Option (List String × String) :=
  let kept := trimEnd path.segments
  match kept.getLast? with
  | none => none
  | some name =>
    if isIdle name || name = ".." then none else some (trimEnd kept.dropLast, name)

/-- The ending of scratch files. -/
def scratchEnding : String := ".tmp"

/-- The path of the file in the same directory whose name has the scratch
ending added. -/
def scratch (path : Path) : Path :=
  match path.splitName? with
  | none => path.join ⟨scratchEnding⟩
  | some (parent, name) =>
    let parentText := if parent = [""] then "/" else String.intercalate "/" parent
    join ⟨parentText⟩ ⟨name ++ scratchEnding⟩

/-! ## §4. The lexical key. -/

/-- A path up to its spelling. -/
inductive Key where
  /-- The empty path. -/
  | unnamed
  /-- The names from the root on, where `..` counts as a name. -/
  | absolute (names : List String)
  deriving DecidableEq, Repr

/-- The key of a path in a working directory, found without a look at any
file. -/
def key (home : List String) (path : Path) : Key :=
  if path.text = "" then .unnamed
  else if path.isAbsolute then .absolute path.names
  else .absolute (home ++ path.names)

end Path

/-- The files of one document: its data and its schema. -/
structure Location where
  /-- The data file. -/
  data : Path
  /-- The schema file. -/
  schema : Path
  deriving DecidableEq, Repr, Inhabited

/-- The location of two files in a directory. -/
def Location.inDirectory (directory data schema : Path) : Location :=
  ⟨directory.join data, directory.join schema⟩

end TradingConfig
