/-
  TradingConfig.File.Absolute
  ────────────────────────────────
  **PATHS COMPONENT BY COMPONENT, AND MADE ABSOLUTE.**

  Two paths are equal when their components are, whatever slashes and dots
  they are written with.  A path is made absolute by its text alone: its
  components are pushed onto the working directory, or onto the root.
-/
import TradingConfig.File.Path

namespace TradingConfig

namespace Path

/-! ## §1. Components. -/

/-- A component of a path. -/
inductive Component where
  /-- The slash in front of an absolute path. -/
  | root
  /-- A single dot in front of a relative path. -/
  | current
  /-- A step back. -/
  | parent
  /-- A name. -/
  | named (name : String)
  deriving DecidableEq, Repr

namespace Component

/-- The component that a segment stands for. -/
def ofSegment (segment : String) : Component :=
  if segment = ".." then .parent else .named segment

/-- How a component is written. -/
def text : Component → String
  | .root => "/"
  | .current => "."
  | .parent => ".."
  | .named name => name

end Component

/-- The component in front of the names: a relative path keeps a single dot
with which it starts. -/
def lead (path : Path) : List Component :=
  if path.isAbsolute then [.root]
  else if path.segments.head? = some "." then [.current]
  else []

/-- The components behind the root or the dot that a path starts with. -/
def body (path : Path) : List Component :=
  path.names.map Component.ofSegment

/-- The components of a path.  Empty segments are none, and neither is a
single dot behind the first segment. -/
def components (path : Path) : List Component :=
  path.lead ++ path.body

/-! ## §2. Made absolute. -/

/-- The components joined to a path one after the other. -/
def extend (path : Path) (components : List Component) : Path :=
  components.foldl (fun path component => path.join ⟨component.text⟩) path

/-- Whether a path starts with two slashes and not with three. -/
def startsWithTwoSlashes (path : Path) : Bool :=
  "//".toList.isPrefixOf path.text.toList && !"///".toList.isPrefixOf path.text.toList

/-- A path spelled out from the root or from the working directory.  Two
slashes in front are kept; without a working directory a relative path
cannot be spelled out. -/
def spellOut? (home : Option Path) (path : Path) : Option Path :=
  if path.isAbsolute then
    if path.startsWithTwoSlashes then some (extend ⟨"//"⟩ path.body)
    else some (extend ⟨""⟩ path.components)
  else home.map fun home => home.extend path.body

/-- The absolute form of a path, found without a look at any file.  A slash
at the end is kept; the empty path has no absolute form. -/
def absolute? (home : Option Path) (path : Path) : Option Path :=
  if path.text = "" then none
  else if path.text.toList.getLast? = some '/' then (path.spellOut? home).map (·.join ⟨""⟩)
  else path.spellOut? home

end Path

end TradingConfig
