/-
  TradingConfig.Store.Saving
  ────────────────────────────────
  **A SAVE, ACTION BY ACTION.**

  A save checks the document, makes the scratch file, fills it piece by
  piece and renames it; where the renaming fails it removes the scratch
  file.  The file system can refuse every action, for a reason that the tree
  shows or for one of its own.  The tree between two actions is what others
  read, and what a crash leaves behind.
-/
import Mathlib.Logic.Relation
import TradingConfig.Store.Checked

namespace TradingConfig

/-- How far a save has come. -/
inductive Saving where
  /-- It has done nothing. -/
  | begun
  /-- The document has passed its check. -/
  | checked
  /-- The scratch file holds this many bytes of the text. -/
  | filling (scratch : Place) (written : Nat)
  /-- The scratch file holds the text. -/
  | filled (scratch : Place)
  /-- The scratch file was not renamed. -/
  | refused (scratch : Place) (cause : FileFault)
  /-- The save has ended. -/
  | ended (result : Except StoreFault Unit)

namespace Saving

open Store

variable {D : Type}

/-- The bytes that a save puts into the data file. -/
def content (codec : Codec D) (document : D) : ByteArray :=
  (documentText codec document).toUTF8

/-- One action of a save. -/
inductive Step (validator : Validator) (codec : Codec D) (document : D) (location : Location) :
    Saving × FileTree → Saving × FileTree → Prop where
  /-- The schema file cannot be read. -/
  | unread {tree : FileTree} (cause : FileFault) :
      Step validator codec document location (.begun, tree)
        (.ended (.error (.file location.schema cause)), tree)
  /-- The check fails. -/
  | failed {tree : FileTree} {fault : StoreFault}
      (fails : checkDocument codec document location tree.read validator = .error fault) :
      Step validator codec document location (.begun, tree) (.ended (.error fault), tree)
  /-- The check passes. -/
  | passed {tree : FileTree}
      (passes : checkDocument codec document location tree.read validator = .ok ()) :
      Step validator codec document location (.begun, tree) (.checked, tree)
  /-- The scratch file cannot be made. -/
  | unmade {tree : FileTree} (cause : FileFault) :
      Step validator codec document location (.checked, tree)
        (.ended (.error (.file location.data.scratch cause)), tree)
  /-- The scratch file is made, or emptied if it is there. -/
  | made {tree after : FileTree} {scratch : Place}
      (makes : tree.create location.data.scratch = .ok (scratch, after)) :
      Step validator codec document location (.checked, tree) (.filling scratch 0, after)
  /-- More bytes are written. -/
  | wrote {tree : FileTree} {scratch : Place} {written more : Nat} (onward : written ≤ more)
      (within : more ≤ (content codec document).size) :
      Step validator codec document location (.filling scratch written, tree)
        (.filling scratch more,
          tree.set scratch (.file ((content codec document).extract 0 more)))
  /-- No more bytes can be written. -/
  | unwritten {tree : FileTree} {scratch : Place} {written : Nat} (cause : FileFault) :
      Step validator codec document location (.filling scratch written, tree)
        (.ended (.error (.file location.data.scratch cause)), tree)
  /-- All bytes are written. -/
  | completed {tree : FileTree} {scratch : Place} :
      Step validator codec document location (.filling scratch (content codec document).size, tree)
        (.filled scratch, tree)
  /-- The scratch file is renamed. -/
  | renamed {tree after : FileTree} {scratch : Place}
      (moves : tree.rename scratch (content codec document) location.data = .ok after) :
      Step validator codec document location (.filled scratch, tree) (.ended (.ok ()), after)
  /-- The scratch file cannot be renamed. -/
  | unmoved {tree : FileTree} {scratch : Place} (cause : FileFault) :
      Step validator codec document location (.filled scratch, tree) (.refused scratch cause, tree)
  /-- The scratch file is removed. -/
  | removed {tree : FileTree} {scratch : Place} {cause : FileFault} :
      Step validator codec document location (.refused scratch cause, tree)
        (.ended (.error (.file location.data cause)), tree.erase scratch)
  /-- The scratch file cannot be removed, which is not told. -/
  | unremoved {tree : FileTree} {scratch : Place} {cause : FileFault} :
      Step validator codec document location (.refused scratch cause, tree)
        (.ended (.error (.file location.data cause)), tree)

/-- Any number of actions of a save. -/
abbrev Reaches (validator : Validator) (codec : Codec D) (document : D) (location : Location) :
    Saving × FileTree → Saving × FileTree → Prop :=
  Relation.ReflTransGen (Step validator codec document location)

end Saving

end TradingConfig
