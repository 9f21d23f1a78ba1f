/-
  TradingConfig.Settings
  ────────────────────────────────
  **NAMED SETTINGS.**

  Settings bind names to values; the names ascend, so two settings with the
  same contents are equal.
-/
import TradingConfig.Text.KeyedList

namespace TradingConfig

/-- A finite map from names to values. -/
structure Settings where
  /-- The bindings in ascending order of their names. -/
  toList : List (String × String)
  /-- The names strictly ascend. -/
  ascending : KeyedList.Ascending toList
  deriving DecidableEq

namespace Settings

/-- No settings. -/
def empty : Settings := ⟨[], .nil⟩

/-- The settings with `name` bound to `value`; an earlier binding is
replaced. -/
def insert (settings : Settings) (name value : String) : Settings :=
  ⟨KeyedList.insert name value settings.toList, settings.ascending.insert⟩

/-- The value of a name. -/
def get? (settings : Settings) (name : String) : Option String :=
  KeyedList.get? name settings.toList

/-- Whether a name is bound. -/
def contains (settings : Settings) (name : String) : Bool :=
  (settings.get? name).isSome

@[simp] theorem get?_insert (settings : Settings) (name value other : String) :
    (settings.insert name value).get? other
      = if other = name then some value else settings.get? other :=
  KeyedList.get?_insert name other value settings.toList

instance : EmptyCollection Settings := ⟨empty⟩

instance : Inhabited Settings := ⟨empty⟩

end Settings

end TradingConfig
