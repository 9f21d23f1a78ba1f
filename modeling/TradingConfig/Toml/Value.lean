/-
  TradingConfig.Toml.Value
  ────────────────────────────────
  **TOML VALUES AND TABLES.**

  A table remembers how it came to be, since that decides who may still add
  to it: a header opens a table once, a dotted key adds only to tables that
  dotted keys made, and an inline table is closed by its brace.
-/
import TradingConfig.Text.KeyedList

namespace TradingConfig.Toml

/-- How a table came to be. -/
inductive TableForm where
  /-- Written in braces; nothing can be added. -/
  | closed
  /-- Opened by a header of its own, or the document itself. -/
  | opened
  /-- Implied by the header of a table below it. -/
  | implied
  /-- Made by a dotted key. -/
  | dotted
  deriving DecidableEq, Repr

/-- A TOML value.  Floating-point numbers and moments in time are only told
apart from other values. -/
inductive Value where
  /-- A string. -/
  | string (text : String)
  /-- An integer. -/
  | integer (value : Int)
  /-- A floating-point number. -/
  | float
  /-- A truth value. -/
  | boolean (value : Bool)
  /-- A date, a time, or both. -/
  | moment
  /-- An array. -/
  | array (items : List Value)
  /-- A table. -/
  | table (form : TableForm) (entries : List (String × Value))
  /-- Tables opened one after the other by headers of the same name. -/
  | tables (items : List (List (String × Value)))
  deriving Repr, Inhabited

/-- The entries of a table. -/
abbrev Entries := List (String × Value)

/-! ## Building tables. -/

namespace Entries

/-- Changes the table that a path leads to.  Tables that are missing on the
way are made, in the form that fits the way; a path leads through the last
of several tables, and through no value. -/
def descend (byDots : Bool) (change : TableForm → Entries → Option Entries) :
    (path : List String) → TableForm → Entries → Option Entries
  | [], form, entries => change form entries
  | key :: path, _, entries =>
    match KeyedList.get? key entries with
    | none => do
      let form := if byDots then .dotted else .implied
      let inner ← descend byDots change path form []
      some (KeyedList.insert key (.table form inner) entries)
    | some (.table form inner) =>
      if form = .closed ∨ (byDots ∧ form = .opened) then none
      else do
        let inner ← descend byDots change path form inner
        some (KeyedList.insert key (.table form inner) entries)
    | some (.tables items) => do
      let inner ← descend byDots change path .opened (items.getLastD [])
      some (KeyedList.insert key (.tables (items.dropLast ++ [inner])) entries)
    | some _ => none

/-- Adds a value under a dotted key; the key must be new, and the table it
belongs to must come from dotted keys exactly if the key has dots. -/
def define (path : List String) (value : Value) (entries : Entries) : Option Entries :=
  match path.getLast? with
  | none => none
  | some key =>
    descend true (fun form inner =>
      if (form == .dotted) == (path.length == 1) then none
      else if (KeyedList.get? key inner).isSome then none
      else some (KeyedList.insert key value inner)) path.dropLast .opened entries

/-- Opens a table by its header: it must be new, or implied so far. -/
def openTable (path : List String) (entries : Entries) : Option Entries :=
  match path.getLast? with
  | none => none
  | some key =>
    descend false (fun _ inner =>
      match KeyedList.get? key inner with
      | none => some (KeyedList.insert key (.table .opened []) inner)
      | some (.table .implied old) => some (KeyedList.insert key (.table .opened old) inner)
      | some _ => none) path.dropLast .opened entries

/-- Opens one more of several tables by its header. -/
def openNext (path : List String) (entries : Entries) : Option Entries :=
  match path.getLast? with
  | none => none
  | some key =>
    descend false (fun _ inner =>
      match KeyedList.get? key inner with
      | none => some (KeyedList.insert key (.tables [[]]) inner)
      | some (.tables items) => some (KeyedList.insert key (.tables (items ++ [[]])) inner)
      | some _ => none) path.dropLast .opened entries

/-- Adds a value under a dotted key to the table that a header has opened. -/
def defineIn (header path : List String) (value : Value) (entries : Entries) : Option Entries :=
  descend false (fun _ inner => define path value inner) header .opened entries

end Entries

end TradingConfig.Toml
