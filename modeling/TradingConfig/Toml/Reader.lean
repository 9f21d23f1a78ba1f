/-
  TradingConfig.Toml.Reader
  ────────────────────────────────
  **READING A TOML DOCUMENT.**

  A document is a sequence of lines: blank ones, headers that open a table,
  and keys with their values.  Values and dotted keys nest below
  `nestingLimit`.
-/
import TradingConfig.Toml.Scalar

namespace TradingConfig.Toml

/-- How deep arrays, inline tables and dotted keys stay below. -/
def nestingLimit : Nat := 80

/-! ## §1. Keys. -/

/-- Whether a character may stand in a key without quotes. -/
def isBare (c : Char) : Bool :=
  ('A' ≤ c && c ≤ 'Z') || ('a' ≤ c && c ≤ 'z') || isDigit c || c = '_' || c = '-'

/-- A single key. -/
def simpleKey (fuel : Nat) (input : List Char) : Option (String × List Char) :=
  match input with
  | '"' :: rest => (basicBody fuel rest).map fun (body, rest) => (String.ofList body, rest)
  | '\'' :: rest => (literalBody rest).map fun (body, rest) => (String.ofList body, rest)
  | _ =>
    let name := input.takeWhile isBare
    if name.isEmpty then none else some (String.ofList name, input.dropWhile isBare)

/-- A key with dots, and the blanks around it. -/
def dottedKey : (fuel : Nat) → List Char → Option (List String × List Char)
  | 0, _ => none
  | fuel + 1, input => do
    let (key, rest) ← simpleKey fuel (skipBlank input)
    match skipBlank rest with
    | '.' :: rest => do
      let (keys, rest) ← dottedKey fuel rest
      some (key :: keys, rest)
    | rest => some ([key], rest)

/-- A key with dots that is not too deep. -/
def key (fuel : Nat) (input : List Char) : Option (List String × List Char) := do
  let (path, rest) ← dottedKey fuel input
  if path.length < nestingLimit then some (path, rest) else none

/-! ## §2. Values. -/

/-- A number or a moment in time. -/
def numeric (input : List Char) : Option (Value × List Char) :=
  match moment? input with
  | some rest => some (.moment, rest)
  | none =>
    match float? input with
    | some rest => some (.float, rest)
    | none => (integer input).map fun (value, rest) => (.integer value, rest)

mutual

/-- A value, in at most `fuel` steps, inside of which `room` arrays and
inline tables may still nest. -/
def value (fuel room : Nat) (input : List Char) : Option (Value × List Char) :=
  match fuel with
  | 0 => none
  | fuel + 1 =>
    match input with
    | [] => none
    | '"' :: _ | '\'' :: _ => (string fuel input).map fun (text, rest) => (.string text, rest)
    | 't' :: 'r' :: 'u' :: 'e' :: rest => some (.boolean true, rest)
    | 'f' :: 'a' :: 'l' :: 's' :: 'e' :: rest => some (.boolean false, rest)
    | '[' :: rest =>
      match room with
      | 0 => none
      | room + 1 => do
        let (items, rest) ← arrayItems fuel room rest
        some (.array items, rest)
    | '{' :: rest =>
      match room with
      | 0 => none
      | room + 1 =>
        match skipBlank rest with
        | '}' :: rest => some (.table .closed [], rest)
        | rest => do
          let (entries, rest) ← inlineEntries fuel room [] rest
          some (.table .closed entries, rest)
    | _ => numeric input

/-- The items of an array after its bracket or a comma. -/
def arrayItems (fuel room : Nat) (input : List Char) : Option (List Value × List Char) :=
  match fuel with
  | 0 => none
  | fuel + 1 =>
    match skipLines fuel input with
    | ']' :: rest => some ([], rest)
    | start => do
      let (item, rest) ← value fuel room start
      match skipLines fuel rest with
      | ']' :: rest => some ([item], rest)
      | ',' :: rest => do
        let (items, rest) ← arrayItems fuel room rest
        some (item :: items, rest)
      | _ => none

/-- The entries of an inline table from a key on, added to earlier ones. -/
def inlineEntries (fuel room : Nat) (entries : Entries) (input : List Char) :
    Option (Entries × List Char) :=
  match fuel with
  | 0 => none
  | fuel + 1 => do
    let (path, rest) ← key fuel input
    let rest ← after? '=' rest
    let (item, rest) ← value fuel room (skipBlank rest)
    let entries ← Entries.define path item entries
    match skipBlank rest with
    | '}' :: rest => some (entries, rest)
    | ',' :: rest => inlineEntries fuel room entries rest
    | _ => none

end

/-! ## §3. Documents. -/

/-- The document so far, and the header of the table that lines add to. -/
structure Draft where
  /-- The entries of the document. -/
  entries : Entries
  /-- The path of the open table. -/
  header : List String

/-- One line: what it makes of the document, and what follows it. -/
def line (fuel : Nat) (draft : Draft) (input : List Char) : Option (Draft × List Char) :=
  match input with
  | '#' :: _ => do
    let rest ← lineEnd? input
    some (draft, rest)
  | '[' :: '[' :: rest => do
    let (path, rest) ← key fuel rest
    let rest ← after? ']' rest
    let rest ← after? ']' rest
    let entries ← Entries.openNext path draft.entries
    let rest ← lineEnd? rest
    some (⟨entries, path⟩, rest)
  | '[' :: rest => do
    let (path, rest) ← key fuel rest
    let rest ← after? ']' rest
    let entries ← Entries.openTable path draft.entries
    let rest ← lineEnd? rest
    some (⟨entries, path⟩, rest)
  | _ =>
    match newLine? input with
    | some rest => some (draft, rest)
    | none => do
      let (path, rest) ← key fuel input
      let rest ← after? '=' rest
      let (item, rest) ← value fuel (nestingLimit - 1) (skipBlank rest)
      let rest ← lineEnd? rest
      let entries ← Entries.defineIn draft.header path item draft.entries
      some ({ draft with entries := entries }, rest)

/-- All lines, in at most `fuel` steps. -/
def lines : (fuel : Nat) → Draft → List Char → Option Entries
  | 0, _, _ => none
  | fuel + 1, draft, input =>
    match skipBlank input with
    | [] => some draft.entries
    | start => do
      let (draft, rest) ← line fuel draft start
      lines fuel draft rest

/-- The mark that may stand in front of a text. -/
def byteOrderMark : Char := Char.ofNat 0xFEFF

/-- The entries of the document that a text stands for.  No reader takes
more than three steps without consuming a character. -/
def ofText? (text : String) : Option Entries :=
  let input := match text.toList with
    | [] => []
    | c :: rest => if c = byteOrderMark then rest else c :: rest
  lines (3 * input.length + 3) ⟨[], []⟩ input

end TradingConfig.Toml
