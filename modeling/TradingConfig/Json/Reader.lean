/-
  TradingConfig.Json.Reader
  ────────────────────────────────
  **READING A JSON VALUE.**

  One value, blanks around it allowed, nothing after it.  Arrays and
  objects nest at most `nestingLimit` deep.  Every object that is read is a
  keyed list: of several members with one key the last one counts.
-/
import TradingConfig.Json.Scalar

namespace TradingConfig.Json

/-- How deep arrays and objects may nest. -/
def nestingLimit : Nat := 127

mutual

/-- A value, in at most `fuel` steps, inside of which `room` arrays and
objects may still nest. -/
def value (fuel room : Nat) (input : List Symbol) :
    Except SyntaxFault (Json × List Symbol) :=
  match fuel with
  | 0 => .error .endInValue
  | fuel + 1 =>
    match skipBlank input with
    | [] => .error .endInValue
    | .char 'n' :: rest => literal .null ['u', 'l', 'l'] rest
    | .char 't' :: rest => literal (.bool true) ['r', 'u', 'e'] rest
    | .char 'f' :: rest => literal (.bool false) ['a', 'l', 's', 'e'] rest
    | .char '-' :: rest => number true rest
    | .char '"' :: rest => do
      let (text, rest) ← stringText fuel rest
      .ok (.str text, rest)
    | .char '[' :: rest =>
      match room with
      | 0 => .error .nestedTooDeep
      | room + 1 => do
        let (items, rest) ← arrayItems fuel room rest
        .ok (.arr items, rest)
    | .char '{' :: rest =>
      match room with
      | 0 => .error .nestedTooDeep
      | room + 1 => do
        let (members, rest) ← objectMembers fuel room rest
        .ok (.obj (KeyedList.ofPairs members), rest)
    | start :: rest =>
      if (digit? start).isSome then number false (start :: rest) else .error .valueExpected

/-- The items of an array after its opening bracket. -/
def arrayItems (fuel room : Nat) (input : List Symbol) :
    Except SyntaxFault (List Json × List Symbol) :=
  match fuel with
  | 0 => .error .endInArray
  | fuel + 1 =>
    match skipBlank input with
    | [] => .error .endInArray
    | .char ']' :: rest => .ok ([], rest)
    | start => do
      let (item, rest) ← value fuel room start
      let (items, rest) ← moreItems fuel room rest
      .ok (item :: items, rest)

/-- The items of an array after one of its items. -/
def moreItems (fuel room : Nat) (input : List Symbol) :
    Except SyntaxFault (List Json × List Symbol) :=
  match fuel with
  | 0 => .error .endInArray
  | fuel + 1 =>
    match skipBlank input with
    | [] => .error .endInArray
    | .char ']' :: rest => .ok ([], rest)
    | .char ',' :: rest =>
      match skipBlank rest with
      | .char ']' :: _ => .error .trailingComma
      | start => do
        let (item, rest) ← value fuel room start
        let (items, rest) ← moreItems fuel room rest
        .ok (item :: items, rest)
    | _ => .error .commaOrBracketExpected

/-- The members of an object after its opening brace. -/
def objectMembers (fuel room : Nat) (input : List Symbol) :
    Except SyntaxFault (List (String × Json) × List Symbol) :=
  match fuel with
  | 0 => .error .endInObject
  | fuel + 1 =>
    match skipBlank input with
    | [] => .error .endInObject
    | .char '}' :: rest => .ok ([], rest)
    | .char '"' :: rest => membersFrom fuel room rest
    | _ => .error .keyNotString

/-- The members of an object after the opening quote of a key. -/
def membersFrom (fuel room : Nat) (input : List Symbol) :
    Except SyntaxFault (List (String × Json) × List Symbol) :=
  match fuel with
  | 0 => .error .endInObject
  | fuel + 1 => do
    let (key, rest) ← stringText fuel input
    match skipBlank rest with
    | [] => .error .endInObject
    | .char ':' :: rest =>
      let (item, rest) ← value fuel room rest
      let (members, rest) ← moreMembers fuel room rest
      .ok ((key, item) :: members, rest)
    | _ => .error .colonExpected

/-- The members of an object after one of its members. -/
def moreMembers (fuel room : Nat) (input : List Symbol) :
    Except SyntaxFault (List (String × Json) × List Symbol) :=
  match fuel with
  | 0 => .error .endInObject
  | fuel + 1 =>
    match skipBlank input with
    | [] => .error .endInObject
    | .char '}' :: rest => .ok ([], rest)
    | .char ',' :: rest =>
      match skipBlank rest with
      | [] => .error .endInValue
      | .char '}' :: _ => .error .trailingComma
      | .char '"' :: rest => membersFrom fuel room rest
      | _ => .error .keyNotString
    | _ => .error .commaOrBraceExpected

end

/-- The value that symbols are the text of.  No reader takes more than
three steps without consuming a symbol. -/
def ofSymbols (input : List Symbol) : Except SyntaxFault Json := do
  let (result, rest) ← value (3 * input.length + 3) nestingLimit input
  match skipBlank rest with
  | [] => .ok result
  | _ => .error .trailingCharacters

/-- The value that a file's bytes are the text of. -/
def ofBytes (bytes : ByteArray) : Except SyntaxFault Json :=
  ofSymbols (Symbol.ofBytes bytes)

/-- The value that a text stands for. -/
def ofText (text : String) : Except SyntaxFault Json :=
  ofSymbols (Symbol.ofText text)

end TradingConfig.Json
