/-
  TradingConfig.Report.Pattern
  ────────────────────────────────
  **PATTERNS FOR THE VALUES OF FIELDS.**

  A value that is asked for is a number or a regular expression.  This file
  says which texts are regular expressions that can be searched for.  A
  pattern stands in braces, so it holds no closing brace, and a repetition
  with counts can never be complete.

  Two flags matter to the form: without Unicode nothing may match part of a
  character, and in a verbose pattern white space and comments do not count.
-/
import TradingConfig.Text.Alphanumeric
import TradingConfig.Text.Blank
import TradingConfig.Text.Hex

namespace TradingConfig

/-- Why a text is no pattern. -/
inductive PatternFault where
  /-- It is not formed like a regular expression. -/
  | form
  /-- It asks for the edge of a word, which cannot be searched for. -/
  | edge
  deriving DecidableEq, Repr

/-- The wording of a fault. -/
def PatternFault.message : PatternFault → String
  | .form => "error building NFA"
  | .edge => "unsupported regex feature for DFAs"

namespace Pattern

/-! ## §1. Flags. -/

/-- The flags that matter to the form of a pattern. -/
structure Mode where
  /-- Whether characters are matched, not octets. -/
  unicode : Bool := true
  /-- Whether white space and comments do not count. -/
  verbose : Bool := false
  deriving DecidableEq, Repr

/-- Whether characters are flags, some of them after a minus sign. -/
def areFlags (flags : List Char) : Bool :=
  flags.all ("imsRUux-".toList.contains ·) && decide flags.Nodup && flags.getLast? ≠ some '-'

/-- A mode with flags set, or unset if they come after a minus sign. -/
def Mode.set (mode : Mode) (flags : List Char) : Mode :=
  let plus := flags.takeWhile (· ≠ '-')
  let minus := flags.drop plus.length
  ⟨(mode.unicode || plus.contains 'u') && !minus.contains 'u',
    (mode.verbose || plus.contains 'x') && !minus.contains 'x'⟩

/-- What follows the characters that do not count, in at most `fuel`
steps. -/
def Mode.skip (mode : Mode) : (fuel : Nat) → List Char → List Char
  | 0, input => input
  | _ + 1, [] => []
  | fuel + 1, c :: rest =>
    if !mode.verbose then c :: rest
    else if isWhiteSpace c then mode.skip fuel rest
    else if c = '#' then mode.skip fuel ((rest.dropWhile (· ≠ '\n')).drop 1)
    else c :: rest

/-! ## §2. Elements. -/

/-- What one element of a pattern matches. -/
inductive Element where
  /-- One character, by itself. -/
  | literal (c : Char)
  /-- One octet or character, by number. -/
  | numbered (c : Char)
  /-- Any of several ASCII characters. -/
  | set
  /-- Any of several characters, not all of them ASCII. -/
  | wideSet
  /-- An end of the text. -/
  | border
  /-- The edge of a word, or a place that is none. -/
  | edge
  deriving DecidableEq, Repr

/-- Whether an element matches no part of a character. -/
def Element.isWhole (mode : Mode) : Element → Bool
  | .numbered c => mode.unicode || c.toNat < 0x80
  | .wideSet => mode.unicode
  | _ => true

/-- Whether an element can be a member of a set. -/
def Element.isMember (mode : Mode) : Element → Bool
  | .literal c => mode.unicode || c.toNat < 0x80
  | .numbered c => mode.unicode || c.toNat < 0x80
  | .set => true
  | .wideSet => mode.unicode
  | _ => false

/-- The character that an element stands for. -/
def Element.char? : Element → Option Char
  | .literal c => some c
  | .numbered c => some c
  | _ => none

/-- The letters of the general categories. -/
def categories : List Char := "CLMNPSZclmnpsz".toList

/-- The letters that stand for control characters. -/
def controls : List (Char × Char) :=
  [('a', '\x07'), ('f', '\x0C'), ('n', '\n'), ('r', '\r'), ('t', '\t'), ('v', '\x0B')]

/-- A letter or mark after a backslash. -/
def marked? (c : Char) : Option Element :=
  if "dsw".toList.contains c then some .set
  else if "DSW".toList.contains c then some .wideSet
  else if "Az".toList.contains c then some .border
  else if "bB<>".toList.contains c then some .edge
  else match controls.lookup c with
    | some control => some (.literal control)
    | none => if c.toNat < 0x80 && !c.isAlphanum then some (.literal c) else none

/-- What follows a backslash: the element and the rest. -/
def escape? : List Char → Option (Element × List Char)
  | [] => none
  | 'x' :: rest => (hexChar? 2 rest).map fun read => (.numbered read.1, read.2)
  | 'u' :: rest => (hexChar? 4 rest).map fun read => (.literal read.1, read.2)
  | 'U' :: rest => (hexChar? 8 rest).map fun read => (.literal read.1, read.2)
  | 'p' :: rest | 'P' :: rest => match rest with
    | [] => none
    | c :: rest => if categories.contains c then some (.wideSet, rest) else none
  | c :: rest => (marked? c).map fun element => (element, rest)

/-! ## §3. Sets in brackets. -/

/-- The names of sets. -/
def setNames : List String := [
  "alnum", "alpha", "ascii", "blank", "cntrl", "digit", "graph", "lower", "print", "punct",
  "space", "upper", "word", "xdigit"]

/-- A named set after its first bracket, and what follows it. -/
def namedSet? : List Char → Option (Element × List Char)
  | ':' :: rest =>
    let negated := rest.head? = some '^'
    let rest := if negated then rest.drop 1 else rest
    let name := rest.takeWhile (· ≠ ':')
    match rest.drop name.length with
    | ':' :: ']' :: rest =>
      if setNames.contains (String.ofList name) then
        some (if negated then .wideSet else .set, rest)
      else none
    | _ => none
  | _ => none

/-- What follows hyphens, in at most `fuel` steps. -/
def skipHyphens (mode : Mode) : (fuel : Nat) → List Char → List Char
  | fuel + 1, '-' :: rest => skipHyphens mode fuel (mode.skip (rest.length + 1) rest)
  | _, input => input

/-- What follows the marks that have a meaning of their own only at the
start of a set, after its bracket.  Without Unicode no set is negated. -/
def setStart? (mode : Mode) (input : List Char) : Option (List Char) :=
  let skip (input : List Char) := mode.skip (input.length + 1) input
  let input := skip input
  let negated := input.head? = some '^'
  if negated && !mode.unicode then none
  else
    match if negated then skip (input.drop 1) else input with
    | ']' :: rest => some (skip rest)
    | input => some (skipHyphens mode input.length input)

/-- One member of a set. -/
def setMember? : List Char → Option (Element × List Char)
  | [] => none
  | '\\' :: rest => escape? rest
  | c :: rest => some (.literal c, rest)

/-- Whether two elements are the ends of a range. -/
def isRange (mode : Mode) (first last : Element) : Bool :=
  first.isMember mode && last.isMember mode
    && match first.char?, last.char? with
      | some first, some last => first ≤ last
      | _, _ => false

/-- What follows a set that lies inside of `depth` others. -/
def setRest? (mode : Mode) : (fuel depth : Nat) → List Char → Option (List Char)
  | 0, _, _ => none
  | fuel + 1, depth, input =>
    let skip (input : List Char) := mode.skip (input.length + 1) input
    match skip input with
    | [] => none
    | '[' :: rest =>
      match namedSet? rest with
      | some (element, rest) =>
        if element.isMember mode then setRest? mode fuel depth rest else none
      | none => (setStart? mode rest).bind (setRest? mode fuel (depth + 1))
    | ']' :: rest => if depth = 0 then some rest else setRest? mode fuel (depth - 1) rest
    | '&' :: '&' :: rest => setRest? mode fuel depth rest
    | '-' :: '-' :: rest => setRest? mode fuel depth rest
    | '~' :: '~' :: rest => setRest? mode fuel depth rest
    | input => do
      let (first, rest) ← setMember? input
      let rest := skip rest
      match rest with
      | '-' :: more =>
        let more := skip more
        if more.head? = some ']' || more.head? = some '-' then
          if first.isMember mode then setRest? mode fuel depth rest else none
        else
          let (last, rest) ← setMember? more
          if isRange mode first last then setRest? mode fuel depth rest else none
      | rest => if first.isMember mode then setRest? mode fuel depth rest else none

/-! ## §4. Groups. -/

/-- How a group starts. -/
inductive GroupStart where
  /-- Flags for what follows, without a group. -/
  | flags (flags : List Char)
  /-- A group, under flags. -/
  | group (flags : List Char)
  /-- A group with a name. -/
  | named (name : List Char)
  deriving DecidableEq, Repr

/-- Whether a name can be given to a group. -/
def isGroupName : List Char → Bool
  | [] => false
  | c :: rest =>
    (c = '_' || isLetter c) && rest.all fun c => "_.[]".toList.contains c || isAlphanumeric c

/-- A group that starts with its name, up to the closing bracket of the
name. -/
def namedGroup? (input : List Char) : Option (GroupStart × List Char) :=
  let name := input.takeWhile (· ≠ '>')
  if isGroupName name && name.length < input.length then
    some (.named name, input.drop (name.length + 1))
  else none

/-- The start of a group, after its parenthesis. -/
def groupStart? : List Char → Option (GroupStart × List Char)
  | '?' :: 'P' :: '<' :: rest => namedGroup? rest
  | '?' :: '<' :: rest => namedGroup? rest
  | '?' :: rest =>
    let flags := rest.takeWhile fun c => c ≠ ':' && c ≠ ')'
    if !areFlags flags then none
    else match rest.drop flags.length with
      | ':' :: rest => some (.group flags, rest)
      | _ :: rest => if flags.isEmpty then none else some (.flags flags, rest)
      | [] => none
  | rest => some (.group [], rest)

/-! ## §5. Patterns. -/

/-- What is known in the middle of a pattern. -/
structure Position where
  /-- The flags. -/
  mode : Mode := {}
  /-- The flags around the open groups, the innermost first. -/
  outer : List Mode := []
  /-- Whether an element stands right in front. -/
  repeatable : Bool := false
  /-- Whether the edge of a word was asked for. -/
  edges : Bool := false
  /-- The names of groups so far. -/
  names : List (List Char) := []

/-- The position after the start of a group, unless its name is taken. -/
def Position.enter? (position : Position) : GroupStart → Option Position
  | .flags flags =>
    some { position with mode := position.mode.set flags, repeatable := false }
  | .group flags =>
    some { position with
      mode := position.mode.set flags, outer := position.mode :: position.outer,
      repeatable := false }
  | .named name =>
    if position.names.contains name then none
    else some { position with
      outer := position.mode :: position.outer, repeatable := false,
      names := name :: position.names }

/-- The position after the end of a group. -/
def Position.leave? (position : Position) : Option Position :=
  match position.outer with
  | [] => none
  | mode :: outer => some { position with mode := mode, outer := outer, repeatable := true }

/-- The position after an element. -/
def Position.pass? (position : Position) (element : Element) : Option Position :=
  if element.isWhole position.mode then
    some { position with
      repeatable := true,
      edges := position.edges || (element = .edge && position.mode.unicode) }
  else none

/-- One step in a pattern: the position after it, and the rest. -/
def step? (position : Position) (c : Char) (rest : List Char) :
    Option (Position × List Char) :=
  match c with
  | '(' => do
    let (start, rest) ← groupStart? (position.mode.skip (rest.length + 1) rest)
    let position ← position.enter? start
    some (position, rest)
  | ')' => position.leave?.map fun position => (position, rest)
  | '|' => some ({ position with repeatable := false }, rest)
  | '[' => do
    let rest ← setStart? position.mode rest
    let rest ← setRest? position.mode (rest.length + 1) 0 rest
    some ({ position with repeatable := true }, rest)
  | '?' | '*' | '+' =>
    if position.repeatable then
      some (position, if rest.head? = some '?' then rest.drop 1 else rest)
    else none
  | '{' => none
  | '\\' => do
    let (element, rest) ← escape? rest
    let position ← position.pass? element
    some (position, rest)
  | '.' => (position.pass? .wideSet).map fun position => (position, rest)
  | c => (position.pass? (.literal c)).map fun position => (position, rest)

/-- The fault in the rest of a pattern. -/
def faultFrom : (fuel : Nat) → Position → List Char → Option PatternFault
  | 0, _, _ => some .form
  | fuel + 1, position, input =>
    match position.mode.skip (input.length + 1) input with
    | [] =>
      if !position.outer.isEmpty then some .form
      else if position.edges then some .edge
      else none
    | c :: rest =>
      match step? position c rest with
      | none => some .form
      | some (position, rest) => faultFrom fuel position rest

/-! ## §6. Values. -/

/-- What follows an exponent. -/
def isExponent : List Char → Bool
  | [] => true
  | e :: rest =>
    let digits := if rest.head? = some '+' || rest.head? = some '-' then rest.drop 1 else rest
    (e = 'e' || e = 'E') && !digits.isEmpty && digits.all Char.isDigit

/-- Whether a text is a number without a sign. -/
def isUnsigned (text : List Char) : Bool :=
  let whole := text.takeWhile Char.isDigit
  let rest := text.drop whole.length
  let places := match rest with
    | '.' :: rest => rest.takeWhile Char.isDigit
    | _ => []
  let rest := if rest.head? = some '.' then rest.drop (places.length + 1) else rest
  ["inf", "infinity", "nan"].contains (String.ofList (text.map Char.toLower))
    || (!(whole.isEmpty && places.isEmpty) && isExponent rest)

/-- The fault of a value that is asked for.  Every number without a plus
sign in front is a regular expression, too. -/
def fault? (value : List Char) : Option PatternFault :=
  if value.head? = some '+' && isUnsigned (value.drop 1) then none
  else faultFrom (value.length + 1) {} value

end Pattern

end TradingConfig
