/-
  TradingConfig.Report.Directive
  ────────────────────────────────
  **DIRECTIVES: WHAT ABOUT, AND HOW DETAILED.**

      directive = [ name ] "[" [ span ] [ "{" field [ "=" value ] "}" ] "]" [ "=" [ level ] ]
                | name [ "=" [ level ] ]
                | level

  The form is found in the piece without the white space around it.  The
  parts are then taken from the piece as it was written, from the same
  places, so that white space in front of a directive ends up inside of its
  parts.
-/
import TradingConfig.Report.Basic
import TradingConfig.Report.Pattern
import TradingConfig.Text.Blank
import TradingConfig.Text.Count
import TradingConfig.Text.Octets
import TradingConfig.Text.Pieces

namespace TradingConfig

/-- One directive of a filter. -/
structure Directive where
  /-- How the names of the sources start that it is about; none for all. -/
  source : Option String
  /-- The field that a report must have. -/
  field : Option String
  /-- Whether it is only about what happens inside of certain spans. -/
  inSpans : Bool
  /-- The greatest detail that is shown. -/
  detail : Nat
  deriving DecidableEq, Repr

/-- The reason why a piece is no directive. -/
inductive DirectiveFault where
  /-- It is not formed like a directive. -/
  | form
  /-- Its level is unknown. -/
  | level
  /-- The value of its field is no pattern. -/
  | pattern (fault : PatternFault)
  /-- One of its parts would start or end inside of a character. -/
  | torn
  deriving DecidableEq, Repr

namespace Directive

/-! ## §1. Levels. -/

/-- The greatest detail there is. -/
def everything : Nat := 5

/-- The words for levels, by detail. -/
def levelWords : List (String × Nat) :=
  [("off", 0), ("error", 1), ("warn", 2), ("info", 3), ("debug", 4), ("trace", 5)]

/-- The detail that a word stands for: a count up to five, or the name of a
level in any case of its letters. -/
def detail? (word : List Char) : Option Nat :=
  match count? word with
  | some n => if n ≤ everything then some n else none
  | none => levelWords.lookup (String.ofList (word.map Char.toLower))

/-! ## §2. Parts. -/

/-- The part of a piece between two places. -/
def part (piece : List Char) (start stop : Nat) : Except DirectiveFault (List Char) :=
  match octetsBetween? start stop piece with
  | some part => .ok part
  | none => .error .torn

/-- The level from a place on; nothing there is every detail. -/
def level (piece : List Char) (start : Nat) : Except DirectiveFault Nat := do
  let word ← part piece start (octetCount piece)
  if word.isEmpty then .ok everything
  else match detail? word with
    | some detail => .ok detail
    | none => .error .level

/-- The level after a closing bracket, which ends at a place. -/
def levelAfter (piece : List Char) (place : Nat) : List Char → Except DirectiveFault Nat
  | [] => .ok everything
  | '=' :: _ => level piece (place + 1)
  | _ => .error .form

/-- A field, and the value that is asked for. -/
def fieldOf (text : List Char) : Except DirectiveFault (String × Option (List Char)) :=
  if text.isEmpty then .error .form
  else match piecesBetween '=' text with
    | name :: value :: _ => match Pattern.fault? value with
      | some fault => .error (.pattern fault)
      | none => .ok (String.ofList name, some value)
    | _ => .ok (String.ofList text, none)

/-! ## §3. Directives. -/

/-- A directive from a place inside of its braces on. -/
def parseField (piece : List Char) (source : Option String) (inSpans : Bool) (place : Nat)
    (text : List Char) : Except DirectiveFault Directive :=
  let content := text.takeWhile (· ≠ '}')
  let stop := place + octetCount content
  match text.drop content.length with
  | [] => .error .form
  | _ :: rest => do
    let (name, value) ← fieldOf (← part piece place stop)
    match rest with
    | ']' :: rest =>
      let detail ← levelAfter piece (stop + 2) rest
      .ok ⟨source, some name, inSpans || value.isSome, detail⟩
    | _ => .error .form

/-- A directive from a place inside of its brackets on. -/
def parseSpan (piece : List Char) (source : Option String) (place : Nat) (text : List Char) :
    Except DirectiveFault Directive :=
  let content := text.takeWhile fun c => c ≠ ']' && c ≠ '{'
  let stop := place + octetCount content
  match text.drop content.length with
  | [] => .error .form
  | ']' :: rest => do
    let _ ← part piece place stop
    let detail ← levelAfter piece (stop + 1) rest
    .ok ⟨source, none, true, detail⟩
  | _ :: rest => do
    let span ← part piece place stop
    parseField piece source (!span.isEmpty) (stop + 1) rest

/-- Whether a name can start with a character. -/
def isStart (c : Char) : Bool :=
  isAlphanumeric c || c = '-' || c = ':' || c = '_'

/-- The directive that a piece stands for. -/
def parse (piece : List Char) : Except DirectiveFault Directive :=
  match trimWhiteSpace piece with
  | [] => .error .form
  | '[' :: rest => parseSpan piece none 1 rest
  | c :: rest =>
    if !isStart c then .error .form
    else
      let name := c :: rest.takeWhile fun c => c ≠ '=' && c ≠ '['
      let stop := octetCount name
      match (c :: rest).drop name.length with
      | [] => match detail? piece with
        | some detail => .ok ⟨none, none, false, detail⟩
        | none => .ok ⟨some (String.ofList piece), none, false, everything⟩
      | mark :: rest => do
        let source := some (String.ofList (← part piece 0 stop))
        if mark = '=' then
          let detail ← level piece (stop + 1)
          .ok ⟨source, none, false, detail⟩
        else parseSpan piece source (stop + 1) rest

/-! ## §4. Which reports a directive is about. -/

/-- Whether a directive is about a report of a source, made outside of
every span. -/
def covers (directive : Directive) (source : String) (report : Report) : Bool :=
  !directive.inSpans
    && directive.source.all (fun name => name.toList.isPrefixOf source.toList)
    && directive.field.all report.names.contains

/-- The number of octets of the name that it asks for; no name is less than
every name. -/
def nameSize (directive : Directive) : Nat :=
  match directive.source with
  | some name => name.utf8ByteSize + 1
  | none => 0

/-- Whether the second of two fields is at least as specific as the first
one: a field counts more than none, and a greater name more than a smaller
one. -/
def fieldUpTo : Option String → Option String → Bool
  | none, _ => true
  | some _, none => false
  | some first, some second => !(second < first)

/-- Whether the second of two directives that cover a report counts: the
one with the longer name does, then the one with the greater field, and of
two alike the second one. -/
def upTo (first second : Directive) : Bool :=
  first.nameSize < second.nameSize
    || (first.nameSize = second.nameSize && fieldUpTo first.field second.field)

end Directive

end TradingConfig
