/-
  TradingConfig.Store.Validator
  ────────────────────────────────
  **WHO DECIDES ABOUT SCHEMAS.**

  What a schema file asks for is the affair of a validator.  It compiles the
  value of the file, or says why it cannot, and the compiled schema lists
  what is wrong with a value.  A store works with any validator: all that it
  relies on is that the verdict is a function of the two values, and it is,
  since references to other files are never fetched.

  `Validator.keywords` is the validator of the keywords in
  `TradingConfig.Schema.Basic`, which are a part of JSON Schema.  What it
  says counts for schema files that keep to those keywords, as the files
  that come with the program do, and the program is run with it.  Of other
  schema files only what holds for every validator is known.
-/
import TradingConfig.Schema.Check
import TradingConfig.Schema.Compile
import TradingConfig.Store.Fault

namespace TradingConfig

/-- A compiled schema: everything that is wrong with a value. -/
abbrev ValueCheck := Json → List Complaint

/-- A validator. -/
structure Validator where
  /-- Compiles the value of a schema file. -/
  compile : Json → Except SchemaFault ValueCheck

/-- What is wrong with a value by the keywords of a schema. -/
def SchemaBook.complaints (book : SchemaBook) : ValueCheck :=
  fun value => (book.violations value).map .schema

/-- The validator of the known keywords. -/
def Validator.keywords : Validator where
  compile file :=
    match SchemaBook.ofJson? file with
    | some book => .ok book.complaints
    | none => .error .unusable

theorem Validator.compile_keywords {file : Json} {book : SchemaBook}
    (usable : SchemaBook.ofJson? file = some book) :
    keywords.compile file = .ok book.complaints := by
  dsimp only [keywords]
  rw [usable]

theorem SchemaBook.complaints_eq_nil_iff {book : SchemaBook} {value : Json} :
    book.complaints value = [] ↔ book.violations value = [] :=
  List.map_eq_nil_iff

end TradingConfig
