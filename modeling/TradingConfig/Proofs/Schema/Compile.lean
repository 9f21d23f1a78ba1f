/-
  TradingConfig.Proofs.Schema.Compile
  ────────────────────────────────
  **WHERE A REFERENCE LEADS.**

  The first time a place is reached its rules are put in
  (`follow_of_new`), later a rule recurs to it (`follow_of_known`).  A file
  holds what its root is compiled to, and the schemas at the places that
  were reached (`ofJson?_of_compile`).
-/
import TradingConfig.Schema.Compile

namespace TradingConfig.Schema

variable {file target : Json} {text : String} {reference : Reference} {links : List Reference}
  {fuel : Nat}

theorem follow_of_new (named : Reference.ofText? text = some reference)
    (leads : reference.find? file = some target) (fresh : reference ∉ links) :
    (follow file (fuel + 1) text).run links
      = (ofJson? (follow file fuel) target).bind fun link => link.run (reference :: links) := by
  unfold follow
  rw [named]
  simp only [List.contains_eq_mem, decide_eq_true_eq, StateT.run_bind, StateT.run_monadLift,
    monadLift_self, Option.pure_def, Option.bind_eq_bind, Option.bind_some, StateT.run_get, leads,
    fresh, ↓reduceIte]
  cases ofJson? (follow file fuel) target <;> rfl

theorem follow_of_known (named : Reference.ofText? text = some reference)
    (leads : reference.find? file = some target) (known : reference ∈ links) :
    (follow file (fuel + 1) text).run links
      = some (if refersBack text target then [] else [.recurring reference], links) := by
  unfold follow
  rw [named]
  simp only [List.contains_eq_mem, decide_eq_true_eq, StateT.run_bind, StateT.run_monadLift,
    monadLift_self, Option.pure_def, Option.bind_eq_bind, Option.bind_some, StateT.run_get, leads,
    known, ↓reduceIte, StateT.run_pure]

/-- The schema at a place that a file refers to is one of its definitions. -/
theorem definitions?_cons {schema : Schema} {followed rest : List Reference}
    {definitions : List (Reference × Schema)} (leads : reference.find? file = some target)
    (compiled : compile? file target = some (schema, followed))
    (others : SchemaBook.definitions? file rest = some definitions) :
    SchemaBook.definitions? file (reference :: rest) = some ((reference, schema) :: definitions) := by
  unfold SchemaBook.definitions?
  simp only [leads, compiled, others, Option.bind_eq_bind, Option.bind_some]

/-- What a file holds, from what its root and its references are compiled
to. -/
theorem ofJson?_of_compile {root : Schema} {references : List Reference}
    {definitions : List (Reference × Schema)} (selfContained : isSelfContained file = true)
    (compiled : compile? file file = some (root, references))
    (referred : SchemaBook.definitions? file references = some definitions) :
    SchemaBook.ofJson? file = some ⟨root, definitions⟩ := by
  unfold SchemaBook.ofJson?
  rw [selfContained, compiled]
  show ((SchemaBook.definitions? file references).bind fun definitions =>
    some (SchemaBook.mk root definitions)) = _
  rw [referred]
  rfl

end TradingConfig.Schema
