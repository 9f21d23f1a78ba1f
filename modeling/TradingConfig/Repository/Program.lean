/-
  TradingConfig.Repository.Program
  ────────────────────────────────
  **REPOSITORY CALLS AS PROGRAMS OF STORE CALLS.**

  A repository call is a program: at each step it is done, or it asks the
  store to load or to save and goes on with the answer.  The same program
  runs over every store, alone or between the steps of others.
-/
import TradingConfig.Record.Mapping
import TradingConfig.Store.Basic

namespace TradingConfig

/-- The reason why a repository call fails. -/
inductive RepositoryFault where
  /-- The store failed. -/
  | store (fault : StoreFault)
  /-- A record is malformed. -/
  | malformed (fault : Malformed)
  /-- A record is not there after it was saved. -/
  | unconfirmed (id : String)
  /-- An earlier write of the document crashed. -/
  | poisoned

/-- The wording of a fault. -/
def RepositoryFault.message : RepositoryFault → String
  | .store fault => fault.message
  | .malformed fault => fault.message
  | .unconfirmed id => "entry '" ++ id ++ "' not found after save"
  | .poisoned => "document write lock was poisoned"

/-- A program over a store of documents of type `D` that ends with an `R`. -/
inductive Program (D R : Type) where
  /-- The end. -/
  | done (result : R)
  /-- Loads the document and goes on. -/
  | load (next : Except StoreFault D → Program D R)
  /-- Saves a document and goes on. -/
  | save (document : D) (next : Except StoreFault Unit → Program D R)

/-- How a program ends. -/
inductive Ending (R : Type) where
  /-- With a result. -/
  | result (value : R)
  /-- With a crash of the store. -/
  | crash

namespace Program

variable {σ D R : Type}

/-- Runs a program from its first step to its last. -/
def run (store : Store σ D) (location : Location) : Program D R → σ → Ending R × σ
  | .done result, state => (.result result, state)
  | .load next, state =>
    match store.load location state with
    | (.crash, state) => (.crash, state)
    | (.answer answer, state) => (next answer).run store location state
  | .save document next, state =>
    match store.save document location state with
    | (.crash, state) => (.crash, state)
    | (.answer answer, state) => (next answer).run store location state

/-- The program with another form of its result. -/
def map {Q : Type} (form : Q → R) :
    Program D (Except RepositoryFault Q) → Program D (Except RepositoryFault R)
  | .done result => .done (result.map form)
  | .load next => .load fun answer => (next answer).map form
  | .save document next => .save document fun answer => (next answer).map form

/-- Ends with a fault. -/
def fail (fault : RepositoryFault) : Program D (Except RepositoryFault R) :=
  .done (.error fault)

/-- What is seen in a document that was loaded. -/
def seen (view : D → Except Malformed R) (loaded : Except StoreFault D) :
    Except RepositoryFault R := do
  let document ← loaded.mapError .store
  (view document).mapError .malformed

/-- Loads the document once and ends with what is seen in it. -/
def reading (view : D → Except Malformed R) : Program D (Except RepositoryFault R) :=
  .load fun loaded => .done (seen view loaded)

/-- Loads the document; a fault of the store ends the program. -/
def loading (next : D → Program D (Except RepositoryFault R)) :
    Program D (Except RepositoryFault R) :=
  .load fun
    | .error fault => fail (.store fault)
    | .ok document => next document

/-- Saves a document; a fault of the store ends the program. -/
def saving (document : D) (next : Program D (Except RepositoryFault R)) :
    Program D (Except RepositoryFault R) :=
  .save document fun
    | .error fault => fail (.store fault)
    | .ok () => next

end Program

end TradingConfig
