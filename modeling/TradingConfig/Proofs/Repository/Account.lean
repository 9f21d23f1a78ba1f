/-
  TradingConfig.Proofs.Repository.Account
  ────────────────────────────────
  **NO CHANGE IS LOST.**

  Calls that are answered one after the other account for the document: each
  change that is answered with success was made to the document that those
  before it left, and nothing else was made to it.  Over both stores the
  stored document is accounted for (`DocumentClass.accountable_memory`,
  `DocumentClass.accountable_files`).  An identifier that was created is
  there until it is deleted, so it cannot be created twice without a deletion
  in between (`DocumentClass.Accounts.exists_deletion`).
-/
import TradingConfig.Proofs.Repository.Twin

namespace TradingConfig

/-! ## §1. Accounts. -/

namespace DocumentClass

variable (documentClass : DocumentClass)

/-- What a call that was so answered made of the stored document: what it
makes of a document if the answer says that a change was made, and nothing
otherwise. -/
def Makes (call : documentClass.Call)
    (ending : Ending (Except RepositoryFault documentClass.Answer))
    (before after : Option documentClass.Document) : Prop :=
  (¬ documentClass.Changes call ending ∧ after = before)
    ∨ (documentClass.Changes call ending ∧ ∃ document, before = some document
      ∧ ending = .result ((documentClass.program call).evaluate document).1
      ∧ after = some ((documentClass.program call).evaluate document).2)

/-- What calls that were so answered, one after the other, made of the
stored document. -/
def Accounts : List (documentClass.Call × Ending (Except RepositoryFault documentClass.Answer)) →
    (first last : Option documentClass.Document) → Prop
  | [], first, last => last = first
  | (call, ending) :: rest, first, last =>
    ∃ middle, documentClass.Makes call ending first middle ∧ Accounts rest middle last

variable {documentClass}

theorem accounts_append
    {before after :
      List (documentClass.Call × Ending (Except RepositoryFault documentClass.Answer))}
    {first last : Option documentClass.Document} :
    documentClass.Accounts (before ++ after) first last
      ↔ ∃ middle, documentClass.Accounts before first middle
        ∧ documentClass.Accounts after middle last := by
  induction before generalizing first with
  | nil =>
    constructor
    · intro accounts
      exact ⟨first, rfl, accounts⟩
    · rintro ⟨middle, same, accounts⟩
      exact (show middle = first from same) ▸ accounts
  | cons entry rest ih =>
    constructor
    · rintro ⟨next, makes, accounts⟩
      obtain ⟨middle, accountsRest, accountsAfter⟩ := ih.mp accounts
      exact ⟨middle, ⟨next, makes, accountsRest⟩, accountsAfter⟩
    · rintro ⟨middle, ⟨next, makes, accountsRest⟩, accountsAfter⟩
      exact ⟨next, makes, ih.mpr ⟨middle, accountsRest, accountsAfter⟩⟩

theorem not_changes_of_error {call : documentClass.Call} {fault : RepositoryFault} :
    ¬ documentClass.Changes call (.result (.error fault)) := by
  rintro ⟨-, answer, same, -⟩
  cases same

/-- A call makes of a document what it is answered with. -/
theorem makes_of_evaluate (call : documentClass.Call) (document : documentClass.Document) :
    documentClass.Makes call (.result ((documentClass.program call).evaluate document).1)
      (some document) (some ((documentClass.program call).evaluate document).2) := by
  by_cases changes : documentClass.Changes call
      (.result ((documentClass.program call).evaluate document).1)
  · exact .inr ⟨changes, document, rfl, rfl, rfl⟩
  · have unsaved : (documentClass.program call).saves document = false :=
      Bool.eq_false_iff.mpr fun saves => changes (documentClass.changes_of_saves saves)
    exact .inl ⟨changes, congrArg some (Program.evaluate_of_unsaved unsaved)⟩

theorem makes_of_error (call : documentClass.Call) (fault : RepositoryFault)
    (stored : Option documentClass.Document) :
    documentClass.Makes call (.result (.error fault)) stored stored :=
  .inl ⟨not_changes_of_error, rfl⟩

end DocumentClass

/-! ## §2. The stores. -/

/-- The document that a file holds, whatever the schema says. -/
def Behaviour.stored? {D : Type} (codec : Codec D) (file : Path) (tree : FileTree) : Option D := do
  let bytes ← (tree.read file).toOption
  let value ← (Json.ofBytes bytes).toOption
  (codec.decode value).toOption

/-- A document that loads is the one that the data file holds. -/
theorem Behaviour.stored?_of_load {D : Type} {codec : Codec D} {validator : Validator}
    {location : Location} {file : Path} {tree : FileTree} {document : D}
    (leads : ∀ place, tree.locate location.data = .ok place → tree.locate file = .ok place)
    (loads : Store.loadDocument codec location tree.read validator = .ok document) :
    stored? codec file tree = some document := by
  obtain ⟨verdict, value, -, ⟨bytes, found, read⟩, -, decoded⟩ := Store.exists_value_of_load loads
  obtain ⟨place, located, node⟩ := FileTree.read_eq_ok_iff.mp found
  unfold stored?
  rw [FileTree.read_eq_ok_iff.mpr ⟨place, leads place located, node⟩]
  show ((Json.ofBytes bytes).toOption >>= _) = some document
  rw [read]
  show (codec.decode value).toOption = some document
  rw [decoded]
  rfl

/-- The file is all that it depends on. -/
theorem Behaviour.stored?_congr {D : Type} (codec : Codec D) {file : Path} {tree after : FileTree}
    (same : after.read file = tree.read file) :
    stored? codec file after = stored? codec file tree := by
  unfold stored?
  rw [same]

/-- A file with the text of a document holds the document. -/
theorem Behaviour.stored?_documentText {D : Type} {codec : Codec D} {file : Path}
    {tree : FileTree} {document : D} (faithful : codec.Faithful Json.nestingLimit)
    (holds : tree.read file = .ok (Store.documentText codec document).toUTF8) :
    stored? codec file tree = some document := by
  unfold stored?
  rw [holds]
  show ((Json.ofBytes (Store.documentText codec document).toUTF8).toOption >>= _) = some document
  rw [Store.ofBytes_documentText faithful]
  show (codec.decode (codec.encode document).canonical).toOption = some document
  rw [faithful.back]
  rfl

namespace DocumentClass

variable {σ V : Type} (documentClass : DocumentClass) {location : Location} {tree : FileTree}
  {file : Path} {locks : Locks} {repository : Repository σ documentClass.Document}

/-- Wherever a request of a call is served from what is kept, it makes of
the contents what its answer says, and keeps what is kept. -/
def Accountable (behaviour : Behaviour V documentClass.Document) (locks : Locks)
    (kept : V → Prop) (contents : V → Option documentClass.Document)
    (repository : Repository σ documentClass.Document) (call : documentClass.Call) : Prop :=
  ∀ seen, kept seen → ∃ result after,
    behaviour.serve locks (documentClass.request repository call) seen = (result, after)
      ∧ documentClass.Makes call (.result result) (contents seen) (contents after)
      ∧ kept after

/-- In memory every call is accounted for. -/
theorem accountable_memory (call : documentClass.Call) :
    documentClass.Accountable (.memory documentClass.Document) locks (fun _ => True) some
      repository call := by
  intro document kept
  unfold Behaviour.serve
  split
  · exact ⟨_, document, rfl, makes_of_error call _ _, kept⟩
  · rw [Behaviour.run_memory]
    exact ⟨_, _, rfl, makes_of_evaluate call document, kept⟩

variable {documentClass} {validator : Validator}

/-- Over files a program makes of the data file what its result says. -/
theorem exists_run_files (apart : location.Apart tree)
    (leads : ∀ place, tree.locate location.data = .ok place → tree.locate file = .ok place)
    (call : documentClass.Call) :
    ∃ result after,
      (Behaviour.files documentClass.codec validator).run location (documentClass.program call)
          tree = (result, after)
        ∧ documentClass.Makes call (.result result)
          (Behaviour.stored? documentClass.codec file tree)
          (Behaviour.stored? documentClass.codec file after)
        ∧ FileTree.SameDirectories tree after := by
  have ran := Store.run_files documentClass.codec validator location (documentClass.program call)
    tree
  cases loads : Store.loadDocument documentClass.codec location tree.read validator with
  | error fault =>
    obtain ⟨next, program, stops⟩ := documentClass.exists_load call
    have failed := Store.run_checked_of_load_error stops loads
    rw [← program, ran] at failed
    obtain ⟨answer, untouched⟩ := Prod.mk.inj failed
    exact ⟨_, tree, Prod.ext (Ending.result.inj answer) untouched, makes_of_error call _ _,
      .refl tree⟩
  | ok document =>
    obtain ⟨result, after, ranChecked, same, outcome⟩ :=
      Store.run_checked documentClass.codec_faithful (documentClass.transacts call) apart loads
    rw [ran] at ranChecked
    obtain ⟨answer, left⟩ := Prod.mk.inj ranChecked
    refine ⟨result, after, Prod.ext (Ending.result.inj answer) left, ?_, same⟩
    have leadsAfter : ∀ place, after.locate location.data = .ok place →
        after.locate file = .ok place := by
      intro place located
      exact same.locate (leads place ((FileTree.locate_eq_ok_iff same).mp located))
    rw [Behaviour.stored?_of_load leads loads]
    rcases outcome with ⟨rfl, loadsAfter, -⟩ | ⟨⟨fault, rfl⟩, loadsAfter, -⟩
    · rw [Behaviour.stored?_of_load leadsAfter loadsAfter]
      exact makes_of_evaluate call document
    · rw [Behaviour.stored?_of_load leadsAfter loadsAfter]
      exact makes_of_error call _ _

/-- Over files every call is accounted for: none makes or removes a
directory, so the paths lead where they led. -/
theorem accountable_files (apart : repository.location.Apart tree)
    (leads : ∀ place, tree.locate repository.location.data = .ok place →
      tree.locate file = .ok place) (call : documentClass.Call) :
    documentClass.Accountable (.files documentClass.codec validator) locks
      (FileTree.SameDirectories tree) (Behaviour.stored? documentClass.codec file) repository
      call := by
  intro seen same
  have leadsThere : ∀ place, seen.locate repository.location.data = .ok place →
      seen.locate file = .ok place := by
    intro place located
    exact same.locate (leads place ((FileTree.locate_eq_ok_iff same).mp located))
  unfold Behaviour.serve
  split
  · exact ⟨_, seen, rfl, makes_of_error call _ _, same⟩
  · obtain ⟨result, after, ran, makes, sameAfter⟩ :=
      exists_run_files (apart.of_sameDirectories same) leadsThere call
    exact ⟨result, after, ran, makes, same.trans sameAfter⟩

end DocumentClass

/-! ## §3. Identifiers. -/

namespace CollectionCall

variable {Entry Entity : Type} {collection : Collection Entry Entity} {document : List Entry}

/-- The identifier that a call creates. -/
def createdId? (identifier : Entity → String) : CollectionCall Entity → Option String
  | .create entity => some (identifier entity)
  | _ => none

/-- The identifier that a call deletes. -/
def deletedId? : CollectionCall Entity → Option String
  | .delete id => some id
  | _ => none

theorem find?_eq_none_iff {id : String} :
    collection.find? id document = none ↔ id ∉ document.map collection.entryId := by
  unfold Collection.find?
  simp [List.find?_eq_none]

theorem map_entryId_replace (lawful : collection.Lawful) (entity : Entity) (document : List Entry) :
    (collection.replace entity document).map collection.entryId
      = document.map collection.entryId := by
  induction document with
  | nil => rfl
  | cons entry rest ih =>
    unfold Collection.replace
    by_cases here : collection.entryId entry = collection.entityId entity
    · rw [if_pos here, lawful.revise_eq_toEntry here, List.map_cons, List.map_cons,
        lawful.entryId_toEntry, here]
    · rw [if_neg here, List.map_cons, List.map_cons, ih]

/-- A creation conflicts, or its identifier is new and is there after it. -/
theorem evaluate_of_createdId? (lawful : collection.Lawful) {call : CollectionCall Entity}
    {id : String} (creates : call.createdId? collection.entityId = some id)
    (document : List Entry) :
    ((call.program collection).evaluate document).1 = .ok (.outcome .conflict)
      ∨ (id ∉ document.map collection.entryId
        ∧ id ∈ ((call.program collection).evaluate document).2.map collection.entryId) := by
  cases call with
  | create entity =>
    obtain rfl : collection.entityId entity = id := Option.some.inj creates
    rw [program, Program.evaluate_map, lawful.evaluate_create]
    cases found : collection.find? (collection.entityId entity) document with
    | some entry => exact .inl rfl
    | none =>
      refine .inr ⟨find?_eq_none_iff.mp found, ?_⟩
      show collection.entityId entity
        ∈ (document ++ [collection.toEntry entity]).map collection.entryId
      rw [List.map_append, List.mem_append, ← lawful.entryId_toEntry entity]
      exact .inr List.mem_cons_self
  | _ => cases creates

/-- An identifier is there after every call but its own deletion. -/
theorem mem_evaluate (lawful : collection.Lawful) {call : CollectionCall Entity} {id : String}
    (kept : call.deletedId? ≠ some id) (member : id ∈ document.map collection.entryId) :
    id ∈ ((call.program collection).evaluate document).2.map collection.entryId := by
  cases call with
  | findAll => exact member
  | findById other => exact member
  | create entity =>
    rw [program, Program.evaluate_map, lawful.evaluate_create]
    cases collection.find? (collection.entityId entity) document with
    | some entry => exact member
    | none =>
      show id ∈ (document ++ [collection.toEntry entity]).map collection.entryId
      rw [List.map_append, List.mem_append]
      exact .inl member
  | update entity =>
    rw [program, Program.evaluate_map, lawful.evaluate_update]
    cases collection.find? (collection.entityId entity) document with
    | none => exact member
    | some entry =>
      show id ∈ (collection.replace entity document).map collection.entryId
      rw [map_entryId_replace lawful]
      exact member
  | delete other =>
    -- only the first record of the other identifier goes
    have differs : id ≠ other := fun same => kept (congrArg some same.symm)
    rw [program, Program.evaluate_map, Collection.evaluate_delete]
    cases collection.find? other document with
    | none => exact member
    | some found =>
      simp only
      cases collection.toEntity found with
      | error fault => exact member
      | ok entity =>
        show id ∈ (collection.remove other document).map collection.entryId
        obtain ⟨entry, old, rfl⟩ := List.mem_map.mp member
        refine List.mem_map_of_mem ((List.mem_eraseP_of_neg ?_).mpr old)
        simpa using differs

end CollectionCall

namespace DocumentClass

/-- The identifiers of a document in order. -/
def ids : (documentClass : DocumentClass) → documentClass.Document → List String
  | .strategies => List.map StrategyRecord.id
  | .markets => List.map MarketRecord.id
  | .exchange => fun _ => []

/-- The identifier that a call creates. -/
def createdId? : (documentClass : DocumentClass) → documentClass.Call → Option String
  | .strategies => CollectionCall.createdId? Strategy.id
  | .markets => CollectionCall.createdId? Market.id
  | .exchange => fun _ => none

/-- The identifier that a call deletes. -/
def deletedId? : (documentClass : DocumentClass) → documentClass.Call → Option String
  | .strategies | .markets => CollectionCall.deletedId?
  | .exchange => fun _ => none

variable {documentClass : DocumentClass} {call : documentClass.Call} {id : String}
  {document : documentClass.Document}

/-- A successful creation finds its identifier new and leaves it there. -/
theorem ids_of_createdId? (creates : documentClass.createdId? call = some id)
    (changes : documentClass.Changes call
      (.result ((documentClass.program call).evaluate document).1)) :
    id ∉ documentClass.ids document
      ∧ id ∈ documentClass.ids ((documentClass.program call).evaluate document).2 := by
  obtain ⟨-, answer, answered, tells⟩ := changes
  have answered := Ending.result.inj answered
  cases documentClass with
  | strategies =>
    rcases CollectionCall.evaluate_of_createdId? Collection.strategies_lawful creates document with
      conflict | new
    · cases Except.ok.inj (answered.symm.trans conflict)
      cases tells
    · exact new
  | markets =>
    rcases CollectionCall.evaluate_of_createdId? Collection.markets_lawful creates document with
      conflict | new
    · cases Except.ok.inj (answered.symm.trans conflict)
      cases tells
    · exact new
  | exchange => cases creates

theorem mem_ids_evaluate (kept : documentClass.deletedId? call ≠ some id)
    (member : id ∈ documentClass.ids document) :
    id ∈ documentClass.ids ((documentClass.program call).evaluate document).2 := by
  cases documentClass with
  | strategies => exact CollectionCall.mem_evaluate Collection.strategies_lawful kept member
  | markets => exact CollectionCall.mem_evaluate Collection.markets_lawful kept member
  | exchange => cases member

/-- An identifier stays in the stored document until it is deleted. -/
theorem Accounts.mem_ids
    {log : List (documentClass.Call × Ending (Except RepositoryFault documentClass.Answer))}
    {last : Option documentClass.Document}
    (accounts : documentClass.Accounts log (some document) last)
    (member : id ∈ documentClass.ids document)
    (kept : ∀ entry ∈ log, documentClass.Changes entry.1 entry.2 →
      documentClass.deletedId? entry.1 ≠ some id) :
    ∃ document, last = some document ∧ id ∈ documentClass.ids document := by
  induction log generalizing document with
  | nil => exact ⟨document, accounts, member⟩
  | cons entry rest ih =>
    obtain ⟨middle, makes, accountsRest⟩ := accounts
    have keptRest : ∀ entry ∈ rest, documentClass.Changes entry.1 entry.2 →
        documentClass.deletedId? entry.1 ≠ some id :=
      fun other later => kept other (List.mem_cons_of_mem entry later)
    rcases makes with ⟨-, rfl⟩ | ⟨changes, old, same, -, rfl⟩
    · exact ih accountsRest member keptRest
    · obtain rfl := Option.some.inj same
      exact ih accountsRest (mem_ids_evaluate (kept entry List.mem_cons_self changes) member)
        keptRest

/-- Between two successful creations of one identifier there is a successful
deletion of it. -/
theorem Accounts.exists_deletion {before between after :
      List (documentClass.Call × Ending (Except RepositoryFault documentClass.Answer))}
    {first second : documentClass.Call × Ending (Except RepositoryFault documentClass.Answer)}
    {start last : Option documentClass.Document}
    (accounts : documentClass.Accounts (before ++ first :: between ++ second :: after) start last)
    (firstChanges : documentClass.Changes first.1 first.2)
    (firstCreates : documentClass.createdId? first.1 = some id)
    (secondChanges : documentClass.Changes second.1 second.2)
    (secondCreates : documentClass.createdId? second.1 = some id) :
    ∃ entry ∈ between, documentClass.Changes entry.1 entry.2
      ∧ documentClass.deletedId? entry.1 = some id := by
  refine Classical.byContradiction fun none => ?_
  have kept : ∀ entry ∈ between, documentClass.Changes entry.1 entry.2 →
      documentClass.deletedId? entry.1 ≠ some id :=
    fun entry member changes deletes => none ⟨entry, member, changes, deletes⟩
  obtain ⟨middle, accountsFirst, accountsSecond⟩ := accounts_append.mp accounts
  obtain ⟨opening, -, created, makesFirst, accountsBetween⟩ := accounts_append.mp accountsFirst
  obtain ⟨closing, makesSecond, -⟩ := accountsSecond
  -- the identifier is there from the first creation to the second, which finds it new
  rcases makesFirst with ⟨unchanged, -⟩ | ⟨-, document, -, answered, rfl⟩
  · exact unchanged firstChanges
  · rw [answered] at firstChanges
    obtain ⟨-, member⟩ := ids_of_createdId? firstCreates firstChanges
    obtain ⟨found, rfl, there⟩ := accountsBetween.mem_ids member kept
    rcases makesSecond with ⟨unchanged, -⟩ | ⟨-, old, same, answeredSecond, -⟩
    · exact unchanged secondChanges
    · obtain rfl := Option.some.inj same
      rw [answeredSecond] at secondChanges
      exact (ids_of_createdId? secondCreates secondChanges).1 there

end DocumentClass

end TradingConfig
