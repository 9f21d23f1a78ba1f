/-
  TradingConfig.Proofs.Repository.Credentials
  ────────────────────────────────
  **CREDENTIALS ARE KEPT AND NEVER SHOW.**

  Calls to the repository of the exchange leave the stored credentials as
  they are, and a look-up after a successful save gives what was saved last.
  Two runs of the same calls, from documents that differ in the credentials
  only, end alike call by call and leave documents that differ in them only
  (`credentials_kept_and_hidden`).
-/
import TradingConfig.Proofs.File.Alike
import TradingConfig.Proofs.Repository.ExchangeFiles
import TradingConfig.Proofs.Repository.Lockstep

namespace TradingConfig

open FileTree Shipped

/-! ## §1. Records and histories. -/

namespace ExchangeRecord

/-- Two records that differ in nothing but the credentials. -/
def Alike (first second : ExchangeRecord) : Prop :=
  second = { first with credentials := second.credentials }

variable {first second : ExchangeRecord}

/-- What callers see does not depend on the credentials. -/
theorem Alike.toExchange (alike : first.Alike second) : second.toExchange = first.toExchange := by
  rw [show second = _ from alike]
  rfl

theorem Alike.seen (alike : first.Alike second) :
    Program.seen ExchangeRecord.toExchange (.ok second)
      = Program.seen ExchangeRecord.toExchange (.ok first) := by
  show (second.toExchange).mapError RepositoryFault.malformed = _
  rw [alike.toExchange]
  rfl

theorem alike_toRecord (exchange : Exchange) (credentials others : Option SettingsBlock) :
    (exchange.toRecord credentials).Alike (exchange.toRecord others) :=
  rfl

theorem seen_toRecord (exchange : Exchange) (credentials : Option SettingsBlock) :
    Program.seen ExchangeRecord.toExchange (.ok (exchange.toRecord credentials))
      = .ok exchange := by
  show ((exchange.toRecord credentials).toExchange).mapError RepositoryFault.malformed = _
  rw [Exchange.toExchange_toRecord]
  rfl

end ExchangeRecord

namespace ExchangeCall

/-- The exchange that a call saved with success. -/
def saved? : ExchangeCall → Ending (Except RepositoryFault Exchange) → Option Exchange
  | .save exchange, .result (.ok _) => some exchange
  | _, _ => none

/-- The exchange that was saved last, once a call has ended. -/
def note (call : ExchangeCall) (ending : Ending (Except RepositoryFault Exchange))
    (last : Option Exchange) : Option Exchange :=
  (call.saved? ending).or last

/-- The exchange that was saved with success last. -/
def lastSaved? (history : List (ExchangeCall × Ending (Except RepositoryFault Exchange))) :
    Option Exchange :=
  history.foldl (fun last entry => note entry.1 entry.2 last) none

theorem note_of_error (call : ExchangeCall) (fault : RepositoryFault) (last : Option Exchange) :
    call.note (.result (.error fault)) last = last := by
  cases call <;> rfl

theorem note_save (exchange answer : Exchange) (last : Option Exchange) :
    (save exchange).note (.result (.ok answer)) last = some exchange :=
  rfl

end ExchangeCall

/-! ## §2. Two documents in memory. -/

namespace ExchangeRecord

/-- Two documents with the given credentials that differ in nothing else, and
show what was saved last. -/
structure Twins (credentials others : Option SettingsBlock) (last : Option Exchange)
    (first second : ExchangeRecord) : Prop where
  /-- Nothing else differs. -/
  alike : first.Alike second
  /-- The credentials of the first. -/
  kept : first.credentials = credentials
  /-- The credentials of the second. -/
  keptSecond : second.credentials = others
  /-- Callers see what was saved last. -/
  shows : ∀ exchange ∈ last, Program.seen ExchangeRecord.toExchange (.ok first) = .ok exchange

variable {credentials others : Option SettingsBlock} {last : Option Exchange}
  {first second : ExchangeRecord}

/-- Two records before any call. -/
theorem Alike.twins (alike : first.Alike second) :
    Twins first.credentials second.credentials none first second where
  alike := alike
  kept := rfl
  keptSecond := rfl
  shows _ member := by cases member

/-- The records of an exchange that was just saved. -/
theorem twins_toRecord (exchange : Exchange) (credentials others : Option SettingsBlock) :
    Twins credentials others (some exchange) (exchange.toRecord credentials)
      (exchange.toRecord others) where
  alike := alike_toRecord exchange credentials others
  kept := rfl
  keptSecond := rfl
  shows saved member := by
    obtain rfl := Option.some.inj member
    exact seen_toRecord exchange credentials

/-- In memory every call keeps them so, and ends alike for both. -/
theorem lockstep_memory (location : Location) (credentials others : Option SettingsBlock) :
    DocumentClass.exchange.Lockstep (Behaviour.memory ExchangeRecord) location ExchangeCall.note
      (Twins credentials others) := by
  intro call last first second twins
  cases call with
  | get =>
    refine ⟨Program.seen ExchangeRecord.toExchange (.ok first), first, second, rfl, ?_, twins⟩
    show (Program.seen ExchangeRecord.toExchange (.ok second), second)
      = (Program.seen ExchangeRecord.toExchange (.ok first), second)
    rw [twins.alike.seen]
  | save exchange =>
    have ran (document : ExchangeRecord) :
        (Behaviour.memory ExchangeRecord).run location exchange.save document
          = (.ok exchange, exchange.toRecord document.credentials) := by
      rw [Behaviour.run_memory, Exchange.evaluate_save]
    refine ⟨.ok exchange, _, _, ran first, ran second, ?_⟩
    rw [twins.kept, twins.keptSecond]
    exact twins_toRecord exchange credentials others

end ExchangeRecord

/-! ## §3. Two trees of files. -/

namespace FileTree

/-- Two trees that differ in the data file of the exchange only, which holds
records that differ in the credentials only. -/
structure Twins (location : Location) (place : Place) (credentials others : Option SettingsBlock)
    (last : Option Exchange) (first second : FileTree) : Prop where
  /-- The data file is at the place. -/
  leads : first.locate location.data = .ok place
  /-- The trees differ nowhere else. -/
  differ : DifferAt place first second
  /-- The records that they hold. -/
  records : ∃ record other, ExchangeRecord.Holds location record first
    ∧ ExchangeRecord.Holds location other second
    ∧ ExchangeRecord.Twins credentials others last record other
  /-- Once something was saved with success the schema is there to stay. -/
  lasting : last.isSome → first.read location.schema = .ok exchangeSchema.toUTF8
    ∧ location.Apart first

variable {location : Location} {place : Place} {credentials others : Option SettingsBlock}
  {last : Option Exchange} {first second : FileTree} {record other : ExchangeRecord}

/-- Two trees before any call. -/
theorem exists_twins (schema : first.read location.schema = .ok exchangeSchema.toUTF8)
    (loads : Store.loadDocument ExchangeRecord.documentCodec location first.read = .ok record)
    (loadsSecond : Store.loadDocument ExchangeRecord.documentCodec location second.read
      = .ok other)
    (alike : record.Alike other) (home : second.home = first.home)
    (same : ∀ at_, first.locate location.data ≠ .ok at_ → second.node? at_ = first.node? at_) :
    second.read location.schema = .ok exchangeSchema.toUTF8
      ∧ ∃ place, Twins location place record.credentials other.credentials none first second := by
  obtain ⟨-, bytes, data⟩ := Store.exists_read_of_load loads
  obtain ⟨-, bytesSecond, dataSecond⟩ := Store.exists_read_of_load loadsSecond
  obtain ⟨place, leads, node⟩ := read_eq_ok_iff.mp data
  have elsewhere (at_ : Place) (notPlace : at_ ≠ place) : second.node? at_ = first.node? at_ := by
    apply same
    rw [leads]
    exact fun isPlace => notPlace (Except.ok.inj isPlace).symm
  -- no directory of the first tree is the data file, so the path leads there in the second, too
  have leadsSecond : second.locate location.data = .ok place := by
    refine locate_of_directories home (fun at_ directory => ?_) leads
    have notPlace : at_ ≠ place := by
      rintro rfl
      cases node.symm.trans directory
    rw [elsewhere at_ notPlace, directory]
  obtain ⟨placeSecond, located, nodeSecond⟩ := read_eq_ok_iff.mp dataSecond
  obtain rfl : place = placeSecond := Except.ok.inj (leadsSecond.symm.trans located)
  have differ : DifferAt place first second :=
    ⟨home, ⟨⟨bytes, node⟩, bytesSecond, nodeSecond⟩, elsewhere⟩
  have holds := ExchangeRecord.holds_of_load schema loads
  have schemaSecond : second.read location.schema = .ok exchangeSchema.toUTF8 := by
    rw [differ.read fun atSchema => holds.apart place atSchema leads]
    exact schema
  have holdsSecond := ExchangeRecord.holds_of_load schemaSecond loadsSecond
  exact ⟨schemaSecond, place, leads, differ, ⟨record, other, holds, holdsSecond, alike.twins⟩,
    fun saved => by cases saved⟩

/-- The schemas are read alike. -/
theorem read_schema_congr (differ : DifferAt place first second)
    (leads : first.locate location.data = .ok place)
    (holds : ExchangeRecord.Holds location record first) :
    second.read location.schema = first.read location.schema :=
  differ.read fun atSchema => holds.apart place atSchema leads

/-- A look-up ends alike in both trees. -/
theorem seen_congr (differ : DifferAt place first second)
    (leads : first.locate location.data = .ok place)
    (holds : ExchangeRecord.Holds location record first)
    (holdsSecond : ExchangeRecord.Holds location other second) (alike : record.Alike other) :
    Program.seen ExchangeRecord.toExchange
        (Store.loadDocument ExchangeRecord.documentCodec location second.read)
      = Program.seen ExchangeRecord.toExchange
        (Store.loadDocument ExchangeRecord.documentCodec location first.read) := by
  have sameSchema := read_schema_congr differ leads holds
  rcases holds.schema with schema | ⟨fault, lost⟩
  · rw [holds.loads schema, holdsSecond.loads (sameSchema.trans schema)]
    exact alike.seen
  · rw [ExchangeRecord.load_of_lost lost, ExchangeRecord.load_of_lost (sameSchema.trans lost)]

/-- A save ends alike in both trees, which differ in the data file afterwards
as before. -/
theorem save_congr (differ : DifferAt place first second)
    (leads : first.locate location.data = .ok place)
    (holds : ExchangeRecord.Holds location record first)
    (schema : first.read location.schema = .ok exchangeSchema.toUTF8)
    (named : SettingsBlock.Named credentials) (namedOthers : SettingsBlock.Named others)
    (exchange : Exchange) :
    (Store.saveDocument ExchangeRecord.documentCodec (exchange.toRecord others) location second).1
        = (Store.saveDocument ExchangeRecord.documentCodec (exchange.toRecord credentials) location
          first).1
      ∧ DifferAt place
        (Store.saveDocument ExchangeRecord.documentCodec (exchange.toRecord credentials) location
          first).2
        (Store.saveDocument ExchangeRecord.documentCodec (exchange.toRecord others) location
          second).2 := by
  have sameCheck : Store.checkDocument ExchangeRecord.documentCodec (exchange.toRecord others)
        location second.read
      = Store.checkDocument ExchangeRecord.documentCodec (exchange.toRecord credentials) location
        first.read := by
    rw [Store.checkDocument_congr (read_schema_congr differ leads holds)]
    exact checkDocument_of_named exchange named namedOthers schema
  unfold Store.saveDocument
  rw [sameCheck]
  cases Store.checkDocument ExchangeRecord.documentCodec (exchange.toRecord credentials) location
      first.read with
  | error fault => exact ⟨rfl, differ⟩
  | ok _ => exact Store.replaceFile_congr differ leads _ _

/-- Two saves that fail leave the trees as they are, but for the scratch
file. -/
theorem Twins.of_failed {document documentOther : ExchangeRecord} {fault faultSecond : StoreFault}
    {firstAfter secondAfter : FileTree}
    (twins : Twins location place credentials others last first second)
    (failed : Store.saveDocument ExchangeRecord.documentCodec document location first
      = (.error fault, firstAfter))
    (failedSecond : Store.saveDocument ExchangeRecord.documentCodec documentOther location second
      = (.error faultSecond, secondAfter))
    (differ : DifferAt place firstAfter secondAfter) :
    Twins location place credentials others last firstAfter secondAfter where
  leads := (Store.sameDirectories_of_save failed).locate twins.leads
  differ := differ
  records := by
    obtain ⟨record, other, holds, holdsSecond, records⟩ := twins.records
    exact ⟨record, other, holds.of_failed failed, holdsSecond.of_failed failedSecond, records⟩
  lasting saved := by
    obtain ⟨schema, apart⟩ := twins.lasting saved
    exact ⟨ExchangeRecord.read_schema_of_apart failed apart schema,
      apart.of_sameDirectories (Store.sameDirectories_of_save failed)⟩

/-- Two saves that succeed leave the saved records.  If the look-up after it
fails the schema is gone, and nothing was saved with success before. -/
theorem Twins.of_saved {firstAfter secondAfter : FileTree}
    (twins : Twins location place credentials others last first second) (exchange : Exchange)
    (saved : Store.saveDocument ExchangeRecord.documentCodec (exchange.toRecord credentials)
      location first = (.ok (), firstAfter))
    (savedSecond : Store.saveDocument ExchangeRecord.documentCodec (exchange.toRecord others)
      location second = (.ok (), secondAfter))
    (differ : DifferAt place firstAfter secondAfter) :
    Twins location place credentials others
      ((ExchangeCall.save exchange).note (.result (Program.seen ExchangeRecord.toExchange
        (Store.loadDocument ExchangeRecord.documentCodec location firstAfter.read))) last)
      firstAfter secondAfter := by
  obtain ⟨record, other, holds, holdsSecond, -⟩ := twins.records
  have leads := (Store.sameDirectories_of_save saved).locate twins.leads
  have holdsAfter := holds.of_saved saved
  have records := ExchangeRecord.twins_toRecord exchange credentials others
  rcases holdsAfter.schema with schema | ⟨fault, lost⟩
  · rw [holdsAfter.loads schema, ExchangeRecord.seen_toRecord, ExchangeCall.note_save]
    refine ⟨leads, differ, ⟨_, _, holdsAfter, holdsSecond.of_saved savedSecond, records⟩, ?_⟩
    intro _
    exact ⟨schema, ExchangeRecord.apart_of_saved holds saved schema⟩
  · have fails : Program.seen ExchangeRecord.toExchange
        (Store.loadDocument ExchangeRecord.documentCodec location firstAfter.read)
          = .error (.store (.file location.schema fault)) := by
      rw [ExchangeRecord.load_of_lost lost]
      rfl
    rw [fails, ExchangeCall.note_of_error]
    have unsaved : last = none := by
      rw [← Option.not_isSome_iff_eq_none]
      intro before
      obtain ⟨schema, apart⟩ := twins.lasting before
      cases lost.symm.trans (ExchangeRecord.read_schema_of_apart saved apart schema)
    subst unsaved
    refine ⟨leads, differ, ⟨_, _, holdsAfter, holdsSecond.of_saved savedSecond, ?_⟩, ?_⟩
    · exact ⟨records.alike, records.kept, records.keptSecond, fun _ member => by cases member⟩
    · intro before
      cases before

/-- Over files every call keeps them so, and ends alike for both. -/
theorem lockstep_files (location : Location) (place : Place)
    (named : SettingsBlock.Named credentials) (namedOthers : SettingsBlock.Named others) :
    DocumentClass.exchange.Lockstep (Behaviour.files DocumentClass.exchange.codec) location
      ExchangeCall.note (Twins location place credentials others) := by
  intro call last first second twins
  obtain ⟨record, other, holds, holdsSecond, records⟩ := twins.records
  cases call with
  | get =>
    refine ⟨Program.seen ExchangeRecord.toExchange
      (Store.loadDocument ExchangeRecord.documentCodec location first.read), first, second, rfl,
      ?_, twins⟩
    have seen := seen_congr twins.differ twins.leads holds holdsSecond records.alike
    exact (ExchangeRecord.run_get location second).trans (Prod.ext seen rfl)
  | save exchange =>
    have sameSchema := read_schema_congr twins.differ twins.leads holds
    rcases holds.schema with schema | ⟨fault, lost⟩
    · have ran := ExchangeRecord.run_save (holds.loads schema) exchange
      have ranSecond := ExchangeRecord.run_save (holdsSecond.loads (sameSchema.trans schema))
        exchange
      rw [records.kept] at ran
      rw [records.keptSecond] at ranSecond
      have congr := save_congr twins.differ twins.leads holds schema named namedOthers exchange
      cases ended : Store.saveDocument ExchangeRecord.documentCodec (exchange.toRecord credentials)
          location first with
      | mk answer firstAfter =>
        cases endedSecond : Store.saveDocument ExchangeRecord.documentCodec
            (exchange.toRecord others) location second with
        | mk answerSecond secondAfter =>
          rw [ended, endedSecond] at congr
          obtain ⟨sameAnswer, differ⟩ := congr
          obtain rfl : answerSecond = answer := sameAnswer
          rw [ended] at ran
          rw [endedSecond] at ranSecond
          cases answerSecond with
          | error fault =>
            exact ⟨_, firstAfter, secondAfter, ran, ranSecond,
              twins.of_failed ended endedSecond differ⟩
          | ok _ =>
            have twinsAfter := twins.of_saved exchange ended endedSecond differ
            obtain ⟨_, _, holdsAfter, holdsSecondAfter, recordsAfter⟩ := twinsAfter.records
            have seen := seen_congr differ twinsAfter.leads holdsAfter holdsSecondAfter
              recordsAfter.alike
            exact ⟨_, firstAfter, secondAfter, ran, ranSecond.trans (Prod.ext seen rfl), twinsAfter⟩
    · have ran := ExchangeRecord.run_save_of_lost lost exchange
      have ranSecond := ExchangeRecord.run_save_of_lost (sameSchema.trans lost) exchange
      exact ⟨_, first, second, ran, ranSecond, twins⟩

end FileTree

/-! ## §4. Sessions. -/

namespace DocumentClass

/-- Calls to a repository of the exchange, one after the other. -/
def exchangeSession {σ : Type} (repository : Repository σ exchange.Document) (locks : Locks)
    (calls : List exchange.Call) (state : σ) :
    List (Ending (Except RepositoryFault exchange.Answer)) × Locks × σ :=
  Request.serveEach (calls.map (exchange.request repository)) locks state

/-- After the calls the credentials are as they were, whatever the calls
ended with, and a look-up gives what was saved with success last. -/
structure KeepsCredentials {σ : Type} (repository : Repository σ exchange.Document)
    (stored? : σ → Option ExchangeRecord) (locks : Locks) (calls : List exchange.Call) (state : σ) :
    Prop where
  /-- The stored credentials are those from before. -/
  kept : ∃ before after, stored? state = some before
    ∧ stored? (exchangeSession repository locks calls state).2.2 = some after
    ∧ after.credentials = before.credentials
  /-- What was saved with success last is looked up. -/
  shows : ∀ saved,
    ExchangeCall.lastSaved? (calls.zip (exchangeSession repository locks calls state).1)
      = some saved →
    ((exchange.request repository .get).serve (exchangeSession repository locks calls state).2.1
      (exchangeSession repository locks calls state).2.2).1 = .result (.ok saved)

/-- The calls end alike from two states, and leave documents that differ in
the credentials only. -/
structure HidesCredentials {σ : Type} (repository : Repository σ exchange.Document)
    (stored? : σ → Option ExchangeRecord) (locks : Locks) (calls : List exchange.Call)
    (first second : σ) : Prop where
  /-- Each call ends alike. -/
  endings : (exchangeSession repository locks calls second).1
    = (exchangeSession repository locks calls first).1
  /-- The stored documents differ in the credentials only. -/
  stored : ∃ record other,
    stored? (exchangeSession repository locks calls first).2.2 = some record
      ∧ stored? (exchangeSession repository locks calls second).2.2 = some other
      ∧ record.Alike other

section Sessions

variable {σ V : Type} {store : Store σ exchange.Document} {view : σ → V}
  {behaviour : Behaviour V exchange.Document} {location : Location} {key : Path.Key}
  {Related : Option Exchange → V → V → Prop} {stored? : V → Option ExchangeRecord}
  (lockstep : exchange.Lockstep behaviour location ExchangeCall.note Related)
  (behaves : store.BehavesAs view behaviour)

include lockstep behaves

/-- Where a relation keeps the credentials and what was saved last. -/
theorem keepsCredentials_of_lockstep {record : ExchangeRecord} {state : σ}
    (holds : stored? (view state) = some record) (related : Related none (view state) (view state))
    (kept : ∀ last first second, Related last first second →
      ∃ after, stored? first = some after ∧ after.credentials = record.credentials)
    (shows : ∀ saved first second, Related (some saved) first second →
      (behaviour.run location Exchange.get first).1 = .ok saved) (locks : Locks)
    (calls : List exchange.Call) :
    KeepsCredentials ⟨store, location, key⟩ (fun state => stored? (view state)) locks calls
      state := by
  obtain ⟨endings, after, second, ran, -, relatedAfter⟩ := lockstep.serveEach
    (fun call last => ExchangeCall.note_of_error call .poisoned last) behaves locks calls related
  constructor
  · obtain ⟨recordAfter, holdsAfter, same⟩ := kept _ _ _ relatedAfter
    unfold exchangeSession
    rw [ran]
    exact ⟨record, recordAfter, holds, holdsAfter, same⟩
  · intro saved last
    unfold exchangeSession at last ⊢
    rw [ran] at last ⊢
    obtain ⟨afterGet, looked, -⟩ := behaves.run location Exchange.get after
    have served : (exchange.request ⟨store, location, key⟩ .get).serve locks after
        = (.result (behaviour.run location Exchange.get (view after)).1, locks, afterGet) :=
      Request.serve_of_run (fun writes => Bool.noConfusion writes) looked
    have relatedSaved : Related (some saved) (view after) (view second) := by
      rw [← last]
      exact relatedAfter
    show ((exchange.request ⟨store, location, key⟩ .get).serve locks after).1 = _
    rw [served]
    exact congrArg Ending.result (shows saved _ _ relatedSaved)

/-- Where a relation lets the documents differ in the credentials only. -/
theorem hidesCredentials_of_lockstep {first second : σ}
    (related : Related none (view first) (view second))
    (alike : ∀ last first second, Related last first second →
      ∃ record other, stored? first = some record ∧ stored? second = some other
        ∧ record.Alike other) (locks : Locks) (calls : List exchange.Call) :
    HidesCredentials ⟨store, location, key⟩ (fun state => stored? (view state)) locks calls first
      second := by
  obtain ⟨endings, firstAfter, secondAfter, ran, ranSecond, relatedAfter⟩ := lockstep.serveEach
    (fun call last => ExchangeCall.note_of_error call .poisoned last) behaves locks calls related
  constructor
  · unfold exchangeSession
    rw [ran, ranSecond]
  · unfold exchangeSession
    rw [ran, ranSecond]
    exact alike _ _ _ relatedAfter

end Sessions

/-- Over both stores, and with the shipped schema over files: calls keep the
stored credentials, whether they succeed or fail, and what was saved last
with success is looked up; and from two documents that differ in the
credentials only the same calls end alike and leave documents that differ in
the credentials only. -/
theorem credentials_kept_and_hidden (location : Location) (key : Path.Key) (locks : Locks)
    (calls : List exchange.Call) :
    (∀ held : Memory ExchangeRecord,
        KeepsCredentials (exchange.inMemory location key) (fun held => some held.document) locks
          calls held)
      ∧ (∀ first second : Memory ExchangeRecord, first.document.Alike second.document →
        HidesCredentials (exchange.inMemory location key) (fun held => some held.document) locks
          calls first second)
      ∧ (∀ (tree : FileTree) (record : ExchangeRecord),
        tree.read location.schema = .ok exchangeSchema.toUTF8 →
        Store.loadDocument exchange.codec location tree.read = .ok record →
        KeepsCredentials (exchange.onFiles location key)
          (Behaviour.stored? exchange.codec location.data) locks calls tree)
      ∧ ∀ (first second : FileTree) (record other : ExchangeRecord),
        first.read location.schema = .ok exchangeSchema.toUTF8 →
        Store.loadDocument exchange.codec location first.read = .ok record →
        Store.loadDocument exchange.codec location second.read = .ok other →
        record.Alike other → second.home = first.home →
        (∀ place, first.locate location.data ≠ .ok place →
          second.node? place = first.node? place) →
        HidesCredentials (exchange.onFiles location key)
          (Behaviour.stored? exchange.codec location.data) locks calls first second := by
  refine ⟨fun held => ?_, fun first second alike => ?_, fun tree record schema loads => ?_, ?_⟩
  · have alike : held.document.Alike held.document := rfl
    refine keepsCredentials_of_lockstep
      (ExchangeRecord.lockstep_memory location held.document.credentials held.document.credentials)
      (Store.memory_behavesAs ExchangeRecord) rfl alike.twins ?_ ?_ locks calls
    · intro last first second twins
      exact ⟨first, rfl, twins.kept⟩
    · intro saved first second twins
      exact twins.shows saved rfl
  · refine hidesCredentials_of_lockstep
      (ExchangeRecord.lockstep_memory location first.document.credentials
        second.document.credentials)
      (Store.memory_behavesAs ExchangeRecord) alike.twins ?_ locks calls
    intro last first second twins
    exact ⟨first, second, rfl, rfl, twins.alike⟩
  · have alike : record.Alike record := rfl
    obtain ⟨-, place, twins⟩ := FileTree.exists_twins schema loads loads alike rfl fun _ _ => rfl
    have holds := ExchangeRecord.holds_of_load schema loads
    have named := named_of_load schema loads
    refine keepsCredentials_of_lockstep
      (FileTree.lockstep_files location place named named)
      (Store.checked_behavesAs exchange.codec .keywords) holds.stored twins ?_ ?_ locks calls
    · intro last first second twins
      obtain ⟨after, other, holds, -, records⟩ := twins.records
      exact ⟨after, holds.stored, records.kept⟩
    · intro saved first second twins
      obtain ⟨after, other, holds, -, records⟩ := twins.records
      obtain ⟨schema, -⟩ := twins.lasting rfl
      show Program.seen ExchangeRecord.toExchange
        (Store.loadDocument ExchangeRecord.documentCodec location first.read) = .ok saved
      rw [holds.loads schema]
      exact records.shows saved rfl
  · intro first second record other schema loads loadsSecond alike home elsewhere
    obtain ⟨schemaSecond, place, twins⟩ :=
      FileTree.exists_twins schema loads loadsSecond alike home elsewhere
    have named := named_of_load schema loads
    have namedOther := named_of_load schemaSecond loadsSecond
    refine hidesCredentials_of_lockstep
      (FileTree.lockstep_files location place named namedOther)
      (Store.checked_behavesAs exchange.codec .keywords) twins ?_ locks calls
    intro last first second twins
    obtain ⟨after, otherAfter, holds, holdsSecond, records⟩ := twins.records
    exact ⟨after, otherAfter, holds.stored, holdsSecond.stored, records.alike⟩

/-! ## §5. An instance. -/

/-- An exchange that the shipped schema accepts. -/
def acceptedExchange : Exchange :=
  ⟨"Bitstamp", "BitstampExchangeAdapter", ⟨15, [502, 503], ["Connection reset"]⟩, .empty⟩

/-- Credentials that repeat a name. -/
def repeatedCredentials : Option SettingsBlock := some ⟨[⟨"key", "first"⟩, ⟨"key", "second"⟩]⟩

/-- The location of the files. -/
def exchangeLocation : Location := ⟨⟨"exchange.json"⟩, ⟨"exchange.schema.json"⟩⟩

/-- The shipped schema beside a data file. -/
def exchangeTree (data : ByteArray) : FileTree :=
  ⟨[], [(["exchange.schema.json"], .file exchangeSchema.toUTF8), (["exchange.json"], .file data)]⟩

/-- The tree with the exchange and its credentials. -/
def acceptedTree (credentials : Option SettingsBlock) : FileTree :=
  exchangeTree (Store.documentText ExchangeRecord.documentCodec
    (acceptedExchange.toRecord credentials)).toUTF8

theorem read_schema_exchangeTree (data : ByteArray) :
    (exchangeTree data).read exchangeLocation.schema = .ok exchangeSchema.toUTF8 :=
  rfl

theorem read_data_exchangeTree (data : ByteArray) :
    (exchangeTree data).read exchangeLocation.data = .ok data :=
  rfl

theorem node?_exchangeTree (data others : ByteArray) {place : Place}
    (elsewhere : (exchangeTree data).locate exchangeLocation.data ≠ .ok place) :
    (exchangeTree others).node? place = (exchangeTree data).node? place := by
  have leads : (exchangeTree data).locate exchangeLocation.data = .ok ["exchange.json"] := rfl
  have notData : ["exchange.json"] ≠ place := by
    rintro rfl
    exact elsewhere leads
  unfold exchangeTree node?
  simp only [find?, if_neg notData]

theorem read_schema_acceptedTree (credentials : Option SettingsBlock) :
    (acceptedTree credentials).read exchangeLocation.schema = .ok exchangeSchema.toUTF8 := by
  unfold acceptedTree
  exact read_schema_exchangeTree _

theorem load_acceptedTree {credentials : Option SettingsBlock}
    (named : SettingsBlock.Named credentials) :
    Store.loadDocument ExchangeRecord.documentCodec exchangeLocation
        (acceptedTree credentials).read
      = .ok (acceptedExchange.toRecord credentials) := by
  have data : (acceptedTree credentials).read exchangeLocation.data
      = .ok (Store.documentText ExchangeRecord.documentCodec
        (acceptedExchange.toRecord credentials)).toUTF8 := by
    unfold acceptedTree
    exact read_data_exchangeTree _
  have clean : exchangeBook.complaints
      (ExchangeRecord.documentCodec.encode (acceptedExchange.toRecord credentials)).canonical
        = [] := by
    rw [SchemaBook.complaints_eq_nil_iff, violations_of_named acceptedExchange named]
    cbv
  have usable := readSchema_exchangeSchema (read_schema_acceptedTree credentials)
  rw [Store.loadDocument_documentText ExchangeRecord.faithful data,
    Store.checkDocument_of_clean usable clean]
  rfl

/-- A save that succeeds, one that the schema refuses and a look-up, with
credentials that repeat a name and without any. -/
theorem credentials_kept_and_hidden_sample :
    (acceptedTree repeatedCredentials).read exchangeLocation.schema = .ok exchangeSchema.toUTF8
      ∧ Store.loadDocument exchange.codec exchangeLocation (acceptedTree repeatedCredentials).read
        = .ok (acceptedExchange.toRecord repeatedCredentials)
      ∧ KeepsCredentials (exchange.onFiles exchangeLocation .unnamed)
        (Behaviour.stored? exchange.codec exchangeLocation.data) Locks.fresh
        [.save { acceptedExchange with name := "Kraken" }, .save default, .get]
        (acceptedTree repeatedCredentials)
      ∧ HidesCredentials (exchange.onFiles exchangeLocation .unnamed)
        (Behaviour.stored? exchange.codec exchangeLocation.data) Locks.fresh
        [.save { acceptedExchange with name := "Kraken" }, .save default, .get]
        (acceptedTree repeatedCredentials) (acceptedTree none)
      ∧ HidesCredentials (exchange.inMemory exchangeLocation .unnamed)
        (fun held => some held.document) Locks.fresh
        [.save { acceptedExchange with name := "Kraken" }, .save default, .get]
        (Memory.holding (acceptedExchange.toRecord repeatedCredentials))
        (Memory.holding (acceptedExchange.toRecord none)) := by
  have schema := read_schema_acceptedTree repeatedCredentials
  have loads := load_acceptedTree (show SettingsBlock.Named repeatedCredentials by decide)
  have loadsNone := load_acceptedTree (show SettingsBlock.Named none by decide)
  have alike := ExchangeRecord.alike_toRecord acceptedExchange repeatedCredentials none
  obtain ⟨-, hidesMemory, keeps, hides⟩ := credentials_kept_and_hidden exchangeLocation .unnamed
    Locks.fresh [.save { acceptedExchange with name := "Kraken" }, .save default, .get]
  refine ⟨schema, loads, keeps _ _ schema loads, ?_, hidesMemory _ _ alike⟩
  have elsewhere (place : Place) (notData : (acceptedTree repeatedCredentials).locate
      exchangeLocation.data ≠ .ok place) :
      (acceptedTree none).node? place = (acceptedTree repeatedCredentials).node? place := by
    unfold acceptedTree at notData ⊢
    exact node?_exchangeTree _ _ notData
  have home (credentials : Option SettingsBlock) : (acceptedTree credentials).home = [] := rfl
  exact hides _ _ _ _ schema loads loadsNone alike ((home _).trans (home _).symm) elsewhere

end DocumentClass

end TradingConfig
