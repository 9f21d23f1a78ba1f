/-
  TradingConfig.Proofs.Repository.Neighbours
  ────────────────────────────────
  **A CHANGE LEAVES ITS NEIGHBOURS ALONE.**

  Nothing is asked of the document that a store gives: identifiers may be
  repeated and records may be malformed.  What is handed over for it differs
  by one record, at the end, or at the place of the first record with the
  identifier (`Collection.Amends`); so an identifier is counted as before,
  or once more or once less (`Collection.Tallies`).  This holds of every save
  over every store (`Collection.saved_spares_neighbours`).
-/
import TradingConfig.Proofs.Repository.Rewrite
import TradingConfig.Proofs.Repository.Transcript

namespace TradingConfig

/-! ## §1. What is handed over. -/

/-- Every document that is handed over while a call is served is the change
of the one that was loaded before. -/
theorem DocumentClass.exists_edited {σ : Type} (documentClass : DocumentClass)
    {repository : Repository σ documentClass.Document} {call : documentClass.Call} {locks : Locks}
    {state : σ} {saved : documentClass.Document} {reply : Reply Unit}
    (member : .saved saved reply
      ∈ (documentClass.request repository call).transcript locks state) :
    ∃ document rest,
      (documentClass.request repository call).transcript locks state
          = .loaded (.answer (.ok document)) :: .saved saved reply :: rest
        ∧ (documentClass.plan call).proceeds document
        ∧ saved = (documentClass.plan call).edit document
        ∧ ∀ event ∈ rest, event.isSave = false := by
  cases refused : documentClass.writes call && locks.isPoisoned repository.key with
  | true =>
    rw [Request.transcript_of_refused _ _ refused] at member
    cases member
  | false =>
    have talks := (documentClass.request repository call).talks_transcript state refused
    obtain ⟨document, rest, said, proceeds, edited, loads, -⟩ :=
      (documentClass.follows call _ _ talks).edited member
    exact ⟨document, rest, said, proceeds, edited, loads⟩

namespace Collection

variable {Entry Entity : Type} {collection : Collection Entry Entity}
  {call : CollectionCall Entity} {document saved : List Entry}

/-- The one record by which a call changes a document. -/
def Amends (collection : Collection Entry Entity) (document saved : List Entry) :
    CollectionCall Entity → Prop
  | .findAll | .findById _ => False
  | .create entity =>
    collection.entityId entity ∉ collection.ids document
      ∧ saved = document ++ [collection.toEntry entity]
  | .update entity => ∃ before old after, document = before ++ old :: after
      ∧ collection.entityId entity ∉ collection.ids before
      ∧ collection.entryId old = collection.entityId entity
      ∧ saved = before ++ collection.toEntry entity :: after
  | .delete id => ∃ before old after, document = before ++ old :: after
      ∧ id ∉ collection.ids before ∧ collection.entryId old = id ∧ saved = before ++ after

/-- How often each identifier occurs then. -/
def Tallies (collection : Collection Entry Entity) (document saved : List Entry) :
    CollectionCall Entity → Prop
  | .findAll | .findById _ => False
  | .create entity => ∀ id, (collection.ids saved).count id
      = if id = collection.entityId entity then 1 else (collection.ids document).count id
  | .update _ => collection.ids saved = collection.ids document
  | .delete id => ∀ other, (collection.ids document).count other
      = (collection.ids saved).count other + if other = id then 1 else 0

theorem ids_append (collection : Collection Entry Entity) (first second : List Entry) :
    collection.ids (first ++ second) = collection.ids first ++ collection.ids second :=
  List.map_append

theorem ids_cons (collection : Collection Entry Entity) (entry : Entry) (rest : List Entry) :
    collection.ids (entry :: rest) = collection.entryId entry :: collection.ids rest :=
  rfl

theorem not_mem_ids {id : String} {before : List Entry}
    (others : ∀ other ∈ before, collection.entryId other ≠ id) :
    id ∉ collection.ids before := by
  intro member
  obtain ⟨other, inside, named⟩ := List.mem_map.mp member
  exact others other inside named

/-- What is saved under the plan of a call is its amendment. -/
theorem Lawful.amends (lawful : collection.Lawful) {whole : Entry → Prop}
    (call : CollectionCall Entity) (proceeds : (call.plan collection whole).proceeds document) :
    collection.Amends document ((call.plan collection whole).edit document) call := by
  cases call with
  | findAll => exact proceeds
  | findById id => exact proceeds
  | create entity => exact ⟨proceeds, rfl⟩
  | update entity =>
    cases found : collection.find? (collection.entityId entity) document with
    | none => exact absurd proceeds (CollectionCall.find?_eq_none_iff.mp found)
    | some old =>
      obtain ⟨before, after, rfl, same, others⟩ := exists_parts_of_find? found
      exact ⟨before, old, after, rfl, not_mem_ids others, same,
        replace_append_cons lawful others same after⟩
  | delete id =>
    obtain ⟨old, found, -⟩ := proceeds
    obtain ⟨before, after, rfl, same, others⟩ := exists_parts_of_find? found
    exact ⟨before, old, after, rfl, not_mem_ids others, same, remove_append_cons others same after⟩

/-- An amendment changes the count of one identifier at most. -/
theorem Lawful.tallies (lawful : collection.Lawful)
    (amends : collection.Amends document saved call) : collection.Tallies document saved call := by
  cases call with
  | findAll => exact amends
  | findById id => exact amends
  | create entity =>
    obtain ⟨absent, rfl⟩ := amends
    intro id
    rw [ids_append, List.count_append, ids_cons, lawful.entryId_toEntry]
    split
    next same =>
      -- it was absent, so it occurs once
      subst same
      rw [List.count_eq_zero.mpr absent, List.count_cons_self]
      rfl
    next other =>
      rw [List.count_cons_of_ne (Ne.symm other)]
      rfl
  | update entity =>
    obtain ⟨before, old, after, rfl, -, same, rfl⟩ := amends
    -- the new record has the identifier of the old one
    show collection.ids _ = collection.ids _
    rw [ids_append, ids_append, ids_cons, ids_cons, lawful.entryId_toEntry, same]
  | delete id =>
    obtain ⟨before, old, after, rfl, -, same, rfl⟩ := amends
    intro other
    rw [ids_append, ids_append, ids_cons, List.count_append, List.count_append, same]
    split
    next here => rw [here, List.count_cons_self, Nat.add_assoc]
    next there => rw [List.count_cons_of_ne (Ne.symm there), Nat.add_zero]

/-- A save of a document, told from what is said: it comes right after a
load, it is the only one, and it spares the neighbours of the record that it
is about. -/
def Spares (collection : Collection Entry Entity) (call : CollectionCall Entity)
    (events : List (StoreEvent (List Entry))) (saved : List Entry) (reply : Reply Unit) : Prop :=
  ∃ document rest, events = .loaded (.answer (.ok document)) :: .saved saved reply :: rest
    ∧ (∀ event ∈ rest, event.isSave = false)
    ∧ collection.Amends document saved call ∧ collection.Tallies document saved call

/-- What is saved under the plan of a call spares the neighbours. -/
theorem Lawful.spares (lawful : collection.Lawful) {whole : Entry → Prop}
    {events rest : List (StoreEvent (List Entry))} {reply : Reply Unit}
    (said : events = .loaded (.answer (.ok document)) :: .saved saved reply :: rest)
    (proceeds : (call.plan collection whole).proceeds document)
    (edited : saved = (call.plan collection whole).edit document)
    (loads : ∀ event ∈ rest, event.isSave = false) :
    collection.Spares call events saved reply := by
  subst edited
  have amends := lawful.amends call proceeds
  exact ⟨document, rest, said, loads, amends, lawful.tallies amends⟩

/-- Over every store, and whatever document it gives, all that a call of the
strategies or of the markets saves spares the neighbours. -/
theorem saved_spares_neighbours {σ : Type} (locks : Locks) (state : σ) (reply : Reply Unit) :
    (∀ repository call saved,
        .saved saved reply ∈ (DocumentClass.strategies.request repository call).transcript locks
          state →
        strategies.Spares call
          ((DocumentClass.strategies.request repository call).transcript locks state) saved reply)
      ∧ ∀ repository call saved,
        .saved saved reply ∈ (DocumentClass.markets.request repository call).transcript locks
          state →
        markets.Spares call
          ((DocumentClass.markets.request repository call).transcript locks state) saved reply := by
  constructor
  · intro repository call saved member
    obtain ⟨document, rest, said, proceeds, edited, loads⟩ :=
      DocumentClass.strategies.exists_edited member
    exact strategies_lawful.spares said proceeds edited loads
  · intro repository call saved member
    obtain ⟨document, rest, said, proceeds, edited, loads⟩ :=
      DocumentClass.markets.exists_edited member
    exact markets_lawful.spares said proceeds edited loads

/-! ## §2. Identifiers that are repeated. -/

/-- A store that gives the markets and fails to save. -/
def stubborn : Script (List MarketRecord) :=
  ⟨[.answer (.ok repeatedMarkets)], [.answer (.error (.unwritable "full"))], []⟩

/-- The malformed record is replaced and its namesake stays; and of two
markets the first is left out of what is saved, where the save fails, too. -/
theorem saved_spares_neighbours_repeated :
    strategies.Spares (.update (.plain "a" "B" "" "c"))
        [.loaded (.answer (.ok DocumentClass.contested)),
          .saved [⟨"a", "B", "", "c", some ⟨[]⟩⟩, ⟨"a", "A", "", "c", none⟩] (.answer (.ok ())),
          .loaded (.answer (.ok []))]
        [⟨"a", "B", "", "c", some ⟨[]⟩⟩, ⟨"a", "A", "", "c", none⟩] (.answer (.ok ()))
      ∧ markets.Spares (.delete "m")
        [.loaded (.answer (.ok repeatedMarkets)),
          .saved [⟨"n", "N", "B", "C", true, "grid"⟩, ⟨"m", "M", "C", "B", true, "grid"⟩]
            (.answer (.error (.unwritable "full")))]
        [⟨"n", "N", "B", "C", true, "grid"⟩, ⟨"m", "M", "C", "B", true, "grid"⟩]
        (.answer (.error (.unwritable "full"))) :=
  ⟨(saved_spares_neighbours .fresh DocumentClass.forgetful (.answer (.ok ()))).1
      DocumentClass.scriptedStrategies (.update (.plain "a" "B" "" "c"))
      [⟨"a", "B", "", "c", some ⟨[]⟩⟩, ⟨"a", "A", "", "c", none⟩]
      (List.mem_cons_of_mem _ List.mem_cons_self),
    (saved_spares_neighbours .fresh stubborn (.answer (.error (.unwritable "full")))).2
      ⟨Store.scripted _, marketFiles, .unnamed⟩ (.delete "m")
      [⟨"n", "N", "B", "C", true, "grid"⟩, ⟨"m", "M", "C", "B", true, "grid"⟩]
      (List.mem_cons_of_mem _ List.mem_cons_self)⟩

end Collection

end TradingConfig
