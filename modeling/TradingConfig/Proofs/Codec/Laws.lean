/-
  TradingConfig.Proofs.Codec.Laws
  ────────────────────────────────
  **WHAT IS WRITTEN IS READ.**

  A codec is faithful (`Faithful`) if every value that it writes nests no
  deeper than allowed, holds only integers that keep their kind, and is
  read back from its canonical form.  The scalars are faithful, and lists,
  optional fields and records of faithful parts are: the reader of a record
  looks its members up by key, so their order does not matter, and a value
  that is left out in writing is the one that is put in for a missing
  member.
-/
import TradingConfig.Codec.Record
import TradingConfig.Proofs.Json.RoundTrip
import TradingConfig.Proofs.Text.KeyedList

namespace TradingConfig

open Json

/-! ## §1. Canonical lists. -/

theorem Json.canonicalItems_eq_map (items : List Json) :
    canonicalItems items = items.map canonical := by
  induction items with
  | nil => rfl
  | cons item rest ih => simp [canonicalItems, ih]

theorem Json.canonicalMembers_eq_map (members : List (String × Json)) :
    canonicalMembers members = members.map fun member => (member.1, canonical member.2) := by
  induction members with
  | nil => rfl
  | cons member rest ih => simp [canonicalMembers, ih]

/-- The keys of members are those of their canonical form. -/
theorem Json.map_fst_canonicalMembers (members : List (String × Json)) :
    (canonicalMembers members).map Prod.fst = members.map Prod.fst := by
  simp [canonicalMembers_eq_map, Function.comp_def]

namespace Codec

variable {α β τ : Type}

/-! ## §2. Faithful codecs. -/

/-- Every value that is written fits and is read back. -/
structure Faithful (room : Nat) (codec : Codec α) : Prop where
  /-- The value that is written nests at most `room` deep. -/
  fits : ∀ x, Fits room (codec.encode x)
  /-- It is read back. -/
  back : ∀ x, codec.decode (codec.encode x).canonical = .ok x

theorem string_faithful (room : Nat) : string.Faithful room :=
  ⟨fun _ => trivial, fun _ => rfl⟩

theorem bool_faithful (room : Nat) : bool.Faithful room :=
  ⟨fun _ => trivial, fun _ => rfl⟩

theorem decodeBelow_natCast {bound n : Nat} (below : n < bound) (wanted : String) :
    decodeBelow bound wanted (.num (.int n)) = .ok n := by
  simp [decodeBelow, below]

theorem u32_faithful (room : Nat) : u32.Faithful room where
  fits n := by
    have bound := n.toNat_lt
    show InRange n.toNat
    unfold InRange
    omega
  back n := by
    show (decodeBelow UInt32.size "u32" (.num (.int n.toNat))).map UInt32.ofNat = .ok n
    rw [decodeBelow_natCast n.toNat_lt]
    show Except.ok (UInt32.ofNat n.toNat) = .ok n
    rw [UInt32.ofNat_toNat]

theorem u16_faithful (room : Nat) : u16.Faithful room where
  fits n := by
    have bound := n.toNat_lt
    show InRange n.toNat
    unfold InRange
    omega
  back n := by
    show (decodeBelow UInt16.size "u16" (.num (.int n.toNat))).map UInt16.ofNat = .ok n
    rw [decodeBelow_natCast n.toNat_lt]
    show Except.ok (UInt16.ofNat n.toNat) = .ok n
    rw [UInt16.ofNat_toNat]

/-- The items of a list are read one after the other. -/
theorem mapM_decode {room : Nat} {item : Codec α} (faithful : item.Faithful room) (xs : List α) :
    (xs.map fun x => (item.encode x).canonical).mapM item.decode = .ok xs := by
  induction xs with
  | nil => rfl
  | cons x xs ih =>
    rw [List.map_cons, List.mapM_cons, faithful.back x, ih]
    rfl

theorem list_faithful {room : Nat} {item : Codec α} (faithful : item.Faithful room) :
    (list item).Faithful (room + 1) where
  fits xs := by
    show 0 < room + 1 ∧ ItemsFit (room + 1 - 1) (xs.map item.encode)
    refine ⟨Nat.succ_pos room, itemsFit_iff.mpr ?_⟩
    intro value member
    obtain ⟨x, -, rfl⟩ := List.mem_map.mp member
    exact faithful.fits x
  back xs := by
    show (canonicalItems (xs.map item.encode)).mapM item.decode = .ok xs
    rw [canonicalItems_eq_map, List.map_map]
    exact mapM_decode faithful xs

/-! ## §3. Faithful fields. -/

/-- Every value that is not left out fits and is read back; one that is
left out is the value of a missing member. -/
structure Field.Faithful (room : Nat) (field : Field α) : Prop where
  /-- The value that is written nests at most `room` deep. -/
  fits : ∀ x, field.hides x = false → Fits room (field.codec.encode x)
  /-- It is read back. -/
  back : ∀ x, field.hides x = false →
    field.codec.decode (field.codec.encode x).canonical = .ok x
  /-- A value is left out only where it is put in again. -/
  hidden : ∀ x, field.hides x = true → field.absent = some x

theorem Field.required_faithful {room : Nat} {codec : Codec α} (key : String)
    (faithful : codec.Faithful room) : (required key codec).Faithful room :=
  ⟨fun x _ => faithful.fits x, fun x _ => faithful.back x, fun _ hidden => nomatch hidden⟩

theorem Field.withDefault_faithful {room : Nat} {codec : Codec α} (key : String) (value : α)
    (faithful : codec.Faithful room) : (withDefault key codec value).Faithful room :=
  ⟨fun x _ => faithful.fits x, fun x _ => faithful.back x, fun _ hidden => nomatch hidden⟩

/-- An optional field of objects: no object is read as the absent value. -/
theorem Field.optional_faithful {room : Nat} {codec : Codec α} (key : String)
    (faithful : codec.Faithful room) (isObject : ∀ x, ∃ members, codec.encode x = .obj members) :
    (optional key codec).Faithful room where
  fits := by
    rintro (_ | x) shown
    · cases shown
    · exact faithful.fits x
  back := by
    rintro (_ | x) shown
    · cases shown
    · have read := faithful.back x
      show codec.optional.decode (codec.encode x).canonical = .ok (some x)
      obtain ⟨members, written⟩ := isObject x
      rw [written] at read ⊢
      show (codec.decode (Json.obj members).canonical).map some = .ok (some x)
      rw [read]
      rfl
  hidden := by
    rintro (_ | x) hidden
    · rfl
    · cases hidden

/-- All fields are faithful, and their keys differ. -/
def Fields.Faithful (room : Nat) : {τ : Type} → Fields τ → Prop
  | _, .nil => True
  | _, .cons head tail => head.Faithful room ∧ head.key ∉ tail.keys ∧ tail.Faithful room

/-! ## §4. Records. -/

namespace Fields

theorem toMembers_cons (head : Field α) (tail : Fields β) (x : α) (values : β) :
    (cons head tail).toMembers (x, values)
      = if head.hides x then tail.toMembers values
        else (head.key, head.codec.encode x) :: tail.toMembers values :=
  rfl

/-- The members that are written belong to fields, in their order. -/
theorem map_fst_toMembers_sublist (fields : Fields τ) (values : τ) :
    ((fields.toMembers values).map Prod.fst).Sublist fields.keys := by
  induction fields with
  | nil => exact List.Sublist.refl []
  | cons head tail ih =>
    obtain ⟨value, values⟩ := values
    rw [toMembers_cons]
    split
    · exact (ih values).cons head.key
    · exact (ih values).cons_cons head.key

theorem keys_nodup {room : Nat} {fields : Fields τ} (faithful : fields.Faithful room) :
    fields.keys.Nodup := by
  induction fields with
  | nil => exact List.nodup_nil
  | cons head tail ih => exact List.nodup_cons.mpr ⟨faithful.2.1, ih faithful.2.2⟩

theorem toMembers_fit {room : Nat} {fields : Fields τ} (faithful : fields.Faithful room)
    (values : τ) : MembersFit room (fields.toMembers values) := by
  induction fields with
  | nil => trivial
  | cons head tail ih =>
    obtain ⟨value, values⟩ := values
    obtain ⟨headFaithful, -, tailFaithful⟩ := faithful
    rw [toMembers_cons]
    split
    · exact ih tailFaithful values
    next shown => exact ⟨headFaithful.fits value (by simpa using shown), ih tailFaithful values⟩

/-- Every member that is written can be read as the field that it belongs
to. -/
theorem checkMember_toMembers {room : Nat} {fields : Fields τ} (faithful : fields.Faithful room)
    {values : τ} {key : String} {value : Json}
    (member : (key, value) ∈ canonicalMembers (fields.toMembers values)) :
    fields.checkMember key value = .ok () := by
  induction fields with
  | nil => cases member
  | cons head tail ih =>
    obtain ⟨x, values⟩ := values
    obtain ⟨headFaithful, fresh, tailFaithful⟩ := faithful
    -- a member of the tail is checked by the tail, since the head has another key
    have inTail : (key, value) ∈ canonicalMembers (tail.toMembers values) →
        (cons head tail).checkMember key value = .ok () := by
      intro member
      have written : key ∈ (tail.toMembers values).map Prod.fst := by
        rw [← map_fst_canonicalMembers]
        exact List.mem_map_of_mem member
      have known : key ∈ tail.keys := (tail.map_fst_toMembers_sublist values).subset written
      have other : head.key ≠ key := fun same => fresh (same ▸ known)
      simp only [checkMember, other, if_false]
      exact ih tailFaithful member
    rw [toMembers_cons] at member
    split at member
    · exact inTail member
    next shown =>
      rcases List.mem_cons.mp member with here | inside
      · obtain ⟨rfl, rfl⟩ := Prod.mk.inj here
        simp only [checkMember, if_true]
        rw [headFaithful.back x (by simpa using shown)]
        rfl
      · exact inTail inside

theorem checkMembers_eq_ok {fields : Fields τ} {members : List (String × Json)}
    (readable : ∀ member ∈ members, fields.checkMember member.1 member.2 = .ok ()) :
    fields.checkMembers members = .ok () := by
  induction members with
  | nil => rfl
  | cons member rest ih =>
    have first := readable member List.mem_cons_self
    have others := ih fun other inRest => readable other (List.mem_cons_of_mem member inRest)
    show (do fields.checkMember member.1 member.2; fields.checkMembers rest) = _
    rw [first, others]
    rfl

/-- The values are read from any members that answer look-ups as those that
were written. -/
theorem ofMembers_toMembers {room : Nat} {fields : Fields τ} (faithful : fields.Faithful room)
    {values : τ} {members : List (String × Json)}
    (same : ∀ key ∈ fields.keys, KeyedList.get? key members
      = KeyedList.get? key (canonicalMembers (fields.toMembers values))) :
    fields.ofMembers members = .ok values := by
  induction fields with
  | nil => rfl
  | cons head tail ih =>
    obtain ⟨x, values⟩ := values
    obtain ⟨headFaithful, fresh, tailFaithful⟩ := faithful
    have atHead := same head.key List.mem_cons_self
    have unwritten : KeyedList.get? head.key (canonicalMembers (tail.toMembers values)) = none := by
      refine KeyedList.get?_eq_none fun written => fresh ?_
      rw [map_fst_canonicalMembers] at written
      exact (tail.map_fst_toMembers_sublist values).subset written
    -- the member of the head, written or not, is no look-up of the tail
    have others : tail.ofMembers members = .ok values := by
      refine ih tailFaithful fun key known => ?_
      have other : key ≠ head.key := fun isHead => fresh (isHead ▸ known)
      rw [same key (List.mem_cons_of_mem _ known)]
      rw [toMembers_cons]
      split
      · rfl
      · simp [canonicalMembers, KeyedList.get?, other]
    unfold ofMembers
    rw [others]
    rw [toMembers_cons] at atHead
    split at atHead
    next isHidden =>
      -- left out in writing: the look-up fails and the default is the value
      rw [unwritten] at atHead
      rw [atHead, headFaithful.hidden x isHidden]
      rfl
    next shown =>
      simp only [canonicalMembers, KeyedList.get?, if_true] at atHead
      rw [atHead]
      show (do
        let value ← head.codec.decode (head.codec.encode x).canonical
        let values ← Except.ok values
        Except.ok (value, values)) = _
      rw [headFaithful.back x (by simpa using shown)]
      rfl

end Fields

/-- A record of faithful fields is faithful, if its values are made from
their parts. -/
theorem record_faithful {room : Nat} {name : String} {fields : Fields τ} {make : τ → α}
    {parts : α → τ} (faithful : fields.Faithful room) (make_parts : ∀ x, make (parts x) = x) :
    (record name fields make parts).Faithful (room + 1) where
  fits x := ⟨Nat.succ_pos room, Fields.toMembers_fit faithful (parts x)⟩
  back x := by
    have distinct : ((canonicalMembers (fields.toMembers (parts x))).map Prod.fst).Nodup := by
      rw [map_fst_canonicalMembers]
      exact (fields.map_fst_toMembers_sublist (parts x)).nodup (Fields.keys_nodup faithful)
    have checked : fields.checkMembers
        (KeyedList.ofPairs (canonicalMembers (fields.toMembers (parts x)))) = .ok () :=
      Fields.checkMembers_eq_ok fun member inside =>
        Fields.checkMember_toMembers faithful (KeyedList.mem_of_mem_ofPairs inside)
    have values : fields.ofMembers
        (KeyedList.ofPairs (canonicalMembers (fields.toMembers (parts x)))) = .ok (parts x) :=
      Fields.ofMembers_toMembers faithful fun key _ => KeyedList.get?_ofPairs distinct key
    show (do
      fields.checkMembers (KeyedList.ofPairs (canonicalMembers (fields.toMembers (parts x))))
      let values ← fields.ofMembers
        (KeyedList.ofPairs (canonicalMembers (fields.toMembers (parts x))))
      Except.ok (make values)) = _
    rw [checked, values]
    show Except.ok (make (parts x)) = .ok x
    rw [make_parts]

/-- A record that is a list is written as an object with an array. -/
theorem canonical_listRecord {item : Codec β} {key : String} {absent : List β} {name : String}
    {make : List β × Unit → α} {parts : α → List β × Unit} {x : α} {items : List β}
    (listed : parts x = (items, ())) :
    ((record name (.cons (.withDefault key (list item) absent) .nil) make parts).encode x).canonical
      = .obj [(key, .arr (items.map fun i => (item.encode i).canonical))] := by
  show Json.canonical (.obj (Fields.toMembers _ (parts x))) = _
  rw [listed]
  show Json.obj [(key, .arr (Json.canonicalItems (items.map item.encode)))] = _
  rw [Json.canonicalItems_eq_map, List.map_map]
  rfl

/-- A record is written as an object. -/
theorem record_encode (name : String) (fields : Fields τ) (make : τ → α) (parts : α → τ) (x : α) :
    ∃ members, (record name fields make parts).encode x = .obj members :=
  ⟨_, rfl⟩

end Codec

end TradingConfig
