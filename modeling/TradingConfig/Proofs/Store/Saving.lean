/-
  TradingConfig.Proofs.Store.Saving
  ────────────────────────────────
  **A SAVE IS ALL OR NOTHING AT EVERY MOMENT.**

  Up to the renaming the scratch file is the only thing that differs from
  the tree before (`Aside`), and the renaming puts the whole text in place
  and takes the scratch file away (`Replaced`).  Which of the two it is
  follows from how far the save has come (`Holds`), and every action keeps
  it (`Holds.step`).  So whoever reads the data file between two actions, or
  after a crash, finds the old content or the new (`crash_atomic`).
-/
import TradingConfig.Proofs.Store.SaveLoad
import TradingConfig.Store.Saving

namespace TradingConfig

/-- Whether a fault of a save comes from the schema file or from the check
under it. -/
def StoreFault.ofSchema (location : Location) : StoreFault → Bool
  | .file path _ => path = location.schema
  | .rejected _ _ | .invalidSchema _ _ => true
  | .unwritable _ => false

namespace Saving

open FileTree Store

variable {D : Type} {validator : Validator} {codec : Codec D} {document : D}
  {location : Location} {before now after : FileTree} {scratch : Place} {bytes : ByteArray}

/-! ## §1. What a save can have done to a tree. -/

/-- Every place is as before, except that of the scratch file. -/
structure Aside (location : Location) (before now : FileTree) : Prop where
  /-- No directory has come or gone. -/
  same : SameDirectories before now
  /-- The other places hold what they held. -/
  others : ∀ place, before.locate location.data.scratch ≠ .ok place →
    now.node? place = before.node? place

/-- The scratch file holds some bytes, and every other place is as before. -/
structure Drafted (location : Location) (before now : FileTree) (scratch : Place)
    (bytes : ByteArray) : Prop extends Aside location before now where
  /-- The place of the scratch file. -/
  located : before.locate location.data.scratch = .ok scratch
  /-- No directory was there. -/
  notDirectory : before.node? scratch ≠ some .directory
  /-- The bytes. -/
  holds : now.node? scratch = some (.file bytes)

/-- The data file holds some bytes, there is no scratch file, and every other
place is as before. -/
structure Replaced (location : Location) (before now : FileTree) (bytes : ByteArray) : Prop where
  /-- No directory has come or gone. -/
  same : SameDirectories before now
  /-- The places of the two files, and all others. -/
  places : ∃ data scratch, before.locate location.data = .ok data
    ∧ before.locate location.data.scratch = .ok scratch
    ∧ now.node? data = some (.file bytes) ∧ now.node? scratch = none
    ∧ ∀ place, place ≠ data → place ≠ scratch → now.node? place = before.node? place

theorem Aside.refl (location : Location) (tree : FileTree) : Aside location tree tree :=
  ⟨.refl tree, fun _ _ => rfl⟩

/-- The data file is read as before: it is not the scratch file. -/
theorem Aside.read_data (aside : Aside location before now) :
    (now.read location.data).toOption = (before.read location.data).toOption := by
  -- a fault may be another one than before, so what is found is compared
  have same (found : ByteArray) :
      now.read location.data = .ok found ↔ before.read location.data = .ok found := by
    simp only [read_eq_ok_iff, locate_eq_ok_iff aside.same]
    refine exists_congr fun place => and_congr_right fun located => ?_
    rw [aside.others place fun beside => locate_scratch_ne located beside rfl]
  cases read : before.read location.data with
  | ok found => rw [(same found).mpr read]
  | error fault =>
    cases readNow : now.read location.data with
    | ok found => rw [(same found).mp readNow] at read; cases read
    | error other => rfl

theorem Drafted.set (draft : Drafted location before now scratch bytes) (more : ByteArray) :
    Drafted location before (now.set scratch (.file more)) scratch more where
  same := draft.same.trans (.set_file (draft.same.notDirectory draft.notDirectory) more)
  others place elsewhere := by
    have other : place ≠ scratch := fun same => elsewhere (same ▸ draft.located)
    rw [node?_set _ _ _ (ne_nil_of_node? draft.notDirectory), if_neg other]
    exact draft.others place elsewhere
  located := draft.located
  notDirectory := draft.notDirectory
  holds := by rw [node?_set _ _ _ (ne_nil_of_node? draft.notDirectory), if_pos rfl]

/-- A scratch file that was just made is empty. -/
theorem drafted_of_create (makes : before.create location.data.scratch = .ok (scratch, now)) :
    Drafted location before now scratch .empty := by
  obtain ⟨located, notDirectory, rfl⟩ := create_eq_ok makes
  have below := ne_nil_of_node? notDirectory
  refine ⟨⟨.set_file notDirectory .empty, fun place elsewhere => ?_⟩, located, notDirectory, ?_⟩
  · have other : place ≠ scratch := fun same => elsewhere (same ▸ located)
    rw [node?_set _ _ _ below, if_neg other]
  · rw [node?_set _ _ _ below, if_pos rfl]

theorem Drafted.erase (draft : Drafted location before now scratch bytes) :
    Aside location before (now.erase scratch) where
  same := draft.same.trans (.erase (draft.same.notDirectory draft.notDirectory))
  others place elsewhere := by
    have other : place ≠ scratch := fun same => elsewhere (same ▸ draft.located)
    rw [node?_erase _ _ (ne_nil_of_node? draft.notDirectory), if_neg other]
    exact draft.others place elsewhere

/-- A scratch file that is renamed replaces the data file. -/
theorem Drafted.replaced (draft : Drafted location before now scratch bytes)
    (moves : now.rename scratch bytes location.data = .ok after) :
    Replaced location before after bytes := by
  obtain ⟨data, leads, notDirectory, rfl⟩ := rename_eq_ok moves
  have belowScratch := ne_nil_of_node? draft.notDirectory
  have belowData := ne_nil_of_node? notDirectory
  -- paths lead where they led, since only directories decide about that
  have leadsBefore : before.locate location.data = .ok data :=
    (locate_eq_ok_iff draft.same).mp leads
  have differs : scratch ≠ data := locate_scratch_ne leadsBefore draft.located
  have erased := draft.erase.same
  have notDirectoryErased := (SameDirectories.erase
    (draft.same.notDirectory draft.notDirectory)).notDirectory notDirectory
  -- the scratch file is taken away, and then the data file is set
  refine ⟨erased.trans (.set_file notDirectoryErased bytes), data, scratch, leadsBefore,
    draft.located, ?_, ?_, fun place notData notScratch => ?_⟩
  · rw [node?_set _ _ _ belowData, if_pos rfl]
  · rw [node?_set _ _ _ belowData, if_neg differs, node?_erase _ _ belowScratch, if_pos rfl]
  · rw [node?_set _ _ _ belowData, if_neg notData, node?_erase _ _ belowScratch,
      if_neg notScratch]
    refine draft.others place fun leadsToo => notScratch ?_
    exact Except.ok.inj (leadsToo.symm.trans draft.located)

theorem Replaced.read_data (replaced : Replaced location before now bytes) :
    now.read location.data = .ok bytes := by
  obtain ⟨data, _, leads, -, holds, -⟩ := replaced.places
  exact read_eq_ok_iff.mpr ⟨data, replaced.same.locate leads, holds⟩

/-! ## §2. One action. -/

/-- What a save that fails leaves behind. -/
structure Failed (location : Location) (before after : FileTree) (fault : StoreFault) : Prop
    extends Aside location before after where
  /-- Where the schema file or the check is the reason, nothing at all has
  changed. -/
  unchanged : fault.ofSchema location = true → after = before

/-- What a save leaves behind. -/
def Ends (codec : Codec D) (document : D) (location : Location) (before : FileTree) :
    Except StoreFault Unit → FileTree → Prop
  | .error fault, after => Failed location before after fault
  | .ok (), after => Replaced location before after (content codec document)

/-- What the tree is like, by how far the save has come. -/
def Holds (validator : Validator) (codec : Codec D) (document : D) (location : Location)
    (before : FileTree) :
    Saving → FileTree → Prop
  | .begun, now => now = before
  | .checked, now =>
    checkDocument codec document location before.read validator = .ok () ∧ now = before
  | .filling scratch written, now =>
    checkDocument codec document location before.read validator = .ok ()
      ∧ Drafted location before now scratch ((content codec document).extract 0 written)
  | .filled scratch, now | .refused scratch _, now =>
    checkDocument codec document location before.read validator = .ok ()
      ∧ Drafted location before now scratch (content codec document)
  | .ended result, now => Ends codec document location before result now

/-- Once the check has passed, a fault of the other two files does not name
the schema file. -/
theorem ne_schema_of_passed (apart : location.Apart before)
    (passes : checkDocument codec document location before.read validator = .ok ()) :
    location.data ≠ location.schema ∧ location.data.scratch ≠ location.schema := by
  obtain ⟨bytes, found⟩ := exists_read_schema passes
  obtain ⟨place, located, -⟩ := read_eq_ok_iff.mp found
  obtain ⟨notData, notScratch⟩ := apart place located
  exact ⟨fun same => notData (same ▸ located), fun same => notScratch (same ▸ located)⟩

theorem Aside.failed {path : Path} {cause : FileFault} (aside : Aside location before after)
    (notSchema : path ≠ location.schema) : Failed location before after (.file path cause) :=
  ⟨aside, fun ofSchema => absurd (of_decide_eq_true ofSchema) notSchema⟩

theorem Failed.refl (location : Location) (tree : FileTree) (fault : StoreFault) :
    Failed location tree tree fault :=
  ⟨.refl location tree, fun _ => rfl⟩

/-- Every action keeps what holds. -/
theorem Holds.step {stage next : Saving} (apart : location.Apart before)
    (holds : Holds validator codec document location before stage now)
    (step : Step validator codec document location (stage, now) (next, after)) :
    Holds validator codec document location before next after := by
  cases step with
  -- at first the tree is the one before
  | unread cause | failed fails =>
    obtain rfl : now = before := holds
    exact Failed.refl location now _
  | passed passes =>
    obtain rfl : now = before := holds
    exact ⟨passes, rfl⟩
  | unmade cause =>
    obtain ⟨-, rfl⟩ : _ ∧ now = before := holds
    exact Failed.refl location now _
  | made makes =>
    obtain ⟨passes, rfl⟩ : _ ∧ now = before := holds
    refine ⟨passes, ?_⟩
    rw [ByteArray.extract_same]
    exact drafted_of_create makes
  -- from here on the scratch file differs, and no fault is one of the schema
  | wrote onward within =>
    obtain ⟨passes, draft⟩ := holds
    exact ⟨passes, draft.set _⟩
  | unwritten cause =>
    obtain ⟨passes, draft⟩ := holds
    exact draft.toAside.failed (ne_schema_of_passed apart passes).2
  | completed =>
    obtain ⟨passes, draft⟩ := holds
    rw [ByteArray.extract_zero_size] at draft
    exact ⟨passes, draft⟩
  | renamed moves =>
    obtain ⟨-, draft⟩ := holds
    exact draft.replaced moves
  | unmoved cause => exact holds
  | removed =>
    obtain ⟨passes, draft⟩ := holds
    exact draft.erase.failed (ne_schema_of_passed apart passes).1
  | unremoved =>
    obtain ⟨passes, draft⟩ := holds
    exact draft.toAside.failed (ne_schema_of_passed apart passes).1

/-! ## §3. Runs. -/

theorem holds_of_reaches (apart : location.Apart before) {moment : Saving × FileTree}
    (reached : Reaches validator codec document location (.begun, before) moment) :
    Holds validator codec document location before moment.1 moment.2 := by
  -- induction on the actions so far
  induction reached with
  | refl => rfl
  | tail _ step holds => exact holds.step apart step

/-- Whatever the stage, the scratch file alone differs, or the data file is
replaced. -/
theorem Holds.aside_or_replaced {stage : Saving}
    (holds : Holds validator codec document location before stage now) :
    Aside location before now ∨ Replaced location before now (content codec document) := by
  cases stage with
  | begun =>
    obtain rfl : now = before := holds
    exact .inl (.refl location now)
  | checked =>
    obtain ⟨-, rfl⟩ : _ ∧ now = before := holds
    exact .inl (.refl location now)
  | filling scratch written => exact .inl holds.2.toAside
  | filled scratch => exact .inl holds.2.toAside
  | refused scratch cause => exact .inl holds.2.toAside
  | ended result =>
    cases result with
    | error fault => exact .inl holds.toAside
    | ok _ => exact .inr holds

/-- A save ends, action by action, as it does in one go. -/
theorem reaches_saveDocument (validator : Validator) (codec : Codec D) (document : D)
    (location : Location) (tree : FileTree) :
    Reaches validator codec document location (.begun, tree)
      (.ended (saveDocument codec document location tree validator).1,
        (saveDocument codec document location tree validator).2) := by
  unfold saveDocument
  cases checks : checkDocument codec document location tree.read validator with
  | error fault => exact .single (.failed checks)
  | ok _ =>
    refine .head (.passed checks) ?_
    show Reaches validator codec document location (.checked, tree)
      (.ended (replaceFile location.data (content codec document) tree).1,
        (replaceFile location.data (content codec document) tree).2)
    unfold replaceFile
    cases makes : tree.create location.data.scratch with
    | error cause => exact .single (.unmade cause)
    | ok found =>
      obtain ⟨scratch, created⟩ := found
      -- all bytes in one piece
      have wrote : Step validator codec document location (.filling scratch 0, created) _ :=
        .wrote (Nat.zero_le _) (Nat.le_refl (content codec document).size)
      rw [ByteArray.extract_zero_size] at wrote
      refine .head (.made makes) (.head wrote (.head .completed ?_))
      cases moves : (created.set scratch (.file (content codec document))).rename scratch
          (content codec document) location.data with
      | error cause =>
        simp only [moves]
        exact .head (.unmoved cause) (.single .removed)
      | ok renamed =>
        simp only [moves]
        exact .single (.renamed moves)

/-- Taken action by action, whatever the file system refuses and whatever
validator decides about schemas: at every moment, also where a crash comes,
the data file reads as before or holds the whole new text, and no other file
but the scratch file differs; whenever the save ends it has left what its
result says; and the save in one go is one of these runs. -/
theorem crash_atomic (validator : Validator) (codec : Codec D) (document : D)
    (location : Location) (tree : FileTree) (apart : location.Apart tree) :
    (∀ stage now, Reaches validator codec document location (.begun, tree) (stage, now) →
        ((now.read location.data).toOption = (tree.read location.data).toOption
            ∨ now.read location.data = .ok (documentText codec document).toUTF8)
          ∧ ∀ place, tree.locate location.data ≠ .ok place →
            tree.locate location.data.scratch ≠ .ok place → now.node? place = tree.node? place)
      ∧ (∀ result after,
        Reaches validator codec document location (.begun, tree) (.ended result, after) →
        Ends codec document location tree result after)
      ∧ Reaches validator codec document location (.begun, tree)
        (.ended (saveDocument codec document location tree validator).1,
          (saveDocument codec document location tree validator).2) := by
  refine ⟨fun stage now reached => ?_, fun result after reached => ?_,
    reaches_saveDocument validator codec document location tree⟩
  · rcases (holds_of_reaches apart reached).aside_or_replaced with aside | replaced
    · exact ⟨.inl aside.read_data, fun place _ elsewhere => aside.others place elsewhere⟩
    · refine ⟨.inr replaced.read_data, fun place notData notScratch => ?_⟩
      obtain ⟨data, scratch, leads, beside, -, -, others⟩ := replaced.places
      exact others place (fun same => notData (same ▸ leads))
        fun same => notScratch (same ▸ beside)
  · exact holds_of_reaches apart reached

/-! ## §4. An instance. -/

/-- A tree in which an earlier save has left its scratch file behind. -/
def leftoverTree : FileTree :=
  ⟨[], [(["schema.json"], .file sampleSchema.toUTF8), (["markets.json"], .file "old".toUTF8),
    (["markets.json.tmp"], .file "half of a".toUTF8)]⟩

/-- The tree while the first bytes are written. -/
def leftoverFilling : FileTree :=
  ⟨[], [(["schema.json"], .file sampleSchema.toUTF8), (["markets.json"], .file "old".toUTF8),
    (["markets.json.tmp"],
      .file ((content MarketRecord.documentCodec sampleDocument).extract 0 0))]⟩

theorem leftover_apart : sampleLocation.Apart leftoverTree := by
  have schemaAt : leftoverTree.locate sampleLocation.schema = .ok ["schema.json"] := rfl
  have dataAt : leftoverTree.locate sampleLocation.data = .ok ["markets.json"] := rfl
  have scratchAt : leftoverTree.locate sampleLocation.data.scratch
      = .ok ["markets.json.tmp"] := rfl
  exact .of_locate schemaAt dataAt scratchAt (by decide) (by decide)

theorem leftover_passes :
    checkDocument MarketRecord.documentCodec sampleDocument sampleLocation leftoverTree.read
      = .ok () := by
  have read : Json.ofText sampleSchema = .ok (.obj [("required", .arr [.str "markets"])]) := by cbv
  have usable : readSchema leftoverTree.read sampleLocation.schema
      = .ok (SchemaBook.mk [.keywords { required := ["markets"] }] []).complaints :=
    readSchema_of_text rfl read (by cbv)
  exact checkDocument_of_clean usable (by cbv)

/-- A crash in the midst of the save leaves the old file, and the save ends
with the new one and without the scratch file. -/
theorem crash_atomic_leftover :
    sampleLocation.Apart leftoverTree
      ∧ Reaches .keywords MarketRecord.documentCodec sampleDocument sampleLocation
        (.begun, leftoverTree) (.filling ["markets.json.tmp"] 0, leftoverFilling)
      ∧ ((leftoverFilling.read sampleLocation.data).toOption = some "old".toUTF8
        ∨ leftoverFilling.read sampleLocation.data
          = .ok (documentText MarketRecord.documentCodec sampleDocument).toUTF8)
      ∧ Replaced sampleLocation leftoverTree
        (saveDocument MarketRecord.documentCodec sampleDocument sampleLocation leftoverTree).2
        (content MarketRecord.documentCodec sampleDocument) := by
  obtain ⟨moments, endings, inOneGo⟩ :=
    crash_atomic .keywords MarketRecord.documentCodec sampleDocument sampleLocation leftoverTree
      leftover_apart
  have filling : Reaches .keywords MarketRecord.documentCodec sampleDocument sampleLocation
      (.begun, leftoverTree) (.filling ["markets.json.tmp"] 0, leftoverFilling) :=
    .head (.passed leftover_passes) (.head (.made rfl)
      (.single (.wrote (Nat.le_refl 0) (Nat.zero_le _))))
  have saved : (saveDocument MarketRecord.documentCodec sampleDocument sampleLocation
      leftoverTree).1 = .ok () := by
    rw [saveDocument_of_check leftover_passes]
    rfl
  rw [saved] at inOneGo
  exact ⟨leftover_apart, filling, (moments _ _ filling).1, endings _ _ inOneGo⟩

end Saving

end TradingConfig
