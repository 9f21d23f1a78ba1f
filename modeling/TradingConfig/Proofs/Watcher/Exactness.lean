/-
  TradingConfig.Proofs.Watcher.Exactness
  ────────────────────────────────
  **A WATCHER PUBLISHES EXACTLY WHAT IS NEW AND CAN BE READ.**

  Between polls the baseline is always the contents of the files behind the
  snapshot that was published last (`Vigil.Kept`), whatever was edited and
  however many reloads failed.  A document that loads is what its data file
  holds, so two trees that can be read and whose data files hold the same
  have one snapshot, even under different schemas (`snapshot_eq_of_data`).
  Hence a poll publishes exactly where a data file has changed and the
  documents load, and where they load the snapshot is that of the files
  after every poll (`Vigil.polls_exactly`).
-/
import TradingConfig.Proofs.Repository.Account
import TradingConfig.Proofs.Watcher.Convergence
import TradingConfig.Watcher.Vigil

namespace TradingConfig

/-! ## §1. Snapshots of equal data. -/

namespace Datastore

variable {datastore : Datastore} {first second : FileTree} {snapshot other : Snapshot}

/-- Documents that load are the same where their data files are, whatever
the schemas say. -/
theorem load_eq_of_data {documentClass : DocumentClass} {document other : documentClass.Document}
    (same : (second.read (datastore.location documentClass).data).toOption
      = (first.read (datastore.location documentClass).data).toOption)
    (loads : datastore.load first.read documentClass = .ok document)
    (loadsToo : datastore.load second.read documentClass = .ok other) : document = other := by
  have stored := Behaviour.stored?_of_load (fun _ leads => leads) loads
  have storedToo := Behaviour.stored?_of_load (fun _ leads => leads) loadsToo
  unfold Behaviour.stored? at stored storedToo
  rw [same, stored] at storedToo
  exact Option.some.inj storedToo

/-- What is seen in documents that load is the same where their data files
are. -/
theorem seen_eq_of_data {documentClass : DocumentClass} {R : Type}
    {view : documentClass.Document → Except Malformed R} {result other : R}
    (same : (second.read (datastore.location documentClass).data).toOption
      = (first.read (datastore.location documentClass).data).toOption)
    (saw : Program.seen view (datastore.load first.read documentClass) = .ok result)
    (sawToo : Program.seen view (datastore.load second.read documentClass) = .ok other) :
    result = other := by
  obtain ⟨document, loads, viewed⟩ := Program.exists_ok_of_seen saw
  obtain ⟨documentToo, loadsToo, viewedToo⟩ := Program.exists_ok_of_seen sawToo
  obtain rfl := load_eq_of_data same loads loadsToo
  exact Except.ok.inj (viewed.symm.trans viewedToo)

theorem not_dataDiffer_iff :
    ¬ datastore.DataDiffer first second ↔ ∀ documentClass,
      (second.read (datastore.location documentClass).data).toOption
        = (first.read (datastore.location documentClass).data).toOption :=
  not_exists_not

/-- So one snapshot is seen in both trees. -/
theorem snapshot_eq_of_data (same : ¬ datastore.DataDiffer first second)
    (reads : datastore.snapshot first.read = .ok snapshot)
    (readsToo : datastore.snapshot second.read = .ok other) : snapshot = other := by
  have data := not_dataDiffer_iff.mp same
  obtain ⟨strategies, markets, exchange⟩ := readings_of_snapshot reads
  obtain ⟨strategiesToo, marketsToo, exchangeToo⟩ := readings_of_snapshot readsToo
  have sameStrategies : snapshot.strategies = other.strategies :=
    seen_eq_of_data (data .strategies) strategies strategiesToo
  have sameMarkets : snapshot.markets = other.markets :=
    seen_eq_of_data (data .markets) markets marketsToo
  have sameExchange : snapshot.exchange = other.exchange :=
    seen_eq_of_data (data .exchange) exchange exchangeToo
  cases snapshot
  cases other
  simp only at sameStrategies sameMarkets sameExchange
  rw [sameStrategies, sameMarkets, sameExchange]

/-- The contents that a watcher compares are the bytes of the data files. -/
theorem fingerprint_eq_iff :
    Watcher.fingerprint datastore second.read = Watcher.fingerprint datastore first.read
      ↔ ¬ datastore.DataDiffer first second := by
  constructor
  · rintro same ⟨documentClass, differ⟩
    exact differ (toOption_eq_of_fingerprint same documentClass)
  · intro same
    have data := not_dataDiffer_iff.mp same
    show [(second.read (datastore.location .strategies).data).toOption,
        (second.read (datastore.location .markets).data).toOption,
        (second.read (datastore.location .exchange).data).toOption] = _
    rw [data .strategies, data .markets, data .exchange]
    rfl

end Datastore

/-! ## §2. What every event keeps. -/

namespace Vigil

variable {datastore : Datastore} {vigil : Vigil}

/-- The baseline and the shown snapshot are those of the files behind the
last publication, and somebody is listening. -/
structure Kept (datastore : Datastore) (vigil : Vigil) : Prop where
  /-- The watcher is one of the datastore. -/
  watches : vigil.watcher.datastore = datastore
  /-- There is a subscriber. -/
  subscribed : vigil.watcher.channel.subscribed = true
  /-- The baseline is the contents of those files. -/
  baseline : vigil.watcher.baseline
    = some (Watcher.fingerprint datastore vigil.origin.read)
  /-- The snapshot that is shown is theirs. -/
  shown : datastore.snapshot vigil.origin.read = .ok vigil.shown

theorem kept_begin {tree : FileTree} {initial : Snapshot}
    (reads : datastore.snapshot tree.read = .ok initial) :
    (begin datastore tree initial).Kept datastore :=
  ⟨rfl, rfl, rfl, reads⟩

/-- A poll either publishes the snapshot of the files, or it does nothing
because no data file has changed or the documents do not load. -/
theorem Kept.poll_cases (kept : vigil.Kept datastore) :
    (vigil.publishes = false ∧ vigil.after .poll = vigil
        ∧ (¬ datastore.DataDiffer vigil.origin vigil.tree
          ∨ ∃ fault, datastore.snapshot vigil.tree.read = .error fault))
      ∨ ∃ snapshot, datastore.snapshot vigil.tree.read = .ok snapshot
        ∧ datastore.DataDiffer vigil.origin vigil.tree ∧ vigil.publishes = true
        ∧ vigil.after .poll = ⟨vigil.tree, { vigil.watcher with
            baseline := some (Watcher.fingerprint datastore vigil.tree.read)
            channel := ⟨snapshot, true⟩ }, vigil.tree⟩ := by
  obtain ⟨tree, watcher, origin⟩ := vigil
  have watches : watcher.datastore = datastore := kept.watches
  have subscribed : watcher.channel.subscribed = true := kept.subscribed
  have baseline : watcher.baseline = some (Watcher.fingerprint datastore origin.read) :=
    kept.baseline
  unfold publishes after
  simp only
  by_cases same : Watcher.fingerprint datastore tree.read
      = Watcher.fingerprint datastore origin.read
  · -- equal contents end the poll before anything is loaded
    left
    have polled : watcher.poll tree.read = (watcher, false) := by
      unfold Watcher.poll Watcher.reload
      rw [watches, baseline, same, if_pos rfl]
    rw [polled]
    exact ⟨rfl, rfl, .inl (Datastore.fingerprint_eq_iff.mp same)⟩
  · have differ : datastore.DataDiffer origin tree :=
      Classical.not_not.mp fun equal => same (Datastore.fingerprint_eq_iff.mpr equal)
    -- other contents are loaded, and only if that succeeds they become the baseline
    obtain ⟨polled, old | ⟨fault, fails⟩⟩ | ⟨snapshot, reads, polled⟩ :=
      watcher.reload_cases (Watcher.fingerprint watcher.datastore tree.read) tree.read
    · rw [watches, baseline] at old
      exact absurd (Option.some.inj old).symm same
    · left
      unfold Watcher.poll
      rw [polled]
      rw [watches] at fails
      exact ⟨rfl, rfl, .inr ⟨fault, fails⟩⟩
    · right
      unfold Watcher.poll
      rw [polled, watches]
      rw [watches] at reads
      unfold Channel.send
      rw [if_pos subscribed, subscribed]
      exact ⟨snapshot, reads, differ, rfl, rfl⟩

theorem Kept.after (kept : vigil.Kept datastore) (event : VigilEvent) :
    (vigil.after event).Kept datastore := by
  cases event with
  | edit tree => exact ⟨kept.watches, kept.subscribed, kept.baseline, kept.shown⟩
  | poll =>
    obtain ⟨-, same, -⟩ | ⟨snapshot, reads, -, -, published⟩ := kept.poll_cases
    · rw [same]
      exact kept
    · rw [published]
      exact ⟨kept.watches, rfl, rfl, reads⟩

theorem Kept.run (kept : vigil.Kept datastore) (events : List VigilEvent) :
    (vigil.run events).Kept datastore := by
  induction events generalizing vigil with
  | nil => exact kept
  | cons event rest ih => exact ih (kept.after event)

/-! ## §3. Polls. -/

/-- A poll publishes exactly where a data file differs from those behind the
last publication and the documents load. -/
theorem Kept.publishes_iff (kept : vigil.Kept datastore) :
    vigil.publishes = true ↔ datastore.DataDiffer vigil.origin vigil.tree
      ∧ ∃ snapshot, datastore.snapshot vigil.tree.read = .ok snapshot := by
  obtain ⟨silent, -, idle⟩ | ⟨snapshot, reads, differ, publishes, -⟩ := kept.poll_cases
  · rw [silent]
    refine ⟨Bool.noConfusion, fun ⟨differ, snapshot, reads⟩ => ?_⟩
    rcases idle with same | ⟨fault, fails⟩
    · exact absurd differ same
    · cases reads.symm.trans fails
  · exact ⟨fun _ => ⟨differ, snapshot, reads⟩, fun _ => publishes⟩

/-- Where the documents load the snapshot of the files is shown after a
poll. -/
theorem Kept.shown_after_poll (kept : vigil.Kept datastore) {snapshot : Snapshot}
    (reads : datastore.snapshot vigil.tree.read = .ok snapshot) :
    (vigil.after .poll).shown = snapshot := by
  obtain ⟨-, idle, same | ⟨fault, fails⟩⟩ | ⟨other, readsOther, -, -, published⟩ := kept.poll_cases
  · rw [idle]
    exact Datastore.snapshot_eq_of_data same kept.shown reads
  · cases reads.symm.trans fails
  · rw [published]
    exact Except.ok.inj (readsOther.symm.trans reads)

/-- Without a publication the watcher stays as it is. -/
theorem Kept.run_silent (kept : vigil.Kept datastore) {events : List VigilEvent}
    (silent : Silent events vigil) :
    (vigil.run events).watcher = vigil.watcher ∧ (vigil.run events).origin = vigil.origin := by
  induction events generalizing vigil with
  | nil => exact ⟨rfl, rfl⟩
  | cons event rest ih =>
    cases event with
    | edit tree => exact ih (kept.after (.edit tree)) silent
    | poll =>
      obtain ⟨quiet, silentRest⟩ := silent
      obtain ⟨-, same, -⟩ | ⟨snapshot, -, -, publishes, -⟩ := kept.poll_cases
      · show ((vigil.after .poll).run rest).watcher = _ ∧ ((vigil.after .poll).run rest).origin = _
        rw [same] at silentRest ⊢
        exact ih kept silentRest
      · cases quiet.symm.trans publishes

/-- What a poll does now, and what polls do until the next publication. -/
structure Exact (datastore : Datastore) (now : Vigil) : Prop where
  /-- The snapshot that is shown is that of the files behind it. -/
  origin : datastore.snapshot now.origin.read = .ok now.shown
  /-- A poll publishes exactly where a data file differs from those files and
  the documents load. -/
  publishes_iff : now.publishes = true ↔ datastore.DataDiffer now.origin now.tree
    ∧ ∃ snapshot, datastore.snapshot now.tree.read = .ok snapshot
  /-- A poll that publishes shows the snapshot of the present files, and
  their contents are the next baseline. -/
  published : now.publishes = true →
    datastore.snapshot now.tree.read = .ok (now.after .poll).shown
      ∧ (now.after .poll).watcher.baseline
        = some (Watcher.fingerprint datastore now.tree.read)
      ∧ (now.after .poll).origin = now.tree
  /-- A poll that does not publish changes nothing, neither the baseline nor
  the snapshot. -/
  unpublished : now.publishes = false → now.after .poll = now
  /-- So every poll up to the next publication compares with the same files,
  and publishes as soon as a data file differs and the documents load. -/
  retried : ∀ events, Silent events now →
    (now.run events).watcher = now.watcher
      ∧ ((now.run events).publishes = true
        ↔ datastore.DataDiffer now.origin (now.run events).tree
          ∧ ∃ snapshot, datastore.snapshot (now.run events).tree.read = .ok snapshot)
  /-- Where the documents load the snapshot that is shown after a poll is
  that of the files. -/
  current : ∀ snapshot, datastore.snapshot now.tree.read = .ok snapshot →
    (now.after .poll).shown = snapshot

theorem Kept.exact (kept : vigil.Kept datastore) : vigil.Exact datastore where
  origin := kept.shown
  publishes_iff := kept.publishes_iff
  published publishes := by
    obtain ⟨silent, -⟩ | ⟨snapshot, reads, -, -, published⟩ := kept.poll_cases
    · cases silent.symm.trans publishes
    · rw [published]
      exact ⟨reads, rfl, rfl⟩
  unpublished silent := by
    obtain ⟨-, same, -⟩ | ⟨snapshot, -, -, publishes, -⟩ := kept.poll_cases
    · exact same
    · cases silent.symm.trans publishes
  retried events silent := by
    obtain ⟨watcher, origin⟩ := kept.run_silent silent
    have exactly := (kept.run events).publishes_iff
    rw [origin] at exactly
    exact ⟨watcher, exactly⟩
  current _ := kept.shown_after_poll

/-- A watcher whose baseline was taken from the files behind its first
snapshot polls exactly, after any edits and polls.  Schema files may be
edited too, and the validator of the datastore may be any. -/
theorem polls_exactly (datastore : Datastore) (tree : FileTree) (initial : Snapshot)
    (reads : datastore.snapshot tree.read = .ok initial) (events : List VigilEvent) :
    ((begin datastore tree initial).run events).Exact datastore :=
  ((kept_begin reads).run events).exact

/-! ## §4. An instance. -/

/-- The files of a datastore with one market, after the data file of the
markets was removed. -/
def strayed : FileTree :=
  (Datastore.stocked Moment.listed).edit Datastore.standard.markets.data none

theorem not_reads_strayed {snapshot : Snapshot} :
    Datastore.standard.snapshot strayed.read ≠ .ok snapshot := by
  intro reads
  obtain ⟨content, data⟩ := Datastore.exists_data_of_snapshot reads .markets
  have gone : strayed.read (Datastore.standard.location .markets).data = .error .notFound := rfl
  cases gone.symm.trans data

theorem dataDiffer_cleared :
    Datastore.standard.DataDiffer (Datastore.stocked Moment.listed)
      (Datastore.stocked Moment.cleared) := by
  refine ⟨.markets, fun same => ?_⟩
  rw [Datastore.read_data_stocked, Datastore.read_data_stocked] at same
  have equal := Store.eq_of_documentText DocumentClass.markets.codec_faithful
    (Option.some.inj same)
  cases equal

/-- The data file of the markets is removed, which a poll does not publish;
then it is there again without its market, which the next poll publishes. -/
theorem polls_exactly_strayed :
    let first := Datastore.stocked Moment.listed
    let now := (begin Datastore.standard first Moment.listedSnapshot).run [.edit strayed]
    let later := now.run [.poll, .edit (Datastore.stocked Moment.cleared)]
    Datastore.standard.snapshot first.read = .ok Moment.listedSnapshot
      ∧ now.publishes = false ∧ later.watcher = now.watcher ∧ later.publishes = true := by
  intro first now later
  have exactly := polls_exactly Datastore.standard first Moment.listedSnapshot
    Moment.snapshot_listed [.edit strayed]
  have silent : now.publishes = false := by
    refine Bool.eq_false_iff.mpr fun publishes => ?_
    obtain ⟨-, snapshot, reads⟩ := exactly.publishes_iff.mp publishes
    exact not_reads_strayed reads
  obtain ⟨watcher, publishes⟩ := exactly.retried
    [.poll, .edit (Datastore.stocked Moment.cleared)] ⟨silent, trivial⟩
  exact ⟨Moment.snapshot_listed, silent, watcher,
    publishes.mpr ⟨dataDiffer_cleared, _, Moment.snapshot_cleared⟩⟩

end Vigil

end TradingConfig
