/-
  TradingConfig.Proofs.Watcher.Convergence
  ────────────────────────────────
  **WHEN A WATCHER CATCHES UP.**

  The snapshot that is shown was read at one step, and the contents that the
  watcher compares with were taken at another: the startup load and the
  baseline, or the two halves of a poll.  Once the edits stop and a whole poll
  has passed, the baseline is the present contents.  So the snapshot is that
  of the files, unless it was read from other contents than its baseline; and
  that cannot be where no edit falls between the two steps
  (`Moment.converges`).
-/
import TradingConfig.Proofs.Datastore.Stock
import TradingConfig.Proofs.Watcher.Edits

namespace TradingConfig

/-! ## §1. Where the snapshot comes from. -/

/-- A reload either does nothing, or it publishes what it reads. -/
theorem Watcher.reload_cases (watcher : Watcher) (looked : Fingerprint) (files : Store.Files) :
    (watcher.reload looked files = (watcher, false)
        ∧ (watcher.baseline = some looked
          ∨ ∃ fault, watcher.datastore.snapshot files = .error fault))
      ∨ ∃ snapshot, watcher.datastore.snapshot files = .ok snapshot
        ∧ watcher.reload looked files
          = ({ watcher with
              baseline := some looked
              channel := watcher.channel.send snapshot }, true) := by
  unfold reload
  split
  next same => exact .inl ⟨rfl, .inl same⟩
  · cases watcher.datastore.snapshot files with
    | error fault => exact .inl ⟨rfl, .inr ⟨fault, rfl⟩⟩
    | ok snapshot => exact .inr ⟨snapshot, rfl, rfl⟩

namespace Phase

/-- The snapshot that was read last. -/
def held? : Phase → Option Snapshot
  | .loaded snapshot => some snapshot
  | phase => phase.shown?

end Phase

namespace Moment

/-- A moment after the documents were read for the first time. -/
structure Since (datastore : Datastore) (first : FileTree) (moment : Moment) : Prop where
  /-- Nothing but the data files was edited. -/
  edited : datastore.Edited first moment.tree
  /-- The snapshot was read when the contents were the source. -/
  held : ∀ snapshot, moment.phase.held? = some snapshot → ∃ tree, datastore.Edited first tree
    ∧ datastore.snapshot tree.read = .ok snapshot
    ∧ Watcher.fingerprint datastore tree.read = moment.source
  /-- The watcher is one of the datastore, and it has a subscriber. -/
  watcher : ∀ watcher, moment.phase.watcher? = some watcher →
    watcher.datastore = datastore ∧ watcher.channel.subscribed = true

variable {datastore : Datastore} {first : FileTree} {moment : Moment} {initial : Snapshot}

theorem Since.edit (since : moment.Since datastore first)
    (reads : datastore.snapshot first.read = .ok initial) (documentClass : DocumentClass)
    (node : Option Node) :
    (moment.after datastore (.edit documentClass node)).Since datastore first :=
  ⟨since.edited.put reads documentClass node, since.held, since.watcher⟩

/-- A reading gives a snapshot of the present contents. -/
theorem Since.read (edited : datastore.Edited first moment.tree)
    {snapshot : Snapshot} (reads : datastore.snapshot moment.tree.read = .ok snapshot) :
    ∃ tree, datastore.Edited first tree ∧ datastore.snapshot tree.read = .ok snapshot
      ∧ Watcher.fingerprint datastore tree.read = moment.contents datastore :=
  ⟨moment.tree, edited, reads, rfl⟩

theorem Since.step (since : moment.Since datastore first) (started : moment.phase ≠ .starting) :
    (moment.step datastore).Since datastore first := by
  obtain ⟨tree, phase, source⟩ := moment
  cases phase with
  | starting => exact absurd rfl started
  | stopped => exact since
  | loaded snapshot =>
    refine ⟨since.edited, fun shown same => since.held shown same, fun watcher same => ?_⟩
    obtain rfl := Option.some.inj same
    exact ⟨rfl, rfl⟩
  | created watcher =>
    refine ⟨since.edited, since.held, fun started same => ?_⟩
    obtain rfl := Option.some.inj same
    exact since.watcher watcher rfl
  | waiting watcher => exact ⟨since.edited, since.held, since.watcher⟩
  | looked watcher looked =>
    obtain ⟨same, subscribed⟩ := since.watcher watcher rfl
    unfold Moment.step
    simp only
    obtain ⟨reloaded, -⟩ | ⟨snapshot, reads, reloaded⟩ := watcher.reload_cases looked tree.read
    · rw [reloaded]
      exact ⟨since.edited, since.held, since.watcher⟩
    · rw [reloaded]
      rw [same] at reads
      refine ⟨since.edited, fun shown isShown => ?_, fun after isAfter => ?_⟩
      · -- the subscriber sees what was read just now
        obtain rfl : snapshot = shown := by
          have sent : (watcher.channel.send snapshot).current = shown := Option.some.inj isShown
          rw [Channel.send, if_pos subscribed] at sent
          exact sent
        exact Since.read since.edited reads
      · obtain rfl := Option.some.inj isAfter
        refine ⟨same, ?_⟩
        show (watcher.channel.send snapshot).subscribed = true
        rw [Channel.send, if_pos subscribed]
        exact subscribed

/-- What is known of a moment. -/
inductive Known (datastore : Datastore) (moment : Moment) : Prop where
  /-- The documents were not read yet. -/
  | starting (phase : moment.phase = .starting)
  /-- They could not be read. -/
  | stopped (phase : moment.phase = .stopped)
  /-- They were read, and it is known where the snapshot comes from. -/
  | since {first : FileTree} {initial : Snapshot}
      (reads : datastore.snapshot first.read = .ok initial)
      (since : moment.Since datastore first)

theorem known_of_starting (phase : moment.phase = .starting) :
    (moment.step datastore).Known datastore := by
  obtain ⟨tree, _, source⟩ := moment
  obtain rfl : _ = Phase.starting := phase
  unfold Moment.step
  simp only
  cases reads : datastore.snapshot tree.read with
  | error fault => exact .stopped rfl
  | ok snapshot =>
    refine .since reads ⟨.refl tree, fun shown same => ?_, fun watcher same => by cases same⟩
    obtain rfl := Option.some.inj same
    exact ⟨tree, .refl tree, reads, rfl⟩

theorem Known.step (known : moment.Known datastore) : (moment.step datastore).Known datastore := by
  cases known with
  | starting phase => exact known_of_starting phase
  | stopped phase =>
    obtain ⟨tree, _, source⟩ := moment
    obtain rfl : _ = Phase.stopped := phase
    exact .stopped rfl
  | since reads since =>
    by_cases phase : moment.phase = .starting
    · exact known_of_starting phase
    · exact .since reads (since.step phase)

theorem Known.after (known : moment.Known datastore) (event : WatchEvent) :
    (moment.after datastore event).Known datastore := by
  cases event with
  | step => exact known.step
  | edit documentClass node =>
    cases known with
    | starting phase => exact .starting phase
    | stopped phase => exact .stopped phase
    | since reads since => exact .since reads (since.edit reads documentClass node)

/-- It stays known, however edits and steps follow each other. -/
theorem Known.run (known : moment.Known datastore) (events : List WatchEvent) :
    (Moment.run datastore events moment).Known datastore := by
  induction events generalizing moment with
  | nil => exact known
  | cons event rest ih => exact ih (known.after event)

/-! ## §2. A whole poll. -/

end Moment

/-- The watcher compares with the present contents, and it has not looked at
others. -/
def Phase.IsSettled (contents : Fingerprint) (phase : Phase) : Prop :=
  ∃ watcher, watcher.baseline = some contents
    ∧ (phase = .waiting watcher ∨ phase = .looked watcher contents)

theorem Phase.IsSettled.exists_watcher {contents : Fingerprint} {phase : Phase}
    (settled : phase.IsSettled contents) :
    ∃ watcher, phase.watcher? = some watcher ∧ watcher.baseline = some contents := by
  obtain ⟨watcher, baseline, rfl | rfl⟩ := settled
  · exact ⟨watcher, rfl, baseline⟩
  · exact ⟨watcher, rfl, baseline⟩

namespace Moment

variable {datastore : Datastore} {moment : Moment} {watcher : Watcher}

theorem step_tree (datastore : Datastore) (moment : Moment) :
    (moment.step datastore).tree = moment.tree := by
  unfold Moment.step
  simp only
  split
  · split <;> rfl
  · rfl
  · rfl
  · rfl
  · rfl
  · split <;> rfl

theorem step_contents (datastore : Datastore) (moment : Moment) :
    (moment.step datastore).contents datastore = moment.contents datastore := by
  unfold contents
  rw [step_tree]

theorem phase_step_of_waiting (phase : moment.phase = .waiting watcher) :
    (moment.step datastore).phase = .looked watcher (moment.contents datastore) := by
  unfold Moment.step
  rw [phase]

theorem phase_step_of_looked {looked : Fingerprint}
    (phase : moment.phase = .looked watcher looked) :
    (moment.step datastore).phase = .waiting (watcher.reload looked moment.tree.read).1 := by
  unfold Moment.step
  rw [phase]
  simp only
  split <;> rename_i reloaded <;> rw [reloaded]

theorem settled_step (settled : moment.phase.IsSettled (moment.contents datastore)) :
    (moment.step datastore).phase.IsSettled ((moment.step datastore).contents datastore)
      ∧ (moment.step datastore).phase.shown? = moment.phase.shown? := by
  rw [step_contents]
  obtain ⟨watcher, baseline, phase | phase⟩ := settled
  · rw [phase_step_of_waiting phase, phase]
    exact ⟨⟨watcher, baseline, .inr rfl⟩, rfl⟩
  · -- the contents did not change, so nothing is read
    have idle : (watcher.reload (moment.contents datastore) moment.tree.read).1 = watcher := by
      rw [Watcher.reload, if_pos baseline]
    rw [phase_step_of_looked phase, idle, phase]
    exact ⟨⟨watcher, baseline, .inl rfl⟩, rfl⟩

/-- A step that ends a poll of the present contents settles. -/
theorem settled_of_looked {final : Snapshot}
    (reads : datastore.snapshot moment.tree.read = .ok final)
    (phase : moment.phase = .looked watcher (moment.contents datastore))
    (same : watcher.datastore = datastore) :
    (moment.step datastore).phase.IsSettled (moment.contents datastore) := by
  refine ⟨_, ?_, .inl (phase_step_of_looked phase)⟩
  obtain ⟨reloaded, idle⟩ | ⟨snapshot, -, reloaded⟩ :=
    watcher.reload_cases (moment.contents datastore) moment.tree.read
  · rw [reloaded]
    obtain baseline | ⟨fault, fails⟩ := idle
    · exact baseline
    · rw [same, reads] at fails
      cases fails
  · rw [reloaded]

/-- From any moment between two polls a whole poll settles. -/
theorem settled_of_waiting {final : Snapshot}
    (reads : datastore.snapshot moment.tree.read = .ok final)
    (phase : moment.phase = .waiting watcher) (same : watcher.datastore = datastore) :
    ((step datastore)^[2] moment).phase.IsSettled (moment.contents datastore) := by
  have looks : (moment.step datastore).phase = .looked watcher (moment.contents datastore) :=
    phase_step_of_waiting phase
  rw [← step_contents datastore moment] at looks ⊢
  exact settled_of_looked (by rw [step_tree]; exact reads) looks same

/-- So does the rest of a poll with another one after it. -/
theorem settled_after_looked {looked : Fingerprint} {final : Snapshot}
    (reads : datastore.snapshot moment.tree.read = .ok final)
    (phase : moment.phase = .looked watcher looked) (same : watcher.datastore = datastore) :
    ((step datastore)^[3] moment).phase.IsSettled (moment.contents datastore) := by
  have sameNext : (watcher.reload looked moment.tree.read).1.datastore = datastore := by
    obtain ⟨reloaded, -⟩ | ⟨snapshot, -, reloaded⟩ := watcher.reload_cases looked moment.tree.read
    · rw [reloaded]
      exact same
    · rw [reloaded]
      exact same
  rw [← step_contents datastore moment]
  exact settled_of_waiting (by rw [step_tree]; exact reads) (phase_step_of_looked phase) sameNext

/-- A baseline settles at once. -/
theorem settled_of_created (phase : moment.phase = .created watcher)
    (same : watcher.datastore = datastore) :
    (moment.step datastore).phase.IsSettled (moment.contents datastore) := by
  refine ⟨watcher.start moment.tree.read, ?_, .inl ?_⟩
  · rw [Watcher.start, same]
    rfl
  · unfold Moment.step
    rw [phase]

theorem settled_of_loaded {snapshot : Snapshot} (phase : moment.phase = .loaded snapshot) :
    ((step datastore)^[2] moment).phase.IsSettled (moment.contents datastore) := by
  have created : (moment.step datastore).phase = .created (.create datastore snapshot) := by
    unfold Moment.step
    rw [phase]
  rw [← step_contents datastore moment]
  exact settled_of_created created rfl

theorem settled_of_starting {final : Snapshot}
    (reads : datastore.snapshot moment.tree.read = .ok final) (phase : moment.phase = .starting) :
    ((step datastore)^[3] moment).phase.IsSettled (moment.contents datastore) := by
  have loaded : (moment.step datastore).phase = .loaded final := by
    unfold Moment.step
    rw [phase]
    simp only
    rw [reads]
  rw [← step_contents datastore moment]
  exact settled_of_loaded loaded

theorem iterate_tree (datastore : Datastore) (moment : Moment) (count : Nat) :
    ((step datastore)^[count] moment).tree = moment.tree := by
  induction count generalizing moment with
  | zero => rfl
  | succ count ih => rw [Function.iterate_succ_apply, ih, step_tree]

theorem iterate_contents (datastore : Datastore) (moment : Moment) (count : Nat) :
    ((step datastore)^[count] moment).contents datastore = moment.contents datastore := by
  unfold contents
  rw [iterate_tree]

theorem known_iterate (known : moment.Known datastore) (count : Nat) :
    ((step datastore)^[count] moment).Known datastore := by
  induction count generalizing moment with
  | zero => exact known
  | succ count ih => exact ih known.step

/-- It stays settled, and it goes on showing what it shows. -/
theorem settled_iterate (settled : moment.phase.IsSettled (moment.contents datastore))
    (count : Nat) :
    ((step datastore)^[count] moment).phase.IsSettled (moment.contents datastore)
      ∧ ((step datastore)^[count] moment).phase.shown? = moment.phase.shown? := by
  induction count generalizing moment with
  | zero => exact ⟨settled, rfl⟩
  | succ count ih =>
    obtain ⟨settledNext, shown⟩ := settled_step settled
    obtain ⟨settledLast, shownLast⟩ := ih settledNext
    rw [step_contents] at settledLast
    exact ⟨settledLast, shownLast.trans shown⟩

/-- A watcher that is known is one of the datastore. -/
theorem Known.datastore_eq (known : moment.Known datastore)
    (there : moment.phase.watcher? = some watcher) : watcher.datastore = datastore := by
  cases known with
  | starting phase => rw [phase] at there; cases there
  | stopped phase => rw [phase] at there; cases there
  | since reads since => exact (since.watcher watcher there).1

/-- Some number of steps up to the end of the next poll settles. -/
theorem exists_settled (known : moment.Known datastore) {final : Snapshot}
    (reads : datastore.snapshot moment.tree.read = .ok final)
    (started : moment.phase ≠ .stopped) :
    ∃ early ≤ moment.phase.remaining,
      ((step datastore)^[early] moment).phase.IsSettled (moment.contents datastore) := by
  cases phase : moment.phase with
  | starting => exact ⟨3, Nat.le_add_right 3 2, settled_of_starting reads phase⟩
  | stopped => exact absurd phase started
  | loaded snapshot => exact ⟨2, Nat.le_add_right 2 2, settled_of_loaded phase⟩
  | created watcher =>
    have same : watcher.datastore = datastore := known.datastore_eq (by rw [phase]; rfl)
    exact ⟨1, Nat.le_add_right 1 2, settled_of_created phase same⟩
  | waiting watcher =>
    have same : watcher.datastore = datastore := known.datastore_eq (by rw [phase]; rfl)
    exact ⟨2, Nat.le_refl 2, settled_of_waiting reads phase same⟩
  | looked watcher looked =>
    have same : watcher.datastore = datastore := known.datastore_eq (by rw [phase]; rfl)
    exact ⟨3, Nat.le_refl 3, settled_after_looked reads phase same⟩

/-- Once the edits stop and a whole poll has passed it is settled. -/
theorem settled_of_remaining (known : moment.Known datastore) {final : Snapshot}
    (reads : datastore.snapshot moment.tree.read = .ok final) (started : moment.phase ≠ .stopped)
    {count : Nat} (enough : moment.phase.remaining ≤ count) :
    ((step datastore)^[count] moment).phase.IsSettled (moment.contents datastore) := by
  obtain ⟨early, before, settled⟩ := exists_settled known reads started
  obtain ⟨more, rfl⟩ := Nat.exists_eq_add_of_le' (Nat.le_trans before enough)
  rw [← iterate_contents datastore moment early] at settled ⊢
  rw [Function.iterate_add_apply]
  exact (settled_iterate settled more).1

/-! ## §3. Steps that belong together. -/

end Moment

/-- What was read in one step is what the next one of its pair finds: the
present contents are the source where a step is pending, and the baseline is
the source where there is one. -/
def Phase.IsWhole (contents source : Fingerprint) : Phase → Prop
  | .starting | .stopped => True
  | .loaded _ | .created _ => contents = source
  | .waiting watcher => watcher.baseline = some source
  | .looked watcher found => watcher.baseline = some source ∧ found = contents

/-- Where it is settled the source is the present contents. -/
theorem Phase.IsWhole.source_eq {contents source : Fingerprint} {phase : Phase}
    (whole : phase.IsWhole contents source) (settled : phase.IsSettled contents) :
    source = contents := by
  obtain ⟨watcher, baseline, rfl | rfl⟩ := settled
  · exact Option.some.inj ((show watcher.baseline = some source from whole).symm.trans baseline)
  · exact Option.some.inj (whole.1.symm.trans baseline)

namespace Moment

variable {datastore : Datastore} {moment : Moment}

theorem whole_step (known : moment.Known datastore)
    (whole : moment.phase.IsWhole (moment.contents datastore) moment.source) :
    (moment.step datastore).phase.IsWhole ((moment.step datastore).contents datastore)
      (moment.step datastore).source := by
  rw [step_contents]
  unfold Moment.step
  cases phase : moment.phase with
  | starting =>
    simp only
    cases datastore.snapshot moment.tree.read with
    | error fault => trivial
    | ok snapshot => rfl
  | stopped =>
    simp only
    rw [phase]
    trivial
  | loaded snapshot => rw [phase] at whole; exact whole
  | created watcher =>
    rw [phase] at whole
    have same : watcher.datastore = datastore := known.datastore_eq (by rw [phase]; rfl)
    show (watcher.start moment.tree.read).baseline = some moment.source
    rw [Watcher.start, same]
    exact congrArg some whole
  | waiting watcher => rw [phase] at whole; exact ⟨whole, rfl⟩
  | looked watcher found =>
    rw [phase] at whole
    obtain ⟨baseline, present⟩ := whole
    simp only
    obtain ⟨reloaded, -⟩ | ⟨snapshot, -, reloaded⟩ := watcher.reload_cases found moment.tree.read
    · rw [reloaded]
      exact baseline
    · rw [reloaded]
      exact congrArg some present

theorem whole_after (known : moment.Known datastore)
    (whole : moment.phase.IsWhole (moment.contents datastore) moment.source) (event : WatchEvent)
    (undisturbed : moment.phase.isPending = true →
      (moment.after datastore event).contents datastore = moment.contents datastore) :
    (moment.after datastore event).phase.IsWhole ((moment.after datastore event).contents datastore)
      (moment.after datastore event).source := by
  cases event with
  | step => exact whole_step known whole
  | edit documentClass node =>
    -- an edit leaves the program where it is
    show moment.phase.IsWhole _ moment.source
    cases phase : moment.phase with
    | starting => trivial
    | stopped => trivial
    | waiting watcher => rw [phase] at whole; exact whole
    | loaded snapshot =>
      rw [undisturbed (by rw [phase]; rfl)]
      rw [phase] at whole
      exact whole
    | created watcher =>
      rw [undisturbed (by rw [phase]; rfl)]
      rw [phase] at whole
      exact whole
    | looked watcher found =>
      rw [undisturbed (by rw [phase]; rfl)]
      rw [phase] at whole
      exact whole

theorem whole_run (known : moment.Known datastore)
    (whole : moment.phase.IsWhole (moment.contents datastore) moment.source)
    {events : List WatchEvent} (undisturbed : moment.Undisturbed datastore events) :
    (run datastore events moment).phase.IsWhole ((run datastore events moment).contents datastore)
      (run datastore events moment).source := by
  induction events generalizing moment with
  | nil => exact whole
  | cons event rest ih =>
    exact ih (known.after event) (whole_after known whole event undisturbed.1) undisturbed.2

/-! ## §4. Catching up. -/

/-- Where the baseline is the source the snapshot is that of the files. -/
theorem shown_of_source (known : moment.Known datastore) {final : Snapshot}
    (reads : datastore.snapshot moment.tree.read = .ok final) {watcher : Watcher}
    (there : moment.phase.watcher? = some watcher)
    (source : moment.source = moment.contents datastore) :
    watcher.channel.current = final := by
  cases known with
  | starting phase => rw [phase] at there; cases there
  | stopped phase => rw [phase] at there; cases there
  | @since first initial readsFirst since =>
    have held : moment.phase.held? = some watcher.channel.current := by
      cases phase : moment.phase <;> rw [phase] at there <;> cases there <;> rfl
    obtain ⟨tree, edited, readsTree, same⟩ := since.held _ held
    have alike : moment.tree.read = tree.read :=
      edited.read_eq since.edited readsFirst readsTree (source.symm.trans same.symm)
    rw [alike, readsTree] at reads
    exact Except.ok.inj reads

/-- A moment that stays known and whole as the program goes on. -/
theorem whole_iterate (known : moment.Known datastore)
    (whole : moment.phase.IsWhole (moment.contents datastore) moment.source) (count : Nat) :
    ((step datastore)^[count] moment).phase.IsWhole
      (((step datastore)^[count] moment).contents datastore)
      ((step datastore)^[count] moment).source := by
  induction count generalizing moment with
  | zero => exact whole
  | succ count ih => exact ih known.step (whole_step known whole)

/-- However edits of the data files fall between the steps of the start and
of the watcher: if the edits stop while the documents can be read, and at
least one whole poll follows, the snapshot that is shown is that of the
files; unless it was read from other contents, and the baseline, taken at
another step, is the present ones.  If no edit changed the contents between
two steps that belong together it is that of the files in any case. -/
theorem converges (datastore : Datastore) (events : List WatchEvent) (tree : FileTree)
    {final : Snapshot} {quiet last : Moment} (stops : run datastore events (initial tree) = quiet)
    (reads : datastore.snapshot quiet.tree.read = .ok final) (started : quiet.phase ≠ .stopped)
    {count : Nat} (enough : quiet.phase.remaining ≤ count)
    (passes : (step datastore)^[count] quiet = last) :
    (last.phase.shown? = some final
        ∨ last.phase.baseline? = some (last.contents datastore)
          ∧ last.source ≠ last.contents datastore)
      ∧ ((initial tree).Undisturbed datastore events → last.phase.shown? = some final) := by
  subst stops passes
  have known : (run datastore events (initial tree)).Known datastore :=
    Known.run (.starting rfl) events
  have settled := settled_of_remaining known reads started enough
  have wholeFirst : Phase.IsWhole ((initial tree).contents datastore) [] .starting := trivial
  have wholeLast (undisturbed : (initial tree).Undisturbed datastore events) :=
    whole_iterate known (whole_run (.starting rfl) wholeFirst undisturbed) count
  rw [← iterate_contents datastore _ count] at settled
  have readsLast : datastore.snapshot ((step datastore)^[count]
      (run datastore events (initial tree))).tree.read = .ok final := by
    rw [iterate_tree]
    exact reads
  have knownLast := known_iterate known count
  generalize (step datastore)^[count] (run datastore events (initial tree)) = last
    at settled wholeLast readsLast knownLast
  obtain ⟨watcher, there, baseline⟩ := settled.exists_watcher
  have shown (source : last.source = last.contents datastore) :
      last.phase.shown? = some final := by
    unfold Phase.shown?
    rw [there]
    exact congrArg some (shown_of_source knownLast readsLast there source)
  constructor
  · by_cases source : last.source = last.contents datastore
    · exact .inl (shown source)
    · refine .inr ⟨?_, source⟩
      unfold Phase.baseline?
      rw [there]
      exact baseline
  · exact fun undisturbed => shown ((wholeLast undisturbed).source_eq settled)

/-! ## §5. Instances. -/

/-- An edit of a data file that stocks another document. -/
theorem put_stocked (documents : Documents) (documentClass : DocumentClass)
    (document : documentClass.Document) :
    (Datastore.stocked documents).put (Datastore.standard.location documentClass).data
        (some (Datastore.stockedFile (Function.update documents documentClass document)
          documentClass))
      = Datastore.stocked (Function.update documents documentClass document) := by
  cases documentClass <;> rfl

/-- Documents with one market. -/
def listed : Documents := .of [] [⟨"btc", "BTC", "BTC", "USD", true, "grid"⟩] default

/-- The same documents without the market. -/
def cleared : Documents := Function.update listed .markets []

/-- The market is removed by hand. -/
def clearing : WatchEvent := .edit .markets (some (Datastore.stockedFile cleared .markets))

theorem after_clearing (phase : Phase) (source : Fingerprint) :
    after Datastore.standard ⟨Datastore.stocked listed, phase, source⟩ clearing
      = ⟨Datastore.stocked cleared, phase, source⟩ :=
  congrArg (fun tree => Moment.mk tree phase source) (put_stocked listed .markets [])

/-- What callers see of the exchange of both documents. -/
def listedExchange : Exchange := ⟨"", "", ⟨0, [], []⟩, .empty⟩

/-- What callers see of the documents with the market. -/
def listedSnapshot : Snapshot := ⟨[], [⟨"btc", "BTC", "BTC", "USD", true, "grid"⟩], listedExchange⟩

theorem snapshot_listed :
    Datastore.standard.snapshot (Datastore.stocked listed).read = .ok listedSnapshot :=
  Datastore.snapshot_stocked listed rfl rfl rfl

theorem snapshot_cleared :
    Datastore.standard.snapshot (Datastore.stocked cleared).read = .ok ⟨[], [], listedExchange⟩ :=
  Datastore.snapshot_stocked cleared rfl rfl rfl

theorem run_cons (event : WatchEvent) (rest : List WatchEvent) :
    run datastore (event :: rest) moment = run datastore rest (moment.after datastore event) :=
  rfl

theorem after_step : moment.after datastore .step = moment.step datastore :=
  rfl

/-- A step of the program disturbs nothing. -/
theorem undisturbed_step_iff {rest : List WatchEvent} :
    moment.Undisturbed datastore (.step :: rest)
      ↔ (moment.step datastore).Undisturbed datastore rest :=
  ⟨fun undisturbed => undisturbed.2, fun undisturbed =>
    ⟨fun _ => step_contents datastore moment, undisturbed⟩⟩

/-- The documents are read first. -/
theorem step_initial {tree : FileTree} {snapshot : Snapshot}
    (reads : datastore.snapshot tree.read = .ok snapshot) :
    (initial tree).step datastore
      = ⟨tree, .loaded snapshot, Watcher.fingerprint datastore tree.read⟩ := by
  unfold Moment.step initial
  simp only
  rw [reads]
  rfl

/-- The watcher of these documents, between two polls. -/
def listedWatcher : Watcher :=
  (Watcher.create Datastore.standard listedSnapshot).start (Datastore.stocked listed).read

/-- The contents of the data files with the market. -/
def listedContents : Fingerprint :=
  Watcher.fingerprint Datastore.standard (Datastore.stocked listed).read

/-- The documents are read, and the watcher takes its baseline. -/
theorem run_three_steps (rest : List WatchEvent) :
    run Datastore.standard (.step :: .step :: .step :: rest) (initial (Datastore.stocked listed))
      = run Datastore.standard rest
          ⟨Datastore.stocked listed, .waiting listedWatcher, listedContents⟩ := by
  rw [run_cons, after_step, step_initial snapshot_listed]
  rfl

theorem undisturbed_clearing :
    (initial (Datastore.stocked listed)).Undisturbed Datastore.standard
      [.step, .step, .step, clearing] := by
  rw [undisturbed_step_iff, step_initial snapshot_listed, undisturbed_step_iff,
    undisturbed_step_iff]
  exact ⟨fun pending => (by cases pending), trivial⟩

/-- A market that is removed between two polls is gone from the snapshot
after one more. -/
theorem converges_cleared :
    ((step Datastore.standard)^[2] (run Datastore.standard [.step, .step, .step, clearing]
      (initial (Datastore.stocked listed)))).phase.shown? = some ⟨[], [], listedExchange⟩ := by
  have quiet : run Datastore.standard [.step, .step, .step, clearing]
      (initial (Datastore.stocked listed))
        = ⟨Datastore.stocked cleared, .waiting listedWatcher, listedContents⟩ := by
    rw [run_three_steps, run_cons, after_clearing]
    rfl
  have caughtUp := converges Datastore.standard [.step, .step, .step, clearing]
    (Datastore.stocked listed) quiet snapshot_cleared Phase.noConfusion (Nat.le_refl 2) rfl
  rw [quiet]
  exact caughtUp.2 undisturbed_clearing

/-- A market that is removed after the documents were read and before the
baseline is taken stays in the snapshot, however many polls follow. -/
theorem stale_after_start :
    ∃ tree events final,
      Datastore.standard.snapshot (run Datastore.standard events (initial tree)).tree.read
          = .ok final
        ∧ (run Datastore.standard events (initial tree)).phase ≠ .stopped
        ∧ ∀ count, (run Datastore.standard events (initial tree)).phase.remaining ≤ count →
          ((step Datastore.standard)^[count]
            (run Datastore.standard events (initial tree))).phase.shown? ≠ some final := by
  have quiet : run Datastore.standard [.step, clearing] (initial (Datastore.stocked listed))
      = ⟨Datastore.stocked cleared, .loaded listedSnapshot, listedContents⟩ := by
    rw [run_cons, after_step, step_initial snapshot_listed, run_cons, after_clearing]
    rfl
  refine ⟨Datastore.stocked listed, [.step, clearing], ⟨[], [], listedExchange⟩, ?_⟩
  rw [quiet]
  refine ⟨snapshot_cleared, Phase.noConfusion, fun count enough => ?_⟩
  -- two steps take the baseline, and nothing that is shown changes after that
  obtain ⟨more, rfl⟩ := Nat.exists_eq_add_of_le' (Nat.le_trans (by decide : 2 ≤ 4) enough)
  have settled : ((step Datastore.standard)^[2]
      ⟨Datastore.stocked cleared, .loaded listedSnapshot, listedContents⟩).phase.IsSettled
        (((step Datastore.standard)^[2]
          ⟨Datastore.stocked cleared, .loaded listedSnapshot, listedContents⟩).contents
            Datastore.standard) := by
    rw [iterate_contents]
    exact settled_of_loaded rfl
  rw [Function.iterate_add_apply, (settled_iterate settled more).2]
  show some listedSnapshot ≠ some _
  intro same
  cases same

end Moment

end TradingConfig
