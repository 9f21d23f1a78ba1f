/-
  TradingConfig.Proofs.Snapshot.Consistency
  ────────────────────────────────
  **WHEN A SNAPSHOT IS OF ONE INSTANT.**

  The three parts of a snapshot are what the documents held at three instants
  in their order, while it was read.  They need not be of one instant: a call
  can change a document that was read already, and a later one a document
  that is still to be read.  Where calls never follow each other like that,
  there is an instant at which the documents held just what was read
  (`SnapshotReading.snapshot_of_instants`): the one before the first call that
  was missed, or the last one if none was.
-/
import TradingConfig.Proofs.Datastore.Independence
import TradingConfig.Snapshot.Interleaving

namespace TradingConfig

/-! ## §1. What was read. -/

/-- No strategy is the one that a dangling market refers to. -/
theorem Snapshot.unknown_of_dangling (snapshot : Snapshot) {market : Market}
    (dangling : market ∈ snapshot.dangling) :
    ∀ strategy ∈ snapshot.strategies, strategy.id ≠ market.strategyId := by
  obtain ⟨-, unknown⟩ := List.mem_filter.mp dangling
  intro strategy member same
  have known : snapshot.knows market.strategyId = true :=
    List.any_eq_true.mpr ⟨strategy, member, decide_eq_true same⟩
  rw [known] at unknown
  cases unknown

namespace SnapshotProgress

variable {datastore : Datastore} {files others : Store.Files} {progress : SnapshotProgress}

/-- What was read so far is what given files hold. -/
def Holds (datastore : Datastore) (files : Store.Files) : SnapshotProgress → Prop
  | .begun => True
  | .readStrategies strategies => datastore.readStrategies files = .ok strategies
  | .readMarkets strategies markets =>
    datastore.readStrategies files = .ok strategies ∧ datastore.readMarkets files = .ok markets
  | .ended result => ∀ snapshot, result = .ok snapshot → datastore.snapshot files = .ok snapshot

/-- What was read depends on the documents that were read. -/
theorem Holds.congr (holds : progress.Holds datastore files)
    (same : ∀ documentClass, progress.hasRead documentClass = true →
      datastore.load others documentClass = datastore.load files documentClass) :
    progress.Holds datastore others := by
  cases progress with
  | begun => trivial
  | readStrategies strategies =>
    exact (Datastore.readStrategies_congr (same .strategies rfl)).trans holds
  | readMarkets strategies markets =>
    exact ⟨(Datastore.readStrategies_congr (same .strategies rfl)).trans holds.1,
      (Datastore.readMarkets_congr (same .markets rfl)).trans holds.2⟩
  | ended result =>
    intro snapshot ends
    rw [← holds snapshot ends]
    unfold Datastore.snapshot
    rw [Datastore.readStrategies_congr (same .strategies rfl),
      Datastore.readMarkets_congr (same .markets rfl),
      Datastore.readExchange_congr (same .exchange rfl)]

/-- A document that is read next is read from the given files, if the present
ones hold the same where nothing was read. -/
theorem Holds.next (holds : progress.Holds datastore files)
    (same : ∀ documentClass, progress.hasRead documentClass = false →
      datastore.load others documentClass = datastore.load files documentClass) :
    (progress.next datastore others).Holds datastore files := by
  cases progress with
  | begun =>
    unfold SnapshotProgress.next
    rw [Datastore.readStrategies_congr (same .strategies rfl)]
    cases read : datastore.readStrategies files with
    | error fault => exact fun snapshot ends => by cases ends
    | ok strategies => exact read
  | readStrategies strategies =>
    unfold SnapshotProgress.next
    rw [Datastore.readMarkets_congr (same .markets rfl)]
    cases read : datastore.readMarkets files with
    | error fault => exact fun snapshot ends => by cases ends
    | ok markets => exact ⟨holds, read⟩
  | readMarkets strategies markets =>
    unfold SnapshotProgress.next
    rw [Datastore.readExchange_congr (same .exchange rfl)]
    cases read : datastore.readExchange files with
    | error fault => exact fun snapshot ends => by cases ends
    | ok exchange =>
      intro snapshot ends
      obtain rfl := Except.ok.inj ends
      unfold Datastore.snapshot
      rw [holds.1, holds.2, read]
      rfl
  | ended result => exact holds

/-- What was read stays read. -/
theorem hasRead_next {documentClass : DocumentClass}
    (unread : (progress.next datastore files).hasRead documentClass = false) :
    progress.hasRead documentClass = false := by
  cases progress with
  | begun => rfl
  | readStrategies strategies =>
    unfold SnapshotProgress.next at unread
    cases read : datastore.readMarkets files with
    | error fault => rw [read] at unread; cases unread
    | ok markets =>
      rw [read] at unread
      cases documentClass with
      | strategies => cases unread
      | markets => rfl
      | exchange => rfl
  | readMarkets strategies markets =>
    unfold SnapshotProgress.next at unread
    cases read : datastore.readExchange files with
    | error fault => rw [read] at unread; cases unread
    | ok exchange => rw [read] at unread; cases unread
  | ended result => cases unread

end SnapshotProgress

/-! ## §2. Instants. -/

namespace SnapshotReading

variable {datastore : Datastore} {home : Place} {reading : SnapshotReading}

theorem tree_mem_instants (underWay : reading.progress.isUnderWay = true)
    (events : List SnapshotEvent) : reading.tree ∈ instants datastore home events reading := by
  cases events with
  | nil =>
    unfold instants
    rw [if_pos underWay]
    exact List.mem_cons_self
  | cons event rest =>
    unfold instants
    rw [if_pos underWay]
    exact List.mem_cons_self

theorem instants_of_underWay (underWay : reading.progress.isUnderWay = true) (event : SnapshotEvent)
    (rest : List SnapshotEvent) :
    instants datastore home (event :: rest) reading
      = reading.tree :: instants datastore home rest (reading.after datastore home event) := by
  rw [instants, if_pos underWay]

/-- There is none after the end. -/
theorem instants_of_ended (ended : reading.progress.isUnderWay = false)
    (events : List SnapshotEvent) : instants datastore home events reading = [] := by
  have notUnderWay : ¬ reading.progress.isUnderWay = true := by
    rw [ended]
    exact Bool.noConfusion
  cases events with
  | nil => rw [instants, if_neg notUnderWay]
  | cons event rest => rw [instants, if_neg notUnderWay]

theorem isUnderWay_after (ended : reading.progress.isUnderWay = false) (event : SnapshotEvent) :
    (reading.after datastore home event).progress.isUnderWay = false := by
  obtain ⟨tree, locks, progress⟩ := reading
  cases progress with
  | begun => cases ended
  | readStrategies strategies => cases ended
  | readMarkets strategies markets => cases ended
  | ended result =>
    cases event with
    | read => rfl
    | call documentClass call => rfl

/-- The instants from an event on are instants. -/
theorem instants_after_sublist (event : SnapshotEvent) (rest : List SnapshotEvent) :
    (instants datastore home rest (reading.after datastore home event)).Sublist
      (instants datastore home (event :: rest) reading) := by
  cases underWay : reading.progress.isUnderWay with
  | true =>
    rw [instants_of_underWay underWay]
    exact List.sublist_cons_self _ _
  | false =>
    rw [instants_of_ended (isUnderWay_after underWay event)]
    exact List.nil_sublist _

/-! ## §3. Three instants. -/

/-- The parts that are still to be read are read at instants in their
order. -/
def ReadsAt (datastore : Datastore) (snapshot : Snapshot) :
    SnapshotProgress → List FileTree → Prop
  | .begun, trees => ∃ first second third, [first, second, third].Sublist trees
    ∧ datastore.readStrategies first.read = .ok snapshot.strategies
    ∧ datastore.readMarkets second.read = .ok snapshot.markets
    ∧ datastore.readExchange third.read = .ok snapshot.exchange
  | .readStrategies strategies, trees => strategies = snapshot.strategies
    ∧ ∃ second third, [second, third].Sublist trees
      ∧ datastore.readMarkets second.read = .ok snapshot.markets
      ∧ datastore.readExchange third.read = .ok snapshot.exchange
  | .readMarkets strategies markets, trees => strategies = snapshot.strategies
    ∧ markets = snapshot.markets
    ∧ ∃ third, [third].Sublist trees ∧ datastore.readExchange third.read = .ok snapshot.exchange
  | .ended result, _ => result = .ok snapshot

theorem ReadsAt.mono {snapshot : Snapshot} {progress : SnapshotProgress}
    {trees more : List FileTree} (readsAt : ReadsAt datastore snapshot progress trees)
    (sublist : trees.Sublist more) : ReadsAt datastore snapshot progress more := by
  cases progress with
  | begun =>
    obtain ⟨first, second, third, inOrder, reads⟩ := readsAt
    exact ⟨first, second, third, inOrder.trans sublist, reads⟩
  | readStrategies strategies =>
    obtain ⟨same, second, third, inOrder, reads⟩ := readsAt
    exact ⟨same, second, third, inOrder.trans sublist, reads⟩
  | readMarkets strategies markets =>
    obtain ⟨same, sameMarkets, third, inOrder, reads⟩ := readsAt
    exact ⟨same, sameMarkets, third, inOrder.trans sublist, reads⟩
  | ended result => exact readsAt

/-- One more part is read now. -/
theorem ReadsAt.read {snapshot : Snapshot} {progress : SnapshotProgress} {tree : FileTree}
    {trees : List FileTree}
    (readsAt : ReadsAt datastore snapshot (progress.next datastore tree.read) trees) :
    ReadsAt datastore snapshot progress (tree :: trees) := by
  cases progress with
  | begun =>
    unfold SnapshotProgress.next at readsAt
    cases read : datastore.readStrategies tree.read with
    | error fault => rw [read] at readsAt; cases readsAt
    | ok strategies =>
      rw [read] at readsAt
      obtain ⟨rfl, second, third, inOrder, reads⟩ := readsAt
      exact ⟨tree, second, third, inOrder.cons_cons tree, read, reads⟩
  | readStrategies strategies =>
    unfold SnapshotProgress.next at readsAt
    cases read : datastore.readMarkets tree.read with
    | error fault => rw [read] at readsAt; cases readsAt
    | ok markets =>
      rw [read] at readsAt
      obtain ⟨same, rfl, third, inOrder, reads⟩ := readsAt
      exact ⟨same, tree, third, inOrder.cons_cons tree, read, reads⟩
  | readMarkets strategies markets =>
    unfold SnapshotProgress.next at readsAt
    cases read : datastore.readExchange tree.read with
    | error fault => rw [read] at readsAt; cases readsAt
    | ok exchange =>
      rw [read] at readsAt
      obtain rfl := Except.ok.inj readsAt
      exact ⟨rfl, rfl, tree, (List.nil_sublist trees).cons_cons tree, read⟩
  | ended result => exact readsAt

theorem readsAt_of_run {events : List SnapshotEvent} {snapshot : Snapshot}
    (ends : (run datastore home events reading).progress = .ended (.ok snapshot)) :
    ReadsAt datastore snapshot reading.progress (instants datastore home events reading) := by
  induction events generalizing reading with
  | nil =>
    have ended : reading.progress = .ended (.ok snapshot) := ends
    rw [ended]
    rfl
  | cons event rest ih =>
    have onward := ih ends
    cases underWay : reading.progress.isUnderWay with
    | false =>
      -- nothing is read after the end
      cases progress : reading.progress with
      | ended result =>
        cases event with
        | read =>
          have same : (reading.after datastore home .read).progress = .ended result := by
            unfold after
            rw [progress]
            rfl
          rw [same] at onward
          exact onward
        | call documentClass call =>
          have same : (reading.after datastore home (.call documentClass call)).progress
              = .ended result := progress
          rw [same] at onward
          exact onward
      | begun => rw [progress] at underWay; cases underWay
      | readStrategies strategies => rw [progress] at underWay; cases underWay
      | readMarkets strategies markets => rw [progress] at underWay; cases underWay
    | true =>
      rw [instants_of_underWay underWay]
      cases event with
      | read => exact ReadsAt.read onward
      | call documentClass call => exact ReadsAt.mono onward (List.sublist_cons_self _ _)

/-! ## §4. One instant. -/

variable {content : String} {options : Options} {validator : Validator}

/-- A call that is served leaves the documents of the other classes as they
were, and without the lock it leaves everything. -/
theorem load_after_call (accepted : Options.parse content = .ok options)
    (separate : options.datastore.Separate) {documentClass other : DocumentClass}
    (call : documentClass.Call)
    (apart : documentClass.writes call = false ∨ other ≠ documentClass) :
    (Datastore.ofOptions options.datastore validator).load
        (reading.after (.ofOptions options.datastore validator) home
          (.call documentClass call)).tree.read other
      = (Datastore.ofOptions options.datastore validator).load reading.tree.read other := by
  obtain free | differ := apart
  · have same : (reading.after (.ofOptions options.datastore validator) home
        (.call documentClass call)).tree = reading.tree :=
      DocumentClass.tree_of_free free reading.locks reading.tree
    rw [same]
  · exact Datastore.load_of_other accepted separate differ [call] home reading.locks reading.tree

/-- What was read so far is what the files held at a cut, and the documents
that are still to be read are as they were at the cut; the cut is the present
as long as no call was missed. -/
structure CutAt (datastore : Datastore) (missed : Bool) (reading : SnapshotReading)
    (cut : FileTree) : Prop where
  /-- What was read. -/
  holds : reading.progress.Holds datastore cut.read
  /-- What is still to be read. -/
  unread : ∀ documentClass, reading.progress.hasRead documentClass = false →
    datastore.load reading.tree.read documentClass = datastore.load cut.read documentClass
  /-- Where the cut is. -/
  here : missed = false → cut = reading.tree

/-- Reading one more document keeps the cut. -/
theorem CutAt.read {missed : Bool} {cut : FileTree} (cutAt : reading.CutAt datastore missed cut) :
    (reading.after datastore home .read).CutAt datastore missed cut where
  holds := cutAt.holds.next cutAt.unread
  unread documentClass isUnread :=
    cutAt.unread documentClass (SnapshotProgress.hasRead_next isUnread)
  here := cutAt.here

/-- A call keeps the cut, unless it changes a document that is still to be
read: then the cut moves on to the present. -/
theorem CutAt.call (accepted : Options.parse content = .ok options)
    (separate : options.datastore.Separate) {missed : Bool} {cut : FileTree}
    (cutAt : reading.CutAt (.ofOptions options.datastore validator) missed cut)
    (documentClass : DocumentClass) (call : documentClass.Call)
    (noCatch : missed = true → reading.catches (.call documentClass call) = false) :
    ∃ next, (next = cut
        ∨ next = (reading.after (.ofOptions options.datastore validator) home
            (.call documentClass call)).tree ∧ reading.progress.isUnderWay = true)
      ∧ (reading.after (.ofOptions options.datastore validator) home
          (.call documentClass call)).CutAt
          (.ofOptions options.datastore validator)
          (missed || reading.misses (.call documentClass call)) next := by
  let datastore := Datastore.ofOptions options.datastore validator
  let after := reading.after datastore home (.call documentClass call)
  have kept {other : DocumentClass}
      (apart : documentClass.writes call = false ∨ other ≠ documentClass) :
      datastore.load after.tree.read other = datastore.load reading.tree.read other :=
    load_after_call accepted separate call apart
  cases writes : documentClass.writes call with
  | false =>
    -- nothing changes
    have same : after.tree = reading.tree :=
      DocumentClass.tree_of_free writes reading.locks reading.tree
    refine ⟨cut, .inl rfl, cutAt.holds, fun other isUnread => ?_, fun none => ?_⟩
    · exact (kept (.inl writes)).trans (cutAt.unread other isUnread)
    · have missedNone : missed = false := by simpa [misses, writes] using none
      exact (cutAt.here missedNone).trans same.symm
  | true =>
    cases read : reading.progress.hasRead documentClass with
    | true =>
      -- the call is missed, and what is still to be read does not change
      refine ⟨cut, .inl rfl, cutAt.holds, fun other isUnread => ?_, fun none => ?_⟩
      · have differ : other ≠ documentClass := by
          rintro rfl
          exact Bool.noConfusion (read.symm.trans isUnread)
        exact (kept (.inr differ)).trans (cutAt.unread other isUnread)
      · simp [misses, writes, read] at none
    | false =>
      -- no call was missed before, and what was read does not change
      have missedNone : missed = false := by
        cases missed with
        | false => rfl
        | true =>
          have caught := noCatch rfl
          simp [catches, writes, read] at caught
      have underWay : reading.progress.isUnderWay = true := by
        cases progress : reading.progress with
        | ended result => rw [progress] at read; cases read
        | begun => rfl
        | readStrategies strategies => rfl
        | readMarkets strategies markets => rfl
      refine ⟨after.tree, .inr ⟨rfl, underWay⟩, cutAt.holds.congr fun other isRead => ?_,
        fun other _ => rfl, fun _ => rfl⟩
      have differ : other ≠ documentClass := by
        rintro rfl
        exact Bool.noConfusion (read.symm.trans isRead)
      rw [cutAt.here missedNone]
      exact kept (.inr differ)

/-- From a cut on the snapshot is that of the cut or of a later instant. -/
theorem exists_instant (accepted : Options.parse content = .ok options)
    (separate : options.datastore.Separate) {events : List SnapshotEvent} {missed : Bool}
    {cut : FileTree} {snapshot : Snapshot}
    (cutAt : reading.CutAt (.ofOptions options.datastore validator) missed cut)
    (inOrder : InOrder (.ofOptions options.datastore validator) home missed events reading)
    (ends : (run (.ofOptions options.datastore validator) home events reading).progress
      = .ended (.ok snapshot)) :
    ∃ instant ∈ cut :: instants (.ofOptions options.datastore validator) home events reading,
      (Datastore.ofOptions options.datastore validator).snapshot instant.read = .ok snapshot := by
  induction events generalizing reading missed cut with
  | nil =>
    have ended : reading.progress = .ended (.ok snapshot) := ends
    have holds := cutAt.holds
    rw [ended] at holds
    exact ⟨cut, List.mem_cons_self, holds snapshot rfl⟩
  | cons event rest ih =>
    obtain ⟨noCatch, inOrderRest⟩ := inOrder
    have later : (instants (.ofOptions options.datastore validator) home rest
          (reading.after (.ofOptions options.datastore validator) home event)).Sublist
        (instants (.ofOptions options.datastore validator) home (event :: rest) reading) :=
      instants_after_sublist event rest
    cases event with
    | read =>
      have missedNone : (missed || reading.misses .read) = missed := Bool.or_false missed
      rw [missedNone] at inOrderRest
      obtain ⟨instant, member, reads⟩ := ih cutAt.read inOrderRest ends
      exact ⟨instant, (later.cons_cons cut).subset member, reads⟩
    | call documentClass call =>
      obtain ⟨next, place, cutNext⟩ := cutAt.call accepted separate documentClass call noCatch
      obtain ⟨instant, member, reads⟩ := ih cutNext inOrderRest ends
      refine ⟨instant, ?_, reads⟩
      obtain rfl | ⟨rfl, underWay⟩ := place
      · exact (later.cons_cons _).subset member
      · obtain rfl | member := List.mem_cons.mp member
        · have underWayStill : (reading.after (.ofOptions options.datastore validator) home
              (.call documentClass call)).progress.isUnderWay = true := underWay
          exact List.mem_cons_of_mem cut (later.subset (tree_mem_instants underWayStill rest))
        · exact List.mem_cons_of_mem cut (later.subset member)

/-- However calls fall between the readings of a snapshot, and whatever
validator decides about schemas, its parts are what the documents held at
three instants in their order.  Under separate names and with the calls in
order they are of one instant; so a market whose strategy is reported missing
was without it then. -/
theorem snapshot_of_instants (accepted : Options.parse content = .ok options)
    (validator : Validator) (home : Place) (events : List SnapshotEvent) (tree : FileTree)
    (locks : Locks) {snapshot : Snapshot}
    (ends : (run (.ofOptions options.datastore validator) home events (start tree locks)).progress
      = .ended (.ok snapshot)) :
    (∃ first second third,
        [first, second, third].Sublist
            (instants (.ofOptions options.datastore validator) home events (start tree locks))
          ∧ (Datastore.ofOptions options.datastore validator).readStrategies first.read
            = .ok snapshot.strategies
          ∧ (Datastore.ofOptions options.datastore validator).readMarkets second.read
            = .ok snapshot.markets
          ∧ (Datastore.ofOptions options.datastore validator).readExchange third.read
            = .ok snapshot.exchange)
      ∧ (options.datastore.Separate →
        InOrder (.ofOptions options.datastore validator) home false events (start tree locks) →
        ∃ instant ∈
            instants (.ofOptions options.datastore validator) home events (start tree locks),
          (Datastore.ofOptions options.datastore validator).snapshot instant.read = .ok snapshot
            ∧ ∀ market ∈ snapshot.dangling, ∀ strategies,
              (Datastore.ofOptions options.datastore validator).readStrategies instant.read
                = .ok strategies →
              ∀ strategy ∈ strategies, strategy.id ≠ market.strategyId) := by
  refine ⟨readsAt_of_run ends, fun separate inOrder => ?_⟩
  have cutAt : (start tree locks).CutAt (.ofOptions options.datastore validator) false tree :=
    ⟨trivial, fun _ _ => rfl, fun _ => rfl⟩
  obtain ⟨instant, member, reads⟩ := exists_instant accepted separate cutAt inOrder ends
  refine ⟨instant, ?_, reads, fun market dangling strategies readsStrategies => ?_⟩
  · obtain rfl | member := List.mem_cons.mp member
    · have underWay : (start instant locks).progress.isUnderWay = true := rfl
      exact tree_mem_instants underWay events
    · exact member
  · obtain ⟨readsToo, -⟩ := Datastore.readings_of_snapshot reads
    obtain rfl := Except.ok.inj (readsToo.symm.trans readsStrategies)
    exact snapshot.unknown_of_dangling dangling

/-! ## §5. Instances. -/

/-- A strategy. -/
def grid : Strategy := .plain "grid" "Grid" "" "GridStrategy"

/-- A market that refers to it. -/
def btc : Market := ⟨"btc", "BTC", "BTC", "USD", true, "grid"⟩

/-- The strategy is made. -/
def makeGrid : SnapshotEvent := .call .strategies (.create grid)

/-- The market is made. -/
def makeBtc : SnapshotEvent := .call .markets (.create btc)

/-- What callers see of the exchange of a blank record. -/
def blankExchange : Exchange := ⟨"", "", ⟨0, [], []⟩, .empty⟩

/-- Documents with the strategy and the market, or without. -/
def documents (hasStrategy hasMarket : Bool) : Documents :=
  .of (if hasStrategy then [grid.toRecord] else [])
    (if hasMarket then [btc.toRecord] else []) default

theorem snapshot_documents (hasStrategy hasMarket : Bool) :
    Datastore.standard.snapshot (Datastore.stocked (documents hasStrategy hasMarket)).read
      = .ok ⟨if hasStrategy then [grid] else [], if hasMarket then [btc] else [],
          blankExchange⟩ := by
  have strategies : Collection.strategies.entities (documents hasStrategy hasMarket .strategies)
      = .ok (if hasStrategy then [grid] else []) := by
    cases hasStrategy <;> rfl
  have markets : Collection.markets.entities (documents hasStrategy hasMarket .markets)
      = .ok (if hasMarket then [btc] else []) := by
    cases hasMarket <;> rfl
  exact Datastore.snapshot_stocked _ strategies markets rfl

/-- A call is served on the documents. -/
theorem after_call_stocked (stock : Documents) (progress : SnapshotProgress)
    (documentClass : DocumentClass) (call : documentClass.Call) :
    after Datastore.standard [] ⟨Datastore.stocked stock, .fresh, progress⟩
        (.call documentClass call)
      = ⟨Datastore.stocked (Function.update stock documentClass
          ((documentClass.program call).evaluate (stock documentClass)).2), .fresh, progress⟩ := by
  unfold after
  simp only
  rw [Datastore.serve_stocked]

theorem after_makeGrid (hasMarket : Bool) (progress : SnapshotProgress) :
    after Datastore.standard [] ⟨Datastore.stocked (documents false hasMarket), .fresh, progress⟩
        makeGrid
      = ⟨Datastore.stocked (documents true hasMarket), .fresh, progress⟩ := by
  have made : Function.update (documents false hasMarket) .strategies
      ((DocumentClass.strategies.program (.create grid)).evaluate
        (documents false hasMarket .strategies)).2 = documents true hasMarket := by
    funext documentClass
    cases documentClass <;> rfl
  exact (after_call_stocked (documents false hasMarket) progress .strategies (.create grid)).trans
    (congrArg (fun stock => SnapshotReading.mk (Datastore.stocked stock) .fresh progress) made)

theorem after_makeBtc (hasStrategy : Bool) (progress : SnapshotProgress) :
    after Datastore.standard [] ⟨Datastore.stocked (documents hasStrategy false), .fresh, progress⟩
        makeBtc
      = ⟨Datastore.stocked (documents hasStrategy true), .fresh, progress⟩ := by
  have made : Function.update (documents hasStrategy false) .markets
      ((DocumentClass.markets.program (.create btc)).evaluate
        (documents hasStrategy false .markets)).2 = documents hasStrategy true := by
    funext documentClass
    cases documentClass <;> rfl
  exact (after_call_stocked (documents hasStrategy false) progress .markets (.create btc)).trans
    (congrArg (fun stock => SnapshotReading.mk (Datastore.stocked stock) .fresh progress) made)

theorem after_read_strategies (hasStrategy hasMarket : Bool) :
    after Datastore.standard []
        ⟨Datastore.stocked (documents hasStrategy hasMarket), .fresh, .begun⟩ .read
      = ⟨Datastore.stocked (documents hasStrategy hasMarket), .fresh,
          .readStrategies (if hasStrategy then [grid] else [])⟩ := by
  obtain ⟨reads, -⟩ := Datastore.readings_of_snapshot (snapshot_documents hasStrategy hasMarket)
  unfold after SnapshotProgress.next
  simp only
  rw [reads]

theorem after_read_markets (hasStrategy hasMarket : Bool) (strategies : List Strategy) :
    after Datastore.standard [] ⟨Datastore.stocked (documents hasStrategy hasMarket), .fresh,
        .readStrategies strategies⟩ .read
      = ⟨Datastore.stocked (documents hasStrategy hasMarket), .fresh,
          .readMarkets strategies (if hasMarket then [btc] else [])⟩ := by
  obtain ⟨-, reads, -⟩ := Datastore.readings_of_snapshot (snapshot_documents hasStrategy hasMarket)
  unfold after SnapshotProgress.next
  simp only
  rw [reads]

theorem after_read_exchange (hasStrategy hasMarket : Bool) (strategies : List Strategy)
    (markets : List Market) :
    after Datastore.standard [] ⟨Datastore.stocked (documents hasStrategy hasMarket), .fresh,
        .readMarkets strategies markets⟩ .read
      = ⟨Datastore.stocked (documents hasStrategy hasMarket), .fresh,
          .ended (.ok ⟨strategies, markets, blankExchange⟩)⟩ := by
  obtain ⟨-, -, reads⟩ := Datastore.readings_of_snapshot (snapshot_documents hasStrategy hasMarket)
  unfold after SnapshotProgress.next
  simp only
  rw [reads]

theorem run_cons (event : SnapshotEvent) (rest : List SnapshotEvent) :
    run datastore home (event :: rest) reading
      = run datastore home rest (reading.after datastore home event) :=
  rfl

theorem inOrder_cons {missed : Bool} {event : SnapshotEvent} {rest : List SnapshotEvent}
    (noCatch : missed = true → reading.catches event = false)
    (inOrder : InOrder datastore home (missed || reading.misses event) rest
      (reading.after datastore home event)) :
    InOrder datastore home missed (event :: rest) reading :=
  ⟨noCatch, inOrder⟩

/-- The market is made before the markets are read, and the strategy after
it: the snapshot is that of the instant between the two. -/
theorem snapshot_of_instants_in_order :
    ∃ instant ∈ instants Datastore.standard [] [.read, makeBtc, .read, makeGrid, .read]
        (start (Datastore.stocked (documents false false)) .fresh),
      Datastore.standard.snapshot instant.read = .ok ⟨[], [btc], blankExchange⟩ := by
  have ends : (run Datastore.standard [] [.read, makeBtc, .read, makeGrid, .read]
      (start (Datastore.stocked (documents false false)) .fresh)).progress
        = .ended (.ok ⟨[], [btc], blankExchange⟩) := by
    rw [run_cons, start, after_read_strategies, run_cons, after_makeBtc, run_cons,
      after_read_markets, run_cons, after_makeGrid, run_cons, after_read_exchange]
    rfl
  have inOrder : InOrder Datastore.standard [] false [.read, makeBtc, .read, makeGrid, .read]
      (start (Datastore.stocked (documents false false)) .fresh) := by
    refine inOrder_cons Bool.noConfusion ?_
    rw [start, after_read_strategies]
    refine inOrder_cons Bool.noConfusion ?_
    rw [after_makeBtc]
    refine inOrder_cons Bool.noConfusion ?_
    rw [after_read_markets]
    refine inOrder_cons Bool.noConfusion ?_
    rw [after_makeGrid]
    exact inOrder_cons (fun _ => rfl) trivial
  obtain ⟨instant, member, reads, -⟩ :=
    (snapshot_of_instants Datastore.parse_empty .keywords [] _ _ _ ends).2
    Datastore.separate_default inOrder
  exact ⟨instant, member, reads⟩

/-- The strategy is made after the strategies were read, and the market
before the markets are read: the snapshot is of no instant, and it reports a
market without strategy whose strategy was there whenever the market was.

Made one after the other, the calls of this run are all strategies, the two
creations, all markets and the exchange: the three repository calls that one
load of a snapshot consists of, with the writers between the first and the
second.  A load that is made in one go among them is not torn; for that the
writers must come while it is under way. -/
theorem torn_snapshot :
    ∃ tree events snapshot,
      (run Datastore.standard [] events (start tree .fresh)).progress = .ended (.ok snapshot)
        ∧ ∃ market ∈ snapshot.dangling,
          ∀ instant ∈ instants Datastore.standard [] events (start tree .fresh),
            ∃ seen, Datastore.standard.snapshot instant.read = .ok seen ∧ seen ≠ snapshot
              ∧ (market ∈ seen.markets → ∃ strategy ∈ seen.strategies,
                strategy.id = market.strategyId) := by
  refine ⟨Datastore.stocked (documents false false), [.read, makeGrid, makeBtc, .read, .read],
    ⟨[], [btc], blankExchange⟩, ?_, btc, by decide, ?_⟩
  · rw [run_cons, start, after_read_strategies, run_cons, after_makeGrid, run_cons,
      after_makeBtc, run_cons, after_read_markets, run_cons, after_read_exchange]
    rfl
  · -- the instants are those of three stocks: without either, with the strategy, with both
    rw [start, instants_of_underWay rfl, after_read_strategies, instants_of_underWay rfl,
      after_makeGrid, instants_of_underWay rfl, after_makeBtc, instants_of_underWay rfl,
      after_read_markets, instants_of_underWay rfl, after_read_exchange, instants_of_ended rfl]
    have neither := snapshot_documents false false
    have strategyOnly := snapshot_documents true false
    have both := snapshot_documents true true
    intro instant member
    simp only [List.mem_cons, List.not_mem_nil, or_false] at member
    obtain rfl | rfl | rfl | rfl | rfl := member
    · exact ⟨_, neither, by decide, by decide⟩
    · exact ⟨_, neither, by decide, by decide⟩
    · exact ⟨_, strategyOnly, by decide, by decide⟩
    · exact ⟨_, both, by decide, by decide⟩
    · exact ⟨_, both, by decide, by decide⟩

end SnapshotReading

end TradingConfig
