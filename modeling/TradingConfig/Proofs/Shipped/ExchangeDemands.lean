/-
  TradingConfig.Proofs.Shipped.ExchangeDemands
  ────────────────────────────────
  **WHAT THE SHIPPED SCHEMA DEMANDS OF AN EXCHANGE THAT IS WRITTEN.**

  It demands something of what callers give, and nothing of credentials that
  are named: the violations of the document are the broken demands on the
  exchange (`violations_toRecord`).  None is broken exactly where the texts
  are filled, the numbers lie within their limits and nothing is repeated
  (`Exchange.broken_demands_iff`).
-/
import TradingConfig.Proofs.Shipped.Credentials

namespace TradingConfig

open Schema Demand

/-! ## §1. Demands on what is stored. -/

/-- A status code as it is written. -/
def codeJson (code : UInt16) : Json :=
  .num (.int code.toNat)

/-- What is demanded of a status code. -/
def codeDemands (code : UInt16) : List Demand :=
  [⟨(code.toNat : Int) ≤ 599, here (.aboveMaximum (codeJson code) (.int 599))⟩,
    ⟨(100 : Int) ≤ code.toNat, here (.belowMinimum (codeJson code) (.int 100))⟩]

/-- What is demanded of the network. -/
def NetworkRecord.demands (network : NetworkRecord) : List Demand :=
  let timeout : Int := network.connectionTimeout.toNat
  inMembers [
    ("connection-timeout", [⟨1 ≤ timeout, here (.belowMinimum (.num (.int timeout)) (.int 1))⟩]),
    ("non-fatal-error-codes", inItems codeDemands network.nonFatalCodes 0
      ++ [⟨network.nonFatalCodes.Nodup,
        here (.repeatedItems (.arr (network.nonFatalCodes.map codeJson)))⟩]),
    ("non-fatal-error-messages",
      inItems (fun message => [.filled message]) network.nonFatalMessages 0
        ++ [⟨network.nonFatalMessages.Nodup,
          here (.repeatedItems (.arr (network.nonFatalMessages.map .str)))⟩])]

/-- What is demanded of an exchange, whatever the credentials are that are
stored with it. -/
def Exchange.demands (exchange : Exchange) : List Demand :=
  inMembers [("adapter", [.filled exchange.className]), ("name", [.filled exchange.name]),
    ("network-config", (exchange.toRecord none).network.demands),
    ("other-config", exchange.settings.toBlock.demands)]

namespace Shipped

variable {book : SchemaBook}

/-! ## §2. What the rules demand. -/

theorem canonical_network (network : NetworkRecord) :
    (NetworkRecord.codec.encode network).canonical
      = .obj [("connection-timeout", .num (.int network.connectionTimeout.toNat)),
        ("non-fatal-error-codes", .arr (network.nonFatalCodes.map codeJson)),
        ("non-fatal-error-messages", .arr (network.nonFatalMessages.map .str))] := by
  have codes : (Json.arr (network.nonFatalCodes.map codeJson)).canonical
      = .arr (network.nonFatalCodes.map codeJson) := by
    rw [Json.canonical, Json.canonicalItems_eq_map, List.map_map]
    rfl
  have messages : (Json.arr (network.nonFatalMessages.map .str)).canonical
      = .arr (network.nonFatalMessages.map .str) := by
    rw [Json.canonical, Json.canonicalItems_eq_map, List.map_map]
    rfl
  -- the keys are in order already
  have members (timeout codes messages : Json) :
      (Json.obj [("connection-timeout", timeout), ("non-fatal-error-codes", codes),
          ("non-fatal-error-messages", messages)]).canonical
        = .obj [("connection-timeout", timeout.canonical),
          ("non-fatal-error-codes", codes.canonical),
          ("non-fatal-error-messages", messages.canonical)] := by
    cbv
  have written : NetworkRecord.codec.encode network
      = .obj [("connection-timeout", .num (.int network.connectionTimeout.toNat)),
        ("non-fatal-error-codes", .arr (network.nonFatalCodes.map codeJson)),
        ("non-fatal-error-messages", .arr (network.nonFatalMessages.map .str))] :=
    rfl
  rw [written, members, codes, messages]
  rfl

theorem demands_network (network : NetworkRecord) :
    Demands book [.keywords networkEntry] (NetworkRecord.codec.encode network).canonical
      network.demands := by
  -- both comparisons tell codes and messages apart
  have sameCode (numbers : Number → Number → Bool)
      (exact_ : ∀ {a b : Int}, numbers (.int a) (.int b) = true ↔ a = b) (a b : UInt16) :
      Json.sameBy numbers (codeJson a) (codeJson b) = true ↔ a = b := by
    show numbers (.int a.toNat) (.int b.toNat) = true ↔ a = b
    rw [exact_, Int.ofNat_inj, UInt16.toNat_inj]
  have sameText (numbers : Number → Number → Bool) (a b : String) :
      Json.sameBy numbers (.str a) (.str b) = true ↔ a = b :=
    beq_iff_eq
  rw [canonical_network]
  refine demands_obj rfl (by cbv) (by cbv) (.asked rfl (demands_minimum 1 _)
    (.asked rfl ?_ (.asked rfl ?_ .nil)))
  · exact demands_arr rfl rfl (fun code => demands_limits 100 599 code.toNat)
      (uniqueViolations_map rfl (sameCode _ same_int_iff) (sameCode _ sameSigned_int_iff))
  · exact demands_arr rfl rfl (fun message => demands_filled)
      (uniqueViolations_map rfl (sameText _) (sameText _))

theorem demands_exchange (exchange : Exchange) :
    Demands exchangeBook [.keywords exchangeEntry]
      (.obj ([("adapter", .str exchange.className)] ++ publicMembers exchange))
      exchange.demands := by
  have settings : Demands exchangeBook [.recurring settingsBlockAt, .keywords {}]
      (SettingsBlock.codec.encode exchange.settings.toBlock).canonical
      exchange.settings.toBlock.demands := (demands_settingsBlock _).referring
  exact demands_obj rfl (by rfl) (by rfl) (.asked rfl demands_filled (.asked rfl demands_filled
    (.asked rfl (demands_network _) (.asked rfl settings .nil))))

/-- The violations of a document of the exchange are the broken demands on
what callers give, where the credentials are named. -/
theorem violations_toRecord (exchange : Exchange) {credentials : Option SettingsBlock}
    (named : SettingsBlock.Named credentials) :
    exchangeBook.violations
        (ExchangeRecord.documentCodec.encode (exchange.toRecord credentials)).canonical
      = broken (inMembers [("exchange", exchange.demands)]) := by
  rw [violations_of_named exchange named]
  have all : Demands exchangeBook [.keywords exchangeDocument] (.obj [("exchange", _)]) _ :=
    demands_obj rfl rfl rfl (.asked rfl (demands_exchange exchange) .nil)
  exact all

end Shipped

/-! ## §3. When all demands are met. -/

/-- All that the schema of the exchange asks of an exchange that is
written. -/
structure Exchange.Sound (exchange : Exchange) : Prop where
  /-- It has a name. -/
  name : exchange.name ≠ ""
  /-- It has a class. -/
  className : exchange.className ≠ ""
  /-- The time-out is at least a second. -/
  timeout : 1 ≤ exchange.network.connectionTimeout.toNat
  /-- No status code is repeated. -/
  codesDiffer : exchange.network.nonFatalCodes.Nodup
  /-- The status codes are within their limits. -/
  codesWithin : ∀ code ∈ exchange.network.nonFatalCodes, 100 ≤ code.toNat ∧ code.toNat ≤ 599
  /-- No message is repeated. -/
  messagesDiffer : exchange.network.nonFatalMessages.Nodup
  /-- No message is empty. -/
  messagesFilled : ∀ message ∈ exchange.network.nonFatalMessages, message ≠ ""
  /-- Every further setting has a name. -/
  settingsNamed : ∀ binding ∈ exchange.settings.toList, binding.1 ≠ ""

@[simp] theorem broken_codeDemands_iff {code : UInt16} :
    broken (codeDemands code) = [] ↔ 100 ≤ code.toNat ∧ code.toNat ≤ 599 := by
  rw [broken_eq_nil_iff, codeDemands, List.forall_mem_cons, List.forall_mem_singleton]
  simp only [decide_eq_true_eq]
  omega

theorem NetworkRecord.broken_demands_iff {network : NetworkRecord} :
    broken network.demands = [] ↔ 1 ≤ network.connectionTimeout.toNat
      ∧ ((∀ code ∈ network.nonFatalCodes, 100 ≤ code.toNat ∧ code.toNat ≤ 599)
        ∧ network.nonFatalCodes.Nodup)
      ∧ (∀ message ∈ network.nonFatalMessages, message ≠ "") ∧ network.nonFatalMessages.Nodup := by
  have timeout (n : Nat) (violation : Violation) :
      broken [⟨(1 : Int) ≤ n, violation⟩] = [] ↔ 1 ≤ n := by
    rw [broken_eq_nil_iff, List.forall_mem_singleton, decide_eq_true_eq]
    omega
  have differ {α : Type} [DecidableEq α] (values : List α) (violation : Violation) :
      broken [⟨values.Nodup, violation⟩] = [] ↔ values.Nodup := by
    rw [broken_eq_nil_iff, List.forall_mem_singleton, decide_eq_true_eq]
  unfold demands
  simp only [broken_inMembers_eq_nil_iff, List.forall_mem_cons, List.not_mem_nil, broken_append,
    List.append_eq_nil_iff, broken_inItems_eq_nil_iff, timeout, differ, broken_codeDemands_iff,
    broken_filled_iff, false_implies, implies_true, and_true]

theorem Exchange.broken_demands_iff {exchange : Exchange} :
    broken exchange.demands = [] ↔ exchange.Sound := by
  unfold demands
  simp only [broken_inMembers_eq_nil_iff, List.forall_mem_cons, List.not_mem_nil,
    broken_filled_iff, NetworkRecord.broken_demands_iff, SettingsBlock.broken_demands_iff,
    Settings.forall_mem_toBlock_iff]
  constructor
  · rintro ⟨className, name, ⟨timeout, ⟨within, codesDiffer⟩, filled, messagesDiffer⟩, named, -⟩
    exact ⟨name, className, timeout, codesDiffer, within, messagesDiffer, filled, named⟩
  · rintro ⟨name, className, timeout, codesDiffer, within, messagesDiffer, filled, named⟩
    exact ⟨className, name, ⟨timeout, ⟨within, codesDiffer⟩, filled, messagesDiffer⟩, named,
      fun _ none => none.elim⟩

end TradingConfig
