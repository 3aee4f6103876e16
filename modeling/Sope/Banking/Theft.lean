import Sope.Banking.Conservation
import Mathlib.Algebra.Order.Group.Int

set_option autoImplicit false

/- Who can lose money. A client's amount is read with `atoi` and stored in 32
unsigned bits, so "-10" arrives as 2^32 - 10; the two tests let such an amount
through, and the transfer then takes 10 from the destination. -/
namespace Sope.Banking

open Machine Ledger

/-- The request is a transfer that `build_tlv_reply` carries out and that takes
money from its destination: the destination's sum wraps, and neither test objects. -/
def DrainsTarget (generateSha256Hash : CString → CString → CString) (accounts : Accounts)
    (request : TlvRequest) : Prop :=
  ∃ source dest, TransferGuards generateSha256Hash accounts request source dest ∧
    2 ^ 32 ≤ (accounts dest).bankAccount.balance.toNat + request.value.transfer.amount.toNat ∧
    (accounts dest).bankAccount.balance.toNat + request.value.transfer.amount.toNat - 2 ^ 32 ≤
      maxBalance.toNat ∧
    (accounts source).bankAccount.balance.toNat +
      (2 ^ 32 - request.value.transfer.amount.toNat) < 2 ^ 31

variable {generateSha256Hash : CString → CString → CString} {rand : Rand}
  {adminPassword : CString} {bank bank' : Bank} {call : Call} {reply : TlvReply}

theorem movedAmount_neg_iff {destBalance amount : UInt32} :
    movedAmount destBalance amount < 0 ↔ 2 ^ 32 ≤ destBalance.toNat + amount.toNat := by
  have ha := amount.toNat_lt
  unfold movedAmount
  split <;> omega

/-- Below 2^31, the tests pass a wrapping amount exactly when the two new balances
stay below 2^31 and `MAX_BALANCE`. -/
theorem tests_of_wrapped {sourceBalance destBalance amount : UInt32}
    (sourceBound : sourceBalance.toNat < 2 ^ 31) (destBound : destBalance.toNat < 2 ^ 31)
    (wraps : 2 ^ 32 ≤ destBalance.toNat + amount.toNat) :
    (noFundsTest sourceBalance amount = false ↔
        sourceBalance.toNat + (2 ^ 32 - amount.toNat) < 2 ^ 31) ∧
      (tooHighTest destBalance amount = false ↔
        destBalance.toNat + amount.toNat - 2 ^ 32 ≤ maxBalance.toNat) := by
  have ha := amount.toNat_lt
  rw [noFundsTest_eq_false, sub_toNat, tooHighTest_eq_false, UInt32.toNat_add]
  constructor <;> omega

/-- One step: a balance goes down only on the order of its holder, exactly unless
the request drains its target. -/
theorem Sound.loser_iff (sound : Sound generateSha256Hash rand adminPassword bank)
    (served : serve generateSha256Hash bank call = some (bank', reply)) :
    (∀ index, bank'.ledger index < bank.ledger index →
        call.request.type = .transfer ∧
          LoggedIn generateSha256Hash bank.accounts call.request.value.header index) ↔
      ¬ DrainsTarget generateSha256Hash bank.accounts call.request := by
  constructor
  · rintro authorised ⟨source, dest, guards, wraps, ceiling, floor⟩
    obtain ⟨fundsIff, roomIff⟩ := tests_of_wrapped (sound.bounded source) (sound.bounded dest) wraps
    have funds := fundsIff.mpr floor
    have room := roomIff.mpr ceiling
    obtain ⟨reply', carried, -⟩ := buildTlvReply_transferred call.buffer call.id
      call.activeThreads guards funds room
    rw [serve, carried, Option.some.injEq, Prod.mk.injEq] at served
    obtain ⟨rfl, rfl⟩ := served
    have drops : (bank.withTransfer source dest call.request.value.transfer.amount).ledger dest <
        bank.ledger dest := by
      rw [ledger_withTransfer sound.bounded guards.apart funds room,
        move_dest_lt_iff _ _ guards.apart, movedAmount_neg_iff]
      exact wraps
    exact guards.apart (guards.login.unique (authorised dest drops).2)
  · intro harmless index drops
    cases serve_outcome served with
    | refused | reported | shutdown | ignored => exact absurd drops (lt_irrefl _)
    | created target guards =>
        rw [ledger_withAccount] at drops
        by_cases created : index = target
        · subst created
          have empty := sound.founded.inactive_entry sound.hashed guards.inactive
          rw [Function.update_self, Bank.ledger, empty] at drops
          have positive := Int.natCast_nonneg call.request.value.create.balance.toNat
          simp only [zeroEntry] at drops
          exact absurd drops (not_lt.mpr positive)
        · rw [Function.update_of_ne created] at drops
          exact absurd drops (lt_irrefl _)
    | transferred source dest guards funds room =>
        rw [ledger_withTransfer sound.bounded guards.apart funds room] at drops
        rcases loser_of_move _ _ guards.apart drops with rfl | ⟨rfl, negative⟩
        · exact ⟨guards.transfer, guards.login⟩
        · have wraps := movedAmount_neg_iff.mp negative
          obtain ⟨fundsIff, roomIff⟩ :=
            tests_of_wrapped (sound.bounded source) (sound.bounded index) wraps
          exact absurd ⟨source, index, guards, wraps, roomIff.mp room, fundsIff.mp funds⟩ harmless

/-- In every reachable state, the next request lowers only the balance of the
account it has logged in to, if and only if it does not drain its target. -/
theorem loser_is_source_iff (rand : Rand) (adminPassword : CString)
    (nonempty : ∀ password salt, generateSha256Hash password salt ≠ [])
    (calls : List Call) {events : List Served}
    (deposits : ∀ call ∈ calls, call.request.type = .createAccount →
      minBalance ≤ call.request.value.create.balance.toUInt64 ∧
        call.request.value.create.balance.toUInt64 ≤ maxBalance)
    (ran : serveAll generateSha256Hash rand adminPassword calls = some (events, bank))
    (served : serve generateSha256Hash bank call = some (bank', reply)) :
    (∀ index, (bank'.accounts index).bankAccount.balance <
          (bank.accounts index).bankAccount.balance →
        call.request.type = .transfer ∧
          LoggedIn generateSha256Hash bank.accounts call.request.value.header index) ↔
      ¬ DrainsTarget generateSha256Hash bank.accounts call.request := by
  have sound := serveAll_sound nonempty (fun call member create => (deposits call member create).2)
    ran
  rw [← sound.loser_iff served]
  simp only [Bank.ledger, Int.ofNat_lt, UInt32.lt_iff_toNat_lt]

/-- `user 1 top_secret 10 2 "2 -10"`. -/
def drainAccount2 : Call := sessionCall .transfer 1 topSecret ⟨2, (-10 : Int32).toUInt32, []⟩

/-- Client 1 takes 10 from account 2, which it never logged in to. -/
theorem drainAccount2_lowers_balance :
    ∃ events bank bank' reply,
      (∀ call ∈ openAccounts, call.request.type = .createAccount →
        minBalance ≤ call.request.value.create.balance.toUInt64 ∧
          call.request.value.create.balance.toUInt64 ≤ maxBalance) ∧
      serveAll sessionHash sessionRand ultraTopSecret openAccounts = some (events, bank) ∧
      serve sessionHash bank drainAccount2 = some (bank', reply) ∧
      (bank'.accounts 2).bankAccount.balance < (bank.accounts 2).bankAccount.balance ∧
      accountIndex drainAccount2.request.value.header.accountId ≠ some 2 :=
  ⟨_, _, _, _, by decide, rfl, rfl, by decide, by decide⟩

/-- The equivalence at that request, where both sides fail. -/
theorem drainAccount2_loser_iff :
    ∃ events bank bank' reply,
      serveAll sessionHash sessionRand ultraTopSecret openAccounts = some (events, bank) ∧
      serve sessionHash bank drainAccount2 = some (bank', reply) ∧
      ((∀ index, (bank'.accounts index).bankAccount.balance <
            (bank.accounts index).bankAccount.balance →
          drainAccount2.request.type = .transfer ∧
            LoggedIn sessionHash bank.accounts drainAccount2.request.value.header index) ↔
        ¬ DrainsTarget sessionHash bank.accounts drainAccount2.request) :=
  ⟨_, _, _, _, rfl, rfl,
    loser_is_source_iff sessionRand ultraTopSecret
    sessionHash_nonempty openAccounts (by decide) rfl rfl⟩

end Sope.Banking
