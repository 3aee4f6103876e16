import Sope.Banking.ReturnCode

set_option autoImplicit false

/- How a transfer is decided, against the same tests over the integers. -/
namespace Sope.Banking

open Machine

/-- A balance between `MIN_BALANCE` and `MAX_BALANCE`. -/
def InBounds (balance : UInt32) : Prop :=
  minBalance.toNat ≤ balance.toNat ∧ balance.toNat ≤ maxBalance.toNat

instance (balance : UInt32) : Decidable (InBounds balance) := inferInstanceAs (Decidable (_ ∧ _))

/-- The answer to a transfer and the balances after it, as sums and differences that do
not wrap have them. -/
def DecidedOverIntegers (bank : Bank) (source dest : AccountId) (amount : UInt32) (bank' : Bank)
    (reply : TlvReply) : Prop :=
  let s : Int := (bank.accounts source).bankAccount.balance.toNat
  let d : Int := (bank.accounts dest).bankAccount.balance.toNat
  let a : Int := amount.toNat
  if s - a < minBalance.toNat then reply.value.header.retCode = .noFunds ∧ bank' = bank
  else if d + a > maxBalance.toNat then reply.value.header.retCode = .tooHigh ∧ bank' = bank
  else reply.value.header.retCode = .ok ∧
    ((bank'.accounts source).bankAccount.balance.toNat : Int) = s - a ∧
    ((bank'.accounts dest).bankAccount.balance.toNat : Int) = d + a ∧
    (reply.value.info.toNat : Int) = s - a

section Decision

variable {generateSha256Hash : CString → CString → CString} {request : TlvRequest}
  {bank bank' : Bank} {buffer reply : TlvReply} {id : Nat} {activeThreads : Int}
  {source dest : AccountId}

/-- Between two client accounts only the two balance tests are left to decide. -/
theorem TransferGuards.retCode
    (guards : TransferGuards generateSha256Hash bank.accounts request source dest)
    (replied : buildTlvReply generateSha256Hash request bank buffer id activeThreads =
      some (bank', reply)) :
    reply.value.header.retCode =
      if noFundsTest (bank.accounts source).bankAccount.balance
        request.value.transfer.amount = true then .noFunds
      else if tooHighTest (bank.accounts dest).bankAccount.balance
        request.value.transfer.amount = true then .tooHigh
      else .ok := by
  rw [transfer_retCode guards.transfer guards.login guards.destFound replied, if_neg guards.apart,
    if_neg guards.sourceClient, if_neg guards.destClient, guards.destActive]
  rfl

/-- A refused transfer changes nothing; an accepted one makes the two wrapping
assignments. -/
theorem TransferGuards.effect
    (guards : TransferGuards generateSha256Hash bank.accounts request source dest)
    (replied : buildTlvReply generateSha256Hash request bank buffer id activeThreads =
      some (bank', reply)) :
    (reply.value.header.retCode ≠ .ok → bank' = bank) ∧
      (reply.value.header.retCode = .ok →
        bank' = bank.withTransfer source dest request.value.transfer.amount ∧
        reply.value.info =
          (bank.accounts source).bankAccount.balance - request.value.transfer.amount) := by
  cases buildTlvReply_outcome replied with
  | refused refusal => exact ⟨fun _ => rfl, fun accepted => absurd accepted refusal⟩
  | transferred source' dest' guards' funds room code info =>
      obtain rfl := guards.login.unique guards'.login
      obtain rfl := (accountIndex_inj guards.destFound guards'.destFound).mpr rfl
      exact ⟨fun refusal => absurd code refusal, fun _ => ⟨rfl, info⟩⟩
  | created target created => cases guards.transfer.symm.trans created.create
  | reported user balance => cases guards.transfer.symm.trans balance
  | shutdown shutdown => cases guards.transfer.symm.trans shutdown
  | ignored user value outside undefined => cases guards.transfer.symm.trans undefined

/-- For balances in bounds the two tests are exact unless the amount exceeds the source's
balance by more than `2^31`. -/
theorem testsExact_of_inBounds {sourceBalance destBalance amount : UInt32}
    (sourceBounds : InBounds sourceBalance) (destBounds : InBounds destBalance) :
    TestsExact sourceBalance.toNat destBalance.toNat amount.toNat ↔
      amount.toNat ≤ sourceBalance.toNat + 2 ^ 31 := by
  have ceiling : maxBalance.toNat = 1000000000 := by decide
  have hs := sourceBounds.2
  have hd := destBounds.2
  unfold TestsExact
  omega

theorem DecidedOverIntegers.code {amount : UInt32}
    (decided : DecidedOverIntegers bank source dest amount bank' reply) :
    reply.value.header.retCode =
      if ((bank.accounts source).bankAccount.balance.toNat : Int) - amount.toNat <
        minBalance.toNat then .noFunds
      else if ((bank.accounts dest).bankAccount.balance.toNat : Int) + amount.toNat >
        maxBalance.toNat then .tooHigh
      else .ok := by
  unfold DecidedOverIntegers at decided
  dsimp only at decided
  split_ifs at decided ⊢
  · exact decided.1
  · exact decided.1
  · exact decided.1

/-- The new balances of a transfer that the integers allow. -/
theorem withTransfer_toNat {amount : UInt32} (apart : source ≠ dest)
    (funds : ¬ ((bank.accounts source).bankAccount.balance.toNat : Int) - amount.toNat <
      minBalance.toNat)
    (room : ¬ ((bank.accounts dest).bankAccount.balance.toNat : Int) + amount.toNat >
      maxBalance.toNat) :
    (((bank.accounts source).bankAccount.balance - amount).toNat : Int) =
        (bank.accounts source).bankAccount.balance.toNat - amount.toNat ∧
      (((bank.withTransfer source dest amount).accounts source).bankAccount.balance.toNat : Int) =
        (bank.accounts source).bankAccount.balance.toNat - amount.toNat ∧
      (((bank.withTransfer source dest amount).accounts dest).bankAccount.balance.toNat : Int) =
        (bank.accounts dest).bankAccount.balance.toNat + amount.toNat := by
  have floor : minBalance.toNat = 1 := by decide
  have ceiling : maxBalance.toNat = 1000000000 := by decide
  have hs := (bank.accounts source).bankAccount.balance.toNat_lt
  have difference : (((bank.accounts source).bankAccount.balance - amount).toNat : Int) =
      (bank.accounts source).bankAccount.balance.toNat - amount.toNat := by
    rw [sub_toNat]
    omega
  refine ⟨difference, ?_, ?_⟩
  · rw [withTransfer_source bank amount apart]
    exact difference
  · rw [withTransfer_dest bank amount apart, UInt32.toNat_add]
    omega

/-- Where the codes agree, so do the balances. -/
theorem decided_of_code
    (guards : TransferGuards generateSha256Hash bank.accounts request source dest)
    (replied : buildTlvReply generateSha256Hash request bank buffer id activeThreads =
      some (bank', reply))
    (code : reply.value.header.retCode =
      if ((bank.accounts source).bankAccount.balance.toNat : Int) -
        request.value.transfer.amount.toNat < minBalance.toNat then .noFunds
      else if ((bank.accounts dest).bankAccount.balance.toNat : Int) +
        request.value.transfer.amount.toNat > maxBalance.toNat then .tooHigh
      else .ok) :
    DecidedOverIntegers bank source dest request.value.transfer.amount bank' reply := by
  obtain ⟨refused, accepted⟩ := guards.effect replied
  unfold DecidedOverIntegers
  dsimp only
  split_ifs at code ⊢ with lacking exceeding
  · exact ⟨code, refused (by rw [code]; exact RetCode.noConfusion)⟩
  · exact ⟨code, refused (by rw [code]; exact RetCode.noConfusion)⟩
  · obtain ⟨rfl, info⟩ := accepted code
    obtain ⟨difference, left, right⟩ := withTransfer_toNat guards.apart lacking exceeding
    exact ⟨code, left, right, by rw [info]; exact difference⟩

theorem DecidedOverIntegers.inBounds {amount : UInt32}
    (decided : DecidedOverIntegers bank source dest amount bank' reply)
    (sourceBounds : InBounds (bank.accounts source).bankAccount.balance)
    (destBounds : InBounds (bank.accounts dest).bankAccount.balance) :
    InBounds (bank'.accounts source).bankAccount.balance ∧
      InBounds (bank'.accounts dest).bankAccount.balance := by
  unfold DecidedOverIntegers at decided
  dsimp only at decided
  split_ifs at decided with lacking exceeding
  · rw [decided.2]
    exact ⟨sourceBounds, destBounds⟩
  · rw [decided.2]
    exact ⟨sourceBounds, destBounds⟩
  · obtain ⟨-, left, right, -⟩ := decided
    unfold InBounds at *
    omega

/-- A transfer between two client accounts with balances in bounds is decided as over the
integers, and leaves the balances in bounds, if and only if the amount exceeds the source's
balance by at most `2^31`. -/
theorem transfer_decided_iff (generateSha256Hash : CString → CString → CString)
    (request : TlvRequest) (bank : Bank) (buffer : TlvReply) (id : Nat) (activeThreads : Int)
    (source dest : AccountId)
    (guards : TransferGuards generateSha256Hash bank.accounts request source dest)
    (sourceBounds : InBounds (bank.accounts source).bankAccount.balance)
    (destBounds : InBounds (bank.accounts dest).bankAccount.balance) :
    ∃ bank' reply, buildTlvReply generateSha256Hash request bank buffer id activeThreads =
        some (bank', reply) ∧
      ((DecidedOverIntegers bank source dest request.value.transfer.amount bank' reply ∧
          InBounds (bank'.accounts source).bankAccount.balance ∧
          InBounds (bank'.accounts dest).bankAccount.balance) ↔
        request.value.transfer.amount.toNat ≤
          (bank.accounts source).bankAccount.balance.toNat + 2 ^ 31) := by
  have inRange : request.InRange := by
    refine ⟨?_, fun _ => ?_⟩
    · rw [accountIndex_eq_some.mp guards.login.found]
      exact source.isLt
    · have found := accountIndex_eq_some.mp guards.destFound
      rw [ReqValue.transfer] at found
      rw [found]
      exact dest.isLt
  obtain ⟨bank', reply, replied⟩ := buildTlvReply_total generateSha256Hash request bank buffer id
    activeThreads inRange
  refine ⟨bank', reply, replied, ?_⟩
  rw [← testsExact_of_inBounds sourceBounds destBounds, testsExact_iff, ← guards.retCode replied]
  constructor
  · rintro ⟨decided, -⟩
    exact decided.code
  · intro code
    have decided := decided_of_code guards replied code
    exact ⟨decided, decided.inBounds sourceBounds destBounds⟩

end Decision

def transferTo2 (amount : UInt32) : Call :=
  sessionCall .transfer 1 topSecret ⟨2, amount, []⟩

def minus10 : Call := transferTo2 (-10 : Int32).toUInt32
def plus10 : Call := transferTo2 10

/-- `user 1 top_secret 10 2 "2 -10"`: 25 is less than 4294967286, but the transfer is
accepted and account 1 ends with 35. -/
theorem transferMinus10_not_decided :
    ∃ events bank bank' reply,
      serveAll sessionHash sessionRand ultraTopSecret openAccounts = some (events, bank) ∧
      TransferGuards sessionHash bank.accounts minus10.request 1 2 ∧
      InBounds (bank.accounts 1).bankAccount.balance ∧
      InBounds (bank.accounts 2).bankAccount.balance ∧
      serve sessionHash bank minus10 = some (bank', reply) ∧
      ¬ DecidedOverIntegers bank 1 2 minus10.request.value.transfer.amount bank' reply := by
  refine ⟨_, _, _, _, rfl, ?_, by decide, by decide, rfl, ?_⟩
  · exact ⟨rfl, ⟨rfl, rfl, rfl⟩, rfl, by decide, by decide, by decide, rfl⟩
  · intro decided
    have code := decided.code
    revert code
    decide

/-- A transfer of 10 from account 1 to account 2. -/
theorem transferPlus10_decided_iff :
    ∃ events bank bank' reply,
      serveAll sessionHash sessionRand ultraTopSecret openAccounts = some (events, bank) ∧
      buildTlvReply sessionHash plus10.request bank sessionBuffer 1 1 = some (bank', reply) ∧
      ((DecidedOverIntegers bank 1 2 plus10.request.value.transfer.amount bank' reply ∧
          InBounds (bank'.accounts 1).bankAccount.balance ∧
          InBounds (bank'.accounts 2).bankAccount.balance) ↔
        plus10.request.value.transfer.amount.toNat ≤
          (bank.accounts 1).bankAccount.balance.toNat + 2 ^ 31) := by
  obtain ⟨events, bank, ran, guards, source, dest⟩ : ∃ events bank,
      serveAll sessionHash sessionRand ultraTopSecret openAccounts = some (events, bank) ∧
      TransferGuards sessionHash bank.accounts plus10.request 1 2 ∧
      InBounds (bank.accounts 1).bankAccount.balance ∧
      InBounds (bank.accounts 2).bankAccount.balance :=
    ⟨_, _, rfl, ⟨rfl, ⟨rfl, rfl, rfl⟩, rfl, by decide, by decide, by decide, rfl⟩, by decide,
      by decide⟩
  obtain ⟨bank', reply, decided⟩ := transfer_decided_iff sessionHash plus10.request bank
    sessionBuffer 1 1 1 2 guards source dest
  exact ⟨events, bank, bank', reply, ran, decided⟩

end Sope.Banking
