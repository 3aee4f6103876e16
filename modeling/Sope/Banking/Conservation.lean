import Sope.Lib.Ledger
import Sope.Banking.Amount
import Sope.Banking.Run

set_option autoImplicit false

/- Money over whole runs. The balances are read as a ledger of integers; every
answered request is one step of that ledger. -/
namespace Sope.Banking

open Machine Ledger

/-- The balances as integers. -/
def Bank.ledger (bank : Bank) : AccountId → Int :=
  fun index => (bank.accounts index).bankAccount.balance.toNat

/-- The deposit of a creation that was answered `RC_OK`. -/
def Served.deposit (served : Served) : Int :=
  if served.input.request.type = .createAccount ∧ served.output.value.header.retCode = .ok then
    served.input.request.value.create.balance.toNat
  else 0

/-- The bound that keeps the wrapped arithmetic exact. Balances may pass
`MAX_BALANCE`, but the funds test never lets one reach 2^31. -/
def Bank.Bounded (bank : Bank) : Prop :=
  ∀ index, (bank.accounts index).bankAccount.balance.toNat < 2 ^ 31

theorem ledger_withTransfer {bank : Bank} {source dest : AccountId} {amount : UInt32}
    (bounded : bank.Bounded) (apart : source ≠ dest)
    (funds : noFundsTest (bank.accounts source).bankAccount.balance amount = false)
    (room : tooHighTest (bank.accounts dest).bankAccount.balance amount = false) :
    (bank.withTransfer source dest amount).ledger =
      move bank.ledger source dest
        (movedAmount (bank.accounts dest).bankAccount.balance amount) := by
  funext index
  by_cases atSource : index = source
  · subst atSource
    rw [move_source]
    simp only [Bank.ledger]
    rw [withTransfer_source bank amount apart]
    exact sub_toNat_moved (bounded index) (bounded dest) funds room
  by_cases atDest : index = dest
  · subst atDest
    rw [move_dest _ _ apart]
    simp only [Bank.ledger]
    rw [withTransfer_dest bank amount apart]
    exact add_toNat_moved _ _
  · rw [move_of_ne _ _ atSource atDest]
    simp only [Bank.ledger]
    rw [withTransfer_of_ne bank amount atSource atDest]

section Runs

variable {generateSha256Hash : CString → CString → CString} {rand : Rand}
  {adminPassword : CString} {bank bank' : Bank} {call : Call} {reply : TlvReply}

theorem ledger_withAccount (bank : Bank) (accData : ReqCreateAccount) (target : AccountId)
    (id : Nat) :
    (bank.withAccount generateSha256Hash accData target id).ledger =
      Function.update bank.ledger target (accData.balance.toNat : Int) := by
  funext index
  by_cases created : index = target
  · subst created
    rw [Function.update_self]
    simp only [Bank.ledger]
    rw [withAccount_self]
    rfl
  · rw [Function.update_of_ne created]
    simp only [Bank.ledger]
    rw [withAccount_of_ne _ _ _ created]

theorem Bank.Bounded.outcome {request : TlvRequest} {id : Nat} {values : RepValue}
    (bounded : bank.Bounded)
    (small : request.type = .createAccount →
      request.value.create.balance.toUInt64 ≤ maxBalance)
    (outcome : Outcome generateSha256Hash request bank id bank' values) : bank'.Bounded := by
  cases outcome with
  | refused | reported | shutdown | ignored => exact bounded
  | created target guards =>
      have deposit : request.value.create.balance.toNat ≤ maxBalance.toNat :=
        UInt64.le_iff_toNat_le.mp (small guards.create)
      have ceiling : maxBalance.toNat < 2 ^ 31 := by decide
      intro index
      by_cases created : index = target
      · subst created
        rw [withAccount_self]
        exact Nat.lt_of_le_of_lt deposit ceiling
      · rw [withAccount_of_ne _ _ _ created]
        exact bounded index
  | transferred source dest guards funds room =>
      intro index
      by_cases atSource : index = source
      · subst atSource
        rw [withTransfer_source _ _ guards.apart]
        exact (noFundsTest_eq_false.mp funds).2
      by_cases atDest : index = dest
      · subst atDest
        rw [withTransfer_dest _ _ guards.apart]
        exact Nat.lt_of_le_of_lt (tooHighTest_eq_false.mp room) (by decide)
      · rw [withTransfer_of_ne _ _ atSource atDest]
        exact bounded index

/-- What every state of a run with small deposits satisfies. -/
structure Sound (generateSha256Hash : CString → CString → CString) (rand : Rand)
    (adminPassword : CString) (bank : Bank) : Prop where
  founded : Founded generateSha256Hash rand adminPassword bank
  hashed : bank.Hashed
  bounded : bank.Bounded

theorem initialBank_sound
    (nonempty : ∀ password salt, generateSha256Hash password salt ≠ []) :
    Sound generateSha256Hash rand adminPassword
      (initialBank generateSha256Hash rand adminPassword) := by
  refine ⟨initialBank_founded, initialBank_hashed nonempty, ?_⟩
  intro index
  by_cases admin : index = adminIndex
  · subst admin
    rw [initialBank, withAccount_self]
    exact Nat.two_pow_pos 31
  · rw [initialBank, withAccount_of_ne _ _ _ admin]
    exact Nat.two_pow_pos 31

theorem Sound.outcome {request : TlvRequest} {id : Nat} {values : RepValue}
    (nonempty : ∀ password salt, generateSha256Hash password salt ≠ [])
    (sound : Sound generateSha256Hash rand adminPassword bank)
    (small : request.type = .createAccount →
      request.value.create.balance.toUInt64 ≤ maxBalance)
    (outcome : Outcome generateSha256Hash request bank id bank' values) :
    Sound generateSha256Hash rand adminPassword bank' :=
  ⟨sound.founded.outcome outcome, sound.hashed.outcome nonempty outcome,
    sound.bounded.outcome small outcome⟩

theorem serveAll_sound {calls : List Call} {events : List Served}
    (nonempty : ∀ password salt, generateSha256Hash password salt ≠ [])
    (small : ∀ call ∈ calls, call.request.type = .createAccount →
      call.request.value.create.balance.toUInt64 ≤ maxBalance)
    (ran : serveAll generateSha256Hash rand adminPassword calls = some (events, bank)) :
    Sound generateSha256Hash rand adminPassword bank :=
  run_invariant ran _ (initialBank_sound nonempty)
    (fun _ call _ _ member sound served =>
      sound.outcome nonempty (small call member) (serve_outcome served))

/-- The bank refines the ledger: each answered call is one ledger step, which
deposits the balance of an accepted creation and nothing else. -/
theorem Sound.ledger_step (sound : Sound generateSha256Hash rand adminPassword bank)
    (served : serve generateSha256Hash bank call = some (bank', reply)) :
    Step bank.ledger (Served.deposit ⟨bank, call, reply, bank'⟩) bank'.ledger := by
  have notCreated (other : call.request.type ≠ .createAccount) :
      Served.deposit ⟨bank, call, reply, bank'⟩ = 0 :=
    if_neg (fun h => other h.1)
  cases serve_outcome served with
  | refused refusal =>
      rw [Served.deposit, if_neg (fun h => refusal h.2)]
      exact .stay
  | created target guards code =>
      have empty : bank.ledger target = 0 := by
        simp [Bank.ledger, sound.founded.inactive_entry sound.hashed guards.inactive, zeroEntry]
      rw [Served.deposit, if_pos ⟨guards.create, code⟩, ledger_withAccount]
      exact .deposit target _ empty
  | reported user balance =>
      rw [notCreated (by simp [balance])]
      exact .stay
  | transferred source dest guards funds room =>
      rw [notCreated (by simp [guards.transfer]),
        ledger_withTransfer sound.bounded guards.apart funds room]
      exact .move source dest _ guards.apart
  | shutdown shutdown =>
      rw [notCreated (by simp [shutdown])]
      exact .stay
  | ignored user value outside undefined =>
      rw [notCreated (by simp [undefined])]
      exact .stay

theorem total_initialBank :
    total (initialBank generateSha256Hash rand adminPassword).ledger = 0 := by
  rw [initialBank, ledger_withAccount]
  apply Finset.sum_eq_zero
  intro index _
  by_cases admin : index = adminIndex
  · subst admin
    simp [adminAccount]
  · rw [Function.update_of_ne admin]
    rfl

/-- Conservation of money: whatever is requested, the balances always add up to
the deposits of the accounts that were opened. -/
theorem serveAll_conserves_total (rand : Rand) (adminPassword : CString)
    (nonempty : ∀ password salt, generateSha256Hash password salt ≠ []) (calls : List Call)
    (inRange : ∀ call ∈ calls, call.request.InRange)
    (small : ∀ call ∈ calls, call.request.type = .createAccount →
      call.request.value.create.balance.toUInt64 ≤ maxBalance) :
    ∃ events bank, serveAll generateSha256Hash rand adminPassword calls = some (events, bank) ∧
      total bank.ledger = (events.map Served.deposit).sum := by
  obtain ⟨events, bank, ran⟩ := serveAll_answered generateSha256Hash rand adminPassword calls
    inRange
  refine ⟨events, bank, ran, ?_⟩
  apply run_induction ran (fun past bank => total bank.ledger = (past.map Served.deposit).sum)
  · rw [total_initialBank, List.map_nil, List.sum_nil]
  · intro past bank call reply bank' within reached sum served
    have sound : Sound generateSha256Hash rand adminPassword bank :=
      serveAll_sound nonempty
        (fun call' member => small call' (within.subset (List.mem_append_left _ member))) reached
    rw [(sound.ledger_step served).total_eq, sum, List.map_append, List.sum_append,
      List.map_singleton, List.sum_singleton]

end Runs

/-- A session in which account 2 also pays 10 to account 1. -/
theorem session_conserves_total :
    ∃ events bank, serveAll sessionHash sessionRand ultraTopSecret
        (openAccounts ++ [sessionCall .transfer 2 aSecret ⟨1, 10, []⟩]) = some (events, bank) ∧
      total bank.ledger = (events.map Served.deposit).sum :=
  serveAll_conserves_total sessionRand ultraTopSecret sessionHash_nonempty _ (by decide) (by decide)

end Sope.Banking
