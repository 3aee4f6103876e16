import Sope.Banking.Access
import Sope.Banking.Client
import Sope.Banking.Theft

set_option autoImplicit false

/- The bank's rules for accounts, along runs of requests that the user program lets
through. Neither program checks the deposit or the password of a new account, and
an amount that wraps can leave either balance outside the bounds. -/
namespace Sope.Banking

open Machine

def WithinBounds (balance : UInt32) : Prop :=
  minBalance ≤ balance.toUInt64 ∧ balance.toUInt64 ≤ maxBalance

instance (balance : UInt32) : Decidable (WithinBounds balance) :=
  inferInstanceAs (Decidable (_ ∧ _))

theorem withinBounds_iff {balance : UInt32} :
    WithinBounds balance ↔ 1 ≤ balance.toNat ∧ balance.toNat ≤ 1000000000 := by
  rw [WithinBounds, UInt64.le_iff_toNat_le, UInt64.le_iff_toNat_le, UInt32.toNat_toUInt64]
  rfl

/-- A call whose request the user program sent. -/
structure UserCall where
  pid : Int32
  uninit : ReqCreateAccount
  argv : Argv
  call : Call
  accepted : userRequest pid uninit argv = some call.request

/-- Every open account but the administrator's was created and is within the bounds,
and accounts were created with valid passwords only. -/
structure RulesHold (past : List Served) (bank : Bank) : Prop where
  created : ∀ index, index ≠ adminIndex → (bank.accounts index).active = true →
    ∃ served ∈ past, served.Creates index
  balance : ∀ index, index ≠ adminIndex → (bank.accounts index).active = true →
    WithinBounds (bank.accounts index).bankAccount.balance
  password : ∀ served ∈ past, ∀ index, served.Creates index →
    isValidPassword served.input.request.value.create.password = true

/-- What the next request must not do: open an account with a deposit outside the
bounds or an invalid password, or move an amount that wraps and leaves one of the two
balances outside the bounds. -/
structure KeepsRules (generateSha256Hash : CString → CString → CString) (accounts : Accounts)
    (request : TlvRequest) : Prop where
  create : ∀ target, CreateGuards generateSha256Hash accounts request target →
    WithinBounds request.value.create.balance ∧
      isValidPassword request.value.create.password = true
  transfer : ∀ source dest, TransferGuards generateSha256Hash accounts request source dest →
    2 ^ 32 ≤ (accounts dest).bankAccount.balance.toNat + request.value.transfer.amount.toNat →
    minBalance.toNat + 2 ^ 32 ≤
        (accounts dest).bankAccount.balance.toNat + request.value.transfer.amount.toNat ∧
      (accounts source).bankAccount.balance.toNat +
        (2 ^ 32 - request.value.transfer.amount.toNat) ≤ maxBalance.toNat

/-- Between balances within the bounds, an amount that wraps passes both tests. -/
theorem tests_of_wraps {sourceBalance destBalance amount : UInt32}
    (source : WithinBounds sourceBalance) (dest : WithinBounds destBalance)
    (wraps : 2 ^ 32 ≤ destBalance.toNat + amount.toNat) :
    noFundsTest sourceBalance amount = false ∧ tooHighTest destBalance amount = false := by
  have ha := amount.toNat_lt
  have ceiling : maxBalance.toNat = 1000000000 := by decide
  rw [withinBounds_iff] at source dest
  obtain ⟨fundsIff, roomIff⟩ :=
    @tests_of_wrapped sourceBalance destBalance amount (by omega) (by omega) wraps
  exact ⟨fundsIff.mpr (by omega), roomIff.mpr (by omega)⟩

/-- A transfer between balances within the bounds keeps them there exactly unless
its amount wraps too far. -/
theorem withinBounds_moved {sourceBalance destBalance amount : UInt32}
    (source : WithinBounds sourceBalance) (dest : WithinBounds destBalance)
    (funds : noFundsTest sourceBalance amount = false)
    (room : tooHighTest destBalance amount = false) :
    WithinBounds (sourceBalance - amount) ∧ WithinBounds (destBalance + amount) ↔
      (2 ^ 32 ≤ destBalance.toNat + amount.toNat →
        minBalance.toNat + 2 ^ 32 ≤ destBalance.toNat + amount.toNat ∧
          sourceBalance.toNat + (2 ^ 32 - amount.toNat) ≤ maxBalance.toNat) := by
  have ha := amount.toNat_lt
  have floor : minBalance.toNat = 1 := by decide
  have ceiling : maxBalance.toNat = 1000000000 := by decide
  rw [withinBounds_iff] at source dest
  rw [noFundsTest_eq_false] at funds
  rw [tooHighTest_eq_false, UInt32.toNat_add, ceiling] at room
  rw [withinBounds_iff, withinBounds_iff, sub_toNat, UInt32.toNat_add, floor, ceiling]
  rw [sub_toNat] at funds
  constructor
  · intro kept wraps
    omega
  · intro kept
    by_cases wraps : 2 ^ 32 ≤ destBalance.toNat + amount.toNat
    · have bounds := kept wraps
      omega
    · omega

section Steps

variable {generateSha256Hash : CString → CString → CString} {rand : Rand}
  {adminPassword : CString} {bank bank' : Bank} {past : List Served} {call : Call}
  {reply : TlvReply}

/-- The answer to a creation is positive only if the guards hold. -/
theorem Outcome.createGuards {request : TlvRequest} {id : Nat} {value : RepValue}
    {target : AccountId} (outcome : Outcome generateSha256Hash request bank id bank' value)
    (create : request.type = .createAccount) (code : value.header.retCode = .ok)
    (found : accountIndex request.value.create.accountId = some target) :
    CreateGuards generateSha256Hash bank.accounts request target := by
  cases outcome with
  | refused refusal => exact absurd code refusal
  | created target' guards =>
      have same := guards.targetFound.symm.trans found
      cases same
      exact guards
  | reported user balance => rw [create] at balance; cases balance
  | transferred source dest guards =>
      have transfer := guards.transfer
      rw [create] at transfer
      cases transfer
  | shutdown shutdown => rw [create] at shutdown; cases shutdown
  | ignored user value outside undefined => rw [create] at undefined; cases undefined

/-- The rules after one more answer, in terms of the rules before it. -/
theorem RulesHold.snoc {event : Served} (rules : RulesHold past event.before)
    (created : ∀ index, index ≠ adminIndex → (event.after.accounts index).active = true →
      (event.before.accounts index).active = true ∨ event.Creates index)
    (balance : ∀ index, index ≠ adminIndex → (event.after.accounts index).active = true →
      WithinBounds (event.after.accounts index).bankAccount.balance)
    (password : ∀ index, event.Creates index →
      isValidPassword event.input.request.value.create.password = true) :
    RulesHold (past ++ [event]) event.after := by
  refine ⟨?_, balance, ?_⟩
  · intro index notAdmin flag
    rcases created index notAdmin flag with flag | now
    · obtain ⟨served, member, creates⟩ := rules.created index notAdmin flag
      exact ⟨served, List.mem_append_left _ member, creates⟩
    · exact ⟨event, List.mem_append_right _ (List.mem_singleton.mpr rfl), now⟩
  · intro served member index creates
    rcases List.mem_append.mp member with earlier | now
    · exact rules.password served earlier index creates
    · obtain rfl := List.mem_singleton.mp now
      exact password index creates

/-- A step that keeps the rules did nothing that `KeepsRules` forbids. -/
theorem RulesHold.keepsRules (founded : Founded generateSha256Hash rand adminPassword bank)
    (rules : RulesHold past bank)
    (served : serve generateSha256Hash bank call = some (bank', reply))
    (kept : RulesHold (past ++ [⟨bank, call, reply, bank'⟩]) bank') :
    KeepsRules generateSha256Hash bank.accounts call.request := by
  constructor
  · intro target guards
    obtain ⟨reply', carried, code⟩ := buildTlvReply_created call.buffer call.id
      call.activeThreads guards
    rw [serve, carried, Option.some.injEq, Prod.mk.injEq] at served
    obtain ⟨rfl, rfl⟩ := served
    have entry := @withAccount_self generateSha256Hash bank call.request.value.create target call.id
    have bounds := kept.balance target guards.notAdmin (by rw [entry, newAccount_active])
    rw [entry] at bounds
    exact ⟨bounds, kept.password _ (List.mem_append_right _ (List.mem_singleton.mpr rfl)) target
      ⟨guards.create, code, guards.targetFound⟩⟩
  · intro source dest guards wraps
    have sourceFlag := founded.flag guards.login.active
    have destFlag := founded.flag guards.destActive
    have sourceBounds := rules.balance source guards.sourceClient sourceFlag
    have destBounds := rules.balance dest guards.destClient destFlag
    obtain ⟨funds, room⟩ := tests_of_wraps sourceBounds destBounds wraps
    obtain ⟨reply', carried, -⟩ := buildTlvReply_transferred call.buffer call.id
      call.activeThreads guards funds room
    rw [serve, carried, Option.some.injEq, Prod.mk.injEq] at served
    obtain ⟨rfl, rfl⟩ := served
    have sourceKept := kept.balance source guards.sourceClient
      (by rw [withTransfer_active]; exact sourceFlag)
    have destKept := kept.balance dest guards.destClient
      (by rw [withTransfer_active]; exact destFlag)
    rw [withTransfer_source _ _ guards.apart] at sourceKept
    rw [withTransfer_dest _ _ guards.apart] at destKept
    exact (withinBounds_moved sourceBounds destBounds funds room).mp ⟨sourceKept, destKept⟩ wraps

/-- A step that `KeepsRules` allows keeps the rules. -/
theorem RulesHold.step (founded : Founded generateSha256Hash rand adminPassword bank)
    (rules : RulesHold past bank)
    (served : serve generateSha256Hash bank call = some (bank', reply))
    (keeps : KeepsRules generateSha256Hash bank.accounts call.request) :
    RulesHold (past ++ [⟨bank, call, reply, bank'⟩]) bank' := by
  have outcome := serve_outcome served
  apply @RulesHold.snoc past ⟨bank, call, reply, bank'⟩ rules
  · intro index _ flag
    rcases founded.flag_set outcome flag with flag | ⟨create, code, found, -⟩
    · exact Or.inl flag
    · exact Or.inr ⟨create, code, found⟩
  · intro index notAdmin flag
    cases outcome with
    | refused | reported | shutdown | ignored => exact rules.balance index notAdmin flag
    | created target guards =>
        dsimp only at flag ⊢
        by_cases created : index = target
        · subst created
          rw [withAccount_self]
          exact (keeps.create index guards).1
        · rw [withAccount_of_ne _ _ _ created] at flag ⊢
          exact rules.balance index notAdmin flag
    | transferred source dest guards funds room =>
        dsimp only at flag ⊢
        rw [withTransfer_active] at flag
        have sourceBounds := rules.balance source guards.sourceClient
          (founded.flag guards.login.active)
        have destBounds := rules.balance dest guards.destClient (founded.flag guards.destActive)
        obtain ⟨sourceKept, destKept⟩ :=
          (withinBounds_moved sourceBounds destBounds funds room).mpr (keeps.transfer _ _ guards)
        by_cases atSource : index = source
        · rw [atSource, withTransfer_source _ _ guards.apart]
          exact sourceKept
        by_cases atDest : index = dest
        · rw [atDest, withTransfer_dest _ _ guards.apart]
          exact destKept
        rw [withTransfer_of_ne _ _ atSource atDest]
        exact rules.balance index notAdmin flag
  · rintro index ⟨create, code, found⟩
    exact (keeps.create index (outcome.createGuards create code found)).2

theorem initialBank_rulesHold :
    RulesHold [] (initialBank generateSha256Hash rand adminPassword) := by
  have closed (index : AccountId) (notAdmin : index ≠ adminIndex) :
      ((initialBank generateSha256Hash rand adminPassword).accounts index).active ≠ true := by
    rw [initialBank, withAccount_of_ne _ _ _ notAdmin]
    exact Bool.false_ne_true
  exact ⟨fun index notAdmin flag => absurd flag (closed index notAdmin),
    fun index notAdmin flag => absurd flag (closed index notAdmin),
    fun _ none => absurd none List.not_mem_nil⟩

/-- The rules hold along a run exactly when no request of it breaks them. -/
theorem serveAll_rulesHold_iff {calls : List Call} {events : List Served}
    (ran : serveAll generateSha256Hash rand adminPassword calls = some (events, bank)) :
    (∀ past future reached, events = past ++ future →
        serveAll generateSha256Hash rand adminPassword (past.map (·.input)) =
          some (past, reached) →
        RulesHold past reached) ↔
      ∀ event ∈ events, KeepsRules generateSha256Hash event.before.accounts
        event.input.request := by
  constructor
  · intro holds event member
    obtain ⟨past, future, rfl⟩ := List.append_of_mem member
    obtain ⟨reached, served, -⟩ := run_event ran
    exact (holds past (event :: future) event.before rfl reached).keepsRules
      (serveAll_founded reached) served
      (holds (past ++ [event]) future event.after (by simp) (run_snoc event reached served))
  · intro keeps past future reached split ranPast
    have invariant := run_induction ranPast
      (fun past bank => (∀ event ∈ past, KeepsRules generateSha256Hash event.before.accounts
        event.input.request) → RulesHold past bank)
      (fun _ => initialBank_rulesHold)
      (by
        intro past bank call reply bank' _ reached holds served keeps
        have before := holds fun event member => keeps event (List.mem_append_left _ member)
        have now := keeps _ (List.mem_append_right _ (List.mem_singleton.mpr rfl))
        exact before.step (serveAll_founded reached) served now)
    exact invariant fun event member => keeps event (split ▸ List.mem_append_left _ member)

end Steps

/-- Along any run of requests that the user program sends, every state reached keeps
the bank's rules if and only if no request breaks them. -/
theorem userCalls_rulesHold_iff (generateSha256Hash : CString → CString → CString) (rand : Rand)
    (adminPassword : CString) (calls : List UserCall) {events : List Served} {bank : Bank}
    (ran : serveAll generateSha256Hash rand adminPassword (calls.map (·.call)) =
      some (events, bank)) :
    (∀ past future reached, events = past ++ future →
        serveAll generateSha256Hash rand adminPassword (past.map (·.input)) =
          some (past, reached) →
        RulesHold past reached) ↔
      ∀ event ∈ events, KeepsRules generateSha256Hash event.before.accounts
        event.input.request :=
  serveAll_rulesHold_iff ran

/-- `user 0 ultra_top_secret 10 0 "3 0 x"`. The blanks at the end only make the block
that `strlen` sizes large enough for three tokens. -/
def openAccount3Argv : Argv where
  accountId := ['0']
  password := ultraTopSecret
  delay := ['1', '0']
  opCode := ['0']
  arguments := ['3', ' ', '0', ' ', 'x'] ++ List.replicate 19 ' '

def openAccount3 : UserCall where
  pid := 1000
  uninit := ⟨0, 0, []⟩
  argv := openAccount3Argv
  call := openAccount 3 0 ['x']
  accepted := rfl

/-- The request is accepted, and account 3 is open with balance 0 and a password of
one character. -/
theorem openAccount3_breaks_rules :
    ∃ events bank,
      serveAll sessionHash sessionRand ultraTopSecret ([openAccount3].map (·.call)) =
        some (events, bank) ∧
      (bank.accounts 3).active = true ∧
      ¬ WithinBounds (bank.accounts 3).bankAccount.balance ∧
      isValidPassword openAccount3.call.request.value.create.password = false ∧
      ¬ RulesHold events bank :=
  ⟨_, _, rfl, rfl, by decide, rfl,
    fun rules => absurd (rules.balance 3 (by decide) rfl) (by decide)⟩

/-- The equivalence at that run, where both sides fail. -/
theorem openAccount3_rulesHold_iff :
    ∃ events bank,
      serveAll sessionHash sessionRand ultraTopSecret ([openAccount3].map (·.call)) =
        some (events, bank) ∧
      ((∀ past future reached, events = past ++ future →
          serveAll sessionHash sessionRand ultraTopSecret (past.map (·.input)) =
            some (past, reached) →
          RulesHold past reached) ↔
        ∀ event ∈ events, KeepsRules sessionHash event.before.accounts event.input.request) :=
  ⟨_, _, rfl, userCalls_rulesHold_iff sessionHash sessionRand ultraTopSecret [openAccount3] rfl⟩

end Sope.Banking
