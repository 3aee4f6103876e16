import Sope.Banking.Run

set_option autoImplicit false

/- Who may do what in one step. The hash is an arbitrary function here; it may even
be empty for some passwords. -/
namespace Sope.Banking

/-- The request comes from the administrator's account with a password that hashes
to the administrator's hash, salt and hash being those main created. -/
structure FromAdmin (generateSha256Hash : CString → CString → CString) (rand : Rand)
    (adminPassword : CString) (request : TlvRequest) : Prop where
  header : request.value.header.accountId = adminAccountId
  password : generateSha256Hash request.value.header.password
      (adminEntry generateSha256Hash rand adminPassword).bankAccount.salt =
    (adminEntry generateSha256Hash rand adminPassword).bankAccount.hash

/-- The request names the administrator as the user of a balance check or a
transfer, or as the target of a transfer. -/
def NamesAdminForMoney (request : TlvRequest) : Prop :=
  (request.type = .balance ∨ request.type = .transfer) ∧
      request.value.header.accountId = adminAccountId ∨
    request.type = .transfer ∧ request.value.transfer.accountId = adminAccountId

section Steps

variable {generateSha256Hash : CString → CString → CString} {rand : Rand}
  {adminPassword : CString} {bank bank' : Bank} {request : TlvRequest} {id : Nat}
  {reply : RepValue}

/-- While the administrator's entry is the one main created, only its password logs
in to it. -/
theorem Founded.fromAdmin (founded : Founded generateSha256Hash rand adminPassword bank)
    (login : LoggedIn generateSha256Hash bank.accounts request.value.header adminIndex) :
    FromAdmin generateSha256Hash rand adminPassword request := by
  have accepted := login.accepted
  rw [Accounts.accepts, beq_iff_eq, founded.admin] at accepted
  exact ⟨(accountIndex_eq_adminIndex login.found).mp rfl, accepted⟩

/-- A flag that an accepted request sets is that of the account it creates, on the
administrator's order. -/
theorem Founded.flag_set (founded : Founded generateSha256Hash rand adminPassword bank)
    (outcome : Outcome generateSha256Hash request bank id bank' reply) {index : AccountId}
    (flag : (bank'.accounts index).active = true) :
    (bank.accounts index).active = true ∨
      request.type = .createAccount ∧ reply.header.retCode = .ok ∧
        accountIndex request.value.create.accountId = some index ∧
        FromAdmin generateSha256Hash rand adminPassword request := by
  rcases outcome.entry index with ⟨guards, code, -⟩ | ⟨balance, kept⟩
  · exact Or.inr ⟨guards.create, code, guards.targetFound, founded.fromAdmin guards.login⟩
  · rw [kept] at flag
    exact Or.inl flag

/-- An accepted shutdown is the administrator's. -/
theorem Founded.shutdown_fromAdmin
    (founded : Founded generateSha256Hash rand adminPassword bank)
    (outcome : Outcome generateSha256Hash request bank id bank' reply)
    (shutdown : request.type = .shutdown) (accepted : reply.header.retCode = .ok) :
    FromAdmin generateSha256Hash rand adminPassword request :=
  founded.fromAdmin (outcome.shutdown_login shutdown accepted)

/-- Money is refused to and from the administrator. -/
theorem namesAdmin_refused
    (outcome : Outcome generateSha256Hash request bank id bank' reply)
    (names : NamesAdminForMoney request) : reply.header.retCode ≠ .ok := by
  intro accepted
  cases outcome with
  | refused refusal => exact refusal accepted
  | created _ guards => simp [NamesAdminForMoney, guards.create] at names
  | reported user balance login client =>
      simp only [NamesAdminForMoney, balance, reduceCtorEq, or_false, true_and, false_and]
        at names
      exact client ((accountIndex_eq_adminIndex login.found).mpr names)
  | transferred source dest guards =>
      simp only [NamesAdminForMoney, guards.transfer, or_true, true_and] at names
      rcases names with user | target
      · exact guards.sourceClient ((accountIndex_eq_adminIndex guards.login.found).mpr user)
      · exact guards.destClient ((accountIndex_eq_adminIndex guards.destFound).mpr target)
  | shutdown shutdown => simp [NamesAdminForMoney, shutdown] at names
  | ignored _ _ _ undefined => simp [NamesAdminForMoney, undefined] at names

end Steps

end Sope.Banking
