import Sope.Banking.Run

set_option autoImplicit false

/- What a request leaves unchanged, from any account table at all. -/
namespace Sope.Banking

/-- The entries that an accepted request of each type may touch, and how. -/
def ChangesOnlyNamed (generateSha256Hash : CString → CString → CString) (request : TlvRequest)
    (before after : Accounts) : Prop :=
  match request.type with
  | .createAccount => ∃ target,
      accountIndex request.value.create.accountId = some target ∧
      (∀ index, index ≠ target → after index = before index) ∧
      before.isActive target = false ∧ after.isActive target = true ∧
      (after target).bankAccount.balance = request.value.create.balance ∧
      ∀ header : ReqHeader, header.accountId = request.value.create.accountId →
        header.password = request.value.create.password →
        validateBankAccount generateSha256Hash after header = some .ok
  | .transfer => ∃ source dest,
      accountIndex request.value.header.accountId = some source ∧
      accountIndex request.value.transfer.accountId = some dest ∧
      (∀ index, index ≠ source → index ≠ dest → after index = before index) ∧
      ∀ index, ∃ balance, after index =
        { before index with bankAccount := { (before index).bankAccount with balance } }
  | .balance | .shutdown | .undefined _ _ => after = before

section Create

variable {generateSha256Hash : CString → CString → CString} {bank : Bank}
  {accData : ReqCreateAccount} {target : AccountId} {id : Nat}

theorem withAccount_isActive
    (nonempty : ∀ password salt, generateSha256Hash password salt ≠ []) :
    (bank.withAccount generateSha256Hash accData target id).accounts.isActive target = true := by
  rw [isActive_iff, withAccount_self]
  exact nonempty _ _

/-- The password an account was opened with opens it. -/
theorem withAccount_login
    (nonempty : ∀ password salt, generateSha256Hash password salt ≠ [])
    {header : ReqHeader} (found : accountIndex header.accountId = some target)
    (password : header.password = accData.password) :
    LoggedIn generateSha256Hash
      (bank.withAccount generateSha256Hash accData target id).accounts header target := by
  refine ⟨found, withAccount_isActive nonempty, ?_⟩
  rw [Accounts.accepts, withAccount_self, beq_iff_eq, password]
  rfl

end Create

/-- A refused request changes no entry; an accepted one changes only the entries
that it names, in the fields that its operation is about. -/
theorem buildTlvReply_changes_only_named (generateSha256Hash : CString → CString → CString)
    (nonempty : ∀ password salt, generateSha256Hash password salt ≠ [])
    (request : TlvRequest) (bank : Bank) (buffer : TlvReply) (id : Nat) (activeThreads : Int)
    (inRange : request.InRange) :
    ∃ bank' reply, buildTlvReply generateSha256Hash request bank buffer id activeThreads =
        some (bank', reply) ∧
      (reply.value.header.retCode ≠ .ok → bank'.accounts = bank.accounts) ∧
      (reply.value.header.retCode = .ok →
        ChangesOnlyNamed generateSha256Hash request bank.accounts bank'.accounts) := by
  obtain ⟨bank', reply, replied⟩ := buildTlvReply_total generateSha256Hash request bank buffer id
    activeThreads inRange
  refine ⟨bank', reply, replied, ?_, ?_⟩
  · intro refusal
    cases buildTlvReply_outcome replied with
    | refused | reported | shutdown | ignored => rfl
    | created _ _ code => exact absurd code refusal
    | transferred _ _ _ _ _ code => exact absurd code refusal
  · intro accepted
    cases buildTlvReply_outcome replied with
    | refused refusal => exact absurd accepted refusal
    | created target guards =>
        simp only [ChangesOnlyNamed, guards.create]
        refine ⟨target, guards.targetFound, ?_, guards.inactive, withAccount_isActive nonempty,
          ?_, ?_⟩
        · intro index apart
          exact withAccount_of_ne _ _ _ apart
        · rw [withAccount_self]
          rfl
        · intro header sameId password
          exact (withAccount_login nonempty (sameId ▸ guards.targetFound) password).validate
    | reported _ balance => simp only [ChangesOnlyNamed, balance]
    | transferred source dest guards =>
        simp only [ChangesOnlyNamed, guards.transfer]
        exact ⟨source, dest, guards.login.found, guards.destFound,
          fun index notSource notDest => withTransfer_of_ne _ _ notSource notDest,
          fun index => withTransfer_frame _ _ _ _ _⟩
    | shutdown shutdown => simp only [ChangesOnlyNamed, shutdown]
    | ignored _ _ _ undefined => simp only [ChangesOnlyNamed, undefined]

/-- Opening account 1 in the initial bank. -/
theorem openAccount_changes_only_named :
    ∃ bank' reply, buildTlvReply sessionHash (openAccount 1 25 topSecret).request
        (initialBank sessionHash sessionRand ultraTopSecret) sessionBuffer 1 1 =
        some (bank', reply) ∧
      (reply.value.header.retCode ≠ .ok →
        bank'.accounts = (initialBank sessionHash sessionRand ultraTopSecret).accounts) ∧
      (reply.value.header.retCode = .ok →
        ChangesOnlyNamed sessionHash (openAccount 1 25 topSecret).request
          (initialBank sessionHash sessionRand ultraTopSecret).accounts bank'.accounts) :=
  buildTlvReply_changes_only_named sessionHash sessionHash_nonempty _ _ _ _ _ (by decide)

end Sope.Banking
