import Sope.Banking.Outcome

set_option autoImplicit false

/- What an answer depends on. The semaphores, the server log, the reply buffer, the
office and `active_threads` decide neither the account data nor the return code. -/
namespace Sope.Banking

/-- The account tables agree but for the semaphores, and so do the random numbers. -/
structure SameData (bank bank' : Bank) : Prop where
  account : ∀ index, (bank.accounts index).bankAccount = (bank'.accounts index).bankAccount
  active : ∀ index, (bank.accounts index).active = (bank'.accounts index).active
  rand : bank.rand = bank'.rand

theorem SameData.refl (bank : Bank) : SameData bank bank := ⟨fun _ => rfl, fun _ => rfl, rfl⟩

theorem SameData.symm {bank bank' : Bank} (same : SameData bank bank') : SameData bank' bank :=
  ⟨fun index => (same.account index).symm, fun index => (same.active index).symm, same.rand.symm⟩

theorem SameData.trans {bank bank' bank'' : Bank} (same : SameData bank bank')
    (same' : SameData bank' bank'') : SameData bank bank'' :=
  ⟨fun index => (same.account index).trans (same'.account index),
    fun index => (same.active index).trans (same'.active index), same.rand.trans same'.rand⟩

/-- The replies agree, in the balance where they carry one. -/
structure SameAnswer (reply reply' : TlvReply) : Prop where
  type : reply.type = reply'.type
  header : reply.value.header = reply'.value.header
  balance : reply.value.header.retCode = .ok → reply.type = .balance ∨ reply.type = .transfer →
    reply.value.info = reply'.value.info

theorem SameAnswer.euclidean {reply reply' reply'' : TlvReply} (answer : SameAnswer reply reply'')
    (answer' : SameAnswer reply' reply'') : SameAnswer reply reply' := by
  refine ⟨answer.type.trans answer'.type.symm, answer.header.trans answer'.header.symm, ?_⟩
  intro accepted due
  rw [answer.balance accepted due, answer'.balance]
  · rw [answer'.header, ← answer.header]
    exact accepted
  · rw [answer'.type, ← answer.type]
    exact due

/-- Both calls stay inside the account table and agree, or neither does. -/
def Agree : Option (Bank × TlvReply) → Option (Bank × TlvReply) → Prop :=
  Option.Rel fun out out' => SameData out.1 out'.1 ∧ SameAnswer out.2 out'.2

theorem Agree.of_some {bank : Bank} {reply : TlvReply} {out' : Option (Bank × TlvReply)}
    (agree : Agree (some (bank, reply)) out') :
    ∃ bank' reply', out' = some (bank', reply') ∧ SameData bank bank' ∧
      SameAnswer reply reply' := by
  cases agree with
  | some both => exact ⟨_, _, rfl, both⟩

section Congruence

variable {generateSha256Hash : CString → CString → CString} {bank bank' : Bank}
  {request : TlvRequest} {reply reply' : TlvReply} {id id' : Nat}
  {activeThreads activeThreads' : Int}

theorem SameData.isActive (same : SameData bank bank') (index : AccountId) :
    bank.accounts.isActive index = bank'.accounts.isActive index := by
  rw [Accounts.isActive, Accounts.isActive, same.account]

theorem SameData.isActiveAccount (same : SameData bank bank') (accId : UInt32) :
    isActiveAccount bank.accounts accId = isActiveAccount bank'.accounts accId := by
  simp only [Banking.isActiveAccount, same.isActive]

theorem SameData.validateBankAccount (same : SameData bank bank') (header : ReqHeader) :
    validateBankAccount generateSha256Hash bank.accounts header =
      validateBankAccount generateSha256Hash bank'.accounts header := by
  simp only [Banking.validateBankAccount, same.isActiveAccount, Accounts.accepts, same.account]
  rfl

theorem SameData.withAccount (same : SameData bank bank') (accData : ReqCreateAccount)
    (target : AccountId) :
    SameData (bank.withAccount generateSha256Hash accData target id)
      (bank'.withAccount generateSha256Hash accData target id') := by
  refine ⟨?_, ?_, ?_⟩
  · intro index
    by_cases created : index = target
    · simp only [Bank.withAccount, created, Function.update_self, same.rand]
    · simp only [Bank.withAccount, Function.update_of_ne created, same.account]
  · intro index
    by_cases created : index = target
    · simp only [Bank.withAccount, created, Function.update_self, same.rand]
    · simp only [Bank.withAccount, Function.update_of_ne created, same.active]
  · simp only [Bank.withAccount, same.rand]

theorem SameData.modifyBalance (same : SameData bank bank') (index : AccountId)
    (f : UInt32 → UInt32) :
    SameData { bank with accounts := bank.accounts.modifyBalance index f }
      { bank' with accounts := bank'.accounts.modifyBalance index f } := by
  refine ⟨?_, ?_, same.rand⟩
  · intro other
    by_cases written : other = index
    · simp only [Accounts.modifyBalance, written, Function.update_self, same.account]
    · simp only [Accounts.modifyBalance, Function.update_of_ne written, same.account]
  · intro other
    by_cases written : other = index
    · simp only [Accounts.modifyBalance, written, Function.update_self, same.active]
    · simp only [Accounts.modifyBalance, Function.update_of_ne written, same.active]

theorem SameData.withTransfer (same : SameData bank bank') (source dest : AccountId)
    (amount : UInt32) :
    SameData (bank.withTransfer source dest amount) (bank'.withTransfer source dest amount) :=
  (same.modifyBalance dest (· + amount)).modifyBalance source (· - amount)

theorem SameAnswer.withRetCode (type : reply.type = reply'.type)
    (header : reply.value.header = reply'.value.header) {code : RetCode} (refusal : code ≠ .ok) :
    SameAnswer (reply.withRetCode code) (reply'.withRetCode code) := by
  refine ⟨type, ?_, fun accepted => absurd accepted refusal⟩
  simp only [TlvReply.withRetCode, header]

theorem SameAnswer.withInfo (type : reply.type = reply'.type)
    (header : reply.value.header = reply'.value.header) (info : UInt32) :
    SameAnswer (reply.withInfo info) (reply'.withInfo info) :=
  ⟨type, header, fun _ _ => rfl⟩

/-- Where no balance is due, two replies that start alike agree. -/
theorem SameAnswer.of_type (type : reply.type = reply'.type)
    (header : reply.value.header = reply'.value.header)
    (noBalance : reply.type ≠ .balance ∧ reply.type ≠ .transfer) : SameAnswer reply reply' :=
  ⟨type, header, fun _ due => (due.elim noBalance.1 noBalance.2).elim⟩

theorem replyCreateAccount_agree (same : SameData bank bank') (create : reply.type = .createAccount)
    (type : reply.type = reply'.type) (header : reply.value.header = reply'.value.header) :
    Agree (replyCreateAccount generateSha256Hash request bank reply id)
      (replyCreateAccount generateSha256Hash request bank' reply' id') := by
  have answer : SameAnswer reply reply' :=
    .of_type type header (by rw [create]; exact ⟨OpType.noConfusion, OpType.noConfusion⟩)
  by_cases admin : request.value.header.accountId = adminAccountId
  · cases found : accountIndex request.value.create.accountId with
    | none =>
        simp only [replyCreateAccount, admin, isActiveAccount, found]
        exact .none
    | some target =>
        rw [replyCreateAccount_eq found, replyCreateAccount_eq found, same.isActive]
        simp only [admin, ne_eq, not_true_eq_false, ↓reduceIte]
        split
        · exact .some ⟨same, .withRetCode type header RetCode.noConfusion⟩
        · exact .some ⟨same.withAccount .., answer⟩
  · simp only [replyCreateAccount, ne_eq, admin, not_false_eq_true, ↓reduceIte]
    exact .some ⟨same, .withRetCode type header RetCode.noConfusion⟩

theorem replyBalance_agree (same : SameData bank bank') (type : reply.type = reply'.type)
    (header : reply.value.header = reply'.value.header) :
    Agree (replyBalance request bank reply) (replyBalance request bank' reply') := by
  have sameId : reply.value.header.accountId = reply'.value.header.accountId := by
    rw [header]
  by_cases admin : request.value.header.accountId = adminAccountId
  · simp only [replyBalance, admin, ↓reduceIte]
    exact .some ⟨same, .withRetCode type header RetCode.noConfusion⟩
  · cases unionFound : accountIndex request.value.create.accountId with
    | none =>
        simp only [replyBalance, admin, isActiveAccount, unionFound, ↓reduceIte]
        exact .none
    | some index =>
        cases active : bank'.accounts.isActive index with
        | false =>
            simp only [replyBalance, admin, isActiveAccount_of_found unionFound, same.isActive,
              active, ↓reduceIte]
            exact .some ⟨same, .withRetCode type header RetCode.noConfusion⟩
        | true =>
            cases found : accountIndex reply'.value.header.accountId with
            | none =>
                simp only [replyBalance, admin, isActiveAccount_of_found unionFound, same.isActive,
                  active, sameId, found, ↓reduceIte]
                exact .none
            | some user =>
                simp only [replyBalance, admin, isActiveAccount_of_found unionFound, same.isActive,
                  active, sameId, found, same.account, ↓reduceIte]
                exact .some ⟨same, .withInfo type header _⟩

theorem replyTransfer_agree (same : SameData bank bank') (type : reply.type = reply'.type)
    (header : reply.value.header = reply'.value.header) :
    Agree (replyTransfer request bank reply) (replyTransfer request bank' reply') := by
  have answer := SameAnswer.withInfo type header request.value.transfer.amount
  have refused {code : RetCode} (refusal : code ≠ .ok) :
      Agree (some (bank, (reply.withInfo request.value.transfer.amount).withRetCode code))
        (some (bank', (reply'.withInfo request.value.transfer.amount).withRetCode code)) :=
    .some ⟨same, .withRetCode answer.type answer.header refusal⟩
  by_cases sameId : request.value.header.accountId = request.value.transfer.accountId
  · simp only [replyTransfer, sameId, ↓reduceIte]
    exact refused RetCode.noConfusion
  by_cases admin : request.value.header.accountId = adminAccountId
  · simp only [replyTransfer, if_neg sameId, if_pos admin]
    exact refused RetCode.noConfusion
  by_cases toAdmin : request.value.transfer.accountId = adminAccountId
  · simp only [replyTransfer, if_neg sameId, if_neg admin, if_pos toAdmin]
    exact refused RetCode.noConfusion
  cases destFound : accountIndex request.value.transfer.accountId with
  | none =>
      simp only [replyTransfer, if_neg sameId, if_neg admin, if_neg toAdmin, isActiveAccount,
        destFound]
      exact .none
  | some dest =>
      cases sourceFound : accountIndex request.value.header.accountId with
      | none =>
          cases active : bank'.accounts.isActive dest with
          | false =>
              simp only [replyTransfer, if_neg sameId, if_neg admin, if_neg toAdmin,
                isActiveAccount_of_found destFound, same.isActive, active]
              exact refused RetCode.noConfusion
          | true =>
              simp only [replyTransfer, if_neg sameId, if_neg admin, if_neg toAdmin,
                isActiveAccount_of_found destFound, same.isActive, active, sourceFound]
              exact .none
      | some source =>
          have moved := same.withTransfer source dest request.value.transfer.amount
          rw [replyTransfer_eq sourceFound destFound, replyTransfer_eq sourceFound destFound]
          simp only [if_neg sameId, if_neg admin, if_neg toAdmin, same.isActive, same.account,
            moved.account]
          split
          · exact refused RetCode.noConfusion
          split
          · exact refused RetCode.noConfusion
          split
          · exact refused RetCode.noConfusion
          exact .some ⟨moved, .withInfo type header _⟩

theorem replySwitch_agree (same : SameData bank bank') (type : reply.type = request.type)
    (type' : reply'.type = request.type) (header : reply.value.header = reply'.value.header) :
    Agree (replySwitch generateSha256Hash request bank reply id activeThreads)
      (replySwitch generateSha256Hash request bank' reply' id' activeThreads') := by
  have sameType := type.trans type'.symm
  unfold replySwitch
  cases kind : request.type with
  | createAccount => exact replyCreateAccount_agree same (type.trans kind) sameType header
  | balance => exact replyBalance_agree same sameType header
  | transfer => exact replyTransfer_agree same sameType header
  | shutdown =>
      dsimp only [replyShutdown]
      split
      · exact .some ⟨same, .withRetCode sameType header RetCode.noConfusion⟩
      · refine .some ⟨same, .of_type sameType header ?_⟩
        exact ⟨fun h => OpType.noConfusion ((kind.symm.trans type.symm).trans h),
          fun h => OpType.noConfusion ((kind.symm.trans type.symm).trans h)⟩
  | undefined value outside =>
      refine .some ⟨same, .of_type sameType header ?_⟩
      exact ⟨fun h => OpType.noConfusion ((kind.symm.trans type.symm).trans h),
        fun h => OpType.noConfusion ((kind.symm.trans type.symm).trans h)⟩

theorem Agree.withLength {out out' : Option (Bank × TlvReply)} (agree : Agree out out')
    (length : UInt32) :
    Agree (out.bind fun (bank, reply) => some (bank, { reply with length }))
      (out'.bind fun (bank, reply) => some (bank, { reply with length })) := by
  cases agree with
  | none => exact .none
  | some both =>
      obtain ⟨same, answer⟩ := both
      exact .some ⟨same, answer.type, answer.header, answer.balance⟩

/-- Two calls of `build_tlv_reply` for one request, on tables with the same data. -/
theorem buildTlvReply_agree (same : SameData bank bank') :
    Agree (buildTlvReply generateSha256Hash request bank reply id activeThreads)
      (buildTlvReply generateSha256Hash request bank' reply' id' activeThreads') := by
  simp only [buildTlvReply, same.validateBankAccount, Option.bind_eq_bind, Option.pure_def]
  cases validateBankAccount generateSha256Hash bank'.accounts request.value.header with
  | none => exact .none
  | some code =>
      simp only [Option.bind_some]
      by_cases ok : code = .ok
      · simp only [ok, ↓reduceIte]
        apply Agree.withLength
        exact replySwitch_agree same rfl rfl rfl
      · simp only [ok, ↓reduceIte]
        exact .some ⟨same, rfl, rfl, fun accepted => absurd accepted ok⟩

end Congruence

end Sope.Banking
