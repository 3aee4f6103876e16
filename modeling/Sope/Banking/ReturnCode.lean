import Sope.Banking.Amount
import Sope.Banking.Run

set_option autoImplicit false

/- The rule of types.h that, of several errors, the first in `ret_code_t` must be
returned, against the order in which `build_tlv_reply` makes its tests. -/
namespace Sope.Banking

/-- The errors that apply to a request, each as its comment in types.h has it. The
final balances are those that a transfer would leave, as integers. -/
def Applies (generateSha256Hash : CString → CString → CString) (accounts : Accounts)
    (request : TlvRequest) : RetCode → Prop
  | .loginFail => ¬ ∃ user, LoggedIn generateSha256Hash accounts request.value.header user
  | .opNallow =>
      match request.type with
      | .createAccount | .shutdown => request.value.header.accountId ≠ adminAccountId
      | .balance => request.value.header.accountId = adminAccountId
      | .transfer => request.value.header.accountId = adminAccountId ∨
          request.value.transfer.accountId = adminAccountId
      | .undefined _ _ => False
  | .idInUse => request.type = .createAccount ∧
      ∃ target, accountIndex request.value.create.accountId = some target ∧
        accounts.isActive target = true
  | .idNotFound => request.type = .transfer ∧
      ∃ dest, accountIndex request.value.transfer.accountId = some dest ∧
        accounts.isActive dest = false
  | .sameId => request.type = .transfer ∧
      request.value.header.accountId = request.value.transfer.accountId
  | .noFunds => request.type = .transfer ∧
      ∃ source, accountIndex request.value.header.accountId = some source ∧
        ((accounts source).bankAccount.balance.toNat : Int) -
          request.value.transfer.amount.toNat < minBalance.toNat
  | .tooHigh => request.type = .transfer ∧
      ∃ dest, accountIndex request.value.transfer.accountId = some dest ∧
        ((accounts dest).bankAccount.balance.toNat : Int) +
          request.value.transfer.amount.toNat > maxBalance.toNat
  | _ => False

/-- The code to return: `RC_OK` without errors, else the first of them. -/
def AnswersFirst (errors : RetCode → Prop) (code : RetCode) : Prop :=
  (code = .ok ∧ ∀ error, ¬ errors error) ∨
    (errors code ∧ ∀ error, errors error → code.position ≤ error.position)

theorem position_injective {code code' : RetCode} (same : code.position = code'.position) :
    code = code' := by
  cases code <;> cases code' <;> first | rfl | cases same

/-- At most one code is the right one. -/
theorem answersFirst_iff {errors : RetCode → Prop} {code first : RetCode}
    (right : AnswersFirst errors first) : AnswersFirst errors code ↔ code = first := by
  constructor
  · intro answered
    rcases answered with ⟨rfl, none⟩ | ⟨applies, least⟩ <;>
      rcases right with ⟨rfl, none'⟩ | ⟨applies', least'⟩
    · rfl
    · exact absurd applies' (none _)
    · exact absurd applies (none' _)
    · exact position_injective (Nat.le_antisymm (least _ applies') (least' _ applies))
  · rintro rfl
    exact right

/-- Where the two 32-bit tests of a transfer agree with the integers: the
difference must not leave the signed range, nor the sum wrap to a small one. -/
def TestsExact (sourceBalance destBalance amount : Nat) : Prop :=
  (sourceBalance ≤ amount → amount ≤ sourceBalance + 2 ^ 31) ∧
    (amount < sourceBalance → sourceBalance - amount < 2 ^ 31 ∧
      (destBalance + amount < 2 ^ 32 ∨ maxBalance.toNat < destBalance + amount - 2 ^ 32))

/-- What the header, the union and the balances must satisfy for the code's own
order of tests to meet the rule. -/
def PriorityKept (generateSha256Hash : CString → CString → CString) (accounts : Accounts)
    (request : TlvRequest) : Prop :=
  ∀ user, accountIndex request.value.header.accountId = some user →
    accounts.isActive user = true ∧
    (accounts.accepts generateSha256Hash user request.value.header.password = true →
      match request.type with
      | .balance => user ≠ adminIndex → ∀ index,
          accountIndex request.value.create.accountId = some index → accounts.isActive index = true
      | .transfer => ∀ dest, accountIndex request.value.transfer.accountId = some dest →
          (user = dest → user ≠ adminIndex) ∧
          (user ≠ dest → user ≠ adminIndex → dest ≠ adminIndex → accounts.isActive dest = true →
            TestsExact (accounts user).bankAccount.balance.toNat
              (accounts dest).bankAccount.balance.toNat request.value.transfer.amount.toNat)
      | .createAccount | .shutdown | .undefined _ _ => True)

section Codes

variable {generateSha256Hash : CString → CString → CString} {request : TlvRequest}
  {bank bank' : Bank} {buffer reply : TlvReply} {id : Nat} {activeThreads : Int}
  {user : AccountId}

/-- The code of a transfer, test by test in the order of the source. -/
theorem transfer_retCode {dest : AccountId} (transfer : request.type = .transfer)
    (login : LoggedIn generateSha256Hash bank.accounts request.value.header user)
    (destFound : accountIndex request.value.transfer.accountId = some dest)
    (replied : buildTlvReply generateSha256Hash request bank buffer id activeThreads =
      some (bank', reply)) :
    reply.value.header.retCode =
      if user = dest then .sameId
      else if user = adminIndex then .opNallow
      else if dest = adminIndex then .opNallow
      else if bank.accounts.isActive dest = false then .idNotFound
      else if noFundsTest (bank.accounts user).bankAccount.balance
        request.value.transfer.amount = true then .noFunds
      else if tooHighTest (bank.accounts dest).bankAccount.balance
        request.value.transfer.amount = true then .tooHigh
      else .ok := by
  rw [buildTlvReply_of_login login, replySwitch, transfer] at replied
  simp only [replyTransfer_eq login.found destFound, Option.map_some, Option.some.injEq,
    Prod.mk.injEq] at replied
  simp only [accountIndex_inj login.found destFound, accountIndex_eq_adminIndex login.found,
    accountIndex_eq_adminIndex destFound]
  rw [← replied.2]
  repeat' split
  all_goals rfl

theorem balance_retCode {index : AccountId} (balance : request.type = .balance)
    (login : LoggedIn generateSha256Hash bank.accounts request.value.header user)
    (unionFound : accountIndex request.value.create.accountId = some index)
    (replied : buildTlvReply generateSha256Hash request bank buffer id activeThreads =
      some (bank', reply)) :
    reply.value.header.retCode =
      if user = adminIndex then .opNallow
      else if bank.accounts.isActive index = false then .idNotFound
      else .ok := by
  have userFound : accountIndex (replyStart request buffer .ok).value.header.accountId =
      some user := login.found
  rw [buildTlvReply_of_login login, replySwitch, balance] at replied
  simp only [replyBalance_eq unionFound userFound, Option.map_some, Option.some.injEq,
    Prod.mk.injEq] at replied
  simp only [accountIndex_eq_adminIndex login.found]
  rw [← replied.2]
  repeat' split
  all_goals rfl

theorem create_retCode {target : AccountId} (create : request.type = .createAccount)
    (login : LoggedIn generateSha256Hash bank.accounts request.value.header user)
    (targetFound : accountIndex request.value.create.accountId = some target)
    (replied : buildTlvReply generateSha256Hash request bank buffer id activeThreads =
      some (bank', reply)) :
    reply.value.header.retCode =
      if user ≠ adminIndex then .opNallow
      else if bank.accounts.isActive target = true then .idInUse
      else .ok := by
  rw [buildTlvReply_of_login login, replySwitch, create] at replied
  simp only [replyCreateAccount_eq targetFound, Option.map_some, Option.some.injEq,
    Prod.mk.injEq] at replied
  simp only [ne_eq, accountIndex_eq_adminIndex login.found]
  rw [← replied.2]
  repeat' split
  all_goals rfl

/-- The whole answer to a shutdown, which needs the administrator. -/
theorem shutdown_reply (shutdown : request.type = .shutdown)
    (login : LoggedIn generateSha256Hash bank.accounts request.value.header user) :
    buildTlvReply generateSha256Hash request bank buffer id activeThreads =
      some (bank,
        { (if user = adminIndex then
              (replyStart request buffer .ok).withInfo (UInt32.ofInt activeThreads)
            else (replyStart request buffer .ok).withRetCode .opNallow) with
          length := replyLength }) := by
  rw [buildTlvReply_of_login login, replySwitch, shutdown]
  simp only [replyShutdown, accountIndex_eq_adminIndex login.found]
  by_cases admin : request.value.header.accountId = adminAccountId <;> simp [admin]

theorem shutdown_retCode (shutdown : request.type = .shutdown)
    (login : LoggedIn generateSha256Hash bank.accounts request.value.header user)
    (replied : buildTlvReply generateSha256Hash request bank buffer id activeThreads =
      some (bank', reply)) :
    reply.value.header.retCode = if user ≠ adminIndex then .opNallow else .ok := by
  rw [shutdown_reply shutdown login] at replied
  cases replied
  by_cases admin : user = adminIndex <;> simp [admin, replyStart]

theorem undefined_retCode {value : UInt32} {outside : 4 ≤ value}
    (undefined : request.type = .undefined value outside)
    (login : LoggedIn generateSha256Hash bank.accounts request.value.header user)
    (replied : buildTlvReply generateSha256Hash request bank buffer id activeThreads =
      some (bank', reply)) :
    reply.value.header.retCode = .ok := by
  rw [buildTlvReply_of_login login, replySwitch, undefined] at replied
  simp only [Option.map_some, Option.some.injEq, Prod.mk.injEq] at replied
  rw [← replied.2]
  rfl

end Codes

/-- The code of the first of some tests that fails, each a code and whether it fails. -/
def firstError : List (RetCode × Bool) → RetCode
  | [] => .ok
  | (code, fails) :: rest => if fails = true then code else firstError rest

/-- Tests in the order of `ret_code_t` that cover all errors find the first one. -/
theorem answersFirst_firstError {errors : RetCode → Prop} {tests : List (RetCode × Bool)}
    (sorted : tests.Pairwise fun test later => test.1.position < later.1.position)
    (covers : ∀ code, errors code ↔ (code, true) ∈ tests) :
    AnswersFirst errors (firstError tests) := by
  induction tests with
  | nil => exact .inl ⟨rfl, fun error applies => List.not_mem_nil ((covers error).mp applies)⟩
  | cons test rest ih =>
      obtain ⟨code, fails⟩ := test
      obtain ⟨first, sorted'⟩ := List.pairwise_cons.mp sorted
      cases fails with
      | true =>
          refine .inr ⟨(covers code).mpr List.mem_cons_self, fun error applies => ?_⟩
          rcases List.mem_cons.mp ((covers error).mp applies) with same | later
          · cases same
            exact Nat.le_refl _
          · exact Nat.le_of_lt (first _ later)
      | false =>
          apply ih sorted'
          intro code'
          rw [covers, List.mem_cons]
          simp

section Right

variable {generateSha256Hash : CString → CString → CString} {request : TlvRequest}
  {accounts : Accounts} {user : AccountId}

/-- After a login the first error of a transfer, in the order of types.h. -/
theorem transfer_answersFirst {dest : AccountId} (transfer : request.type = .transfer)
    (login : LoggedIn generateSha256Hash accounts request.value.header user)
    (destFound : accountIndex request.value.transfer.accountId = some dest) :
    AnswersFirst (Applies generateSha256Hash accounts request)
      (if user = adminIndex ∨ dest = adminIndex then .opNallow
      else if accounts.isActive dest = false then .idNotFound
      else if user = dest then .sameId
      else if ((accounts user).bankAccount.balance.toNat : Int) -
        request.value.transfer.amount.toNat < minBalance.toNat then .noFunds
      else if ((accounts dest).bankAccount.balance.toNat : Int) +
        request.value.transfer.amount.toNat > maxBalance.toNat then .tooHigh
      else .ok) := by
  have loggedIn : ∃ user, LoggedIn generateSha256Hash accounts request.value.header user :=
    ⟨user, login⟩
  have first : AnswersFirst (Applies generateSha256Hash accounts request) (firstError
      [(.opNallow, user = adminIndex ∨ dest = adminIndex),
        (.idNotFound, accounts.isActive dest = false), (.sameId, user = dest),
        (.noFunds, ((accounts user).bankAccount.balance.toNat : Int) -
          request.value.transfer.amount.toNat < minBalance.toNat),
        (.tooHigh, ((accounts dest).bankAccount.balance.toNat : Int) +
          request.value.transfer.amount.toNat > maxBalance.toNat)]) := by
    apply answersFirst_firstError
    · simp [RetCode.position]
    · intro code
      cases code <;>
        simp [Applies, transfer, loggedIn, login.found, destFound,
          accountIndex_eq_adminIndex login.found, accountIndex_eq_adminIndex destFound,
          accountIndex_inj login.found destFound]
  simpa only [firstError, decide_eq_true_eq] using first

theorem balance_answersFirst (balance : request.type = .balance)
    (login : LoggedIn generateSha256Hash accounts request.value.header user) :
    AnswersFirst (Applies generateSha256Hash accounts request)
      (if user = adminIndex then .opNallow else .ok) := by
  have loggedIn : ∃ user, LoggedIn generateSha256Hash accounts request.value.header user :=
    ⟨user, login⟩
  have first : AnswersFirst (Applies generateSha256Hash accounts request)
      (firstError [(.opNallow, user = adminIndex)]) := by
    apply answersFirst_firstError
    · simp
    · intro code
      cases code <;> simp [Applies, balance, loggedIn, accountIndex_eq_adminIndex login.found]
  simpa only [firstError, decide_eq_true_eq] using first

theorem create_answersFirst {target : AccountId} (create : request.type = .createAccount)
    (login : LoggedIn generateSha256Hash accounts request.value.header user)
    (targetFound : accountIndex request.value.create.accountId = some target) :
    AnswersFirst (Applies generateSha256Hash accounts request)
      (if user ≠ adminIndex then .opNallow
      else if accounts.isActive target = true then .idInUse
      else .ok) := by
  have loggedIn : ∃ user, LoggedIn generateSha256Hash accounts request.value.header user :=
    ⟨user, login⟩
  have first : AnswersFirst (Applies generateSha256Hash accounts request)
      (firstError [(.opNallow, user ≠ adminIndex), (.idInUse, accounts.isActive target)]) := by
    apply answersFirst_firstError
    · simp [RetCode.position]
    · intro code
      cases code <;>
        simp [Applies, create, loggedIn, targetFound, accountIndex_eq_adminIndex login.found]
  simpa only [firstError, decide_eq_true_eq] using first

theorem shutdown_answersFirst (shutdown : request.type = .shutdown)
    (login : LoggedIn generateSha256Hash accounts request.value.header user) :
    AnswersFirst (Applies generateSha256Hash accounts request)
      (if user ≠ adminIndex then .opNallow else .ok) := by
  have loggedIn : ∃ user, LoggedIn generateSha256Hash accounts request.value.header user :=
    ⟨user, login⟩
  have first : AnswersFirst (Applies generateSha256Hash accounts request)
      (firstError [(.opNallow, user ≠ adminIndex)]) := by
    apply answersFirst_firstError
    · simp
    · intro code
      cases code <;> simp [Applies, shutdown, loggedIn, accountIndex_eq_adminIndex login.found]
  simpa only [firstError, decide_eq_true_eq] using first

theorem undefined_answersFirst {value : UInt32} {outside : 4 ≤ value}
    (undefined : request.type = .undefined value outside)
    (login : LoggedIn generateSha256Hash accounts request.value.header user) :
    AnswersFirst (Applies generateSha256Hash accounts request) .ok := by
  have loggedIn : ∃ user, LoggedIn generateSha256Hash accounts request.value.header user :=
    ⟨user, login⟩
  refine Or.inl ⟨rfl, fun error => ?_⟩
  cases error <;> simp [Applies, undefined, loggedIn]

/-- Without a login the first error is the failed login. -/
theorem loginFail_answersFirst
    (noLogin : ¬ ∃ user, LoggedIn generateSha256Hash accounts request.value.header user) :
    AnswersFirst (Applies generateSha256Hash accounts request) .loginFail := by
  refine .inr ⟨noLogin, fun error applies => ?_⟩
  cases error <;> first | exact applies.elim | decide

/-- The two tests answer as the integers do exactly when they are exact. -/
theorem testsExact_iff {sourceBalance destBalance amount : UInt32} :
    TestsExact sourceBalance.toNat destBalance.toNat amount.toNat ↔
      (if noFundsTest sourceBalance amount = true then RetCode.noFunds
        else if tooHighTest destBalance amount = true then .tooHigh else .ok) =
      (if (sourceBalance.toNat : Int) - amount.toNat < minBalance.toNat then RetCode.noFunds
        else if (destBalance.toNat : Int) + amount.toNat > maxBalance.toNat then .tooHigh
        else .ok) := by
  have hs := sourceBalance.toNat_lt
  have hd := destBalance.toNat_lt
  have ha := amount.toNat_lt
  have floor : minBalance.toNat = 1 := by decide
  have ceiling : maxBalance.toNat = 1000000000 := by decide
  have funds := @noFundsTest_eq_false sourceBalance amount
  have room := @tooHighTest_eq_false destBalance amount
  rw [sub_toNat] at funds
  rw [UInt32.toNat_add] at room
  rw [TestsExact]
  cases lacking : noFundsTest sourceBalance amount <;>
    cases exceeding : tooHighTest destBalance amount <;>
    simp only [lacking, exceeding, true_iff, reduceCtorEq, false_iff, Bool.false_eq_true,
      ↓reduceIte] at funds room ⊢ <;>
    split_ifs <;> simp only [iff_false, iff_true] <;> omega

end Right

section Priority

variable {generateSha256Hash : CString → CString → CString} {request : TlvRequest}
  {bank bank' : Bank} {buffer reply : TlvReply} {id : Nat} {activeThreads : Int}
  {user : AccountId}

/-- Without a login the rule wants `RC_LOGIN_FAIL`, which the code answers for an
account that exists. -/
theorem noLogin_priority_iff (found : accountIndex request.value.header.accountId = some user)
    (noLogin : ¬ LoggedIn generateSha256Hash bank.accounts request.value.header user)
    (replied : buildTlvReply generateSha256Hash request bank buffer id activeThreads =
      some (bank', reply)) :
    AnswersFirst (Applies generateSha256Hash bank.accounts request) reply.value.header.retCode ↔
      bank.accounts.isActive user = true := by
  have nobody : ¬ ∃ other,
      LoggedIn generateSha256Hash bank.accounts request.value.header other := by
    rintro ⟨other, login⟩
    rw [(accountIndex_inj login.found found).mpr rfl] at login
    exact noLogin login
  rw [answersFirst_iff (loginFail_answersFirst nobody),
    (buildTlvReply_no_login found noLogin replied).2]
  cases bank.accounts.isActive user <;> simp

/-- The transfer's part of the rule. -/
theorem transfer_priority_iff {dest : AccountId} (transfer : request.type = .transfer)
    (login : LoggedIn generateSha256Hash bank.accounts request.value.header user)
    (destFound : accountIndex request.value.transfer.accountId = some dest)
    (replied : buildTlvReply generateSha256Hash request bank buffer id activeThreads =
      some (bank', reply)) :
    AnswersFirst (Applies generateSha256Hash bank.accounts request) reply.value.header.retCode ↔
      (user = dest → user ≠ adminIndex) ∧
      (user ≠ dest → user ≠ adminIndex → dest ≠ adminIndex → bank.accounts.isActive dest = true →
        TestsExact (bank.accounts user).bankAccount.balance.toNat
          (bank.accounts dest).bankAccount.balance.toNat request.value.transfer.amount.toNat) := by
  rw [answersFirst_iff (transfer_answersFirst transfer login destFound),
    transfer_retCode transfer login destFound replied, testsExact_iff]
  by_cases same : user = dest
  · subst same
    by_cases admin : user = adminIndex <;> simp [admin, login.active]
  by_cases admin : user = adminIndex
  · simp [admin]
  by_cases toAdmin : dest = adminIndex
  · simp [admin, toAdmin]
  cases active : bank.accounts.isActive dest <;> simp [same, admin, toAdmin]

/-- The return-code rule holds of exactly the requests described by `PriorityKept`,
from every bank. -/
theorem retCode_is_first_error_iff (generateSha256Hash : CString → CString → CString)
    (request : TlvRequest) (bank : Bank) (buffer : TlvReply) (id : Nat) (activeThreads : Int)
    (inRange : request.InRange) :
    ∃ bank' reply, buildTlvReply generateSha256Hash request bank buffer id activeThreads =
        some (bank', reply) ∧
      (AnswersFirst (Applies generateSha256Hash bank.accounts request)
          reply.value.header.retCode ↔
        PriorityKept generateSha256Hash bank.accounts request) := by
  obtain ⟨bank', reply, replied⟩ := buildTlvReply_total generateSha256Hash request bank buffer id
    activeThreads inRange
  refine ⟨bank', reply, replied, ?_⟩
  have userFound := accountIndex_of_lt inRange.header
  generalize (⟨request.value.header.accountId.toNat, inRange.header⟩ : AccountId) = user
    at userFound
  have onlyUser (P : AccountId → Prop) :
      (∀ index, accountIndex request.value.header.accountId = some index → P index) ↔ P user := by
    simp [userFound]
  rw [PriorityKept, onlyUser]
  by_cases login : LoggedIn generateSha256Hash bank.accounts request.value.header user
  swap
  · rw [noLogin_priority_iff userFound login replied]
    constructor
    · intro active
      exact ⟨active, fun accepted => absurd ⟨userFound, active, accepted⟩ login⟩
    · intro kept
      exact kept.1
  simp only [login.active, login.accepted, true_and, forall_const]
  cases type : request.type with
  | createAccount =>
      have targetFound := accountIndex_of_lt (inRange.create (Or.inl type))
      rw [answersFirst_iff (create_answersFirst type login targetFound),
        create_retCode type login targetFound replied]
      simp only
  | balance =>
      have unionFound := accountIndex_of_lt (inRange.create (Or.inr (Or.inl type)))
      rw [answersFirst_iff (balance_answersFirst type login),
        balance_retCode type login unionFound replied]
      simp only [unionFound, Option.some.injEq, forall_eq']
      by_cases admin : user = adminIndex
      · simp [admin]
      · cases named : bank.accounts.isActive _ <;> simp [admin]
  | transfer =>
      have destFound : accountIndex request.value.transfer.accountId = some _ :=
        accountIndex_of_lt (inRange.create (Or.inr (Or.inr type)))
      rw [transfer_priority_iff type login destFound replied]
      simp only [destFound, Option.some.injEq, forall_eq']
  | shutdown =>
      rw [answersFirst_iff (shutdown_answersFirst type login),
        shutdown_retCode type login replied]
      simp only
  | undefined value outside =>
      rw [answersFirst_iff (undefined_answersFirst type login),
        undefined_retCode type login replied]
      simp only

/-- `user 1 top_secret 10 1 ""`, where the stack holds the id 5 at the union's place. -/
def staleUnion : TlvRequest := (sessionCall .balance 1 topSecret ⟨5, 0, []⟩).request

/-- Account 1 may ask for its balance and no error applies, but nobody has opened account 5,
and the code tests that one. -/
theorem staleUnion_retCode_not_first :
    ∃ events bank bank' reply,
      serveAll sessionHash sessionRand ultraTopSecret openAccounts = some (events, bank) ∧
      buildTlvReply sessionHash staleUnion bank sessionBuffer 1 1 = some (bank', reply) ∧
      ¬ AnswersFirst (Applies sessionHash bank.accounts staleUnion) reply.value.header.retCode := by
  obtain ⟨events, bank, bank', reply, ran, replied, login, code⟩ : ∃ events bank bank' reply,
      serveAll sessionHash sessionRand ultraTopSecret openAccounts = some (events, bank) ∧
      buildTlvReply sessionHash staleUnion bank sessionBuffer 1 1 = some (bank', reply) ∧
      LoggedIn sessionHash bank.accounts staleUnion.value.header 1 ∧
      reply.value.header.retCode = .idNotFound :=
    ⟨_, _, _, _, rfl, rfl, ⟨rfl, rfl, rfl⟩, rfl⟩
  refine ⟨events, bank, bank', reply, ran, replied, fun first => ?_⟩
  have right := (answersFirst_iff (balance_answersFirst rfl login)).mp first
  rw [code] at right
  cases right

theorem staleUnion_first_error_iff :
    ∃ events bank bank' reply,
      serveAll sessionHash sessionRand ultraTopSecret openAccounts = some (events, bank) ∧
      buildTlvReply sessionHash staleUnion bank sessionBuffer 1 1 = some (bank', reply) ∧
      (AnswersFirst (Applies sessionHash bank.accounts staleUnion) reply.value.header.retCode ↔
        PriorityKept sessionHash bank.accounts staleUnion) := by
  obtain ⟨events, bank, ran⟩ : ∃ events bank,
      serveAll sessionHash sessionRand ultraTopSecret openAccounts = some (events, bank) :=
    ⟨_, _, rfl⟩
  obtain ⟨bank', reply, answered⟩ :=
    retCode_is_first_error_iff sessionHash staleUnion bank sessionBuffer 1 1 (by decide)
  exact ⟨events, bank, bank', reply, ran, answered⟩

end Priority

end Sope.Banking
