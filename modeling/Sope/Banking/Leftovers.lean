import Sope.Banking.Data
import Sope.Banking.ReturnCode

set_option autoImplicit false

/- What an answer takes from memory that nobody has set: the union of a request without
arguments, and the reply buffer of the office. -/
namespace Sope.Banking

open Machine

/-- The same request with other bytes in its union. -/
def TlvRequest.withUnion (request : TlvRequest) (create : ReqCreateAccount) : TlvRequest :=
  { request with value := { request.value with create } }

section Union

variable {generateSha256Hash : CString → CString → CString} {request : TlvRequest} {bank : Bank}
  {buffer : TlvReply} {id : Nat} {activeThreads : Int} {create create' : ReqCreateAccount}
  {user : AccountId}

/-- The answers to a request do not depend on which of two unions it carries, and a client
that has logged in is told its balance with either. -/
structure UnionIgnored (generateSha256Hash : CString → CString → CString) (request : TlvRequest)
    (bank : Bank) (buffer : TlvReply) (id : Nat) (activeThreads : Int)
    (create create' : ReqCreateAccount) : Prop where
  same : buildTlvReply generateSha256Hash (request.withUnion create) bank buffer id activeThreads =
    buildTlvReply generateSha256Hash (request.withUnion create') bank buffer id activeThreads
  balance : ∀ user, request.type = .balance →
    LoggedIn generateSha256Hash bank.accounts request.value.header user → user ≠ adminIndex →
    ∀ union ∈ [create, create'], ∃ reply,
      buildTlvReply generateSha256Hash (request.withUnion union) bank buffer id activeThreads =
        some (bank, reply) ∧
      reply.value.header.retCode = .ok ∧
      reply.value.info = (bank.accounts user).bankAccount.balance

/-- Unless the switch is reached and looks at the union, the union does not matter. -/
theorem buildTlvReply_withUnion
    (switched : ∀ user, LoggedIn generateSha256Hash bank.accounts request.value.header user →
      ∀ reply, replySwitch generateSha256Hash (request.withUnion create) bank reply id
          activeThreads =
        replySwitch generateSha256Hash (request.withUnion create') bank reply id activeThreads) :
    buildTlvReply generateSha256Hash (request.withUnion create) bank buffer id activeThreads =
      buildTlvReply generateSha256Hash (request.withUnion create') bank buffer id
        activeThreads := by
  have start (code : RetCode) : replyStart (request.withUnion create) buffer code =
      replyStart (request.withUnion create') buffer code := rfl
  have header : (request.withUnion create).value.header =
      (request.withUnion create').value.header := rfl
  by_cases login : ∃ user, LoggedIn generateSha256Hash bank.accounts request.value.header user
  · obtain ⟨user, login⟩ := login
    unfold buildTlvReply
    rw [header]
    simp only [switched user login, start]
  · have refused : validateBankAccount generateSha256Hash bank.accounts
        (request.withUnion create').value.header ≠ some .ok :=
      fun validated => login (validateBankAccount_eq_ok.mp validated)
    unfold buildTlvReply
    rw [header]
    cases validated : validateBankAccount generateSha256Hash bank.accounts
        (request.withUnion create').value.header with
    | none => rfl
    | some code =>
        have notOk : code ≠ .ok := by
          rintro rfl
          exact refused validated
        simp only [Option.bind_eq_bind, Option.bind_some, notOk, ↓reduceIte, start]

/-- The answer to a client that asks for its balance: the account that the union names
decides whether it is told. -/
theorem balance_reply (balance : request.type = .balance)
    (login : LoggedIn generateSha256Hash bank.accounts request.value.header user)
    (client : user ≠ adminIndex) :
    buildTlvReply generateSha256Hash request bank buffer id activeThreads =
      (isActiveAccount bank.accounts request.value.create.accountId).map fun active =>
        (bank,
          { (if active = true then (replyStart request buffer .ok).withInfo
                (bank.accounts user).bankAccount.balance
              else (replyStart request buffer .ok).withRetCode .idNotFound) with
            length := replyLength }) := by
  have notAdmin : request.value.header.accountId ≠ adminAccountId :=
    fun admin => client ((accountIndex_eq_adminIndex login.found).mpr admin)
  have found : accountIndex (replyStart request buffer .ok).value.header.accountId = some user :=
    login.found
  rw [buildTlvReply_of_login login, replySwitch, balance]
  simp only [replyBalance, if_neg notAdmin, Option.bind_eq_bind, Option.pure_def]
  cases isActiveAccount bank.accounts request.value.create.accountId with
  | none => rfl
  | some active =>
      cases active with
      | false => rfl
      | true =>
          simp only [Option.bind_some, found]
          rfl

/-- The union names an account that exists. -/
def NamesActive (accounts : Accounts) (create : ReqCreateAccount) : Prop :=
  isActiveAccount accounts create.accountId = some true

theorem balance_ok_iff (balance : request.type = .balance)
    (login : LoggedIn generateSha256Hash bank.accounts request.value.header user)
    (client : user ≠ adminIndex) :
    (∃ reply, buildTlvReply generateSha256Hash request bank buffer id activeThreads =
        some (bank, reply) ∧ reply.value.header.retCode = .ok ∧
      reply.value.info = (bank.accounts user).bankAccount.balance) ↔
      NamesActive bank.accounts request.value.create := by
  rw [balance_reply balance login client, NamesActive]
  cases isActiveAccount bank.accounts request.value.create.accountId with
  | none => simp
  | some active =>
      cases active with
      | true => exact ⟨fun _ => rfl, fun _ => ⟨_, rfl, rfl, rfl⟩⟩
      | false =>
          constructor
          · rintro ⟨reply, same, code, -⟩
            cases same
            cases code
          · intro impossible
            cases impossible

/-- A request for a balance or for a shutdown is answered whatever its union holds, if and
only if it is not the request of a logged-in client for its balance, or both unions name
accounts that exist. -/
theorem union_ignored_iff (generateSha256Hash : CString → CString → CString)
    (request : TlvRequest) (noArguments : request.type = .balance ∨ request.type = .shutdown)
    (bank : Bank) (buffer : TlvReply) (id : Nat) (activeThreads : Int)
    (create create' : ReqCreateAccount) :
    UnionIgnored generateSha256Hash request bank buffer id activeThreads create create' ↔
      (request.type = .balance →
        (∃ user, LoggedIn generateSha256Hash bank.accounts request.value.header user ∧
          user ≠ adminIndex) →
        NamesActive bank.accounts create ∧ NamesActive bank.accounts create') := by
  constructor
  · rintro ignored balance ⟨user, login, client⟩
    have answered (union : ReqCreateAccount) (member : union ∈ [create, create']) :
        NamesActive bank.accounts union := by
      have balance' : (request.withUnion union).type = .balance := balance
      exact (balance_ok_iff balance' login client).mp
        (ignored.balance user balance login client union member)
    exact ⟨answered create (by simp), answered create' (by simp)⟩
  · intro named
    constructor
    · apply buildTlvReply_withUnion
      intro user login reply
      rcases noArguments with balance | shutdown
      · simp only [replySwitch, TlvRequest.withUnion, balance, replyBalance]
        by_cases admin : request.value.header.accountId = adminAccountId
        · simp only [if_pos admin]
        · have client : user ≠ adminIndex :=
            fun same => admin ((accountIndex_eq_adminIndex login.found).mp same)
          obtain ⟨active, active'⟩ := named balance ⟨user, login, client⟩
          unfold NamesActive at active active'
          simp only [if_neg admin, active, active']
      · simp only [replySwitch, TlvRequest.withUnion, shutdown]
        rfl
    · intro user balance login client union member
      obtain ⟨active, active'⟩ := named balance ⟨user, login, client⟩
      have balance' : (request.withUnion union).type = .balance := balance
      apply (balance_ok_iff balance' login client).mpr
      rcases List.mem_pair.mp member with rfl | rfl
      · exact active
      · exact active'

end Union

/-- `user 1 top_secret 10 1 ""` with what its union happens to hold. -/
def balanceOf1 (union : ReqCreateAccount) : Call :=
  sessionCall .balance 1 topSecret union

/-- The union is left unset by the client. With the id of account 2 in it the answer is the
balance of account 1, with the id 5 it is `RC_ID_NOT_FOUND`. -/
theorem balanceOf1_union_decides :
    ∃ events bank bank' bank'' reply reply',
      serveAll sessionHash sessionRand ultraTopSecret openAccounts = some (events, bank) ∧
      LoggedIn sessionHash bank.accounts (balanceOf1 ⟨5, 0, []⟩).request.value.header 1 ∧
      (balanceOf1 ⟨2, 0, []⟩).request.value.header = (balanceOf1 ⟨5, 0, []⟩).request.value.header ∧
      serve sessionHash bank (balanceOf1 ⟨2, 0, []⟩) = some (bank', reply) ∧
      serve sessionHash bank (balanceOf1 ⟨5, 0, []⟩) = some (bank'', reply') ∧
      reply.value.header.retCode = .ok ∧ reply.value.info = 25 ∧
      reply'.value.header.retCode = .idNotFound :=
  ⟨_, _, _, _, _, _, rfl, ⟨rfl, rfl, rfl⟩, rfl, rfl, rfl, rfl, rfl, rfl⟩

theorem balanceOf1_union_ignored_iff :
    ∃ events bank,
      serveAll sessionHash sessionRand ultraTopSecret openAccounts = some (events, bank) ∧
      (UnionIgnored sessionHash (balanceOf1 ⟨5, 0, []⟩).request bank sessionBuffer 1 1 ⟨1, 0, []⟩
          ⟨2, 0, []⟩ ↔
        ((balanceOf1 ⟨5, 0, []⟩).request.type = .balance →
          (∃ user, LoggedIn sessionHash bank.accounts
              (balanceOf1 ⟨5, 0, []⟩).request.value.header user ∧ user ≠ adminIndex) →
          NamesActive bank.accounts ⟨1, 0, []⟩ ∧ NamesActive bank.accounts ⟨2, 0, []⟩)) :=
  ⟨_, _, rfl, union_ignored_iff sessionHash (balanceOf1 ⟨5, 0, []⟩).request (.inl rfl) _
    sessionBuffer 1 1 ⟨1, 0, []⟩ ⟨2, 0, []⟩⟩

/-- `OP_TYPE_STR`. -/
def opTypeStr : OpType → Option CString
  | .createAccount => some "CREATE".toList
  | .balance => some "BALANCE".toList
  | .transfer => some "TRANSFER".toList
  | .shutdown => some "SHUTDOWN".toList
  | .undefined _ _ => none

/-- `RC_STR`. -/
def rcStr : RetCode → CString
  | .ok => "OK".toList
  | .srvDown => "SRV_DOWN".toList
  | .srvTimeout => "SRV_TIMEOUT".toList
  | .usrDown => "USR_DOWN".toList
  | .loginFail => "LOGIN_FAIL".toList
  | .opNallow => "OP_NALLOW".toList
  | .idInUse => "ID_IN_USE".toList
  | .idNotFound => "ID_NOT_FOUND".toList
  | .sameId => "SAME_ID".toList
  | .noFunds => "NO_FUNDS".toList
  | .tooHigh => "TOO_HIGH".toList
  | .other => "OTHER".toList

/-- What `logReply` prints: the fields of `logBaseReplyInfo`, and after them the word of the
union, read as an int, for each type but `OP_CREATE_ACCOUNT`. -/
structure ReplyLine where
  received : Bool
  id : Nat
  length : UInt32
  accountId : UInt32
  opType : CString
  retCode : CString
  info : Option Int32

/-- `logReply`, in a process with the pid `self`. Nothing is printed for a type that no
`case` names. -/
def logReply (self id : Nat) (reply : TlvReply) : Option ReplyLine := do
  let opType ← opTypeStr reply.type
  return {
    received := id == self
    id
    length := reply.length
    accountId := reply.value.header.accountId
    opType
    retCode := rcStr reply.value.header.retCode
    info := match reply.type with
      | .balance | .transfer | .shutdown => some reply.value.info.toInt32
      | .createAccount | .undefined _ _ => none }

section Buffer

variable {generateSha256Hash : CString → CString → CString} {request : TlvRequest}
  {bank bank₁ bank₂ : Bank} {buffer buffer' reply₁ reply₂ : TlvReply} {id : Nat}
  {activeThreads : Int} {user : AccountId}

/-- The operations that set the word of the union, or whose line does not print it. -/
def SetsInfo (generateSha256Hash : CString → CString → CString) (accounts : Accounts)
    (request : TlvRequest) : Prop :=
  match request.type with
  | .balance => (∃ user, LoggedIn generateSha256Hash accounts request.value.header user ∧
      user ≠ adminIndex) ∧ NamesActive accounts request.value.create
  | .transfer => ∃ user, LoggedIn generateSha256Hash accounts request.value.header user
  | .shutdown => LoggedIn generateSha256Hash accounts request.value.header adminIndex
  | .createAccount | .undefined _ _ => True

/-- Without a login the word of the union is the one that the buffer held before. -/
theorem info_of_no_login
    (noLogin : ¬ ∃ user, LoggedIn generateSha256Hash bank.accounts request.value.header user)
    (replied : buildTlvReply generateSha256Hash request bank buffer id activeThreads =
      some (bank₁, reply₁)) : reply₁.value.info = buffer.value.info := by
  unfold buildTlvReply at replied
  cases validated : validateBankAccount generateSha256Hash bank.accounts request.value.header with
  | none => simp [validated] at replied
  | some code =>
      have notOk : code ≠ .ok := by
        rintro rfl
        exact noLogin (validateBankAccount_eq_ok.mp validated)
      simp only [validated, Option.bind_eq_bind, Option.bind_some, if_neg notOk, Option.pure_def,
        Option.some.injEq, Prod.mk.injEq] at replied
      rw [← replied.2]
      rfl

theorem info_of_balance (balance : request.type = .balance)
    (login : LoggedIn generateSha256Hash bank.accounts request.value.header user)
    (replied : buildTlvReply generateSha256Hash request bank buffer id activeThreads =
      some (bank₁, reply₁)) :
    (user ≠ adminIndex ∧ NamesActive bank.accounts request.value.create →
        reply₁.value.info = (bank.accounts user).bankAccount.balance) ∧
      (¬ (user ≠ adminIndex ∧ NamesActive bank.accounts request.value.create) →
        reply₁.value.info = buffer.value.info) := by
  by_cases client : user ≠ adminIndex
  · rw [balance_reply balance login client] at replied
    obtain ⟨active, named, same⟩ := Option.map_eq_some_iff.mp replied
    rw [Prod.mk.injEq] at same
    unfold NamesActive
    rw [named, ← same.2]
    cases active <;> simp [client, replyStart]
  · have admin : request.value.header.accountId = adminAccountId :=
      (accountIndex_eq_adminIndex login.found).mp (not_not.mp client)
    rw [buildTlvReply_of_login login, replySwitch, balance] at replied
    simp only [replyBalance, if_pos admin, Option.pure_def, Option.map_some, Option.some.injEq,
      Prod.mk.injEq] at replied
    rw [← replied.2]
    exact ⟨fun sets => absurd sets.1 client, fun _ => rfl⟩

/-- The word is set before the first test of a transfer. -/
theorem info_of_refused_transfer (transfer : request.type = .transfer)
    (login : LoggedIn generateSha256Hash bank.accounts request.value.header user)
    (replied : buildTlvReply generateSha256Hash request bank buffer id activeThreads =
      some (bank₁, reply₁)) (refusal : reply₁.value.header.retCode ≠ .ok) :
    reply₁.value.info = request.value.transfer.amount := by
  rw [buildTlvReply_of_login login, replySwitch, transfer] at replied
  obtain ⟨⟨bank', reply'⟩, switched, same⟩ := Option.map_eq_some_iff.mp replied
  rw [Prod.mk.injEq] at same
  have start : (replyStart request buffer .ok).value.header.retCode = .ok := rfl
  rw [← same.2] at refusal ⊢
  dsimp only at refusal ⊢
  simp only [replyTransfer, Option.bind_eq_bind, Option.pure_def] at switched
  grind [Option.bind_eq_some_iff, TlvReply.withInfo_info, TlvReply.withRetCode_info,
    TlvReply.withInfo_retCode]

theorem info_of_shutdown (shutdown : request.type = .shutdown)
    (login : LoggedIn generateSha256Hash bank.accounts request.value.header user)
    (replied : buildTlvReply generateSha256Hash request bank buffer id activeThreads =
      some (bank₁, reply₁)) :
    reply₁.value.info =
      if user = adminIndex then UInt32.ofInt activeThreads else buffer.value.info := by
  rw [shutdown_reply shutdown login] at replied
  cases replied
  by_cases admin : user = adminIndex <;> simp [admin, replyStart]

section TwoRuns

variable
  (replied₁ : buildTlvReply generateSha256Hash request bank buffer id activeThreads =
    some (bank₁, reply₁))
  (replied₂ : buildTlvReply generateSha256Hash request bank buffer' id activeThreads =
    some (bank₂, reply₂))

include replied₁ replied₂

/-- Two runs on two buffers answer alike, but for the word of the union. -/
theorem answers_agree : SameAnswer reply₁ reply₂ := by
  have agree : Agree (buildTlvReply generateSha256Hash request bank buffer id activeThreads)
      (buildTlvReply generateSha256Hash request bank buffer' id activeThreads) :=
    buildTlvReply_agree (SameData.refl bank)
  rw [replied₁] at agree
  obtain ⟨bank', reply', same, -, answer⟩ := agree.of_some
  cases replied₂.symm.trans same
  exact answer

theorem info_agrees_of_no_login
    (noLogin : ¬ ∃ user, LoggedIn generateSha256Hash bank.accounts request.value.header user) :
    reply₁.value.info = reply₂.value.info ↔ buffer.value.info = buffer'.value.info := by
  rw [info_of_no_login noLogin replied₁, info_of_no_login noLogin replied₂]

theorem balance_info_agrees (balance : request.type = .balance)
    (login : LoggedIn generateSha256Hash bank.accounts request.value.header user) :
    reply₁.value.info = reply₂.value.info ↔ buffer.value.info = buffer'.value.info ∨
      (user ≠ adminIndex ∧ NamesActive bank.accounts request.value.create) := by
  obtain ⟨set₁, kept₁⟩ := info_of_balance balance login replied₁
  obtain ⟨set₂, kept₂⟩ := info_of_balance balance login replied₂
  by_cases setting : user ≠ adminIndex ∧ NamesActive bank.accounts request.value.create
  · rw [set₁ setting, set₂ setting]
    exact ⟨fun _ => .inr setting, fun _ => rfl⟩
  · rw [kept₁ setting, kept₂ setting]
    exact ⟨.inl, fun either => either.resolve_right setting⟩

theorem transfer_info_agrees (transfer : request.type = .transfer)
    (login : LoggedIn generateSha256Hash bank.accounts request.value.header user) :
    reply₁.value.info = reply₂.value.info := by
  have answer := answers_agree replied₁ replied₂
  by_cases accepted : reply₁.value.header.retCode = .ok
  · apply answer.balance accepted
    rw [(buildTlvReply_names replied₁).1]
    exact .inr transfer
  · have refused : reply₂.value.header.retCode ≠ .ok := by
      rw [← answer.header]
      exact accepted
    rw [info_of_refused_transfer transfer login replied₁ accepted,
      info_of_refused_transfer transfer login replied₂ refused]

theorem shutdown_info_agrees (shutdown : request.type = .shutdown)
    (login : LoggedIn generateSha256Hash bank.accounts request.value.header user) :
    reply₁.value.info = reply₂.value.info ↔
      buffer.value.info = buffer'.value.info ∨ user = adminIndex := by
  rw [info_of_shutdown shutdown login replied₁, info_of_shutdown shutdown login replied₂]
  by_cases admin : user = adminIndex
  · rw [if_pos admin, if_pos admin]
    exact ⟨fun _ => .inr admin, fun _ => rfl⟩
  · rw [if_neg admin, if_neg admin]
    exact ⟨.inl, fun either => either.resolve_right admin⟩

/-- The words agree where the operation sets it, and where the buffers do. -/
theorem info_agrees_iff
    (printed : request.type = .balance ∨ request.type = .transfer ∨ request.type = .shutdown) :
    reply₁.value.info = reply₂.value.info ↔
      buffer.value.info = buffer'.value.info ∨
        SetsInfo generateSha256Hash bank.accounts request := by
  by_cases login : ∃ user, LoggedIn generateSha256Hash bank.accounts request.value.header user
  · obtain ⟨user, login⟩ := login
    rcases printed with balance | transfer | shutdown
    · rw [balance_info_agrees replied₁ replied₂ balance login]
      simp only [SetsInfo, balance]
      constructor
      · exact Or.imp_right fun setting => ⟨⟨user, login, setting.1⟩, setting.2⟩
      · rintro (same | ⟨⟨user', login', client⟩, named⟩)
        · exact .inl same
        · rw [login.unique login']
          exact .inr ⟨client, named⟩
    · simp only [SetsInfo, transfer]
      exact ⟨fun _ => .inr ⟨user, login⟩,
        fun _ => transfer_info_agrees replied₁ replied₂ transfer login⟩
    · rw [shutdown_info_agrees replied₁ replied₂ shutdown login]
      simp only [SetsInfo, shutdown]
      exact ⟨Or.imp_right fun admin => admin ▸ login, Or.imp_right login.unique⟩
  · have unset : ¬ SetsInfo generateSha256Hash bank.accounts request := by
      rcases printed with balance | transfer | shutdown
      · simp only [SetsInfo, balance]
        rintro ⟨⟨user, login', -⟩, -⟩
        exact login ⟨user, login'⟩
      · simp only [SetsInfo, transfer]
        exact login
      · simp only [SetsInfo, shutdown]
        exact fun admin => login ⟨adminIndex, admin⟩
    rw [info_agrees_of_no_login replied₁ replied₂ login]
    exact ⟨.inl, fun either => either.resolve_right unset⟩

end TwoRuns

theorem buildTlvReply_length
    (replied : buildTlvReply generateSha256Hash request bank buffer id activeThreads =
      some (bank₁, reply₁)) : reply₁.length = replyLength := by
  rcases buildTlvReply_cases replied with ⟨switched, -, -, rfl⟩ | ⟨code, -, -, -, rfl⟩ <;> rfl

theorem toInt32_inj {word word' : UInt32} : word.toInt32 = word'.toInt32 ↔ word = word' := by
  constructor
  · intro same
    have back := congrArg Int32.toUInt32 same
    rwa [UInt32.toUInt32_toInt32, UInt32.toUInt32_toInt32] at back
  · exact congrArg _

theorem logReply_eq_iff {self : Nat} {reply reply' : TlvReply} (answer : SameAnswer reply reply')
    (length : reply.length = reply'.length) :
    logReply self id reply = logReply self id reply' ↔
      (reply.type = .balance ∨ reply.type = .transfer ∨ reply.type = .shutdown →
        reply.value.info = reply'.value.info) := by
  unfold logReply
  rw [answer.type, answer.header, length]
  cases reply'.type <;> simp [opTypeStr, toInt32_inj]

/-- Two answers to one request on two reply buffers are logged alike, if and only if the
word of the union was the same before, or the operation sets it, or does not print it. -/
theorem reply_leftovers_iff (generateSha256Hash : CString → CString → CString)
    (request : TlvRequest) (bank : Bank) (buffer buffer' : TlvReply) (self id : Nat)
    (activeThreads : Int) {bank₁ bank₂ : Bank} {reply₁ reply₂ : TlvReply}
    (replied₁ : buildTlvReply generateSha256Hash request bank buffer id activeThreads =
      some (bank₁, reply₁))
    (replied₂ : buildTlvReply generateSha256Hash request bank buffer' id activeThreads =
      some (bank₂, reply₂)) :
    logReply self id reply₁ = logReply self id reply₂ ↔
      buffer.value.info = buffer'.value.info ∨
        SetsInfo generateSha256Hash bank.accounts request := by
  rw [logReply_eq_iff (answers_agree replied₁ replied₂)
    ((buildTlvReply_length replied₁).trans (buildTlvReply_length replied₂).symm),
    (buildTlvReply_names replied₁).1]
  by_cases printed : request.type = .balance ∨ request.type = .transfer ∨ request.type = .shutdown
  · rw [← info_agrees_iff replied₁ replied₂ printed]
    exact ⟨fun agree => agree printed, fun same _ => same⟩
  · have sets : SetsInfo generateSha256Hash bank.accounts request := by
      cases type : request.type <;> simp_all [SetsInfo]
    exact ⟨fun _ => .inr sets, fun _ due => absurd due printed⟩

end Buffer

/-- A buffer that still holds the number 77. -/
def buffer77 : TlvReply := { sessionBuffer with value := { sessionBuffer.value with info := 77 } }

/-- Account 5 does not exist; the line for the refusal prints what the buffer held. -/
theorem balanceOf5_prints_leftovers :
    ∃ bank' bank'' reply reply' line line',
      buildTlvReply sessionHash (sessionCall .balance 5 topSecret ⟨0, 0, []⟩).request
        (initialBank sessionHash sessionRand ultraTopSecret) sessionBuffer 1 1 =
          some (bank', reply) ∧
      buildTlvReply sessionHash (sessionCall .balance 5 topSecret ⟨0, 0, []⟩).request
        (initialBank sessionHash sessionRand ultraTopSecret) buffer77 1 1 =
          some (bank'', reply') ∧
      logReply 0 1 reply = some line ∧ logReply 0 1 reply' = some line' ∧
      line.info = some 0 ∧ line'.info = some 77 :=
  ⟨_, _, _, _, _, _, rfl, rfl, rfl, rfl, rfl, rfl⟩

theorem balanceOf5_leftovers_iff :
    ∃ bank' bank'' reply reply',
      buildTlvReply sessionHash (sessionCall .balance 5 topSecret ⟨0, 0, []⟩).request
        (initialBank sessionHash sessionRand ultraTopSecret) sessionBuffer 1 1 =
          some (bank', reply) ∧
      buildTlvReply sessionHash (sessionCall .balance 5 topSecret ⟨0, 0, []⟩).request
        (initialBank sessionHash sessionRand ultraTopSecret) buffer77 1 1 =
          some (bank'', reply') ∧
      (logReply 0 1 reply = logReply 0 1 reply' ↔
        sessionBuffer.value.info = buffer77.value.info ∨
          SetsInfo sessionHash (initialBank sessionHash sessionRand ultraTopSecret).accounts
            (sessionCall .balance 5 topSecret ⟨0, 0, []⟩).request) :=
  ⟨_, _, _, _, rfl, rfl, reply_leftovers_iff sessionHash _ _ _ _ 0 1 1 rfl rfl⟩

end Sope.Banking
