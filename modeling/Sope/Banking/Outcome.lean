import Sope.Banking.Reply

set_option autoImplicit false

/- What one call of `build_tlv_reply` can do, stated once. Later results use these
lemmas and do not unfold the code again. -/
namespace Sope.Banking

theorem isActiveAccount_of_found {accounts : Accounts} {accId : UInt32} {index : AccountId}
    (found : accountIndex accId = some index) :
    isActiveAccount accounts accId = some (accounts.isActive index) := by
  simp [isActiveAccount, found]

theorem isActive_iff {accounts : Accounts} {index : AccountId} :
    accounts.isActive index = true ↔ (accounts index).bankAccount.hash ≠ [] := by
  simp [Accounts.isActive]

theorem ne_of_flags {accounts : Accounts} {index other : AccountId}
    (clear : (accounts index).active = false) (flag : (accounts other).active = true) :
    index ≠ other := by
  rintro rfl
  rw [clear] at flag
  cases flag

@[simp] theorem modifyBalance_self (accounts : Accounts) (index : AccountId)
    (f : UInt32 → UInt32) :
    ((accounts.modifyBalance index f) index).bankAccount.balance =
      f (accounts index).bankAccount.balance := by
  simp [Accounts.modifyBalance]

theorem modifyBalance_of_ne (accounts : Accounts) {index other : AccountId}
    (f : UInt32 → UInt32) (apart : other ≠ index) :
    (accounts.modifyBalance index f) other = accounts other :=
  Function.update_of_ne apart ..

/-- Writing a balance touches nothing else of any entry. -/
theorem modifyBalance_frame (accounts : Accounts) (index other : AccountId)
    (f : UInt32 → UInt32) :
    ∃ balance, (accounts.modifyBalance index f) other =
      { accounts other with bankAccount := { (accounts other).bankAccount with balance } } := by
  by_cases same : other = index
  · subst same
    exact ⟨_, Function.update_self ..⟩
  · exact ⟨(accounts other).bankAccount.balance, modifyBalance_of_ne accounts f same⟩

section Hash

variable (generateSha256Hash : CString → CString → CString)

/-- The header names `user`, whose account exists and accepts the password. -/
structure LoggedIn (accounts : Accounts) (header : ReqHeader) (user : AccountId) : Prop where
  found : accountIndex header.accountId = some user
  active : accounts.isActive user = true
  accepted : accounts.accepts generateSha256Hash user header.password = true

variable {generateSha256Hash}

theorem validateBankAccount_of_found {accounts : Accounts} {header : ReqHeader}
    {user : AccountId} (found : accountIndex header.accountId = some user) :
    validateBankAccount generateSha256Hash accounts header =
      some (if accounts.isActive user = false then .idNotFound
        else if accounts.accepts generateSha256Hash user header.password = false then .loginFail
        else .ok) := by
  simp only [validateBankAccount, isActiveAccount_of_found found, found, Option.bind_eq_bind,
    Option.bind_some, Option.pure_def]
  cases accounts.isActive user <;>
    cases accounts.accepts generateSha256Hash user header.password <;> rfl

theorem validateBankAccount_found {accounts : Accounts} {header : ReqHeader} {code : RetCode}
    (validated : validateBankAccount generateSha256Hash accounts header = some code) :
    ∃ user, accountIndex header.accountId = some user := by
  cases found : accountIndex header.accountId with
  | none => simp [validateBankAccount, isActiveAccount, found] at validated
  | some user => exact ⟨user, rfl⟩

/-- The check answers `RC_OK` exactly when the user is logged in. -/
theorem validateBankAccount_eq_ok {accounts : Accounts} {header : ReqHeader} :
    validateBankAccount generateSha256Hash accounts header = some .ok ↔
      ∃ user, LoggedIn generateSha256Hash accounts header user := by
  constructor
  · intro validated
    obtain ⟨user, found⟩ := validateBankAccount_found validated
    rw [validateBankAccount_of_found found] at validated
    refine ⟨user, found, ?_, ?_⟩
    · by_contra inactive
      simp [Bool.eq_false_iff.mpr inactive] at validated
    · by_contra rejected
      by_cases active : accounts.isActive user = true <;>
        simp [active, Bool.eq_false_iff.mpr rejected] at validated
  · rintro ⟨user, found, active, accepted⟩
    simp [validateBankAccount_of_found found, active, accepted]

theorem LoggedIn.validate {accounts : Accounts} {header : ReqHeader} {user : AccountId}
    (login : LoggedIn generateSha256Hash accounts header user) :
    validateBankAccount generateSha256Hash accounts header = some .ok :=
  validateBankAccount_eq_ok.mpr ⟨user, login⟩

theorem LoggedIn.unique {accounts : Accounts} {header : ReqHeader} {user user' : AccountId}
    (login : LoggedIn generateSha256Hash accounts header user)
    (login' : LoggedIn generateSha256Hash accounts header user') : user = user' :=
  (accountIndex_inj login.found login'.found).mpr rfl

variable (generateSha256Hash)

/-- The bank after the account `target` was created for `office` `id`. -/
def Bank.withAccount (bank : Bank) (accData : ReqCreateAccount) (target : AccountId) (id : Nat) :
    Bank :=
  let accounts := Function.update bank.accounts target
    (newAccount generateSha256Hash accData (generatePasswordSalt bank.rand).1)
  { accounts
    rand := (generatePasswordSalt bank.rand).2
    slog := bank.slog ++ [logAccountCreation id (accounts adminIndex).bankAccount] }

/-- The bank after `amount` was moved by the two wrapping assignments. -/
def Bank.withTransfer (bank : Bank) (source dest : AccountId) (amount : UInt32) : Bank :=
  let accounts := bank.accounts.modifyBalance dest (· + amount)
  { bank with accounts := accounts.modifyBalance source (· - amount) }

variable {generateSha256Hash}

theorem createBankAccount_of_active {bank : Bank} {accData : ReqCreateAccount} {id : Nat}
    {target : AccountId} (found : accountIndex accData.accountId = some target)
    (active : bank.accounts.isActive target = true) :
    createBankAccount generateSha256Hash bank accData id = some (false, bank) := by
  simp [createBankAccount, fillBankAccount, isActiveAccount_of_found found, active]

/-- The account as it is before its semaphore is initialised. -/
theorem fillBankAccount_of_inactive {bank : Bank} {accData : ReqCreateAccount} {id : Nat}
    {target : AccountId} (found : accountIndex accData.accountId = some target)
    (inactive : bank.accounts.isActive target = false) :
    ∃ filled, fillBankAccount generateSha256Hash bank accData id = some (true, filled) ∧
      { filled with accounts := initSem filled.accounts target 1 } =
        bank.withAccount generateSha256Hash accData target id := by
  refine ⟨_, by simp [fillBankAccount, isActiveAccount_of_found found, inactive, found]; rfl, ?_⟩
  have line : (Function.update bank.accounts target
      { newAccount generateSha256Hash accData (generatePasswordSalt bank.rand).1 with
        semaphore := (bank.accounts target).semaphore } adminIndex).bankAccount =
      (Function.update bank.accounts target
        (newAccount generateSha256Hash accData (generatePasswordSalt bank.rand).1)
        adminIndex).bankAccount := by
    by_cases admin : adminIndex = target
    · rw [admin, Function.update_self, Function.update_self]
    · rw [Function.update_of_ne admin, Function.update_of_ne admin]
  simp only [initSem, Bank.withAccount, Function.update_idem, Function.update_self, line]
  rfl

theorem createBankAccount_of_inactive {bank : Bank} {accData : ReqCreateAccount} {id : Nat}
    {target : AccountId} (found : accountIndex accData.accountId = some target)
    (inactive : bank.accounts.isActive target = false) :
    createBankAccount generateSha256Hash bank accData id =
      some (true, bank.withAccount generateSha256Hash accData target id) := by
  obtain ⟨filled, fills, same⟩ :=
    @fillBankAccount_of_inactive generateSha256Hash bank accData id target found inactive
  simp [createBankAccount, fills, found, same]

/-- The guards that an accepted transfer has passed. -/
structure TransferGuards (generateSha256Hash : CString → CString → CString)
    (accounts : Accounts) (request : TlvRequest) (source dest : AccountId) : Prop where
  transfer : request.type = .transfer
  login : LoggedIn generateSha256Hash accounts request.value.header source
  destFound : accountIndex request.value.transfer.accountId = some dest
  apart : source ≠ dest
  sourceClient : source ≠ adminIndex
  destClient : dest ≠ adminIndex
  destActive : accounts.isActive dest = true

/-- The guards that an account creation has passed. -/
structure CreateGuards (generateSha256Hash : CString → CString → CString)
    (accounts : Accounts) (request : TlvRequest) (target : AccountId) : Prop where
  create : request.type = .createAccount
  login : LoggedIn generateSha256Hash accounts request.value.header adminIndex
  targetFound : accountIndex request.value.create.accountId = some target
  inactive : accounts.isActive target = false

/-- All that one call can do to the bank, with the values it answers. -/
inductive Outcome (generateSha256Hash : CString → CString → CString) (request : TlvRequest)
    (bank : Bank) (id : Nat) : Bank → RepValue → Prop where
  | refused {reply : RepValue} (refusal : reply.header.retCode ≠ .ok) :
      Outcome generateSha256Hash request bank id bank reply
  | created {reply : RepValue} (target : AccountId)
      (guards : CreateGuards generateSha256Hash bank.accounts request target)
      (code : reply.header.retCode = .ok) :
      Outcome generateSha256Hash request bank id
        (bank.withAccount generateSha256Hash request.value.create target id) reply
  | reported {reply : RepValue} (user : AccountId) (balance : request.type = .balance)
      (login : LoggedIn generateSha256Hash bank.accounts request.value.header user)
      (client : user ≠ adminIndex) (code : reply.header.retCode = .ok)
      (info : reply.info = (bank.accounts user).bankAccount.balance) :
      Outcome generateSha256Hash request bank id bank reply
  | transferred {reply : RepValue} (source dest : AccountId)
      (guards : TransferGuards generateSha256Hash bank.accounts request source dest)
      (funds : noFundsTest (bank.accounts source).bankAccount.balance
        request.value.transfer.amount = false)
      (room : tooHighTest (bank.accounts dest).bankAccount.balance
        request.value.transfer.amount = false)
      (code : reply.header.retCode = .ok)
      (info : reply.info =
        (bank.accounts source).bankAccount.balance - request.value.transfer.amount) :
      Outcome generateSha256Hash request bank id
        (bank.withTransfer source dest request.value.transfer.amount) reply
  | shutdown {reply : RepValue} (shutdown : request.type = .shutdown)
      (login : LoggedIn generateSha256Hash bank.accounts request.value.header adminIndex)
      (code : reply.header.retCode = .ok) :
      Outcome generateSha256Hash request bank id bank reply
  | ignored {reply : RepValue} (user : AccountId) (value : UInt32) (outside : 4 ≤ value)
      (undefined : request.type = .undefined value outside)
      (login : LoggedIn generateSha256Hash bank.accounts request.value.header user)
      (code : reply.header.retCode = .ok) :
      Outcome generateSha256Hash request bank id bank reply

variable {request : TlvRequest} {bank bank' : Bank} {reply reply' : TlvReply} {id : Nat}
  {user : AccountId}

theorem replyCreateAccount_outcome (create : request.type = .createAccount)
    (login : LoggedIn generateSha256Hash bank.accounts request.value.header user)
    (code : reply.value.header.retCode = .ok)
    (replied : replyCreateAccount generateSha256Hash request bank reply id =
      some (bank', reply')) :
    Outcome generateSha256Hash request bank id bank' reply'.value := by
  by_cases admin : request.value.header.accountId = adminAccountId
  · cases targetFound : accountIndex request.value.create.accountId with
    | none => simp [replyCreateAccount, admin, isActiveAccount, targetFound] at replied
    | some target =>
        cases inactive : bank.accounts.isActive target with
        | true =>
            simp [replyCreateAccount, admin, isActiveAccount_of_found targetFound, inactive]
              at replied
            obtain ⟨rfl, rfl⟩ := replied
            exact .refused (by simp)
        | false =>
            simp [replyCreateAccount, admin, isActiveAccount_of_found targetFound, inactive,
              createBankAccount_of_inactive targetFound inactive] at replied
            obtain ⟨rfl, rfl⟩ := replied
            have isAdmin : user = adminIndex := (accountIndex_eq_adminIndex login.found).mpr admin
            exact .created target ⟨create, isAdmin ▸ login, targetFound, inactive⟩ code
  · simp [replyCreateAccount, admin] at replied
    obtain ⟨rfl, rfl⟩ := replied
    exact .refused (by simp)

theorem replyBalance_outcome (balance : request.type = .balance)
    (login : LoggedIn generateSha256Hash bank.accounts request.value.header user)
    (sameId : reply.value.header.accountId = request.value.header.accountId)
    (code : reply.value.header.retCode = .ok)
    (replied : replyBalance request bank reply = some (bank', reply')) :
    Outcome generateSha256Hash request bank id bank' reply'.value := by
  by_cases admin : request.value.header.accountId = adminAccountId
  · simp [replyBalance, admin] at replied
    obtain ⟨rfl, rfl⟩ := replied
    exact .refused (by simp)
  · cases unionFound : accountIndex request.value.create.accountId with
    | none => simp [replyBalance, admin, isActiveAccount, unionFound] at replied
    | some index =>
        cases active : bank.accounts.isActive index with
        | false =>
            simp [replyBalance, admin, isActiveAccount_of_found unionFound, active] at replied
            obtain ⟨rfl, rfl⟩ := replied
            exact .refused (by simp)
        | true =>
            simp [replyBalance, admin, isActiveAccount_of_found unionFound, active, sameId,
              login.found] at replied
            obtain ⟨rfl, rfl⟩ := replied
            have client : user ≠ adminIndex :=
              fun isAdmin => admin ((accountIndex_eq_adminIndex login.found).mp isAdmin)
            exact .reported user balance login client code rfl

theorem replyTransfer_outcome (transfer : request.type = .transfer)
    (login : LoggedIn generateSha256Hash bank.accounts request.value.header user)
    (code : reply.value.header.retCode = .ok)
    (replied : replyTransfer request bank reply = some (bank', reply')) :
    Outcome generateSha256Hash request bank id bank' reply'.value := by
  by_cases same : request.value.header.accountId = request.value.transfer.accountId
  · simp [replyTransfer, same] at replied
    obtain ⟨rfl, rfl⟩ := replied
    exact .refused (by simp)
  by_cases admin : request.value.header.accountId = adminAccountId
  · simp [replyTransfer, if_neg same, if_pos admin] at replied
    obtain ⟨rfl, rfl⟩ := replied
    exact .refused (by simp)
  by_cases toAdmin : request.value.transfer.accountId = adminAccountId
  · simp [replyTransfer, if_neg same, if_pos toAdmin] at replied
    obtain ⟨rfl, rfl⟩ := replied
    exact .refused (by simp)
  cases destFound : accountIndex request.value.transfer.accountId with
  | none => simp [replyTransfer, same, admin, toAdmin, isActiveAccount, destFound] at replied
  | some dest =>
      have guards (active : bank.accounts.isActive dest = true) :
          TransferGuards generateSha256Hash bank.accounts request user dest :=
        ⟨transfer, login, destFound, fun h => same ((accountIndex_inj login.found destFound).mp h),
          fun h => admin ((accountIndex_eq_adminIndex login.found).mp h),
          fun h => toAdmin ((accountIndex_eq_adminIndex destFound).mp h), active⟩
      cases active : bank.accounts.isActive dest with
      | false =>
          simp [replyTransfer, same, admin, toAdmin, isActiveAccount_of_found destFound, active]
            at replied
          obtain ⟨rfl, rfl⟩ := replied
          exact .refused (by simp)
      | true =>
          have guards := guards active
          simp [replyTransfer, same, admin, toAdmin, isActiveAccount_of_found destFound, active,
            destFound, login.found] at replied
          split at replied
          · obtain ⟨rfl, rfl⟩ := replied
            exact .refused (by simp)
          · rename_i funds
            split at replied
            · obtain ⟨rfl, rfl⟩ := replied
              exact .refused (by simp)
            · rename_i room
              obtain ⟨rfl, rfl⟩ := replied
              refine .transferred user dest guards (Bool.eq_false_iff.mpr funds)
                (Bool.eq_false_iff.mpr room) code ?_
              simp [modifyBalance_of_ne _ _ guards.apart]

theorem replySwitch_outcome {activeThreads : Int}
    (login : LoggedIn generateSha256Hash bank.accounts request.value.header user)
    (sameId : reply.value.header.accountId = request.value.header.accountId)
    (code : reply.value.header.retCode = .ok)
    (replied : replySwitch generateSha256Hash request bank reply id activeThreads =
      some (bank', reply')) :
    Outcome generateSha256Hash request bank id bank' reply'.value := by
  unfold replySwitch at replied
  split at replied
  · exact replyCreateAccount_outcome ‹_› login code replied
  · exact replyBalance_outcome ‹_› login sameId code replied
  · exact replyTransfer_outcome ‹_› login code replied
  · rename_i shutdown
    unfold replyShutdown at replied
    split at replied
    · obtain ⟨rfl, rfl⟩ := replied
      exact .refused (by simp)
    · rename_i admin
      obtain ⟨rfl, rfl⟩ := replied
      have isAdmin : user = adminIndex :=
        (accountIndex_eq_adminIndex login.found).mpr (not_not.mp admin)
      exact .shutdown shutdown (isAdmin ▸ login) code
  · rename_i value outside undefined
    obtain ⟨rfl, rfl⟩ := replied
    exact .ignored user value outside undefined login code

/-- A login that is accepted leads to the switch, any other ends the call. -/
theorem buildTlvReply_cases {activeThreads : Int}
    (replied : buildTlvReply generateSha256Hash request bank reply id activeThreads =
      some (bank', reply')) :
    (∃ switched, validateBankAccount generateSha256Hash bank.accounts request.value.header =
          some .ok ∧
        replySwitch generateSha256Hash request bank (replyStart request reply .ok) id
          activeThreads = some (bank', switched) ∧
        reply' = { switched with length := replyLength }) ∨
      ∃ code, validateBankAccount generateSha256Hash bank.accounts request.value.header =
          some code ∧ code ≠ .ok ∧ bank' = bank ∧
        reply' = { replyStart request reply code with length := replyLength } := by
  simp only [buildTlvReply, Option.bind_eq_bind, Option.bind_eq_some_iff, Option.pure_def]
    at replied
  obtain ⟨code, validated, chosen⟩ := replied
  by_cases ok : code = .ok
  · subst ok
    simp only [↓reduceIte, Option.bind_eq_some_iff, Option.some.injEq, Prod.mk.injEq,
      Prod.exists] at chosen
    obtain ⟨bank₁, reply₁, switched, rfl, rfl⟩ := chosen
    exact .inl ⟨reply₁, validated, switched, rfl⟩
  · simp only [ok, ↓reduceIte, Option.some.injEq, Prod.mk.injEq] at chosen
    obtain ⟨rfl, rfl⟩ := chosen
    exact .inr ⟨code, validated, ok, rfl, rfl⟩

/-- Everything one call does to the bank, with the code and information it answers. -/
theorem buildTlvReply_outcome {activeThreads : Int}
    (replied : buildTlvReply generateSha256Hash request bank reply id activeThreads =
      some (bank', reply')) :
    Outcome generateSha256Hash request bank id bank' reply'.value := by
  rcases buildTlvReply_cases replied with
    ⟨reply₁, validated, switched, rfl⟩ | ⟨code, -, refused, rfl, rfl⟩
  · obtain ⟨user, login⟩ := validateBankAccount_eq_ok.mp validated
    have outcome := replySwitch_outcome login rfl rfl switched
    exact outcome
  · exact .refused refused

/-- An accepted shutdown comes from the administrator. -/
theorem Outcome.shutdown_login {values : RepValue}
    (outcome : Outcome generateSha256Hash request bank id bank' values)
    (shutdown : request.type = .shutdown) (accepted : values.header.retCode = .ok) :
    LoggedIn generateSha256Hash bank.accounts request.value.header adminIndex := by
  cases outcome with
  | refused refusal => exact absurd accepted refusal
  | created _ guards => simp [guards.create] at shutdown
  | reported _ balance => simp [balance] at shutdown
  | transferred _ _ guards => simp [guards.transfer] at shutdown
  | shutdown _ login => exact login
  | ignored _ _ _ undefined => simp [undefined] at shutdown

/-- No case touches the type and the account id that the reply starts with. -/
theorem replySwitch_keeps {activeThreads : Int}
    (switched : replySwitch generateSha256Hash request bank reply id activeThreads =
      some (bank', reply')) :
    reply'.type = reply.type ∧
      reply'.value.header.accountId = reply.value.header.accountId := by
  unfold replySwitch at switched
  split at switched
  · simp only [replyCreateAccount, Option.bind_eq_bind, Option.pure_def] at switched
    grind [Option.bind_eq_some_iff, TlvReply.withRetCode_type, TlvReply.withRetCode_accountId]
  · simp only [replyBalance, Option.bind_eq_bind, Option.pure_def] at switched
    grind [Option.bind_eq_some_iff, TlvReply.withInfo_type, TlvReply.withRetCode_type,
      TlvReply.withInfo_accountId, TlvReply.withRetCode_accountId]
  · simp only [replyTransfer, Option.bind_eq_bind, Option.pure_def] at switched
    grind [Option.bind_eq_some_iff, TlvReply.withInfo_type, TlvReply.withRetCode_type,
      TlvReply.withInfo_accountId, TlvReply.withRetCode_accountId]
  · simp only [replyShutdown] at switched
    grind [TlvReply.withInfo_type, TlvReply.withRetCode_type, TlvReply.withInfo_accountId,
      TlvReply.withRetCode_accountId]
  · cases switched
    exact ⟨rfl, rfl⟩

/-- The answer carries the type and the account id of its request. -/
theorem buildTlvReply_names {activeThreads : Int}
    (replied : buildTlvReply generateSha256Hash request bank reply id activeThreads =
      some (bank', reply')) :
    reply'.type = request.type ∧
      reply'.value.header.accountId = request.value.header.accountId := by
  rcases buildTlvReply_cases replied with ⟨reply₁, -, switched, rfl⟩ | ⟨code, -, -, rfl, rfl⟩
  · exact replySwitch_keeps switched
  · exact ⟨rfl, rfl⟩

section Inside

/- The cases as plain conditionals, once the ids they index with lie inside the table. -/

variable {target dest : AccountId}

theorem replyCreateAccount_eq
    (targetFound : accountIndex request.value.create.accountId = some target) :
    replyCreateAccount generateSha256Hash request bank reply id = some
      (if request.value.header.accountId ≠ adminAccountId then
        (bank, reply.withRetCode .opNallow)
      else if bank.accounts.isActive target = true then (bank, reply.withRetCode .idInUse)
      else (bank.withAccount generateSha256Hash request.value.create target id, reply)) := by
  by_cases admin : request.value.header.accountId = adminAccountId
  · cases inactive : bank.accounts.isActive target with
    | true => simp [replyCreateAccount, admin, isActiveAccount_of_found targetFound, inactive]
    | false =>
        simp [replyCreateAccount, admin, isActiveAccount_of_found targetFound, inactive,
          createBankAccount_of_inactive targetFound inactive]
  · simp [replyCreateAccount, admin]

theorem replyBalance_eq
    (unionFound : accountIndex request.value.create.accountId = some target)
    (userFound : accountIndex reply.value.header.accountId = some user) :
    replyBalance request bank reply = some
      (if request.value.header.accountId = adminAccountId then
        (bank, reply.withRetCode .opNallow)
      else if bank.accounts.isActive target = false then (bank, reply.withRetCode .idNotFound)
      else (bank, reply.withInfo (bank.accounts user).bankAccount.balance)) := by
  by_cases admin : request.value.header.accountId = adminAccountId
  · simp [replyBalance, admin]
  · cases active : bank.accounts.isActive target <;>
      simp [replyBalance, admin, isActiveAccount_of_found unionFound, active, userFound]

theorem replyTransfer_eq
    (userFound : accountIndex request.value.header.accountId = some user)
    (destFound : accountIndex request.value.transfer.accountId = some dest) :
    replyTransfer request bank reply =
      let amount := request.value.transfer.amount
      let reply := reply.withInfo amount
      some
        (if request.value.header.accountId = request.value.transfer.accountId then
          (bank, reply.withRetCode .sameId)
        else if request.value.header.accountId = adminAccountId then
          (bank, reply.withRetCode .opNallow)
        else if request.value.transfer.accountId = adminAccountId then
          (bank, reply.withRetCode .opNallow)
        else if bank.accounts.isActive dest = false then (bank, reply.withRetCode .idNotFound)
        else if noFundsTest (bank.accounts user).bankAccount.balance amount = true then
          (bank, reply.withRetCode .noFunds)
        else if tooHighTest (bank.accounts dest).bankAccount.balance amount = true then
          (bank, reply.withRetCode .tooHigh)
        else (bank.withTransfer user dest amount, reply.withInfo
          ((bank.withTransfer user dest amount).accounts user).bankAccount.balance)) := by
  simp only [replyTransfer, isActiveAccount_of_found destFound, userFound, destFound,
    Option.bind_eq_bind, Option.bind_some, Option.pure_def, Bool.not_eq_true']
  repeat' split
  all_goals rfl

end Inside

/-- A request whose ids lie inside the table is always answered. -/
theorem buildTlvReply_total (generateSha256Hash : CString → CString → CString)
    (request : TlvRequest) (bank : Bank) (reply : TlvReply) (id : Nat)
    (activeThreads : Int) (inRange : request.InRange) :
    ∃ bank' reply', buildTlvReply generateSha256Hash request bank reply id activeThreads =
      some (bank', reply') := by
  have userFound := accountIndex_of_lt inRange.header
  have switched (reply : TlvReply)
      (sameId : reply.value.header.accountId = request.value.header.accountId) :
      ∃ bank' reply', replySwitch generateSha256Hash request bank reply id activeThreads =
        some (bank', reply') := by
    unfold replySwitch
    cases type : request.type with
    | createAccount =>
        exact ⟨_, _, replyCreateAccount_eq (accountIndex_of_lt (inRange.create (Or.inl type)))⟩
    | balance =>
        exact ⟨_, _, replyBalance_eq
          (accountIndex_of_lt (inRange.create (Or.inr (Or.inl type))))
          (by rw [sameId]; exact userFound)⟩
    | transfer =>
        exact ⟨_, _, replyTransfer_eq userFound
          (accountIndex_of_lt (inRange.create (Or.inr (Or.inr type))))⟩
    | shutdown =>
        simp only [replyShutdown]
        split <;> exact ⟨_, _, rfl⟩
    | undefined value outside => exact ⟨_, _, rfl⟩
  simp only [buildTlvReply, validateBankAccount_of_found userFound, Option.bind_eq_bind,
    Option.bind_some]
  generalize (if bank.accounts.isActive _ = false then RetCode.idNotFound else _) = code
  obtain ⟨bank₁, reply₁, same⟩ := switched (replyStart request reply code) rfl
  rw [same]
  split <;> exact ⟨_, _, rfl⟩

/-- Without a login nothing changes, and the answer says why. -/
theorem buildTlvReply_no_login {activeThreads : Int}
    (found : accountIndex request.value.header.accountId = some user)
    (noLogin : ¬ LoggedIn generateSha256Hash bank.accounts request.value.header user)
    (replied : buildTlvReply generateSha256Hash request bank reply id activeThreads =
      some (bank', reply')) :
    bank' = bank ∧ reply'.value.header.retCode =
      if bank.accounts.isActive user = false then .idNotFound else .loginFail := by
  have answered : validateBankAccount generateSha256Hash bank.accounts request.value.header =
      some (if bank.accounts.isActive user = false then .idNotFound else .loginFail) := by
    rw [validateBankAccount_of_found found]
    split
    · rfl
    · rename_i active
      have rejected : bank.accounts.accepts generateSha256Hash user
          request.value.header.password = false := by
        by_contra accepted
        exact noLogin ⟨found, by simpa using active, by simpa using accepted⟩
      rw [if_pos rejected]
  rcases buildTlvReply_cases replied with
    ⟨-, validated, -⟩ | ⟨code, validated, -, rfl, rfl⟩
  · rw [answered] at validated
    split at validated <;> cases validated
  · exact ⟨rfl, Option.some.inj (validated.symm.trans answered)⟩

/-- After a successful check the answer is that of the switch. -/
theorem buildTlvReply_of_login {activeThreads : Int}
    (login : LoggedIn generateSha256Hash bank.accounts request.value.header user) :
    buildTlvReply generateSha256Hash request bank reply id activeThreads =
      (replySwitch generateSha256Hash request bank (replyStart request reply .ok) id
        activeThreads).map fun out => (out.1, { out.2 with length := replyLength }) := by
  simp only [buildTlvReply, login.validate, Option.bind_eq_bind, Option.bind_some, ↓reduceIte,
    Option.pure_def]
  cases replySwitch generateSha256Hash request bank (replyStart request reply .ok) id
    activeThreads <;> rfl

/-- A transfer that passes the guards and both tests is carried out. -/
theorem buildTlvReply_transferred (reply : TlvReply) (id : Nat) (activeThreads : Int)
    {source dest : AccountId}
    (guards : TransferGuards generateSha256Hash bank.accounts request source dest)
    (funds : noFundsTest (bank.accounts source).bankAccount.balance
      request.value.transfer.amount = false)
    (room : tooHighTest (bank.accounts dest).bankAccount.balance
      request.value.transfer.amount = false) :
    ∃ reply', buildTlvReply generateSha256Hash request bank reply id activeThreads =
        some (bank.withTransfer source dest request.value.transfer.amount, reply') ∧
      reply'.value.header.retCode = .ok := by
  have distinct : request.value.header.accountId ≠ request.value.transfer.accountId :=
    fun same => guards.apart ((accountIndex_inj guards.login.found guards.destFound).mpr same)
  have notAdmin : request.value.header.accountId ≠ adminAccountId :=
    fun admin => guards.sourceClient ((accountIndex_eq_adminIndex guards.login.found).mpr admin)
  have notToAdmin : request.value.transfer.accountId ≠ adminAccountId :=
    fun admin => guards.destClient ((accountIndex_eq_adminIndex guards.destFound).mpr admin)
  rw [buildTlvReply_of_login guards.login, replySwitch, guards.transfer]
  simp only [replyTransfer_eq guards.login.found guards.destFound, distinct, notAdmin, notToAdmin,
    guards.destActive, funds, room, ↓reduceIte, Bool.true_eq_false, Bool.false_eq_true,
    Option.map_some]
  exact ⟨_, rfl, rfl⟩

/-- A creation that passes the guards is carried out. -/
theorem buildTlvReply_created (reply : TlvReply) (id : Nat) (activeThreads : Int)
    {target : AccountId}
    (guards : CreateGuards generateSha256Hash bank.accounts request target) :
    ∃ reply', buildTlvReply generateSha256Hash request bank reply id activeThreads =
        some (bank.withAccount generateSha256Hash request.value.create target id, reply') ∧
      reply'.value.header.retCode = .ok := by
  have admin : request.value.header.accountId = adminAccountId :=
    (accountIndex_eq_adminIndex guards.login.found).mp rfl
  rw [buildTlvReply_of_login guards.login, replySwitch, guards.create]
  simp only [replyCreateAccount_eq guards.targetFound, admin, guards.inactive, ne_eq,
    not_true_eq_false, ↓reduceIte, Bool.false_eq_true, Option.map_some]
  exact ⟨_, rfl, rfl⟩

end Hash

end Sope.Banking
