import Sope.Banking.Amount
import Sope.Banking.Client
import Sope.Server.Handle

set_option autoImplicit false

/- The indices into `accounts` that an office uses for one request. Neither program
compares an id with `MAX_BANK_ACCOUNTS`. -/
namespace Sope.Server

open Machine Banking

/-- `is_active_account` takes its index as an int. -/
def isActiveIndices (accId : UInt32) : List Int := [accId.toInt32.toInt]

section Hash

variable (generateSha256Hash : CString → CString → CString)

/-- `create_bank_account` keeps the id in an int, and logs `acc[ADMIN_ACCOUNT_ID]`. -/
def createIndices (accounts : Accounts) (accData : ReqCreateAccount) : List Int :=
  isActiveIndices accData.accountId ++
    match isActiveAccount accounts accData.accountId with
    | some false => [accData.accountId.toInt32.toInt, adminAccountId.toNat]
    | _ => []

def validateIndices (accounts : Accounts) (header : ReqHeader) : List Int :=
  isActiveIndices header.accountId ++
    match isActiveAccount accounts header.accountId with
    | some true => [(header.accountId.toNat : Int)]
    | _ => []

/-- The switch of `build_tlv_reply`. -/
def switchIndices (accounts : Accounts) (request : TlvRequest) : List Int :=
  let header := request.value.header.accountId
  match request.type with
  | .createAccount =>
      let create := request.value.create
      if header ≠ adminAccountId then []
      else isActiveIndices create.accountId ++
        match isActiveAccount accounts create.accountId with
        | some false => createIndices accounts create
        | _ => []
  | .balance =>
      let create := request.value.create
      if header = adminAccountId then []
      else isActiveIndices create.accountId ++
        match isActiveAccount accounts create.accountId with
        | some true => [(header.toNat : Int)]
        | _ => []
  | .transfer =>
      let target := request.value.transfer.accountId
      if header = target then []
      else if header = adminAccountId then []
      else if target = adminAccountId then []
      else isActiveIndices target ++
        match isActiveAccount accounts target with
        | some true => [(header.toNat : Int), (target.toNat : Int)]
        | _ => []
  | .shutdown | .undefined _ _ => []

def buildIndices (accounts : Accounts) (request : TlvRequest) : List Int :=
  validateIndices accounts request.value.header ++
    match validateBankAccount generateSha256Hash accounts request.value.header with
    | some .ok => switchIndices accounts request
    | _ => []

/-- One iteration of `read_request`. Before and after the call it looks at the requesting
account, and for a transfer at the target, whatever the call answers. -/
def readRequestIndices (accounts : Accounts) (request : TlvRequest) : List Int :=
  let account : List Int := [(request.value.header.accountId.toNat : Int)]
  let target : List Int :=
    if request.type = .transfer then [(request.value.transfer.accountId.toNat : Int)] else []
  account ++ target ++ buildIndices generateSha256Hash accounts request ++ account ++ target

end Hash

/-- Between 0 and `MAX_BANK_ACCOUNTS - 1`. -/
def Inside (index : Int) : Prop := 0 ≤ index ∧ index < maxBankAccounts

instance (index : Int) : Decidable (Inside index) := inferInstanceAs (Decidable (_ ∧ _))

@[simp] theorem inside_toNat {id : UInt32} :
    Inside (id.toNat : Int) ↔ id.toNat < maxBankAccounts := by
  rw [Inside]
  omega

/-- An id from 2^31 on is a negative int, so the conversion makes no difference. -/
@[simp] theorem inside_toInt32 {id : UInt32} :
    Inside id.toInt32.toInt ↔ id.toNat < maxBankAccounts := by
  have bound := id.toNat_lt
  rw [Inside, toInt32_toInt, maxBankAccounts]
  split <;> omega

section Inside

variable {generateSha256Hash : CString → CString → CString} {accounts : Accounts}

/-- What follows a call of `is_active_account` brings no other id in. -/
theorem looked_up_inside {accId : UInt32} {rest : List Int}
    (within : accId.toNat < maxBankAccounts → ∀ index ∈ rest, Inside index) :
    (∀ index ∈ isActiveIndices accId ++ rest, Inside index) ↔ accId.toNat < maxBankAccounts := by
  rw [List.forall_mem_append]
  simp only [isActiveIndices, List.forall_mem_singleton, inside_toInt32]
  exact and_iff_left_of_imp within

theorem createIndices_inside {accData : ReqCreateAccount} :
    (∀ index ∈ createIndices accounts accData, Inside index) ↔
      accData.accountId.toNat < maxBankAccounts := by
  apply looked_up_inside
  intro inside
  split
  · have admin : Inside (adminAccountId.toNat : Int) := by decide
    simp [inside, admin]
  · exact fun _ none => absurd none List.not_mem_nil

theorem validateIndices_inside {header : ReqHeader} :
    (∀ index ∈ validateIndices accounts header, Inside index) ↔
      header.accountId.toNat < maxBankAccounts := by
  apply looked_up_inside
  intro inside
  split
  · simp [inside]
  · exact fun _ none => absurd none List.not_mem_nil

/-- The id in the union that a request is indexed with once its user is logged in. -/
structure SwitchInside (request : TlvRequest) : Prop where
  create : request.type = .createAccount → request.value.header.accountId = adminAccountId →
    request.value.create.accountId.toNat < maxBankAccounts
  balance : request.type = .balance → request.value.header.accountId ≠ adminAccountId →
    request.value.create.accountId.toNat < maxBankAccounts

/-- The ids of a transfer are those that `read_request` has looked up already. -/
theorem switchIndices_inside {request : TlvRequest}
    (header : request.value.header.accountId.toNat < maxBankAccounts)
    (target : request.type = .transfer →
      request.value.transfer.accountId.toNat < maxBankAccounts) :
    (∀ index ∈ switchIndices accounts request, Inside index) ↔ SwitchInside request := by
  have empty : ∀ index ∈ ([] : List Int), Inside index :=
    fun _ none => absurd none List.not_mem_nil
  unfold switchIndices
  cases type : request.type with
  | createAccount =>
      by_cases admin : request.value.header.accountId = adminAccountId
      · simp only [admin, ne_eq, not_true_eq_false, ↓reduceIte]
        rw [looked_up_inside]
        · exact ⟨fun inside => ⟨fun _ _ => inside, fun balance => by simp [type] at balance⟩,
            fun inside => inside.create type admin⟩
        · intro inside
          split
          · exact createIndices_inside.mpr inside
          · exact empty
      · simp only [ne_eq, admin, not_false_eq_true, ↓reduceIte]
        exact iff_of_true empty
          ⟨fun _ isAdmin => absurd isAdmin admin, fun balance => by simp [type] at balance⟩
  | balance =>
      by_cases admin : request.value.header.accountId = adminAccountId
      · simp only [admin, ↓reduceIte]
        exact iff_of_true empty
          ⟨fun create => by simp [type] at create, fun _ client => absurd admin client⟩
      · simp only [admin, ↓reduceIte]
        rw [looked_up_inside]
        · exact ⟨fun inside => ⟨fun create => by simp [type] at create, fun _ _ => inside⟩,
            fun inside => inside.balance type admin⟩
        · intro inside
          split
          · simp [header]
          · exact empty
  | transfer =>
      refine iff_of_true ?_
        ⟨fun create => by simp [type] at create, fun balance => by simp [type] at balance⟩
      dsimp only
      split_ifs
      · exact empty
      · exact empty
      · exact empty
      · refine (looked_up_inside fun inside => ?_).mpr (target type)
        split
        · simp [header, inside]
        · exact empty
  | shutdown | undefined =>
      exact iff_of_true empty
        ⟨fun create => by simp [type] at create, fun balance => by simp [type] at balance⟩

/-- The ids of a request that an office indexes the array with. -/
structure IdsInside (generateSha256Hash : CString → CString → CString) (accounts : Accounts)
    (request : TlvRequest) : Prop where
  account : request.value.header.accountId.toNat < maxBankAccounts
  target : request.type = .transfer → request.value.transfer.accountId.toNat < maxBankAccounts
  switch : validateBankAccount generateSha256Hash accounts request.value.header = some .ok →
    SwitchInside request

theorem readRequestIndices_inside (request : TlvRequest) :
    (∀ index ∈ readRequestIndices generateSha256Hash accounts request, Inside index) ↔
      IdsInside generateSha256Hash accounts request := by
  have targets : (∀ index ∈ (if request.type = .transfer then
      [(request.value.transfer.accountId.toNat : Int)] else []), Inside index) ↔
      (request.type = .transfer →
        request.value.transfer.accountId.toNat < maxBankAccounts) := by
    split
    · rename_i transfer
      simp [transfer]
    · rename_i other
      exact iff_of_true (fun _ none => absurd none List.not_mem_nil)
        fun transfer => absurd transfer other
  have switched (account : request.value.header.accountId.toNat < maxBankAccounts)
      (target : request.type = .transfer →
        request.value.transfer.accountId.toNat < maxBankAccounts) :
      (∀ index ∈ buildIndices generateSha256Hash accounts request, Inside index) ↔
        (validateBankAccount generateSha256Hash accounts request.value.header = some .ok →
          SwitchInside request) := by
    rw [buildIndices, List.forall_mem_append, validateIndices_inside, and_iff_right account]
    split
    · rename_i validated
      rw [switchIndices_inside account target]
      exact ⟨fun inside _ => inside, fun inside => inside validated⟩
    · rename_i refused
      exact iff_of_true (fun _ none => absurd none List.not_mem_nil)
        fun validated => absurd validated refused
  simp only [readRequestIndices, List.forall_mem_append, List.forall_mem_singleton, inside_toNat,
    targets]
  constructor
  · rintro ⟨⟨⟨⟨account, target⟩, build⟩, -⟩, -⟩
    exact ⟨account, target, (switched account target).mp build⟩
  · rintro ⟨account, target, switch⟩
    exact ⟨⟨⟨⟨account, target⟩, (switched account target).mpr switch⟩, account⟩, target⟩

/-- A case of the switch that starts with `is_active_account` is undefined when the id
lies outside the array. -/
theorem switch_isSome_iff {accId : UInt32} {answer : Option (Bank × TlvReply)} {rest : List Int}
    (outside : accountIndex accId = none → answer = none)
    (inside : ∀ index, accountIndex accId = some index → answer.isSome)
    (within : accId.toNat < maxBankAccounts → ∀ index ∈ rest, Inside index) :
    answer.isSome ↔ ∀ index ∈ isActiveIndices accId ++ rest, Inside index := by
  rw [looked_up_inside within]
  by_cases small : accId.toNat < maxBankAccounts
  · exact iff_of_true (inside _ (accountIndex_of_lt small)) small
  · refine iff_of_false ?_ small
    rw [outside (accountIndex_of_not_lt small)]
    exact Bool.false_ne_true

theorem replySwitch_isSome_iff {request : TlvRequest} {bank : Bank} {reply : TlvReply} {id : Nat}
    {activeThreads : Int} {user : AccountId}
    (userFound : accountIndex request.value.header.accountId = some user)
    (sameId : reply.value.header.accountId = request.value.header.accountId) :
    (replySwitch generateSha256Hash request bank reply id activeThreads).isSome ↔
      ∀ index ∈ switchIndices bank.accounts request, Inside index := by
  have empty : ∀ index ∈ ([] : List Int), Inside index :=
    fun _ none => absurd none List.not_mem_nil
  have account : request.value.header.accountId.toNat < maxBankAccounts := by
    rw [accountIndex_eq_some.mp userFound]
    exact user.isLt
  unfold replySwitch switchIndices
  cases type : request.type with
  | createAccount =>
      by_cases admin : request.value.header.accountId = adminAccountId
      · simp only [admin, ne_eq, not_true_eq_false, ↓reduceIte]
        apply switch_isSome_iff
        · intro outside
          simp [replyCreateAccount, admin, isActiveAccount, outside]
        · intro index found
          rw [replyCreateAccount_eq found]
          rfl
        · intro inside
          split
          · exact createIndices_inside.mpr inside
          · exact empty
      · simp only [ne_eq, admin, not_false_eq_true, ↓reduceIte]
        exact iff_of_true (by simp [replyCreateAccount, admin]) empty
  | balance =>
      by_cases admin : request.value.header.accountId = adminAccountId
      · simp only [admin, ↓reduceIte]
        exact iff_of_true (by simp [replyBalance, admin]) empty
      · simp only [admin, ↓reduceIte]
        apply switch_isSome_iff
        · intro outside
          simp [replyBalance, admin, isActiveAccount, outside]
        · intro index found
          rw [replyBalance_eq found (sameId ▸ userFound)]
          rfl
        · intro inside
          split
          · simp [account]
          · exact empty
  | transfer =>
      dsimp only
      by_cases same : request.value.header.accountId = request.value.transfer.accountId
      · simp only [same, ↓reduceIte]
        exact iff_of_true (by simp [replyTransfer, same]) empty
      by_cases admin : request.value.header.accountId = adminAccountId
      · rw [if_neg same, if_pos admin]
        exact iff_of_true (by simp [replyTransfer, if_neg same, if_pos admin]) empty
      by_cases toAdmin : request.value.transfer.accountId = adminAccountId
      · rw [if_neg same, if_neg admin, if_pos toAdmin]
        exact iff_of_true (by simp [replyTransfer, if_neg same, if_pos toAdmin]) empty
      simp only [same, admin, toAdmin, ↓reduceIte]
      apply switch_isSome_iff
      · intro outside
        simp [replyTransfer, same, admin, toAdmin, isActiveAccount, outside]
      · intro index found
        rw [replyTransfer_eq userFound found]
        rfl
      · intro inside
        split
        · simp [account, inside]
        · exact empty
  | shutdown =>
      refine iff_of_true ?_ empty
      simp only [replyShutdown]
      split <;> rfl
  | undefined value outside => exact iff_of_true rfl empty

/-- The list of indices belongs to the model of the calls: they are defined exactly
where none of their indices lies outside the array. -/
theorem buildTlvReply_isSome_iff (request : TlvRequest) (bank : Bank) (reply : TlvReply)
    (id : Nat) (activeThreads : Int) :
    (buildTlvReply generateSha256Hash request bank reply id activeThreads).isSome ↔
      ∀ index ∈ buildIndices generateSha256Hash bank.accounts request, Inside index := by
  rw [buildIndices, List.forall_mem_append, validateIndices_inside]
  by_cases account : request.value.header.accountId.toNat < maxBankAccounts
  swap
  · refine iff_of_false ?_ fun inside => account inside.1
    have none := accountIndex_of_not_lt account
    simp [buildTlvReply, validateBankAccount, isActiveAccount, none]
  rw [and_iff_right account]
  have found := accountIndex_of_lt account
  by_cases login : LoggedIn generateSha256Hash bank.accounts request.value.header
    ⟨request.value.header.accountId.toNat, account⟩
  · rw [login.validate, buildTlvReply_of_login login, Option.isSome_map]
    exact replySwitch_isSome_iff login.found rfl
  · obtain ⟨code, validated⟩ : ∃ code,
        validateBankAccount generateSha256Hash bank.accounts request.value.header = some code :=
      ⟨_, validateBankAccount_of_found found⟩
    have refused : code ≠ .ok := by
      rintro rfl
      obtain ⟨user, login'⟩ := validateBankAccount_eq_ok.mp validated
      cases login'.found.symm.trans found
      exact login login'
    rw [validated]
    refine iff_of_true (by simp [buildTlvReply, validated, refused]) ?_
    split
    · rename_i ok
      exact absurd (Option.some.inj ok) refused
    · exact fun _ none => absurd none List.not_mem_nil

end Inside

/-- The header that the user program fills in from its arguments. -/
def argvHeader (pid : Int32) (argv : Argv) : ReqHeader where
  pid
  accountId := (atoi argv.accountId).toUInt32
  password := argv.password
  opDelayMs := (atoi argv.delay).toUInt32

/-- The number that `atoi` reads is an index of the table. -/
def NamesAccount (text : CString) : Prop := Inside (atoi text).toInt

theorem namesAccount_iff {text : CString} :
    (atoi text).toUInt32.toNat < maxBankAccounts ↔ NamesAccount text :=
  inside_toInt32.symm

/-- What the arguments, and for a balance check the bytes of the union that the user
program does not fill in, must satisfy. -/
structure ArgvInside (generateSha256Hash : CString → CString → CString) (accounts : Accounts)
    (pid : Int32) (uninit : ReqCreateAccount) (argv : Argv) : Prop where
  account : NamesAccount argv.accountId
  target : OpType.ofCode (atoi argv.opCode).toUInt32 = .transfer →
    ∀ target ∈ (getStringArguments argv.arguments).head?, NamesAccount target
  create : OpType.ofCode (atoi argv.opCode).toUInt32 = .createAccount →
    LoggedIn generateSha256Hash accounts (argvHeader pid argv) adminIndex →
    ∀ account ∈ (getStringArguments argv.arguments).head?, NamesAccount account
  balance : OpType.ofCode (atoi argv.opCode).toUInt32 = .balance →
    ∀ user, LoggedIn generateSha256Hash accounts (argvHeader pid argv) user →
    user ≠ adminIndex → uninit.accountId.toNat < maxBankAccounts

section Argv

variable {pid : Int32} {uninit : ReqCreateAccount} {argv : Argv} {request : TlvRequest}

/-- The type and the header come from the arguments, and so does the first word of the
union, except for the types that have no arguments. -/
theorem userRequest_fields (accepted : userRequest pid uninit argv = some request) :
    request.type = OpType.ofCode (atoi argv.opCode).toUInt32 ∧
      request.value.header = argvHeader pid argv ∧
      (request.type = .createAccount ∨ request.type = .transfer →
        ∃ account, (getStringArguments argv.arguments).head? = some account ∧
          request.value.create.accountId = (atoi account).toUInt32) ∧
      (request.type = .balance → request.value.create = uninit) := by
  unfold userRequest at accepted
  split at accepted
  swap
  · cases accepted
  simp only [buildTlvRequest, Option.bind_eq_bind, Option.pure_def, gt_iff_lt] at accepted
  split at accepted
  · cases accepted
  generalize OpType.ofCode (atoi argv.opCode).toUInt32 = type at accepted ⊢
  split at accepted
  · rename_i tokens
    cases accepted
    exact ⟨rfl, rfl, fun _ => ⟨_, by rw [tokens]; rfl, rfl⟩, fun balance => (nomatch balance)⟩
  · cases accepted
  · rename_i tokens
    cases accepted
    exact ⟨rfl, rfl, fun _ => ⟨_, by rw [tokens]; rfl, rfl⟩, fun balance => (nomatch balance)⟩
  · cases accepted
  · rename_i notCreate notTransfer _ _
    cases accepted
    refine ⟨rfl, rfl, ?_, fun _ => rfl⟩
    rintro (create | transfer)
    · exact (notCreate create).elim
    · exact (notTransfer transfer).elim

theorem idsInside_iff_argvInside {generateSha256Hash : CString → CString → CString}
    {accounts : Accounts} (accepted : userRequest pid uninit argv = some request) :
    IdsInside generateSha256Hash accounts request ↔
      ArgvInside generateSha256Hash accounts pid uninit argv := by
  obtain ⟨type, header, named, unread⟩ := userRequest_fields accepted
  have first (reads : request.type = .createAccount ∨ request.type = .transfer) :
      request.value.create.accountId.toNat < maxBankAccounts ↔
        ∀ account ∈ (getStringArguments argv.arguments).head?, NamesAccount account := by
    obtain ⟨account, token, id⟩ := named reads
    simp [token, id, namesAccount_iff]
  constructor
  · rintro ⟨account, target, switch⟩
    refine ⟨?_, ?_, ?_, ?_⟩
    · rw [header] at account
      exact namesAccount_iff.mp account
    · intro transfer
      rw [← type] at transfer
      exact (first (Or.inr transfer)).mp (target transfer)
    · intro create login
      rw [← type] at create
      rw [← header] at login
      refine (first (Or.inl create)).mp ((switch login.validate).create create ?_)
      exact (accountIndex_eq_adminIndex login.found).mp rfl
    · intro balance user login client
      rw [← type] at balance
      rw [← header] at login
      rw [← unread balance]
      refine (switch login.validate).balance balance fun admin => client ?_
      exact (accountIndex_eq_adminIndex login.found).mpr admin
  · rintro ⟨account, target, create, balance⟩
    rw [← type] at target create balance
    rw [← header] at create balance
    refine ⟨?_, ?_, ?_⟩
    · rw [header]
      exact namesAccount_iff.mpr account
    · intro transfer
      exact (first (Or.inr transfer)).mpr (target transfer)
    · intro validated
      obtain ⟨user, login⟩ := validateBankAccount_eq_ok.mp validated
      refine ⟨fun isCreate admin => ?_, fun isBalance client => ?_⟩
      · have isAdmin := (accountIndex_eq_adminIndex login.found).mpr admin
        exact (first (Or.inl isCreate)).mpr (create isCreate (isAdmin ▸ login))
      · rw [unread isBalance]
        refine balance isBalance user login fun isAdmin => client ?_
        exact (accountIndex_eq_adminIndex login.found).mp isAdmin

/-- Every index that an office uses for a request of the user program lies inside the
array if and only if the ids among the arguments do, as far as they are used, and for a
balance check the unread word of the union. -/
theorem userRequest_indices_inside_iff (generateSha256Hash : CString → CString → CString)
    (accounts : Accounts) (pid : Int32) (uninit : ReqCreateAccount) (argv : Argv)
    {request : TlvRequest} (accepted : userRequest pid uninit argv = some request) :
    (∀ index ∈ readRequestIndices generateSha256Hash accounts request, Inside index) ↔
      ArgvInside generateSha256Hash accounts pid uninit argv :=
  (readRequestIndices_inside request).trans (idsInside_iff_argvInside accepted)

end Argv

/-- `user 5000 top_secret 10 1 ""`. -/
def balanceOf5000 : Argv where
  accountId := ['5', '0', '0', '0']
  password := topSecret
  delay := ['1', '0']
  opCode := ['1']
  arguments := []

/-- The user program sends it, and the office indexes the array with 5000. -/
theorem balanceOf5000_outside :
    ∃ request, userRequest 1000 ⟨0, 0, []⟩ balanceOf5000 = some request ∧
      5000 ∈ readRequestIndices sessionHash
        (initialBank sessionHash sessionRand ultraTopSecret).accounts request ∧
      ¬ Inside 5000 :=
  ⟨_, rfl, List.mem_cons_self, by decide⟩

/-- The equivalence at that request, where both sides fail. -/
theorem balanceOf5000_indices_inside_iff :
    ∃ request, userRequest 1000 ⟨0, 0, []⟩ balanceOf5000 = some request ∧
      ((∀ index ∈ readRequestIndices sessionHash
          (initialBank sessionHash sessionRand ultraTopSecret).accounts request, Inside index) ↔
        ArgvInside sessionHash (initialBank sessionHash sessionRand ultraTopSecret).accounts 1000
          ⟨0, 0, []⟩ balanceOf5000) :=
  ⟨_, rfl, userRequest_indices_inside_iff sessionHash _ 1000 ⟨0, 0, []⟩ balanceOf5000 rfl⟩

end Sope.Server
