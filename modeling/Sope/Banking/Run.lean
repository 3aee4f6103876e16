import Sope.Lib.Run
import Sope.Banking.Outcome

set_option autoImplicit false

/- The bank from the state that main sets up, under any sequence of requests. -/
namespace Sope.Banking

open Machine

/-- The arguments of one call of `build_tlv_reply`: the request, and what the
calling office brings along (its reply buffer, its id, `active_threads`). -/
structure Call where
  request : TlvRequest
  buffer : TlvReply
  id : Nat
  activeThreads : Int

/-- A static array starts zeroed, and main clears every `active`. -/
def zeroEntry : BankAccountSem where
  bankAccount := { accountId := 0, hash := [], salt := [], balance := 0 }
  semaphore := 0
  active := false

def zeroBank (rand : Rand) : Bank where
  accounts := fun _ => zeroEntry
  rand
  slog := []

/-- `admin_account` in main. -/
def adminAccount (adminPassword : CString) : ReqCreateAccount where
  accountId := adminAccountId
  balance := 0
  password := adminPassword

@[simp] theorem isActive_zeroBank (rand : Rand) (index : AccountId) :
    (zeroBank rand).accounts.isActive index = false := rfl

section Hash

variable (generateSha256Hash : CString → CString → CString)

/-- The bank once main has created the administrator's account. -/
def initialBank (rand : Rand) (adminPassword : CString) : Bank :=
  (zeroBank rand).withAccount generateSha256Hash (adminAccount adminPassword) adminIndex
    mainThreadId

theorem createBankAccount_admin (rand : Rand) (adminPassword : CString) :
    createBankAccount generateSha256Hash (zeroBank rand) (adminAccount adminPassword)
      mainThreadId = some (true, initialBank generateSha256Hash rand adminPassword) :=
  createBankAccount_of_inactive accountIndex_admin (isActive_zeroBank rand adminIndex)

def serve (bank : Bank) (call : Call) : Option (Bank × TlvReply) :=
  buildTlvReply generateSha256Hash call.request bank call.buffer call.id call.activeThreads

/-- A call that was answered, with the bank before and after it. -/
abbrev Served := Event Bank Call TlvReply

/-- Answer the calls one after the other, starting from the initial bank. -/
def serveAll (rand : Rand) (adminPassword : CString) (calls : List Call) :
    Option (List Served × Bank) :=
  run (serve generateSha256Hash) (initialBank generateSha256Hash rand adminPassword) calls

/-- The administrator's entry as main creates it. -/
def adminEntry (rand : Rand) (adminPassword : CString) : BankAccountSem :=
  newAccount generateSha256Hash (adminAccount adminPassword) (generatePasswordSalt rand).1

end Hash

/-- The answer is one that the request was created for: an account opened by it. -/
def Served.Creates (served : Served) (target : AccountId) : Prop :=
  served.input.request.type = .createAccount ∧ served.output.value.header.retCode = .ok ∧
    accountIndex served.input.request.value.create.accountId = some target

section Entries

variable {generateSha256Hash : CString → CString → CString}

theorem withAccount_self (bank : Bank) (accData : ReqCreateAccount) (target : AccountId)
    (id : Nat) :
    (bank.withAccount generateSha256Hash accData target id).accounts target =
      newAccount generateSha256Hash accData (generatePasswordSalt bank.rand).1 :=
  Function.update_self ..

theorem withAccount_of_ne (bank : Bank) (accData : ReqCreateAccount) {target other : AccountId}
    (id : Nat) (apart : other ≠ target) :
    (bank.withAccount generateSha256Hash accData target id).accounts other =
      bank.accounts other :=
  Function.update_of_ne apart ..

theorem withTransfer_of_ne (bank : Bank) {source dest other : AccountId} (amount : UInt32)
    (notSource : other ≠ source) (notDest : other ≠ dest) :
    (bank.withTransfer source dest amount).accounts other = bank.accounts other := by
  simp only [Bank.withTransfer]
  rw [modifyBalance_of_ne _ _ notSource, modifyBalance_of_ne _ _ notDest]

theorem withTransfer_source (bank : Bank) {source dest : AccountId} (amount : UInt32)
    (apart : source ≠ dest) :
    ((bank.withTransfer source dest amount).accounts source).bankAccount.balance =
      (bank.accounts source).bankAccount.balance - amount := by
  simp only [Bank.withTransfer, modifyBalance_self]
  rw [modifyBalance_of_ne _ _ apart]

theorem withTransfer_dest (bank : Bank) {source dest : AccountId} (amount : UInt32)
    (apart : source ≠ dest) :
    ((bank.withTransfer source dest amount).accounts dest).bankAccount.balance =
      (bank.accounts dest).bankAccount.balance + amount := by
  simp only [Bank.withTransfer]
  rw [modifyBalance_of_ne _ _ (Ne.symm apart), modifyBalance_self]

/-- A transfer writes balances only. -/
theorem withTransfer_frame (bank : Bank) (source dest index : AccountId) (amount : UInt32) :
    ∃ balance, (bank.withTransfer source dest amount).accounts index =
      { bank.accounts index with
        bankAccount := { (bank.accounts index).bankAccount with balance } } := by
  simp only [Bank.withTransfer]
  obtain ⟨first, credited⟩ := modifyBalance_frame bank.accounts dest index (· + amount)
  obtain ⟨second, debited⟩ := modifyBalance_frame
    (bank.accounts.modifyBalance dest (· + amount)) source index (· - amount)
  rw [debited, credited]
  exact ⟨second, rfl⟩

theorem withTransfer_active (bank : Bank) (source dest index : AccountId) (amount : UInt32) :
    ((bank.withTransfer source dest amount).accounts index).active =
      (bank.accounts index).active := by
  obtain ⟨balance, same⟩ := withTransfer_frame bank source dest index amount
  rw [same]

theorem newAccount_active (accData : ReqCreateAccount) (salt : CString) :
    (newAccount generateSha256Hash accData salt).active = true := rfl

end Entries

/-- The administrator's entry is the one main created, and an entry that no
creation has reached is still zero. -/
structure Founded (generateSha256Hash : CString → CString → CString) (rand : Rand)
    (adminPassword : CString) (bank : Bank) : Prop where
  admin : bank.accounts adminIndex = adminEntry generateSha256Hash rand adminPassword
  fresh : ∀ index, (bank.accounts index).active = false → bank.accounts index = zeroEntry

section Founded

variable {generateSha256Hash : CString → CString → CString} {rand : Rand}
  {adminPassword : CString} {bank bank' : Bank} {request : TlvRequest} {id : Nat}
  {reply : RepValue}

/-- An account with a hash was created, so its flag is set. -/
theorem Founded.flag (founded : Founded generateSha256Hash rand adminPassword bank)
    {index : AccountId} (active : bank.accounts.isActive index = true) :
    (bank.accounts index).active = true := by
  by_contra clear
  have zero := founded.fresh index (Bool.eq_false_iff.mpr clear)
  simp [Accounts.isActive, zero, zeroEntry] at active

theorem initialBank_founded :
    Founded generateSha256Hash rand adminPassword
      (initialBank generateSha256Hash rand adminPassword) := by
  constructor
  · exact withAccount_self (zeroBank rand) (adminAccount adminPassword) adminIndex mainThreadId
  · intro index clear
    by_cases admin : index = adminIndex
    · subst admin
      simp [initialBank, withAccount_self, newAccount] at clear
    · exact withAccount_of_ne (zeroBank rand) (adminAccount adminPassword) mainThreadId admin

theorem CreateGuards.notAdmin {target : AccountId}
    (guards : CreateGuards generateSha256Hash bank.accounts request target) :
    target ≠ adminIndex := by
  rintro rfl
  have active := guards.login.active
  rw [guards.inactive] at active
  cases active

theorem Founded.outcome (founded : Founded generateSha256Hash rand adminPassword bank)
    (outcome : Outcome generateSha256Hash request bank id bank' reply) :
    Founded generateSha256Hash rand adminPassword bank' := by
  cases outcome with
  | refused | reported | shutdown | ignored => exact founded
  | created target guards =>
      constructor
      · rw [withAccount_of_ne _ _ _ (Ne.symm guards.notAdmin)]
        exact founded.admin
      · intro index clear
        by_cases created : index = target
        · subst created
          rw [withAccount_self, newAccount_active] at clear
          cases clear
        · rw [withAccount_of_ne _ _ _ created] at clear ⊢
          exact founded.fresh index clear
  | transferred source dest guards =>
      constructor
      · rw [withTransfer_of_ne _ _ (Ne.symm guards.sourceClient) (Ne.symm guards.destClient)]
        exact founded.admin
      · intro index clear
        rw [withTransfer_active] at clear
        have notSource := ne_of_flags clear (founded.flag guards.login.active)
        have notDest := ne_of_flags clear (founded.flag guards.destActive)
        rw [withTransfer_of_ne _ _ notSource notDest]
        exact founded.fresh index clear

/-- A call fills in the entry of a new account, and changes at most the balance of every
other entry. -/
theorem Outcome.entry (outcome : Outcome generateSha256Hash request bank id bank' reply)
    (index : AccountId) :
    (CreateGuards generateSha256Hash bank.accounts request index ∧ reply.header.retCode = .ok ∧
        ∃ salt, bank'.accounts index = newAccount generateSha256Hash request.value.create salt) ∨
      ∃ balance, bank'.accounts index =
        { bank.accounts index with
          bankAccount := { (bank.accounts index).bankAccount with balance } } := by
  cases outcome with
  | refused | reported | shutdown | ignored => exact .inr ⟨_, rfl⟩
  | created target guards code =>
      by_cases created : index = target
      · subst created
        exact .inl ⟨guards, code, _, withAccount_self ..⟩
      · rw [withAccount_of_ne _ _ _ created]
        exact .inr ⟨_, rfl⟩
  | transferred source dest guards => exact .inr (withTransfer_frame ..)

theorem serve_outcome {call : Call} {reply : TlvReply}
    (served : serve generateSha256Hash bank call = some (bank', reply)) :
    Outcome generateSha256Hash call.request bank call.id bank' reply.value :=
  buildTlvReply_outcome served

theorem serveAll_founded {calls : List Call} {events : List Served}
    (ran : serveAll generateSha256Hash rand adminPassword calls = some (events, bank)) :
    Founded generateSha256Hash rand adminPassword bank :=
  run_invariant ran _ initialBank_founded
    (fun _ _ _ _ _ founded served => founded.outcome (serve_outcome served))

/-- Every account with its flag set has a hash. -/
def Bank.Hashed (bank : Bank) : Prop :=
  ∀ index, (bank.accounts index).active = true → (bank.accounts index).bankAccount.hash ≠ []

theorem initialBank_hashed
    (nonempty : ∀ password salt, generateSha256Hash password salt ≠ []) :
    (initialBank generateSha256Hash rand adminPassword).Hashed := by
  intro index flag
  by_cases admin : index = adminIndex
  · subst admin
    rw [initialBank, withAccount_self]
    exact nonempty _ _
  · rw [initialBank, withAccount_of_ne _ _ _ admin] at flag
    cases flag

theorem Bank.Hashed.outcome
    (nonempty : ∀ password salt, generateSha256Hash password salt ≠ []) (hashed : bank.Hashed)
    (outcome : Outcome generateSha256Hash request bank id bank' reply) : bank'.Hashed := by
  intro index flag
  rcases outcome.entry index with ⟨-, -, salt, created⟩ | ⟨balance, kept⟩
  · rw [created]
    exact nonempty _ _
  · rw [kept] at flag ⊢
    exact hashed index flag

/-- Where hashes are never empty, an account without one is still zero. -/
theorem Founded.inactive_entry (founded : Founded generateSha256Hash rand adminPassword bank)
    (hashed : bank.Hashed) {index : AccountId} (inactive : bank.accounts.isActive index = false) :
    bank.accounts index = zeroEntry := by
  apply founded.fresh
  by_contra flag
  have active := isActive_iff.mpr (hashed index (by simpa using flag))
  rw [inactive] at active
  cases active

/-- Every sequence of calls whose ids lie inside the table is answered. -/
theorem serveAll_answered (generateSha256Hash : CString → CString → CString) (rand : Rand)
    (adminPassword : CString) (calls : List Call) (inRange : ∀ call ∈ calls, call.request.InRange) :
    ∃ events bank, serveAll generateSha256Hash rand adminPassword calls = some (events, bank) := by
  apply run_total (fun _ => True) trivial
  intro bank call member _
  obtain ⟨bank', reply, served⟩ := buildTlvReply_total generateSha256Hash call.request
    bank call.buffer call.id call.activeThreads (inRange call member)
  exact ⟨bank', reply, served, trivial⟩

end Founded

/- A session in the manner of usertests.sh: the administrator opens accounts 1 and 2. -/

/-- 64 hexadecimal digits, the form in which `shasum -a 256` prints a digest. -/
def hexDigest (digest : Nat) : CString :=
  (List.range hashLen).map fun i => Nat.digitChar (digest / 16 ^ (hashLen - 1 - i) % 16)

def ultraTopSecret : CString :=
  ['u', 'l', 't', 'r', 'a', '_', 't', 'o', 'p', '_', 's', 'e', 'c', 'r', 'e', 't']

def topSecret : CString := ['t', 'o', 'p', '_', 's', 'e', 'c', 'r', 'e', 't']

def aSecret : CString := ['a', '_', 's', 'e', 'c', 'r', 'e', 't']

/-- SHA-256 at the three passwords of the session, all salted with zeros. -/
def sessionHash (password _salt : CString) : CString :=
  hexDigest
    (if password = ultraTopSecret then
      0xf27968b886889cc08a82ad194ae70ec158f263aac6b040663e984bd08f11da7a
    else if password = topSecret then
      0x2a7cae30ab98702c4bd7b5d3fb8001d0ba33e2ef38d98c94f87310bd44abf713
    else if password = aSecret then
      0x1e5591c610fd5743bf10a4b072b4bfe20a733893cd2879f90691ebace53b80ed
    else 0)

theorem sessionHash_nonempty (password salt : CString) : sessionHash password salt ≠ [] := by
  simp [sessionHash, hexDigest, hashLen]

def sessionRand : Rand := fun _ => 0

def sessionBuffer : TlvReply := ⟨.createAccount, 0, ⟨⟨0, .other⟩, 0⟩⟩

/-- A call by office 1 for a client with the given credentials. -/
def sessionCall (type : OpType) (accountId : UInt32) (password : CString)
    (args : ReqCreateAccount) : Call where
  request := ⟨type, 62, ⟨⟨1000, accountId, password, 10⟩, args⟩⟩
  buffer := sessionBuffer
  id := 1
  activeThreads := 1

def openAccount (accountId balance : UInt32) (password : CString) : Call :=
  sessionCall .createAccount adminAccountId ultraTopSecret ⟨accountId, balance, password⟩

def openAccounts : List Call := [openAccount 1 25 topSecret, openAccount 2 30 aSecret]

end Sope.Banking
