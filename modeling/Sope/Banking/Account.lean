import Sope.Banking.Types
import Mathlib.Data.List.Basic
import Mathlib.Logic.Function.Basic

set_option autoImplicit false

/- Account creation and password check (banking_aux.c, general_aux.c). The hash
program run through `popen` is not part of the sources: `generateSha256Hash` is
the string that `generate_sha256_hash` leaves in its buffer. -/
namespace Sope.Banking

/-- The `rand()` results that the process has still to draw. -/
abbrev Rand := Nat → Nat

/-- `generate_password_salt`: one hexadecimal digit for each of the next `SALT_LEN`
results, and the results that remain. -/
def generatePasswordSalt (rand : Rand) : CString × Rand :=
  ((List.range saltLen).map fun i => Nat.digitChar (rand i % 15), fun i => rand (i + saltLen))

/-- The digits of a salt are those of the remainders by 15. -/
theorem forall_mem_salt {p : Char → Prop} (digits : ∀ value < 15, p (Nat.digitChar value))
    (rand : Rand) : ∀ c ∈ (generatePasswordSalt rand).1, p c := by
  intro c member
  obtain ⟨i, -, rfl⟩ := List.mem_map.mp member
  exact digits _ (Nat.mod_lt _ (Nat.succ_pos 14))

/-- What `logAccountCreation` prints: the office, and of the account its id, salt
and last `WIDTH_HASH` hash characters. -/
structure AccountCreationLine where
  id : Nat
  accountId : UInt32
  salt : CString
  hashTail : CString

def logAccountCreation (id : Nat) (account : BankAccount) : AccountCreationLine :=
  ⟨id, account.accountId, account.salt, account.hash.drop (hashLen - widthHash)⟩

/-- The data that handling a request reads and writes: the account table, the
random numbers to come and the account-creation lines of the server log. -/
structure Bank where
  accounts : Accounts
  rand : Rand
  slog : List AccountCreationLine

/-- `is_active_account` on an index inside the array. -/
def Accounts.isActive (acc : Accounts) (index : AccountId) : Bool :=
  !((acc index).bankAccount.hash.length == 0)

def isActiveAccount (acc : Accounts) (accId : UInt32) : Option Bool := do
  let index ← accountIndex accId
  return acc.isActive index

/-- `sem_init` on an account. -/
def initSem (accounts : Accounts) (index : AccountId) (value : Nat) : Accounts :=
  Function.update accounts index { accounts index with semaphore := value }

section Hash

variable (generateSha256Hash : CString → CString → CString)

/-- The entry that `create_bank_account` fills in. -/
def newAccount (accData : ReqCreateAccount) (salt : CString) : BankAccountSem where
  bankAccount :=
    { accountId := accData.accountId
      hash := generateSha256Hash accData.password salt
      salt
      balance := accData.balance }
  semaphore := 1
  active := true

/-- `create_bank_account` up to its `init_sem`. The logged account is
`acc[ADMIN_ACCOUNT_ID]`, as in the source. -/
def fillBankAccount (bank : Bank) (accData : ReqCreateAccount) (id : Nat) :
    Option (Bool × Bank) := do
  if ← isActiveAccount bank.accounts accData.accountId then
    return (false, bank)
  let index ← accountIndex accData.accountId
  let (salt, rand) := generatePasswordSalt bank.rand
  let accounts := Function.update bank.accounts index
    { newAccount generateSha256Hash accData salt with semaphore := (bank.accounts index).semaphore }
  let line := logAccountCreation id (accounts adminIndex).bankAccount
  return (true, { accounts, rand, slog := bank.slog ++ [line] })

def createBankAccount (bank : Bank) (accData : ReqCreateAccount) (id : Nat) :
    Option (Bool × Bank) := do
  let (filled, bank) ← fillBankAccount generateSha256Hash bank accData id
  if filled then
    let index ← accountIndex accData.accountId
    return (true, { bank with accounts := initSem bank.accounts index 1 })
  return (false, bank)

/-- The password opens the account: its hash under the account's salt is the
account's hash. -/
def Accounts.accepts (accounts : Accounts) (index : AccountId) (password : CString) : Bool :=
  generateSha256Hash password (accounts index).bankAccount.salt ==
    (accounts index).bankAccount.hash

def validateBankAccount (accounts : Accounts) (header : ReqHeader) : Option RetCode := do
  if !(← isActiveAccount accounts header.accountId) then
    return .idNotFound
  let index ← accountIndex header.accountId
  if !accounts.accepts generateSha256Hash index header.password then
    return .loginFail
  return .ok

end Hash

end Sope.Banking
