import Sope.Banking.Account

set_option autoImplicit false

/- `build_tlv_reply` (banking_aux.c), one definition for each case of its switch.
A result `none` means that the case indexes outside the account table. -/
namespace Sope.Banking

/-- `sizeof(reply)` where `reply` is a pointer. -/
def replyLength : UInt32 := 8

/-- Write to the balance field of one entry. -/
def Accounts.modifyBalance (accounts : Accounts) (index : AccountId) (f : UInt32 → UInt32) :
    Accounts :=
  Function.update accounts index
    { accounts index with bankAccount :=
        { (accounts index).bankAccount with balance := f (accounts index).bankAccount.balance } }

/-- `(int)(*source_balance - amount) < (int)MIN_BALANCE`: the difference wraps in
32 bits and is then read as signed. -/
def noFundsTest (sourceBalance amount : UInt32) : Bool :=
  decide ((sourceBalance - amount).toInt32 < minBalance.toUInt32.toInt32)

/-- `*dest_balance + amount > MAX_BALANCE`: the sum wraps in 32 bits and is then
widened. -/
def tooHighTest (destBalance amount : UInt32) : Bool :=
  decide ((destBalance + amount).toUInt64 > maxBalance)

section Cases

variable (generateSha256Hash : CString → CString → CString)

/-- `case OP_CREATE_ACCOUNT`. The result of `create_bank_account` is not looked at. -/
def replyCreateAccount (request : TlvRequest) (bank : Bank) (reply : TlvReply) (id : Nat) :
    Option (Bank × TlvReply) := do
  if request.value.header.accountId ≠ adminAccountId then
    return (bank, reply.withRetCode .opNallow)
  if ← isActiveAccount bank.accounts request.value.create.accountId then
    return (bank, reply.withRetCode .idInUse)
  let (_, bank) ← createBankAccount generateSha256Hash bank request.value.create id
  return (bank, reply)

/-- `case OP_BALANCE`. The second test reads `create.account_id` from the union. -/
def replyBalance (request : TlvRequest) (bank : Bank) (reply : TlvReply) :
    Option (Bank × TlvReply) := do
  if request.value.header.accountId = adminAccountId then
    return (bank, reply.withRetCode .opNallow)
  if !(← isActiveAccount bank.accounts request.value.create.accountId) then
    return (bank, reply.withRetCode .idNotFound)
  let index ← accountIndex reply.value.header.accountId
  return (bank, reply.withInfo (bank.accounts index).bankAccount.balance)

/-- `case OP_TRANSFER`. -/
def replyTransfer (request : TlvRequest) (bank : Bank) (reply : TlvReply) :
    Option (Bank × TlvReply) := do
  let amount := request.value.transfer.amount
  let reply := reply.withInfo amount
  if request.value.header.accountId = request.value.transfer.accountId then
    return (bank, reply.withRetCode .sameId)
  if request.value.header.accountId = adminAccountId then
    return (bank, reply.withRetCode .opNallow)
  if request.value.transfer.accountId = adminAccountId then
    return (bank, reply.withRetCode .opNallow)
  if !(← isActiveAccount bank.accounts request.value.transfer.accountId) then
    return (bank, reply.withRetCode .idNotFound)
  let source ← accountIndex request.value.header.accountId
  let dest ← accountIndex request.value.transfer.accountId
  if noFundsTest (bank.accounts source).bankAccount.balance amount then
    return (bank, reply.withRetCode .noFunds)
  if tooHighTest (bank.accounts dest).bankAccount.balance amount then
    return (bank, reply.withRetCode .tooHigh)
  let accounts := bank.accounts.modifyBalance dest (· + amount)
  let accounts := accounts.modifyBalance source (· - amount)
  return ({ bank with accounts }, reply.withInfo (accounts source).bankAccount.balance)

/-- `case OP_SHUTDOWN`. -/
def replyShutdown (request : TlvRequest) (bank : Bank) (reply : TlvReply) (activeThreads : Int) :
    Option (Bank × TlvReply) :=
  if request.value.header.accountId ≠ adminAccountId then
    some (bank, reply.withRetCode .opNallow)
  else
    some (bank, reply.withInfo (UInt32.ofInt activeThreads))

/-- The switch over the request's type. An undefined type runs into `default`. -/
def replySwitch (request : TlvRequest) (bank : Bank) (reply : TlvReply) (id : Nat)
    (activeThreads : Int) : Option (Bank × TlvReply) :=
  match request.type with
  | .createAccount => replyCreateAccount generateSha256Hash request bank reply id
  | .balance => replyBalance request bank reply
  | .transfer => replyTransfer request bank reply
  | .shutdown => replyShutdown request bank reply activeThreads
  | .undefined _ _ => some (bank, reply)

/-- The first three assignments to the caller's buffer. -/
def replyStart (request : TlvRequest) (reply : TlvReply) (retCode : RetCode) : TlvReply where
  type := request.type
  length := reply.length
  value := { header := ⟨request.value.header.accountId, retCode⟩, info := reply.value.info }

/-- `build_tlv_reply`. `reply` is the caller's buffer with whatever it holds, and
`activeThreads` the global `active_threads` at the time of the call. -/
def buildTlvReply (request : TlvRequest) (bank : Bank) (reply : TlvReply) (id : Nat)
    (activeThreads : Int) : Option (Bank × TlvReply) := do
  let retCode ← validateBankAccount generateSha256Hash bank.accounts request.value.header
  let reply := replyStart request reply retCode
  if retCode = .ok then
    let (bank, reply) ← replySwitch generateSha256Hash request bank reply id activeThreads
    return (bank, { reply with length := replyLength })
  else
    return (bank, { reply with length := replyLength })

end Cases

end Sope.Banking
