import Mathlib.Algebra.GroupWithZero.Nat
import Mathlib.Algebra.Ring.Int.Defs
import Mathlib.Logic.Function.Basic

set_option autoImplicit false

/- The constants and message types that the user and server programs share
(constants.h, types.h) and the server's account table (banking_aux.h). Machine
integers keep their C widths, so every sum and difference wraps as in the code. -/
namespace Sope.Banking

def maxBankAccounts : Nat := 4096
instance : NeZero maxBankAccounts := ⟨by decide⟩

/-- `MIN_BALANCE` is `1UL`. -/
def minBalance : UInt64 := 1
/-- `MAX_BALANCE` is `1000000000UL`. -/
def maxBalance : UInt64 := 1000000000
def adminAccountId : UInt32 := 0
def mainThreadId : Nat := 0

def minPasswordLen : Nat := 8
def maxPasswordLen : Nat := 20
def hashLen : Nat := 64
def saltLen : Nat := 64
def widthHash : Nat := 5

def maxOpDelayMs : UInt32 := 99999

/-- A NUL-terminated string, as the characters before its terminator; its length
is what `strlen` returns. -/
abbrev CString := List Char

/-- `enum op_type`. The wire field is a plain int, so a request may carry a value
from `__OP_MAX_NUMBER` on, which no `case` names. -/
inductive OpType where
  | createAccount
  | balance
  | transfer
  | shutdown
  | undefined (value : UInt32) (outside : 4 ≤ value)
  deriving DecidableEq

/-- `enum ret_code`, in the order of types.h. -/
inductive RetCode where
  | ok
  | srvDown
  | srvTimeout
  | usrDown
  | loginFail
  | opNallow
  | idInUse
  | idNotFound
  | sameId
  | noFunds
  | tooHigh
  | other
  deriving DecidableEq

/-- The position of a code in `enum ret_code`. -/
def RetCode.position : RetCode → Nat
  | .ok => 0
  | .srvDown => 1
  | .srvTimeout => 2
  | .usrDown => 3
  | .loginFail => 4
  | .opNallow => 5
  | .idInUse => 6
  | .idNotFound => 7
  | .sameId => 8
  | .noFunds => 9
  | .tooHigh => 10
  | .other => 11

structure BankAccount where
  accountId : UInt32
  hash : CString
  salt : CString
  balance : UInt32

/-- `bank_account_sem_t`; the semaphore is its current value. -/
structure BankAccountSem where
  bankAccount : BankAccount
  semaphore : Nat
  active : Bool

/-- The indices of `accounts[MAX_BANK_ACCOUNTS]`. -/
abbrev AccountId := Fin maxBankAccounts

abbrev Accounts := AccountId → BankAccountSem

structure ReqHeader where
  pid : Int32
  accountId : UInt32
  password : CString
  opDelayMs : UInt32

structure ReqCreateAccount where
  accountId : UInt32
  balance : UInt32
  password : CString

structure ReqTransfer where
  accountId : UInt32
  amount : UInt32

/-- `req_value_t`. The union is kept as its larger member `create`. -/
structure ReqValue where
  header : ReqHeader
  create : ReqCreateAccount

/-- The union's `transfer` member lies over the first two words of `create`. -/
def ReqValue.transfer (value : ReqValue) : ReqTransfer :=
  ⟨value.create.accountId, value.create.balance⟩

structure TlvRequest where
  type : OpType
  length : UInt32
  value : ReqValue

structure RepHeader where
  accountId : UInt32
  retCode : RetCode

/-- `rep_value_t`. All members of the union are one 32-bit word, kept in `info`:
`balance.balance`, `transfer.balance` or `shutdown.active_offices`. -/
structure RepValue where
  header : RepHeader
  info : UInt32

structure TlvReply where
  type : OpType
  length : UInt32
  value : RepValue

/-- `reply->value.header.ret_code = code`. -/
def TlvReply.withRetCode (reply : TlvReply) (code : RetCode) : TlvReply :=
  { reply with value := { reply.value with header := { reply.value.header with retCode := code } } }

/-- `reply->value.<member> = info` for the one-word union. -/
def TlvReply.withInfo (reply : TlvReply) (info : UInt32) : TlvReply :=
  { reply with value := { reply.value with info } }

@[simp] theorem TlvReply.withRetCode_retCode (reply : TlvReply) (code : RetCode) :
    (reply.withRetCode code).value.header.retCode = code := rfl

@[simp] theorem TlvReply.withRetCode_info (reply : TlvReply) (code : RetCode) :
    (reply.withRetCode code).value.info = reply.value.info := rfl

@[simp] theorem TlvReply.withRetCode_type (reply : TlvReply) (code : RetCode) :
    (reply.withRetCode code).type = reply.type := rfl

@[simp] theorem TlvReply.withRetCode_accountId (reply : TlvReply) (code : RetCode) :
    (reply.withRetCode code).value.header.accountId = reply.value.header.accountId := rfl

@[simp] theorem TlvReply.withInfo_retCode (reply : TlvReply) (info : UInt32) :
    (reply.withInfo info).value.header.retCode = reply.value.header.retCode := rfl

@[simp] theorem TlvReply.withInfo_info (reply : TlvReply) (info : UInt32) :
    (reply.withInfo info).value.info = info := rfl

@[simp] theorem TlvReply.withInfo_type (reply : TlvReply) (info : UInt32) :
    (reply.withInfo info).type = reply.type := rfl

@[simp] theorem TlvReply.withInfo_accountId (reply : TlvReply) (info : UInt32) :
    (reply.withInfo info).value.header.accountId = reply.value.header.accountId := rfl

/-- An id as an index into `accounts`; `none` when the access would lie outside
the array. -/
def accountIndex (id : UInt32) : Option AccountId :=
  if inside : id.toNat < maxBankAccounts then some ⟨id.toNat, inside⟩ else none

theorem accountIndex_eq_some {id : UInt32} {index : AccountId} :
    accountIndex id = some index ↔ id.toNat = index.val := by
  unfold accountIndex
  split
  · rw [Option.some.injEq, Fin.ext_iff]
  · rename_i outside
    constructor
    · intro impossible
      cases impossible
    · intro same
      exact absurd (same ▸ index.isLt) outside

theorem accountIndex_of_lt {id : UInt32} (inside : id.toNat < maxBankAccounts) :
    accountIndex id = some ⟨id.toNat, inside⟩ :=
  accountIndex_eq_some.mpr rfl

theorem accountIndex_of_not_lt {id : UInt32} (outside : ¬ id.toNat < maxBankAccounts) :
    accountIndex id = none :=
  dif_neg outside

/-- Different ids name different entries. -/
theorem accountIndex_inj {id id' : UInt32} {index index' : AccountId}
    (found : accountIndex id = some index) (found' : accountIndex id' = some index') :
    index = index' ↔ id = id' := by
  rw [accountIndex_eq_some] at found found'
  rw [Fin.ext_iff, ← found, ← found', UInt32.toNat_inj]

/-- The entry of the administrator. -/
def adminIndex : AccountId := 0

@[simp] theorem accountIndex_admin : accountIndex adminAccountId = some adminIndex := rfl

theorem accountIndex_eq_adminIndex {id : UInt32} {index : AccountId}
    (found : accountIndex id = some index) : index = adminIndex ↔ id = adminAccountId :=
  accountIndex_inj found accountIndex_admin

/-- Every id that handling the request uses as an index lies inside the array: the
header's, and the one in the union where the operation reads the union. -/
structure TlvRequest.InRange (request : TlvRequest) : Prop where
  header : request.value.header.accountId.toNat < maxBankAccounts
  create : request.type = .createAccount ∨ request.type = .balance ∨ request.type = .transfer →
    request.value.create.accountId.toNat < maxBankAccounts

instance (request : TlvRequest) : Decidable request.InRange :=
  decidable_of_iff
    (request.value.header.accountId.toNat < maxBankAccounts ∧
      (request.type = .createAccount ∨ request.type = .balance ∨ request.type = .transfer →
        request.value.create.accountId.toNat < maxBankAccounts))
    ⟨fun h => ⟨h.1, h.2⟩, fun h => ⟨h.header, h.create⟩⟩

end Sope.Banking
