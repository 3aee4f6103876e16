import Sope.Banking.CommandLine
import Sope.Banking.Leftovers
import Sope.Exchange.Path

set_option autoImplicit false

/- The lines of the two log files, and the text that log.c makes of them. -/
namespace Sope.Log

open Banking Exchange

def widthDelay : Nat := 5
def widthAccount : Nat := 4
def widthBalance : Nat := 10
def widthOp : Nat := 8
def widthRc : Nat := 12
def widthTlvLen : Nat := 3
def widthStartend : Nat := 5

/-- `sync_mech_op_t`. -/
inductive SyncMechOp where
  | mutexLock
  | mutexUnlock
  | mutexTrylock
  | condSignal
  | condWait
  | semInit
  | semPost
  | semWait
  deriving DecidableEq

/-- `sync_role_t`. -/
inductive SyncRole where
  | producer
  | consumer
  | account
  deriving DecidableEq

/-- `SYNC_MECH_STR`. -/
def syncMechStr : SyncMechOp → CString
  | .mutexLock => "MUTEX_LOCK".toList
  | .mutexTrylock => "MUTEX_TRYLOCK".toList
  | .mutexUnlock => "MUTEX_UNLOCK".toList
  | .condSignal => "COND_SIGNAL".toList
  | .condWait => "COND_WAIT".toList
  | .semInit => "SEM_INIT".toList
  | .semPost => "SEM_POST".toList
  | .semWait => "SEM_WAIT".toList

/-- `SYNC_ROLE_STR`. -/
def syncRoleStr : SyncRole → CString
  | .account => "ACCOUNT".toList
  | .consumer => "CONSUMER".toList
  | .producer => "PRODUCER".toList

/-- What `logRequest` prints behind the fields of `logBaseRequestInfo`. -/
inductive RequestArguments where
  | create (accountId balance : UInt32) (password : CString)
  | transfer (accountId amount : UInt32)
  | none

structure RequestLine where
  received : Bool
  id : Nat
  length : UInt32
  pid : Int32
  accountId : UInt32
  password : CString
  opDelayMs : UInt32
  opType : CString
  arguments : RequestArguments

/-- `logRequest`, in a process with the pid `self`. Nothing is printed for a type that no
`case` names. -/
def logRequest (self id : Nat) (request : TlvRequest) : Option RequestLine := do
  let opType ← opTypeStr request.type
  return {
    received := id != self
    id
    length := request.length
    pid := request.value.header.pid
    accountId := request.value.header.accountId
    password := request.value.header.password
    opDelayMs := request.value.header.opDelayMs
    opType
    arguments := match request.type with
      | .createAccount => .create request.value.create.accountId request.value.create.balance
          request.value.create.password
      | .transfer => .transfer request.value.transfer.accountId request.value.transfer.amount
      | .balance | .shutdown | .undefined _ _ => .none }

inductive LogLine where
  | request (line : RequestLine)
  | reply (line : ReplyLine)
  | bankOffice (opened : Bool) (id : Nat) (tid : UInt64)
  | accountCreation (line : AccountCreationLine)
  | syncMech (id : Nat) (smo : SyncMechOp) (role : SyncRole) (sid : Int32)
  | syncMechSem (id : Nat) (smo : SyncMechOp) (role : SyncRole) (sid : Int32) (val : Nat)
  | delay (id : Nat) (delayMs : UInt32)
  | syncDelay (id : Nat) (sid : Int32) (delayMs : UInt32)

def LogLine.id : LogLine → Nat
  | .request line => line.id
  | .reply line => line.id
  | .accountCreation line => line.id
  | .bankOffice _ id _ | .syncMech id _ _ _ | .syncMechSem id _ _ _ _ | .delay id _
  | .syncDelay id _ _ => id

section Printf

/-- `%*s`: blanks in front fill the field up. -/
def padded (width : Nat) (text : CString) : CString :=
  List.replicate (width - text.length) ' ' ++ text

/-- `%-*s`: blanks behind fill the field up. -/
def leftPadded (width : Nat) (text : CString) : CString :=
  text ++ List.replicate (width - text.length) ' '

/-- `€` in UTF-8, one character for each byte. -/
def euro : CString := [Char.ofNat 0xE2, Char.ofNat 0x82, Char.ofNat 0xAC]

/-- `%u` and `%lu`. -/
def unsigned (value : Nat) : CString := Nat.toDigits 10 value

/-- The blanks that `%*s` prints for an empty string; a negative width counts as positive. -/
def passPadding (password : CString) : CString :=
  List.replicate ((maxPasswordLen : Int) - password.length).natAbs ' '

/-- The front that request and reply lines have in common. -/
def sessionFront (received : Bool) (id : Nat) (length : UInt32) : CString :=
  (if received then 'R' else 'E') :: " - ".toList ++ paddedDecimal widthId id ++ " - [".toList ++
    padded widthTlvLen (decimal length.toInt32.toInt) ++ " bytes] ".toList

/-- `logBaseRequestInfo`. -/
def RequestLine.base (line : RequestLine) : CString :=
  sessionFront line.received line.id line.length ++ paddedDecimal widthId line.pid.toInt ++
    " (".toList ++ paddedDecimal widthAccount line.accountId.toInt32.toInt ++ ", \"".toList ++
    line.password ++ "\")".toList ++ passPadding line.password ++ " [".toList ++
    padded widthDelay (unsigned line.opDelayMs.toNat) ++ " ms] ".toList ++
    leftPadded widthOp line.opType

def RequestArguments.text : RequestArguments → CString
  | .create accountId balance password =>
      ' ' :: paddedDecimal widthAccount accountId.toInt32.toInt ++ ' ' ::
        padded widthBalance (unsigned balance.toNat) ++ euro ++ " \"".toList ++ password ++
        "\"\n".toList
  | .transfer accountId amount =>
      ' ' :: paddedDecimal widthAccount accountId.toInt32.toInt ++ ' ' ::
        padded widthBalance (unsigned amount.toNat) ++ euro ++ ['\n']
  | .none => ['\n']

/-- `logBaseReplyInfo`. -/
def replyBase (line : ReplyLine) : CString :=
  sessionFront line.received line.id line.length ++
    paddedDecimal widthAccount line.accountId.toInt32.toInt ++ ' ' :: padded widthOp line.opType ++
    ' ' :: padded widthRc line.retCode

/-- The word of the union, in a field and in euros but for `OP_SHUTDOWN`. -/
def replyInfo (line : ReplyLine) : CString :=
  match line.info with
  | none => ['\n']
  | some info =>
      if opTypeStr .shutdown = some line.opType then ' ' :: decimal info.toInt ++ ['\n']
      else ' ' :: padded widthBalance (decimal info.toInt) ++ euro ++ ['\n']

/-- `logBankOfficeInfo`. -/
def bankOfficeText (opened : Bool) (id : Nat) (tid : UInt64) : CString :=
  "I - ".toList ++ paddedDecimal widthId id ++ " - ".toList ++
    leftPadded widthStartend (if opened then "OPEN".toList else "CLOSE".toList) ++
    ' ' :: unsigned tid.toNat ++ ['\n']

def accountCreationText (line : AccountCreationLine) : CString :=
  "I - ".toList ++ paddedDecimal widthId line.id ++ " - ".toList ++
    paddedDecimal widthAccount line.accountId.toInt32.toInt ++ ' ' :: padded saltLen line.salt ++
    " ...".toList ++ padded widthHash line.hashTail ++ ['\n']

/-- What `logSyncMech` and `logSyncMechSem` have in common. -/
def syncMechFront (id : Nat) (smo : SyncMechOp) (role : SyncRole) (sid : Int32) : CString :=
  "S - ".toList ++ paddedDecimal widthId id ++ " - ".toList ++ (syncRoleStr role).take 1 ++
    paddedDecimal widthId sid.toInt ++ ' ' :: syncMechStr smo

def delayText (id : Nat) (delayMs : UInt32) : CString :=
  "A - ".toList ++ paddedDecimal widthId id ++ " - [".toList ++
    padded widthDelay (unsigned delayMs.toNat) ++ " ms]\n".toList

def syncDelayText (id : Nat) (sid : Int32) (delayMs : UInt32) : CString :=
  "A - ".toList ++ paddedDecimal widthId id ++ " - ".toList ++ (syncRoleStr .account).take 1 ++
    paddedDecimal widthId sid.toInt ++ " [".toList ++
    padded widthDelay (unsigned delayMs.toNat) ++ " ms]\n".toList

/-- What a line formats into a buffer of its own first. -/
def LogLine.base : LogLine → CString
  | .request line => line.base
  | .reply line => replyBase line
  | _ => []

/-- What the format of `atomicPrintf` puts behind that. -/
def LogLine.rest : LogLine → CString
  | .request line => line.arguments.text
  | .reply line => replyInfo line
  | .bankOffice opened id tid => bankOfficeText opened id tid
  | .accountCreation line => accountCreationText line
  | .syncMech id smo role sid => syncMechFront id smo role sid ++ ['\n']
  | .syncMechSem id smo role sid val =>
      syncMechFront id smo role sid ++ " [val=".toList ++ decimal val ++ "]\n".toList
  | .delay id delayMs => delayText id delayMs
  | .syncDelay id sid delayMs => syncDelayText id sid delayMs

def LogLine.text (line : LogLine) : CString := line.base ++ line.rest

/-- `snprintf`: what does not fit in front of the terminator is cut off. -/
def snprintf (size : Nat) (text : CString) : CString := text.take (size - 1)

/-- What `atomicPrintf` writes to the file, with buffers of `PIPE_BUF` bytes. -/
def LogLine.written (pipeBuf : Nat) (line : LogLine) : CString :=
  snprintf pipeBuf (snprintf pipeBuf line.base ++ line.rest)

end Printf

/-- A log file after these lines: every `write` appends to it. -/
def logfile (pipeBuf : Nat) (lines : List LogLine) : CString :=
  lines.flatMap (LogLine.written pipeBuf)

end Sope.Log
