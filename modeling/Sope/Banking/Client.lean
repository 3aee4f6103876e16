import Sope.Banking.Types

set_option autoImplicit false

/- The user program up to the request that it sends (user.c, banking_aux.c). -/
namespace Sope.Banking

/-- `isspace` in the C locale. -/
def isSpace (c : Char) : Bool :=
  c == ' ' || ('\t' ≤ c && c ≤ '\r')

/-- `strtol` in base 10: spaces, a sign, then as many digits as there are; values
that do not fit in 64 bits become the nearest one that does. -/
def strtol (text : CString) : Int :=
  let text := text.dropWhile isSpace
  let (negative, digits) :=
    match text with
    | '-' :: rest => (true, rest)
    | '+' :: rest => (false, rest)
    | rest => (false, rest)
  let magnitude := (digits.takeWhile Char.isDigit).foldl
    (fun value digit => 10 * value + (digit.toNat - '0'.toNat)) 0
  let value : Int := if negative then -magnitude else magnitude
  max (-2 ^ 63) (min value (2 ^ 63 - 1))

/-- `atoi` is `(int)strtol`, which keeps the low 32 bits. -/
def atoi (text : CString) : Int32 := Int32.ofInt (strtol text)

/-- `get_string_arguments`: the tokens that `strtok` finds between spaces. -/
def getStringArguments (arguments : CString) : List CString :=
  (arguments.splitOn ' ').filter (!·.isEmpty)

def isValidPassword (password : CString) : Bool :=
  if password.length < minPasswordLen || password.length > maxPasswordLen then false else true

/-- An int stored in the type field. -/
def OpType.ofCode (code : UInt32) : OpType :=
  if outside : 4 ≤ code then .undefined code outside
  else if code = 0 then .createAccount
  else if code = 1 then .balance
  else if code = 2 then .transfer
  else .shutdown

/-- `argv[1]` to `argv[5]`. -/
structure Argv where
  accountId : CString
  password : CString
  delay : CString
  opCode : CString
  arguments : CString

/-- `sizeof(request->value)`: a header of 33 bytes and a union of 29. -/
def requestLength : UInt32 := 62

/-- `build_tlv_request`, with `none` for the result `false`. `uninit` is what the
union holds before; types without arguments leave it so. A password that is longer
than its field is kept whole here, as it lies in the client's memory. -/
def buildTlvRequest (pid : Int32) (uninit : ReqCreateAccount) (argv : Argv) :
    Option TlvRequest := do
  let type := OpType.ofCode (atoi argv.opCode).toUInt32
  let opDelayMs := (atoi argv.delay).toUInt32
  if opDelayMs > maxOpDelayMs then
    none
  let header : ReqHeader :=
    { pid, accountId := (atoi argv.accountId).toUInt32, password := argv.password, opDelayMs }
  let create ←
    match type, getStringArguments argv.arguments with
    | .createAccount, accountId :: balance :: password :: _ =>
        some {
          accountId := (atoi accountId).toUInt32, balance := (atoi balance).toUInt32, password }
    | .createAccount, _ => none
    | .transfer, accountId :: amount :: _ =>
        some { uninit with
          accountId := (atoi accountId).toUInt32, balance := (atoi amount).toUInt32 }
    | .transfer, _ => none
    | _, _ => some uninit
  return { type, length := requestLength, value := { header, create } }

/-- The request that the user program sends, if it gets that far. -/
def userRequest (pid : Int32) (uninit : ReqCreateAccount) (argv : Argv) : Option TlvRequest :=
  if isValidPassword argv.password then buildTlvRequest pid uninit argv else none

end Sope.Banking
