import Sope.Banking.Client
import Sope.Banking.Run
import Sope.Lib.Buffer
import Sope.Lib.Words

set_option autoImplicit false

/- What the user program makes of its command line, down to the memory it writes: the
array of tokens and the bytes of the request. -/
namespace Sope.Banking

open Words CharArray

def sizeofPointer : Nat := 8

/-- `malloc(strlen(argv[5]))`. -/
def argsAllocated (arguments : CString) : Nat := arguments.length

/-- The bytes of the array that `argv[argc] = ptr` writes. -/
def argStore (argc : Nat) : List Nat := (List.range sizeofPointer).map (sizeofPointer * argc + ·)

/-- The bytes written while `get_string_arguments` stores one pointer for each token. -/
def argStores (arguments : CString) : List Nat :=
  (List.range (getStringArguments arguments).length).flatMap argStore

theorem getStringArguments_eq_tokens (arguments : CString) :
    getStringArguments arguments = tokens ' ' arguments := rfl

theorem mem_argStores {arguments : CString} {byte : Nat} :
    byte ∈ argStores arguments ↔ byte < sizeofPointer * (getStringArguments arguments).length := by
  simp only [argStores, argStore, List.mem_flatMap, List.mem_range, List.mem_map]
  constructor
  · rintro ⟨argc, inside, offset, small, rfl⟩
    have next := Nat.mul_le_mul_left sizeofPointer (Nat.succ_le_of_lt inside)
    rw [Nat.mul_succ] at next
    omega
  · intro inside
    refine ⟨byte / sizeofPointer, Nat.div_lt_of_lt_mul inside, byte % sizeofPointer,
      Nat.mod_lt _ (by decide), Nat.div_add_mod byte sizeofPointer⟩

/-- All stores lie inside the allocation exactly when the string has at least eight
characters for each place at which a word begins. -/
theorem argStores_inside_iff (arguments : CString) :
    (∀ byte ∈ argStores arguments, byte < argsAllocated arguments) ↔
      sizeofPointer * starts ' ' false arguments ≤ arguments.length := by
  have count : (getStringArguments arguments).length = starts ' ' false arguments := by
    rw [getStringArguments_eq_tokens, length_tokens]
  rw [← count, argsAllocated]
  constructor
  · intro inside
    by_contra short
    have first := inside arguments.length (mem_argStores.mpr (Nat.lt_of_not_le short))
    exact Nat.lt_irrefl _ first
  · intro long byte stored
    exact Nat.lt_of_lt_of_le (mem_argStores.mp stored) long

/-- `"1 25 top_secret"`, with which usertests.sh opens account 1. -/
def createArguments : CString := ['1', ' ', '2', '5', ' '] ++ topSecret

theorem createArguments_outside :
    ¬ ∀ byte ∈ argStores createArguments, byte < argsAllocated createArguments := by
  intro inside
  have last := inside 23 (mem_argStores.mpr (by decide))
  exact absurd last (by decide)

section Decimal

/-- A number as `printf("%d")` prints it. -/
def decimal : Int → CString
  | .ofNat value => Nat.toDigits 10 value
  | .negSucc value => '-' :: Nat.toDigits 10 (value + 1)

theorem isDigit_bounds {c : Char} (digit : c.isDigit = true) : 48 ≤ c.toNat ∧ c.toNat ≤ 57 := by
  simp only [Char.isDigit, ge_iff_le, Bool.and_eq_true, decide_eq_true_eq] at digit
  exact ⟨digit.1, digit.2⟩

theorem isSpace_of_isDigit {c : Char} (digit : c.isDigit = true) : isSpace c = false := by
  have low := (isDigit_bounds digit).1
  have notBlank : c ≠ ' ' := by
    rintro rfl
    exact absurd low (by decide)
  have above : ¬ c ≤ '\r' := by
    intro below
    have below : c.toNat ≤ 13 := UInt32.le_iff_toNat_le.mp below
    omega
  simp [isSpace, notBlank, above]

/-- `strtol` where it starts at a digit. -/
theorem strtol_digits {digits : CString} (nonempty : digits ≠ [])
    (areDigits : ∀ c ∈ digits, c.isDigit = true) :
    strtol digits = max (-2 ^ 63) (min (Nat.ofDigitChars 10 digits 0 : Int) (2 ^ 63 - 1)) := by
  have all : digits.takeWhile Char.isDigit = digits := List.takeWhile_eq_self_iff.mpr areDigits
  obtain ⟨first, rest, rfl⟩ := List.exists_cons_of_ne_nil nonempty
  have digit := areDigits first (List.mem_cons_self ..)
  have start : (first :: rest).dropWhile isSpace = first :: rest :=
    List.dropWhile_cons_of_neg (by simp [isSpace_of_isDigit digit])
  rw [strtol, start, Nat.ofDigitChars_eq_foldl]
  split
  rename_i negative digits sign
  split at sign
  · rename_i same
    cases (List.cons.inj same).1
    cases digit
  · rename_i same
    cases (List.cons.inj same).1
    cases digit
  · cases sign
    simp only [all, Bool.false_eq_true, ↓reduceIte]

/-- `strtol` where it starts at a minus sign. -/
theorem strtol_minus_digits {digits : CString} (areDigits : ∀ c ∈ digits, c.isDigit = true) :
    strtol ('-' :: digits) =
      max (-2 ^ 63) (min (-(Nat.ofDigitChars 10 digits 0 : Int)) (2 ^ 63 - 1)) := by
  have all : digits.takeWhile Char.isDigit = digits := List.takeWhile_eq_self_iff.mpr areDigits
  have start : ('-' :: digits).dropWhile isSpace = '-' :: digits :=
    List.dropWhile_cons_of_neg (by decide)
  rw [strtol, start, Nat.ofDigitChars_eq_foldl]
  simp only [all, ↓reduceIte]

/-- What was printed is read back, as far as a `long` can hold it. -/
theorem strtol_decimal {value : Int} (low : -2 ^ 63 ≤ value) (high : value < 2 ^ 63) :
    strtol (decimal value) = value := by
  have digits (n : Nat) : ∀ c ∈ Nat.toDigits 10 n, c.isDigit = true :=
    fun c member => Nat.isDigit_of_mem_toDigits (by decide) (by decide) member
  cases value with
  | ofNat n =>
      rw [decimal, strtol_digits Nat.toDigits_ne_nil (digits n), Nat.ofDigitChars_ten_toDigits]
      simp only [Int.ofNat_eq_natCast] at high ⊢
      omega
  | negSucc n =>
      rw [decimal, strtol_minus_digits (digits (n + 1)), Nat.ofDigitChars_ten_toDigits]
      omega

theorem atoi_decimal {value : Int} (low : -2 ^ 31 ≤ value) (high : value < 2 ^ 31) :
    atoi (decimal value) = Int32.ofInt value := by
  rw [atoi, strtol_decimal (by omega) (by omega)]

/-- A number that fits in an int, as an unsigned field receives it. -/
theorem atoi_decimal_toNat (value : Int) (low : -2 ^ 31 ≤ value) (high : value < 2 ^ 31) :
    ((atoi (decimal value)).toUInt32.toNat : Int) = value % 2 ^ 32 := by
  rw [atoi_decimal low high]
  have stored : (Int32.ofInt value).toUInt32.toNat = (value % 2 ^ 32).toNat :=
    BitVec.toNat_ofInt ..
  omega

theorem atoi_decimal_nat {value : Nat} (high : value < 2 ^ 31) :
    (atoi (decimal value)).toUInt32.toNat = value := by
  have stored := atoi_decimal_toNat value (by omega) (by omega)
  omega

theorem decimal_nat_isWord (value : Nat) : IsWord ' ' (decimal value) := by
  refine ⟨Nat.toDigits_ne_nil, ?_⟩
  intro blank
  have digit := Nat.isDigit_of_mem_toDigits (by decide) (by decide) blank
  cases digit

end Decimal

/-- `char password[MAX_PASSWORD_LEN + 1]`. -/
abbrev PasswordField := Buffer (maxPasswordLen + 1)

/-- `memcpy` of a password, and the terminator behind it. -/
def storePassword (field : PasswordField) (password : CString) : Option PasswordField := do
  let field ← field.write 0 password
  field.write password.length [nul]

/-- The field holds the password, with its terminator. -/
structure Holds (field : PasswordField) (password : CString) : Prop where
  read : field.string = password
  terminated : field.chars[password.length]? = some nul

theorem storePassword_holds {field field' : PasswordField} {password : CString}
    (stored : storePassword field password = some field') (noNul : nul ∉ password) :
    Holds field' password := by
  obtain ⟨copied, first, second⟩ := Option.bind_eq_some_iff.mp stored
  have start := write_take second
  have text := write_take first
  rw [Nat.zero_add, List.take_zero, List.nil_append] at text
  rw [text, List.length_singleton] at start
  refine ⟨string_of_take noNul start, ?_⟩
  have last := congrArg (fun chars : List Char => chars[password.length]?) start
  simpa using last

theorem exists_storePassword (field : PasswordField) {password : CString}
    (fits : password.length ≤ maxPasswordLen) (noNul : nul ∉ password) :
    ∃ field', storePassword field password = some field' ∧ Holds field' password := by
  have inside : 0 + password.length ≤ maxPasswordLen + 1 := by omega
  have inside' : password.length + [nul].length ≤ maxPasswordLen + 1 := by
    rw [List.length_singleton]
    omega
  obtain ⟨copied, first⟩ := exists_write field inside
  obtain ⟨field', second⟩ := exists_write copied inside'
  have stored : storePassword field password = some field' :=
    Option.bind_eq_some_iff.mpr ⟨copied, first, second⟩
  exact ⟨field', stored, storePassword_holds stored noNul⟩

/-- `req_create_account_t`, the larger member of the union. -/
structure CreateMemory where
  accountId : UInt32
  balance : UInt32
  password : PasswordField

/-- `tlv_request_t` in the client's memory. -/
structure RequestMemory where
  type : OpType
  length : UInt32
  pid : Int32
  accountId : UInt32
  password : PasswordField
  opDelayMs : UInt32
  create : CreateMemory

/-- The switch of `build_tlv_request`, on the union. The words of `transfer` are the
first two of `create`. -/
def CreateMemory.requestSwitch (create : CreateMemory) (type : OpType) (args : List CString) :
    Option (Bool × CreateMemory) :=
  match type, args with
  | .createAccount, accountId :: balance :: password :: _ => do
      let password ← storePassword create.password password
      return (true,
        { accountId := (atoi accountId).toUInt32, balance := (atoi balance).toUInt32, password })
  | .createAccount, _ => some (false, create)
  | .transfer, accountId :: amount :: _ =>
      some (true, { create with
        accountId := (atoi accountId).toUInt32, balance := (atoi amount).toUInt32 })
  | .transfer, _ => some (false, create)
  | _, _ => some (true, create)

/-- `build_tlv_request` with the writes it makes, whether it returns true or false;
`none` where a write lies outside the request. -/
def RequestMemory.buildTlvRequest (memory : RequestMemory) (pid : Int32) (argv : Argv) :
    Option (Bool × RequestMemory) := do
  let type := OpType.ofCode (atoi argv.opCode).toUInt32
  let password ← storePassword memory.password argv.password
  let opDelayMs := (atoi argv.delay).toUInt32
  let memory := { memory with type, password, pid, opDelayMs }
  if opDelayMs > maxOpDelayMs then
    return (false, memory)
  let accountId := (atoi argv.accountId).toUInt32
  let (ok, create) ← memory.create.requestSwitch type (getStringArguments argv.arguments)
  return (ok, { memory with accountId, length := requestLength, create })

/-- An operation with the arguments that it reads; `balance` and `shutdown` leave their
string unread. -/
inductive Operation where
  | createAccount (accountId initialBalance : Nat) (password : CString)
  | balance (unread : CString)
  | transfer (accountId amount : Nat)
  | shutdown (unread : CString)

def Operation.type : Operation → OpType
  | .createAccount _ _ _ => .createAccount
  | .balance _ => .balance
  | .transfer _ _ => .transfer
  | .shutdown _ => .shutdown

/-- The position in `enum op_type`. -/
def Operation.code : Operation → Nat
  | .createAccount _ _ _ => 0
  | .balance _ => 1
  | .transfer _ _ => 2
  | .shutdown _ => 3

structure NewPassword (password : CString) : Prop where
  isWord : IsWord ' ' password
  short : password.length ≤ maxPasswordLen
  noNul : nul ∉ password

def Operation.WellFormed : Operation → Prop
  | .createAccount accountId initialBalance password =>
      accountId < maxBankAccounts ∧ initialBalance ≤ maxBalance.toNat ∧ NewPassword password
  | .transfer accountId amount => accountId < maxBankAccounts ∧ amount ≤ maxBalance.toNat
  | .balance _ | .shutdown _ => True

/-- How many spaces stand around the arguments: before, after, and between them one more
than `between` says. -/
structure Spacing where
  before : Nat
  between : Nat → Nat
  after : Nat

def Spacing.print (spacing : Spacing) (words : List CString) : CString :=
  List.replicate spacing.before ' ' ++ join ' ' spacing.between words ++
    List.replicate spacing.after ' '

def Operation.arguments (spacing : Spacing) : Operation → CString
  | .createAccount accountId initialBalance password =>
      spacing.print [decimal accountId, decimal initialBalance, password]
  | .transfer accountId amount => spacing.print [decimal accountId, decimal amount]
  | .balance unread | .shutdown unread => unread

/-- What the user program is asked for, but for the delay. -/
structure Command where
  accountId : Nat
  password : CString
  operation : Operation
  inside : accountId < maxBankAccounts
  long : minPasswordLen ≤ password.length
  short : password.length ≤ maxPasswordLen
  noNul : nul ∉ password
  wellFormed : operation.WellFormed

def Command.argv (command : Command) (delay : Int) (spacing : Spacing) : Argv where
  accountId := decimal command.accountId
  password := command.password
  delay := decimal delay
  opCode := decimal command.operation.code
  arguments := command.operation.arguments spacing

/-- The union holds what the operation was given, and is left alone by the others. -/
def Operation.Written (create create' : CreateMemory) : Operation → Prop
  | .createAccount accountId initialBalance password =>
      create'.accountId.toNat = accountId ∧ create'.balance.toNat = initialBalance ∧
        Holds create'.password password
  | .transfer accountId amount =>
      create'.accountId.toNat = accountId ∧ create'.balance.toNat = amount ∧
        create'.password = create.password
  | .balance _ | .shutdown _ => create' = create

/-- Every field of the request is what the command line says. -/
structure Command.Built (command : Command) (pid : Int32) (delay : Int)
    (memory memory' : RequestMemory) : Prop where
  type : memory'.type = command.operation.type
  length : memory'.length = requestLength
  pid : memory'.pid = pid
  accountId : memory'.accountId.toNat = command.accountId
  opDelayMs : (memory'.opDelayMs.toNat : Int) = delay
  password : Holds memory'.password command.password
  arguments : command.operation.Written memory.create memory'.create

theorem Spacing.getStringArguments_print (spacing : Spacing) {words : List CString}
    (areWords : ∀ word ∈ words, IsWord ' ' word) :
    getStringArguments (spacing.print words) = words :=
  tokens_join areWords spacing.between spacing.before spacing.after

theorem Operation.ofCode_code (operation : Operation) :
    OpType.ofCode (atoi (decimal operation.code)).toUInt32 = operation.type := by
  have small : operation.code < 2 ^ 31 := by cases operation <;> simp [Operation.code]
  have stored := UInt32.toNat_inj.mp ((atoi_decimal_nat small).trans
    (UInt32.toNat_ofNat_of_lt (Nat.lt_trans small (by decide))).symm)
  rw [stored]
  cases operation <;> rfl

/-- What the server reads out of the union. -/
def CreateMemory.args (create : CreateMemory) : ReqCreateAccount :=
  ⟨create.accountId, create.balance, create.password.string⟩

/-- What the server reads out of the request. -/
def RequestMemory.request (memory : RequestMemory) : TlvRequest where
  type := memory.type
  length := memory.length
  value :=
    { header := ⟨memory.pid, memory.accountId, memory.password.string, memory.opDelayMs⟩
      create := memory.create.args }

section Request

variable {memory memory' : RequestMemory} {pid : Int32} {argv : Argv} {ok : Bool}

/-- Where no write leaves its field, the request in memory reads as the request of
`build_tlv_request` with whole passwords. -/
theorem buildTlvRequest_request (noNul : nul ∉ argv.password)
    (noNul' : nul ∉ argv.arguments)
    (built : memory.buildTlvRequest pid argv = some (ok, memory')) :
    buildTlvRequest pid memory.create.args argv = if ok then some memory'.request else none := by
  simp only [RequestMemory.buildTlvRequest, Option.bind_eq_bind, Option.pure_def,
    Option.bind_eq_some_iff] at built
  obtain ⟨field, written, built⟩ := built
  have read := (storePassword_holds written noNul).read
  by_cases tooLong : (atoi argv.delay).toUInt32 > maxOpDelayMs
  · simp only [tooLong, ↓reduceIte, Option.some.injEq, Prod.mk.injEq] at built
    obtain ⟨rfl, -⟩ := built
    simp [Banking.buildTlvRequest, tooLong]
  · simp only [tooLong, ↓reduceIte, Option.bind_eq_some_iff, Prod.exists, Option.some.injEq,
      Prod.mk.injEq] at built
    obtain ⟨ok, create, switched, rfl, rfl⟩ := built
    simp only [Banking.buildTlvRequest, tooLong, ↓reduceIte]
    have noNuls (word : CString) (member : word ∈ getStringArguments argv.arguments) :
        nul ∉ word := by
      intro inside
      rw [getStringArguments_eq_tokens] at member
      exact noNul' (mem_of_mem_tokens member inside)
    cases kind : OpType.ofCode (atoi argv.opCode).toUInt32 with
    | createAccount =>
        rcases args : getStringArguments argv.arguments with _ | ⟨accountId, _ | ⟨balance, _ |
          ⟨password, rest⟩⟩⟩ <;> rw [kind, args] at switched
        · cases switched; rfl
        · cases switched; rfl
        · cases switched; rfl
        · simp only [CreateMemory.requestSwitch, Option.bind_eq_bind, Option.bind_eq_some_iff,
            Option.pure_def, Option.some.injEq, Prod.mk.injEq] at switched
          obtain ⟨newField, newWritten, rfl, rfl⟩ := switched
          have newRead := (storePassword_holds newWritten
            (noNuls password (by rw [args]; simp))).read
          simp [RequestMemory.request, CreateMemory.args, read, newRead]
    | transfer =>
        rcases args : getStringArguments argv.arguments with _ | ⟨accountId, _ | ⟨amount, rest⟩⟩ <;>
          rw [kind, args] at switched <;> cases switched
        · rfl
        · rfl
        · simp [RequestMemory.request, CreateMemory.args, read]
    | balance | shutdown | undefined =>
        rw [kind] at switched
        cases switched
        simp [RequestMemory.request, CreateMemory.args, read]

end Request

section RoundTrip

variable {memory : RequestMemory} {pid : Int32} {command : Command} {delay : Int}
  {spacing : Spacing}

/-- The comparison with `MAX_OP_DELAY_MS` on the unsigned field. -/
theorem opDelayMs_too_long_iff (low : -2 ^ 31 ≤ delay) (high : delay < 2 ^ 31) :
    (atoi (decimal delay)).toUInt32 > maxOpDelayMs ↔ ¬ (0 ≤ delay ∧ delay ≤ 99999) := by
  have stored := atoi_decimal_toNat delay low high
  rw [gt_iff_lt, UInt32.lt_iff_toNat_lt, show maxOpDelayMs.toNat = 99999 from rfl]
  omega

/-- The switch reads the arguments back from their printed form. -/
theorem requestSwitch_arguments (create : CreateMemory) (spacing : Spacing)
    {operation : Operation} (wellFormed : operation.WellFormed) :
    ∃ create', create.requestSwitch operation.type
        (getStringArguments (operation.arguments spacing)) = some (true, create') ∧
      operation.Written create create' := by
  cases operation with
  | createAccount accountId initialBalance password =>
      obtain ⟨inside, bounded, new⟩ := wellFormed
      obtain ⟨field, written, holds⟩ := exists_storePassword create.password new.short new.noNul
      have args : getStringArguments (Operation.arguments spacing
          (.createAccount accountId initialBalance password)) =
          [decimal accountId, decimal initialBalance, password] := by
        apply spacing.getStringArguments_print
        simp [decimal_nat_isWord, new.isWord]
      simp only [args, Operation.type, CreateMemory.requestSwitch, written, Option.bind_eq_bind,
        Option.bind_some, Option.pure_def]
      exact ⟨_, rfl, atoi_decimal_nat (Nat.lt_trans inside (by decide)),
        atoi_decimal_nat (Nat.lt_of_le_of_lt bounded (by decide)), holds⟩
  | transfer accountId amount =>
      obtain ⟨inside, bounded⟩ := wellFormed
      have args : getStringArguments (Operation.arguments spacing
          (.transfer accountId amount)) = [decimal accountId, decimal amount] := by
        apply spacing.getStringArguments_print
        simp [decimal_nat_isWord]
      simp only [args, Operation.type, CreateMemory.requestSwitch]
      exact ⟨_, rfl, atoi_decimal_nat (Nat.lt_trans inside (by decide)),
        atoi_decimal_nat (Nat.lt_of_le_of_lt bounded (by decide)), rfl⟩
  | balance | shutdown => exact ⟨create, rfl, rfl⟩

theorem buildTlvRequest_of_delay (memory : RequestMemory) (pid : Int32) (command : Command)
    (spacing : Spacing) (low : 0 ≤ delay) (high : delay ≤ 99999) :
    ∃ memory', memory.buildTlvRequest pid (command.argv delay spacing) = some (true, memory') ∧
      command.Built pid delay memory memory' := by
  obtain ⟨field, written, holds⟩ := exists_storePassword memory.password command.short command.noNul
  have short : ¬ (atoi (decimal delay)).toUInt32 > maxOpDelayMs := by
    rw [opDelayMs_too_long_iff (by omega) (by omega)]
    exact not_not.mpr ⟨low, high⟩
  have stored := atoi_decimal_toNat delay (by omega) (by omega)
  have delayed : ((atoi (decimal delay)).toUInt32.toNat : Int) = delay := by omega
  have named := atoi_decimal_nat (Nat.lt_trans command.inside (by decide))
  obtain ⟨create, switched, arguments⟩ :=
    requestSwitch_arguments memory.create spacing command.wellFormed
  simp only [RequestMemory.buildTlvRequest, Command.argv, written, Option.bind_eq_bind,
    Option.bind_some, short, ↓reduceIte, command.operation.ofCode_code, switched, Option.pure_def]
  exact ⟨_, rfl, rfl, rfl, rfl, named, delayed, holds, arguments⟩

theorem buildTlvRequest_of_not_delay (memory : RequestMemory) (pid : Int32) (command : Command)
    (spacing : Spacing) (low : -2 ^ 31 ≤ delay) (high : delay < 2 ^ 31)
    (outside : ¬ (0 ≤ delay ∧ delay ≤ 99999)) :
    ∃ memory', memory.buildTlvRequest pid (command.argv delay spacing) = some (false, memory') := by
  obtain ⟨field, written, -⟩ := exists_storePassword memory.password command.short command.noNul
  have tooLong := (opDelayMs_too_long_iff low high).mpr outside
  simp only [RequestMemory.buildTlvRequest, Command.argv, written, Option.bind_eq_bind,
    Option.bind_some, tooLong, ↓reduceIte, Option.pure_def]
  exact ⟨_, rfl⟩

/-- Parsing what was printed: a delay in range gives exactly the fields that were given,
with both passwords terminated, and any other int is refused. -/
theorem commandLine_round_trip (memory : RequestMemory) (pid : Int32) (command : Command)
    (delay : Int) (spacing : Spacing) (low : -2 ^ 31 ≤ delay) (high : delay < 2 ^ 31) :
    (0 ≤ delay ∧ delay ≤ maxOpDelayMs.toNat →
      ∃ memory', memory.buildTlvRequest pid (command.argv delay spacing) = some (true, memory') ∧
        command.Built pid delay memory memory') ∧
    (¬ (0 ≤ delay ∧ delay ≤ maxOpDelayMs.toNat) →
      ∃ memory', memory.buildTlvRequest pid (command.argv delay spacing) =
        some (false, memory')) := by
  have ceiling : (maxOpDelayMs.toNat : Int) = 99999 := rfl
  rw [ceiling]
  exact ⟨fun ⟨low', high'⟩ => buildTlvRequest_of_delay memory pid command spacing low' high',
    buildTlvRequest_of_not_delay memory pid command spacing low high⟩

end RoundTrip

def anyField : PasswordField := ⟨List.replicate (maxPasswordLen + 1) '?', by decide⟩

def anyRequest : RequestMemory := ⟨.balance, 0, 0, 0, anyField, 0, ⟨0, 0, anyField⟩⟩

/-- The administrator opens account 1 with balance 25. -/
def openCommand : Command where
  accountId := 0
  password := ultraTopSecret
  operation := .createAccount 1 25 topSecret
  inside := by decide
  long := by decide
  short := by decide
  noNul := by decide
  wellFormed := ⟨by decide, by decide, ⟨⟨by decide, by decide⟩, by decide, by decide⟩⟩

def wideSpacing : Spacing := ⟨1, fun _ => 2, 3⟩

theorem openCommand_round_trip :
    (0 ≤ (10 : Int) ∧ (10 : Int) ≤ maxOpDelayMs.toNat →
      ∃ memory', anyRequest.buildTlvRequest 62 (openCommand.argv 10 wideSpacing) =
          some (true, memory') ∧
        openCommand.Built 62 10 anyRequest memory') ∧
    (¬ (0 ≤ (10 : Int) ∧ (10 : Int) ≤ maxOpDelayMs.toNat) →
      ∃ memory', anyRequest.buildTlvRequest 62 (openCommand.argv 10 wideSpacing) =
        some (false, memory')) :=
  commandLine_round_trip anyRequest 62 openCommand 10 wideSpacing (by decide) (by decide)

end Sope.Banking
