import Sope.Banking.Passwords
import Sope.Lib.Buffer

set_option autoImplicit false

/- The arrays that hashing a password writes: the salt and hash of an account, the command
line and the line printed by it, and the hash of a login. -/
namespace Sope.Banking.Arrays

open CharArray

def maxLine : Nat := 512

/-- `char hash[HASH_LEN + 1]` and `char salt[SALT_LEN + 1]` of `bank_account_t`. -/
structure AccountArrays where
  hash : Buffer (hashLen + 1)
  salt : Buffer (saltLen + 1)

/-- `sha256sum_command` and `pipe_result`, as the stack happens to hold them. -/
structure Stack where
  command : Buffer maxLine
  pipeResult : Buffer maxLine

/-- One `sprintf` for each digit, whose terminator the next one overwrites. -/
def saltDigits {n : Nat} (rand : Rand) (count : Nat) (salt : Buffer n) : Option (Buffer n) :=
  (List.range count).foldlM (fun salt i => salt.copy i [Nat.digitChar (rand i % 15)]) salt

def generatePasswordSalt {n : Nat} (rand : Rand) (salt : Buffer n) : Option (Buffer n) := do
  let salt ← saltDigits rand saltLen salt
  salt.write saltLen [nul]

section Popen

-- What the shell prints for each command line.
variable (popen : CString → List Char)

def runPipeCommand {n : Nat} (command : CString) (result : Buffer n) : Option (Buffer n) :=
  result.fgets maxLine (popen command)

/-- `generate_sha256_hash`, into a hash array of the caller. -/
def generateSha256Hash {n : Nat} (stack : Stack) (password salt : CString) (hash : Buffer n) :
    Option (Buffer n) := do
  let command ← stack.command.copy 0 (sha256sumCommand (password ++ salt))
  let pipeResult ← runPipeCommand popen command.string stack.pipeResult
  let (_, token) ← pipeResult.strtok ' '
  let hash ← hash.copy 0 token
  hash.write hashLen [nul]

def createBankAccount (stack : Stack) (rand : Rand) (password : CString)
    (account : AccountArrays) : Option AccountArrays := do
  let salt ← generatePasswordSalt rand account.salt
  let hash ← generateSha256Hash popen stack password salt.string account.hash
  return { hash, salt }

/-- The login computes its hash into `char hash[HASH_LEN]`. -/
def validateBankAccount (stack : Stack) (password : CString) (account : AccountArrays)
    (hash : Buffer hashLen) : Option (Buffer hashLen) :=
  generateSha256Hash popen stack password account.salt.string hash

end Popen

/-- A digest as it is printed: 64 characters and no blank, newline or terminator. -/
structure DigestText (digest : CString) : Prop where
  length : digest.length = hashLen
  noBlank : ' ' ∉ digest
  noNewline : '\n' ∉ digest
  noNul : nul ∉ digest

/-- Every command line prints a digest, two spaces, a dash and a newline. -/
def PrintsDigest (popen : CString → List Char) : Prop :=
  ∀ command, ∃ digest, DigestText digest ∧ popen command = digest ++ fromStdin

theorem DigestText.nonempty {digest : CString} (text : DigestText digest) : digest ≠ [] := by
  rintro rfl
  cases text.length

section Salt

variable {n : Nat} (rand : Rand)

/-- Each digit finds room for itself and a terminator, and stands behind the earlier ones. -/
theorem exists_saltDigits (salt : Buffer n) {count : Nat} (fits : count < n) :
    ∃ salt', saltDigits rand count salt = some salt' ∧
      salt'.chars.take count = (List.range count).map fun i => Nat.digitChar (rand i % 15) := by
  induction count with
  | zero => exact ⟨salt, rfl, rfl⟩
  | succ count ih =>
      obtain ⟨before, filled, start⟩ := ih (Nat.lt_of_succ_lt fits)
      have room : count + [Nat.digitChar (rand count % 15)].length < n := fits
      obtain ⟨salt', copied, start'⟩ := exists_copy before room
      refine ⟨salt', ?_, ?_⟩
      · simp only [saltDigits] at filled ⊢
        simp [List.range_succ, List.foldlM_append, filled, copied]
      · have digits := congrArg (List.take (count + 1)) start'
        rw [List.take_take, start, List.take_left' (by simp), List.length_singleton,
          Nat.min_eq_left (Nat.le_succ _)] at digits
        rw [List.range_succ, List.map_append]
        exact digits

theorem nul_notMem_salt : nul ∉ (Banking.generatePasswordSalt rand).1 := by
  have digits : ∀ value < 15, Nat.digitChar value ≠ nul := by decide
  exact fun member => forall_mem_salt (p := (· ≠ nul)) digits rand nul member rfl

theorem length_salt : (Banking.generatePasswordSalt rand).1.length = saltLen := by
  simp [Banking.generatePasswordSalt]

/-- The salt fits into an array with one character more, and is the string in it. -/
theorem exists_generatePasswordSalt (salt : Buffer n) (fits : saltLen < n) :
    ∃ salt', generatePasswordSalt rand salt = some salt' ∧
      salt'.string = (Banking.generatePasswordSalt rand).1 := by
  obtain ⟨filled, digits, start⟩ := exists_saltDigits rand salt fits
  have length := length_salt rand
  have start' : filled.chars.take (Banking.generatePasswordSalt rand).1.length =
      (Banking.generatePasswordSalt rand).1 := by
    rw [length]
    exact start
  obtain ⟨salt', ended, string⟩ := terminate (nul_notMem_salt rand) start' (by rwa [length])
  rw [length] at ended
  exact ⟨salt', Option.bind_eq_some_iff.mpr ⟨filled, digits, ended⟩, string⟩

end Salt

section Hash

variable {popen : CString → List Char} {n : Nat}

theorem length_sha256sumCommand (word : CString) :
    (sha256sumCommand word).length = word.length + 26 := by
  have head : commandHead.length = 9 := by decide
  have tail : commandTail.length = 17 := by decide
  rw [sha256sumCommand, List.length_append, List.length_append, head, tail]
  omega

/-- The printed line lies in `pipe_result` as a string, whose first token is the digest. -/
theorem DigestText.token {digest : CString} (text : DigestText digest) {command : CString}
    (printed : popen command = digest ++ fromStdin) (result : Buffer maxLine) :
    ∃ line line', runPipeCommand popen command result = some line ∧
      line.strtok ' ' = some (line', digest) := by
  have whole : firstLine (popen command) = digest ++ fromStdin := by
    have body : '\n' ∉ digest ++ [' ', ' ', '-'] := by simp [text.noNewline]
    rw [printed]
    simpa [fromStdin] using firstLine_append_newline body
  have small : (digest ++ fromStdin).length = 68 := by
    rw [List.length_append, text.length]
    rfl
  have noNul : nul ∉ digest ++ fromStdin := by
    have rest : nul ∉ fromStdin := by decide
    simp [text.noNul, rest]
  have room : 0 + (digest ++ fromStdin).length < maxLine := by
    rw [small]
    decide
  obtain ⟨line, read, -⟩ := exists_copy result room
  obtain ⟨line', marked⟩ := strtok_token text.nonempty text.noBlank (copy_string noNul read)
  refine ⟨line, line', ?_, marked⟩
  rw [runPipeCommand, fgets_of_ne_nil (by simp [printed, text.nonempty]), whole,
    List.take_of_length_le (by rw [small]; decide), read]

/-- The command line is written whole, and what remains is to copy the printed digest. -/
theorem generateSha256Hash_eq (prints : PrintsDigest popen) (stack : Stack)
    (password salt : CString) (short : password.length ≤ maxPasswordLen)
    (salted : salt.length = saltLen) (hash : Buffer n) :
    ∃ command digest,
      stack.command.copy 0 (sha256sumCommand (password ++ salt)) = some command ∧
      DigestText digest ∧ popen command.string = digest ++ fromStdin ∧
      generateSha256Hash popen stack password salt hash =
        (hash.copy 0 digest).bind fun hash => hash.write hashLen [nul] := by
  have room : 0 + (sha256sumCommand (password ++ salt)).length < maxLine := by
    rw [length_sha256sumCommand, List.length_append, salted]
    have bound : maxPasswordLen + saltLen + 26 < maxLine := by decide
    omega
  obtain ⟨command, formatted, -⟩ := exists_copy stack.command room
  obtain ⟨digest, text, printed⟩ := prints command.string
  obtain ⟨result, marked, piped, token⟩ := text.token printed stack.pipeResult
  refine ⟨command, digest, formatted, text, printed, ?_⟩
  simp only [generateSha256Hash, formatted, piped, token, Option.bind_eq_bind, Option.bind_some]

/-- An array of `HASH_LEN` characters has no room for the terminator. -/
theorem DigestText.copy_outside {digest : CString} (text : DigestText digest)
    (hash : Buffer hashLen) : hash.copy 0 digest = none := by
  have outside : ¬ (hash.copy 0 digest).isSome := by
    rw [copy_isSome_iff, text.length]
    decide
  exact Option.not_isSome_iff_eq_none.mp outside

/-- An array with one character more has room for it, and for the second one. -/
theorem DigestText.copy_inside {digest : CString} (text : DigestText digest)
    (hash : Buffer (hashLen + 1)) :
    ∃ hash', ((hash.copy 0 digest).bind fun hash => hash.write hashLen [nul]) = some hash' ∧
      hash'.string = digest := by
  have room : 0 + digest.length < hashLen + 1 := by
    rw [text.length]
    decide
  obtain ⟨copied, written, -⟩ := exists_copy hash room
  have held : copied.chars.take digest.length = digest := by
    have start := take_string copied
    rwa [copy_string text.noNul written] at start
  obtain ⟨hash', ended, string⟩ := terminate text.noNul held (by rw [text.length]; decide)
  rw [text.length] at ended
  exact ⟨hash', Option.bind_eq_some_iff.mpr ⟨copied, written, ended⟩, string⟩

/-- The string in the hash array is what the hash program leaves in the model of accounts. -/
theorem DigestText.printed_eq {digest : CString} (text : DigestText digest) (sh : Sh)
    {word : CString} (printed : sh.popen (sha256sumCommand word) = digest ++ fromStdin) :
    sh.printed word = digest := by
  have first : (getStringArguments (digest ++ ' ' :: [' ', '-', '\n'])).headD [] = digest :=
    head_getStringArguments text.nonempty text.noBlank
  rw [Sh.printed, printed]
  show ((getStringArguments (digest ++ ' ' :: [' ', '-', '\n'])).headD []).take hashLen = digest
  rw [first]
  exact List.take_of_length_le text.length.le

end Hash

/-- The two functions that have a password hashed. -/
inductive Caller where
  | createBankAccount
  | validateBankAccount

/-- All writes made on behalf of the caller lie inside the arrays, for an account whose
salt was generated from `rand`. -/
def Caller.Inside (popen : CString → List Char) (stack : Stack) (rand : Rand)
    (password : CString) (account : AccountArrays) (hash : Buffer hashLen) : Caller → Prop
  | .createBankAccount => (Arrays.createBankAccount popen stack rand password account).isSome
  | .validateBankAccount =>
      ∃ salt, generatePasswordSalt rand account.salt = some salt ∧
        (Arrays.validateBankAccount popen stack password { account with salt } hash).isSome

section Callers

variable {popen : CString → List Char}

/-- A creation stays inside, and leaves the salt and the hash of the account in the table
as strings. -/
theorem exists_createBankAccount (sh : Sh) (prints : PrintsDigest sh.popen) (stack : Stack)
    (rand : Rand) (password : CString) (short : password.length ≤ maxPasswordLen)
    (account : AccountArrays) :
    ∃ account', Arrays.createBankAccount sh.popen stack rand password account = some account' ∧
      account'.salt.string = (Banking.generatePasswordSalt rand).1 ∧
      (nul ∉ password →
        account'.hash.string = sh.generateSha256Hash password account'.salt.string) := by
  obtain ⟨salt, generated, salted⟩ := exists_generatePasswordSalt rand account.salt (by decide)
  have length : salt.string.length = saltLen := by rw [salted, length_salt]
  obtain ⟨command, digest, formatted, text, printed, hashed⟩ :=
    generateSha256Hash_eq prints stack password salt.string short length account.hash
  obtain ⟨hash, written, string⟩ := text.copy_inside account.hash
  refine ⟨⟨hash, salt⟩, ?_, salted, ?_⟩
  · simp only [Arrays.createBankAccount, generated, hashed, written, Option.bind_eq_bind,
      Option.bind_some, Option.pure_def]
  · intro noNul
    have noNulSalt : nul ∉ salt.string := by
      rw [salted]
      exact nul_notMem_salt rand
    have noNulCommand : nul ∉ sha256sumCommand (password ++ salt.string) := by
      have head : nul ∉ commandHead := by decide
      have tail : nul ∉ commandTail := by decide
      simp [sha256sumCommand, head, tail, noNul, noNulSalt]
    rw [copy_string noNulCommand formatted] at printed
    rw [string]
    exact (text.printed_eq sh printed).symm

/-- A login writes the terminator of the digest behind its array. -/
theorem validateBankAccount_outside (prints : PrintsDigest popen) (stack : Stack) (rand : Rand)
    (password : CString) (short : password.length ≤ maxPasswordLen) (account : AccountArrays)
    (hash : Buffer hashLen) :
    ¬ Caller.validateBankAccount.Inside popen stack rand password account hash := by
  rintro ⟨salt, generated, inside⟩
  obtain ⟨salt', generated', salted⟩ := exists_generatePasswordSalt rand account.salt (by decide)
  cases generated.symm.trans generated'
  have length : salt.string.length = saltLen := by rw [salted, length_salt]
  obtain ⟨command, digest, -, text, -, hashed⟩ :=
    generateSha256Hash_eq prints stack password salt.string short length hash
  rw [Arrays.validateBankAccount, hashed, text.copy_outside] at inside
  cases inside

end Callers

/-- Every write stays inside its array exactly on behalf of `create_bank_account`. -/
theorem hashing_inside_iff (popen : CString → List Char) (prints : PrintsDigest popen)
    (stack : Stack) (rand : Rand) (password : CString) (short : password.length ≤ maxPasswordLen)
    (account : AccountArrays) (hash : Buffer hashLen) (caller : Caller) :
    caller.Inside popen stack rand password account hash ↔ caller = .createBankAccount := by
  cases caller with
  | createBankAccount =>
      obtain ⟨account', created, -⟩ :=
        exists_createBankAccount ⟨unsetEnvironment, popen⟩ prints stack rand password short account
      have inside : (Arrays.createBankAccount popen stack rand password account).isSome := by
        rw [created]
        rfl
      exact ⟨fun _ => rfl, fun _ => inside⟩
  | validateBankAccount =>
      have outside := validateBankAccount_outside prints stack rand password short account hash
      exact ⟨fun inside => absurd inside outside, Caller.noConfusion⟩

/-- A pipeline that prints 64 zeros. -/
def zeroPopen (_ : CString) : List Char := List.replicate hashLen '0' ++ fromStdin

theorem zeroPopen_prints : PrintsDigest zeroPopen :=
  fun _ => ⟨List.replicate hashLen '0',
    ⟨List.length_replicate .., by decide, by decide, by decide⟩, rfl⟩

def blankBuffer (n : Nat) : Buffer n := ⟨List.replicate n ' ', List.length_replicate ..⟩

def blankStack : Stack := ⟨blankBuffer maxLine, blankBuffer maxLine⟩

def blankAccount : AccountArrays := ⟨blankBuffer (hashLen + 1), blankBuffer (saltLen + 1)⟩

/-- A login with `top_secret` writes outside. -/
theorem login_outside :
    ¬ ∀ caller : Caller, caller.Inside zeroPopen blankStack sessionRand topSecret blankAccount
      (blankBuffer hashLen) := by
  intro inside
  exact validateBankAccount_outside zeroPopen_prints blankStack sessionRand topSecret (by decide)
    blankAccount (blankBuffer hashLen) (inside .validateBankAccount)

theorem creation_inside_iff :
    Caller.createBankAccount.Inside zeroPopen blankStack sessionRand topSecret blankAccount
      (blankBuffer hashLen) ↔ Caller.createBankAccount = .createBankAccount :=
  hashing_inside_iff zeroPopen zeroPopen_prints blankStack sessionRand topSecret (by decide)
    blankAccount (blankBuffer hashLen) .createBankAccount

end Sope.Banking.Arrays
