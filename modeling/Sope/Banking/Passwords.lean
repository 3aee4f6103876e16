import Sope.Lib.Shell
import Sope.Banking.Client
import Sope.Banking.Run
import Mathlib.Data.Set.Function

set_option autoImplicit false

/- What a password proves. The hash program is run by a shell on a command line
into which the password is copied as it is, between double quotes. -/
namespace Sope.Banking

/-- What the shell of one `popen` call has: its parameters, and an `echo`, which may go its
own way on a backslash. -/
structure Environment where
  value : CString → CString
  echo : CString → CString
  verbatim : ∀ text, Shell.backslash ∉ text → echo text = text

/-- What `echo` hands to `shasum` for a word, if the quotation holds it. -/
def Environment.written (environment : Environment) (word : CString) : Option CString :=
  (Shell.expand environment.value word).map environment.echo

/-- A shell with the first line that each command line prints there. -/
structure Sh where
  environment : Environment
  popen : CString → CString

def commandHead : CString := "echo -n ".toList ++ [Shell.doubleQuote]

def commandTail : CString := Shell.doubleQuote :: " | shasum -a 256".toList

/-- The command line around a word, which is the password followed by the salt. -/
def sha256sumCommand (word : CString) : CString := commandHead ++ word ++ commandTail

/-- The first token of the printed line, cut at `HASH_LEN`. -/
def Sh.printed (sh : Sh) (word : CString) : CString :=
  ((getStringArguments (sh.popen (sha256sumCommand word))).headD []).take hashLen

/-- `generate_sha256_hash`. A line without a token, on which the program crashes,
counts as an empty hash. -/
def Sh.generateSha256Hash (sh : Sh) (password salt : CString) : CString :=
  sh.printed (password ++ salt)

/-- The tail of the line that `shasum` prints: it reads from its standard input. -/
def fromStdin : CString := [' ', ' ', '-', '\n']

/-- For a complete quoted word `shasum` prints the digest of what `echo` writes. Other command
lines may print anything. -/
def Sh.Hashes (sh : Sh) (sha256 : CString → CString) : Prop :=
  ∀ word text, sh.environment.written word = some text →
    sh.popen (sha256sumCommand word) = sha256 text ++ fromStdin

/-- A digest has 64 characters and no blank. -/
structure IsDigest (sha256 : CString → CString) : Prop where
  length : ∀ text, (sha256 text).length = hashLen
  noBlank : ∀ text, ' ' ∉ sha256 text

/-- The texts that are hashed for the two passwords, at the creation of the account and at the
login. -/
def hashedTexts (atCreation atLogin : Environment) (salt password other : CString) :
    Set CString :=
  {text | ∃ environment ∈ [atCreation, atLogin], ∃ entered ∈ [password, other],
    environment.written (entered ++ salt) = some text}

/-- The quotation holds the words of both passwords. That of `password` is written as one text
at creation and at login, and the word of `other` as a different one. -/
structure Separated (atCreation atLogin : Environment) (salt password other : CString) :
    Prop where
  stored : (atCreation.written (password ++ salt)).isSome
  own : atLogin.written (password ++ salt) = atCreation.written (password ++ salt)
  inside : (atLogin.written (other ++ salt)).isSome
  different : atLogin.written (other ++ salt) ≠ atCreation.written (password ++ salt)

/-- An account that is created with its password opens with that password and not with the one
of the header, whatever the two shells make of a command line that leaves the quotation. -/
def Authenticates (sha256 : CString → CString) (atCreation atLogin : Environment) (bank : Bank)
    (accData : ReqCreateAccount) (id : Nat) (header : ReqHeader) : Prop :=
  ∀ creation login : Sh, creation.environment = atCreation → login.environment = atLogin →
    creation.Hashes sha256 → login.Hashes sha256 →
    ∀ created, createBankAccount creation.generateSha256Hash bank accData id =
        some (true, created) →
      validateBankAccount login.generateSha256Hash created.accounts header ≠ some .ok ∧
        validateBankAccount login.generateSha256Hash created.accounts
          { header with password := accData.password } = some .ok

section Words

variable {sha256 : CString → CString}

theorem head_getStringArguments {token rest : CString} (nonempty : token ≠ [])
    (noBlank : ' ' ∉ token) :
    (getStringArguments (token ++ ' ' :: rest)).headD [] = token := by
  have split : (token ++ ' ' :: rest).splitOn ' ' = token :: rest.splitOn ' ' :=
    List.splitOn_append_cons_self_of_not_mem noBlank rest
  have kept : (!token.isEmpty) = true := by
    simpa using nonempty
  simp only [getStringArguments, split, List.filter_cons, kept, ↓reduceIte, List.headD_cons]

theorem IsDigest.nonempty (digest : IsDigest sha256) (text : CString) : sha256 text ≠ [] := by
  intro empty
  have length := digest.length text
  rw [empty] at length
  cases length

theorem head_digest (digest : IsDigest sha256) (text : CString) :
    ((getStringArguments (sha256 text ++ fromStdin)).headD []).take hashLen = sha256 text := by
  have token : (getStringArguments (sha256 text ++ ' ' :: [' ', '-', '\n'])).headD [] =
      sha256 text := head_getStringArguments (digest.nonempty text) (digest.noBlank text)
  show ((getStringArguments (sha256 text ++ ' ' :: [' ', '-', '\n'])).headD []).take hashLen = _
  rw [token]
  exact List.take_of_length_le (digest.length text).le

/-- A complete word leaves the digest of what is written for it in the buffer. -/
theorem Sh.Hashes.printed_eq {sh : Sh} (hashes : sh.Hashes sha256) (digest : IsDigest sha256)
    {word text : CString} (written : sh.environment.written word = some text) :
    sh.printed word = sha256 text := by
  rw [Sh.printed, hashes word text written]
  exact head_digest digest text

/-- A plain word is written as it is. -/
theorem written_plain (environment : Environment) {word : CString} (plain : Shell.Plain word) :
    environment.written word = some word := by
  have noBackslash : Shell.backslash ∉ word := by
    intro member
    have special := plain Shell.backslash member
    revert special
    decide
  rw [Environment.written, Shell.expand_plain plain, Option.map_some,
    environment.verbatim word noBackslash]

theorem plain_salt (rand : Rand) : Shell.Plain (generatePasswordSalt rand).1 := by
  have digits : ∀ value < 15, Shell.isSpecial (Nat.digitChar value) = false := by decide
  exact forall_mem_salt digits rand

/-- Two different passwords without special characters are always separated. -/
theorem separated_of_plain (atCreation atLogin : Environment) {salt password other : CString}
    (saltPlain : Shell.Plain salt) (distinct : password ≠ other)
    (plain : Shell.Plain password) (otherPlain : Shell.Plain other) :
    Separated atCreation atLogin salt password other where
  stored := by
    rw [written_plain _ (plain.append saltPlain)]
    rfl
  own := by
    rw [written_plain _ (plain.append saltPlain), written_plain _ (plain.append saltPlain)]
  inside := by
    rw [written_plain _ (otherPlain.append saltPlain)]
    rfl
  different := by
    rw [written_plain _ (plain.append saltPlain), written_plain _ (otherPlain.append saltPlain)]
    intro same
    exact distinct (List.append_cancel_right (Option.some.inj same)).symm

end Words

section Shells

variable {sha256 : CString → CString} {environment : Environment} {word outside : CString}

/-- A shell that prints one line for every command line that leaves the quotation. -/
def Environment.shell (environment : Environment) (sha256 : CString → CString)
    (outside : CString) : Sh where
  environment
  popen command :=
    let word := (command.drop commandHead.length).take
      (command.length - (commandHead.length + commandTail.length))
    match environment.written word with
    | some text => sha256 text ++ fromStdin
    | none => outside

theorem Environment.shell_popen (environment : Environment) (sha256 : CString → CString)
    (outside word : CString) :
    (environment.shell sha256 outside).popen (sha256sumCommand word) =
      match environment.written word with
      | some text => sha256 text ++ fromStdin
      | none => outside := by
  have between : (sha256sumCommand word).length - (commandHead.length + commandTail.length) =
      word.length := by
    simp only [sha256sumCommand, List.length_append]
    omega
  have found : ((sha256sumCommand word).drop commandHead.length).take word.length = word := by
    rw [sha256sumCommand, List.append_assoc, List.drop_left, List.take_left]
  simp only [Environment.shell, between, found]

theorem Environment.shell_hashes (environment : Environment) (sha256 : CString → CString)
    (outside : CString) : (environment.shell sha256 outside).Hashes sha256 := by
  intro word text written
  have written' : environment.written word = some text := written
  rw [shell_popen, written']

/-- Outside of the quotation the buffer holds the first token of that line. -/
theorem Environment.shell_printed (leaves : environment.written word = none) :
    (environment.shell sha256 outside).printed word =
      ((getStringArguments outside).headD []).take hashLen := by
  rw [Sh.printed, shell_popen, leaves]

end Shells

section Accounts

theorem createBankAccount_created {generateSha256Hash : CString → CString → CString}
    {bank created : Bank} {accData : ReqCreateAccount} {id : Nat}
    (opened : createBankAccount generateSha256Hash bank accData id = some (true, created)) :
    ∃ target, accountIndex accData.accountId = some target ∧
      created = bank.withAccount generateSha256Hash accData target id := by
  cases found : accountIndex accData.accountId with
  | none => simp [createBankAccount, fillBankAccount, isActiveAccount, found] at opened
  | some target =>
      refine ⟨target, rfl, ?_⟩
      cases active : bank.accounts.isActive target with
      | true =>
          rw [createBankAccount_of_active found active] at opened
          cases opened
      | false =>
          rw [createBankAccount_of_inactive found active] at opened
          exact (Prod.mk.inj (Option.some.inj opened)).2.symm

/-- A login to an account that has just been created compares two hashes. -/
theorem validate_created {atCreation atLogin : Sh} {bank created : Bank}
    {accData : ReqCreateAccount} {id : Nat} {header : ReqHeader}
    (opened : createBankAccount atCreation.generateSha256Hash bank accData id =
      some (true, created))
    (sameAccount : header.accountId = accData.accountId) :
    validateBankAccount atLogin.generateSha256Hash created.accounts header = some .ok ↔
      atCreation.printed (accData.password ++ (generatePasswordSalt bank.rand).1) ≠ [] ∧
      atCreation.printed (accData.password ++ (generatePasswordSalt bank.rand).1) =
        atLogin.printed (header.password ++ (generatePasswordSalt bank.rand).1) := by
  obtain ⟨target, found, rfl⟩ := createBankAccount_created opened
  have entry : (bank.withAccount atCreation.generateSha256Hash accData target id).accounts target =
      newAccount atCreation.generateSha256Hash accData (generatePasswordSalt bank.rand).1 :=
    Function.update_self ..
  rw [validateBankAccount_eq_ok]
  constructor
  · rintro ⟨user, foundUser, active, accepted⟩
    have same : user = target := by
      rw [sameAccount, found] at foundUser
      exact (Option.some.inj foundUser).symm
    subst same
    rw [Accounts.accepts, entry, beq_iff_eq] at accepted
    rw [isActive_iff, entry] at active
    exact ⟨active, accepted.symm⟩
  · rintro ⟨nonempty, equal⟩
    refine ⟨target, sameAccount ▸ found, ?_, ?_⟩
    · rw [isActive_iff, entry]
      exact nonempty
    · rw [Accounts.accepts, entry, beq_iff_eq]
      exact equal.symm

variable {sha256 : CString → CString} {atCreation atLogin : Environment} {bank : Bank}
  {accData : ReqCreateAccount} {id : Nat} {header : ReqHeader} {target : AccountId}

/-- Only the hashes of the three words matter. -/
theorem authenticates_iff (found : accountIndex accData.accountId = some target)
    (inactive : bank.accounts.isActive target = false)
    (sameAccount : header.accountId = accData.accountId) :
    Authenticates sha256 atCreation atLogin bank accData id header ↔
      ∀ creation login : Sh, creation.environment = atCreation → login.environment = atLogin →
        creation.Hashes sha256 → login.Hashes sha256 →
        creation.printed (accData.password ++ (generatePasswordSalt bank.rand).1) ≠ [] ∧
        creation.printed (accData.password ++ (generatePasswordSalt bank.rand).1) =
          login.printed (accData.password ++ (generatePasswordSalt bank.rand).1) ∧
        creation.printed (accData.password ++ (generatePasswordSalt bank.rand).1) ≠
          login.printed (header.password ++ (generatePasswordSalt bank.rand).1) := by
  have sameAccount' : { header with password := accData.password }.accountId =
      accData.accountId := sameAccount
  constructor
  · intro authenticates creation login here here' hashes hashes'
    have opened := @createBankAccount_of_inactive creation.generateSha256Hash bank accData id
      target found inactive
    obtain ⟨rejected, accepted⟩ :=
      authenticates creation login here here' hashes hashes' _ opened
    rw [ne_eq, validate_created opened sameAccount] at rejected
    rw [validate_created opened sameAccount'] at accepted
    exact ⟨accepted.1, accepted.2, fun same => rejected ⟨accepted.1, same⟩⟩
  · intro printed creation login here here' hashes hashes' created opened
    obtain ⟨nonempty, own, different⟩ := printed creation login here here' hashes hashes'
    rw [ne_eq, validate_created opened sameAccount, validate_created opened sameAccount']
    exact ⟨fun accepted => different accepted.2, nonempty, own⟩

/-- Separated words have hashes that tell them apart. -/
theorem Separated.printed {salt password other : CString}
    (separated : Separated atCreation atLogin salt password other) (digest : IsDigest sha256)
    (injective : Set.InjOn sha256 (hashedTexts atCreation atLogin salt password other))
    {creation login : Sh} (here : creation.environment = atCreation)
    (here' : login.environment = atLogin) (hashes : creation.Hashes sha256)
    (hashes' : login.Hashes sha256) :
    creation.printed (password ++ salt) ≠ [] ∧
      creation.printed (password ++ salt) = login.printed (password ++ salt) ∧
      creation.printed (password ++ salt) ≠ login.printed (other ++ salt) := by
  subst here here'
  obtain ⟨text, stored⟩ := Option.isSome_iff_exists.mp separated.stored
  obtain ⟨text', inside⟩ := Option.isSome_iff_exists.mp separated.inside
  rw [hashes.printed_eq digest stored, hashes'.printed_eq digest (separated.own.trans stored),
    hashes'.printed_eq digest inside]
  refine ⟨digest.nonempty text, rfl, fun same => separated.different ?_⟩
  rw [stored, inside, injective ⟨creation.environment, by simp, password, by simp, stored⟩
    ⟨login.environment, by simp, other, by simp, inside⟩ same]

/-- Words that are not separated have hashes that fail in some pair of shells: what one of them
prints for a command line that leaves the quotation is not known. -/
theorem separated_of_printed {salt password other : CString} (digest : IsDigest sha256)
    (injective : Set.InjOn sha256 (hashedTexts atCreation atLogin salt password other))
    (printed : ∀ creation login : Sh, creation.environment = atCreation →
      login.environment = atLogin → creation.Hashes sha256 → login.Hashes sha256 →
      creation.printed (password ++ salt) ≠ [] ∧
      creation.printed (password ++ salt) = login.printed (password ++ salt) ∧
      creation.printed (password ++ salt) ≠ login.printed (other ++ salt)) :
    Separated atCreation atLogin salt password other := by
  have prints (outside outside' : CString) := printed (atCreation.shell sha256 outside)
    (atLogin.shell sha256 outside') rfl rfl (atCreation.shell_hashes sha256 outside)
    (atLogin.shell_hashes sha256 outside')
  have nothing : ((getStringArguments []).headD []).take hashLen = [] := rfl
  have hashed (environment : Environment) (outside : CString) {word text : CString}
      (written : environment.written word = some text) :
      (environment.shell sha256 outside).printed word = sha256 text :=
    (environment.shell_hashes sha256 outside).printed_eq digest written
  -- a shell may print nothing where it leaves the quotation
  cases stored : atCreation.written (password ++ salt) with
  | none =>
      have nonempty := (prints [] []).1
      rw [Environment.shell_printed stored] at nonempty
      exact absurd nothing nonempty
  | some text =>
      have own : atLogin.written (password ++ salt) = some text := by
        have same := (prints [] []).2.1
        rw [hashed _ _ stored] at same
        cases written : atLogin.written (password ++ salt) with
        | none =>
            rw [Environment.shell_printed written, nothing] at same
            exact absurd same (digest.nonempty text)
        | some text' =>
            rw [hashed _ _ written] at same
            rw [injective ⟨atCreation, by simp, password, by simp, stored⟩
              ⟨atLogin, by simp, password, by simp, written⟩ same]
      refine ⟨by rw [stored]; rfl, own.trans stored.symm, ?_, ?_⟩
      · -- it may also print the digest of the account
        have different := (prints [] (sha256 text ++ fromStdin)).2.2
        rw [hashed _ _ stored] at different
        cases written : atLogin.written (other ++ salt) with
        | none =>
            rw [Environment.shell_printed written, head_digest digest] at different
            exact absurd rfl different
        | some text' => rfl
      · intro same
        have different := (prints [] []).2.2
        rw [hashed _ _ stored, hashed _ _ (same.trans stored)] at different
        exact different rfl

/-- An account's own password is accepted at every login and another one at none, if and only
if one text is hashed for the first and a different one for the second. Without special
characters this is always so. -/
theorem password_authenticates_iff {sha256 : CString → CString} (digest : IsDigest sha256)
    (atCreation atLogin : Environment) {bank : Bank} {accData : ReqCreateAccount} (id : Nat)
    {header : ReqHeader} {target : AccountId}
    (found : accountIndex accData.accountId = some target)
    (inactive : bank.accounts.isActive target = false)
    (sameAccount : header.accountId = accData.accountId)
    (injective : Set.InjOn sha256 (hashedTexts atCreation atLogin
      (generatePasswordSalt bank.rand).1 accData.password header.password))
    (distinct : accData.password ≠ header.password) :
    (Authenticates sha256 atCreation atLogin bank accData id header ↔
      Separated atCreation atLogin (generatePasswordSalt bank.rand).1 accData.password
        header.password) ∧
      (Shell.Plain accData.password → Shell.Plain header.password →
        Separated atCreation atLogin (generatePasswordSalt bank.rand).1 accData.password
          header.password) := by
  refine ⟨?_, separated_of_plain atCreation atLogin (plain_salt bank.rand) distinct⟩
  rw [authenticates_iff found inactive sameAccount]
  constructor
  · exact separated_of_printed digest injective
  · intro separated creation login here here' hashes hashes'
    exact separated.printed digest injective here here' hashes hashes'

end Accounts

section Dollar

/-- The SHA-256 digest of the empty text. -/
def emptyDigest : CString :=
  "e3b0c44298fc1c149afbf4c8996fb92427ae41e4649b934ca495991b7852b855".toList

/-- SHA-256 on the empty text; the digests of other texts are left blank. -/
def emptySha256 (text : CString) : CString :=
  if text = [] then emptyDigest else List.replicate hashLen '0'

/-- No parameter is set, and `echo` knows the sequences of XSI. -/
def unsetEnvironment : Environment where
  value _ := []
  echo := Shell.xsiEcho
  verbatim _ none := Shell.xsiEcho_verbatim none

/-- Of `aaaaaa\cX` and `aaaaaa\cY` that `echo` writes the same. -/
example : ['X', 'Y'].map (fun c => unsetEnvironment.written
      (List.replicate 6 'a' ++ [Shell.backslash, 'c', c] ++ (generatePasswordSalt sessionRand).1)) =
    List.replicate 2 (some (List.replicate 6 'a')) := by decide +kernel

def unsetShell : Sh := unsetEnvironment.shell emptySha256 []

theorem unsetShell_hashes : unsetShell.Hashes emptySha256 :=
  unsetEnvironment.shell_hashes emptySha256 []

theorem emptySha256_isDigest : IsDigest emptySha256 where
  length text := by
    unfold emptySha256
    split
    · decide
    · exact List.length_replicate
  noBlank text := by
    unfold emptySha256
    split
    · decide
    · intro blank
      have same := List.eq_of_mem_replicate blank
      revert same
      decide

/-- The passwords `$aaaaaaaa` and `$bbbbbbbb`. -/
def dollarA : CString := '$' :: List.replicate 8 'a'
def dollarB : CString := '$' :: List.replicate 8 'b'

theorem isNameChar_digit (result : Nat) :
    Shell.isNameChar (Nat.digitChar (result % 15)) = true := by
  have digits : ∀ value : Fin 15, Shell.isNameChar (Nat.digitChar value.val) = true := by decide
  exact digits ⟨result % 15, Nat.mod_lt _ (by decide)⟩

/-- The name takes in the salt, and no such parameter is set. -/
theorem expand_dollar (c : Char) (letters : CString) (start : Shell.isNameStart c = true)
    (inName : ∀ c ∈ letters, Shell.isNameChar c = true) (rand : Rand) :
    Shell.expand unsetEnvironment.value ('$' :: c :: letters ++ (generatePasswordSalt rand).1) =
      some [] := by
  refine Shell.expand_parameter start fun d member => ?_
  rcases List.mem_append.mp member with inLetters | inSalt
  · exact inName d inLetters
  · obtain ⟨i, -, digit⟩ := List.mem_map.mp inSalt
    rw [← digit]
    exact isNameChar_digit (rand i)

theorem written_dollar (c : Char) (letters : CString) (start : Shell.isNameStart c = true)
    (inName : ∀ c ∈ letters, Shell.isNameChar c = true) (rand : Rand) :
    unsetEnvironment.written ('$' :: c :: letters ++ (generatePasswordSalt rand).1) =
      some [] := by
  rw [Environment.written, expand_dollar c letters start inName]
  rfl

theorem written_dollarA (rand : Rand) :
    unsetEnvironment.written (dollarA ++ (generatePasswordSalt rand).1) = some [] :=
  written_dollar 'a' (List.replicate 7 'a') (by decide)
    (fun _ member => List.eq_of_mem_replicate member ▸ by decide) rand

theorem written_dollarB (rand : Rand) :
    unsetEnvironment.written (dollarB ++ (generatePasswordSalt rand).1) = some [] :=
  written_dollar 'b' (List.replicate 7 'b') (by decide)
    (fun _ member => List.eq_of_mem_replicate member ▸ by decide) rand

theorem dollar_injective (rand : Rand) : Set.InjOn emptySha256
    (hashedTexts unsetEnvironment unsetEnvironment (generatePasswordSalt rand).1 dollarA
      dollarB) := by
  have empty : ∀ text ∈ hashedTexts unsetEnvironment unsetEnvironment
      (generatePasswordSalt rand).1 dollarA dollarB, text = [] := by
    rintro text ⟨environment, here, entered, password, written⟩
    simp only [List.mem_cons, List.not_mem_nil, or_false, or_self] at here password
    subst here
    rcases password with rfl | rfl
    · rw [written_dollarA] at written
      exact (Option.some.inj written).symm
    · rw [written_dollarB] at written
      exact (Option.some.inj written).symm
  intro text member text' member' _
  rw [empty text member, empty text' member']

/-- Account 1 is opened with the one password, and the other one is tried. -/
def dollarAccount : ReqCreateAccount := ⟨1, 25, dollarA⟩
def dollarLogin : ReqHeader := ⟨1000, 1, dollarB, 10⟩

def dollarBank : Bank :=
  (zeroBank sessionRand).withAccount unsetShell.generateSha256Hash dollarAccount 1 mainThreadId

theorem dollarBank_opened :
    createBankAccount unsetShell.generateSha256Hash (zeroBank sessionRand) dollarAccount
      mainThreadId = some (true, dollarBank) :=
  createBankAccount_of_inactive (accountIndex_of_lt (by decide)) (isActive_zeroBank sessionRand 1)

/-- The account that `$aaaaaaaa` protects opens with `$bbbbbbbb`. -/
theorem dollarLogin_accepted :
    isValidPassword dollarAccount.password = true ∧ isValidPassword dollarLogin.password = true ∧
      dollarAccount.password ≠ dollarLogin.password ∧
      createBankAccount unsetShell.generateSha256Hash (zeroBank sessionRand) dollarAccount
        mainThreadId = some (true, dollarBank) ∧
      validateBankAccount unsetShell.generateSha256Hash dollarBank.accounts dollarLogin =
        some .ok := by
  refine ⟨by decide, by decide, by decide, dollarBank_opened, ?_⟩
  have printed := unsetShell_hashes.printed_eq emptySha256_isDigest (written_dollarA sessionRand)
  have printed' := unsetShell_hashes.printed_eq emptySha256_isDigest (written_dollarB sessionRand)
  refine (validate_created dollarBank_opened rfl).mpr ⟨?_, printed.trans printed'.symm⟩
  exact printed ▸ emptySha256_isDigest.nonempty []

/-- The equivalence at these two passwords, where both sides fail. -/
theorem dollarLogin_authenticates_iff :
    (Authenticates emptySha256 unsetEnvironment unsetEnvironment (zeroBank sessionRand)
        dollarAccount mainThreadId dollarLogin ↔
      Separated unsetEnvironment unsetEnvironment
        (generatePasswordSalt (zeroBank sessionRand).rand).1 dollarAccount.password
        dollarLogin.password) ∧
      (Shell.Plain dollarAccount.password → Shell.Plain dollarLogin.password →
        Separated unsetEnvironment unsetEnvironment
          (generatePasswordSalt (zeroBank sessionRand).rand).1 dollarAccount.password
          dollarLogin.password) :=
  password_authenticates_iff emptySha256_isDigest unsetEnvironment unsetEnvironment mainThreadId
    (accountIndex_of_lt (by decide)) (isActive_zeroBank sessionRand 1) rfl
    (dollar_injective sessionRand) (by decide)

end Dollar

end Sope.Banking
