import Sope.Banking.Run

set_option autoImplicit false

/- How the account table represents the accounts: the flag, the hash and the id of an
entry say the same, and what identifies an account is written once. -/
namespace Sope.Banking

open Machine

/-- Both tests for an account agree, and an account lies at its own id. -/
structure Represented (accounts : Accounts) : Prop where
  agree : ∀ index, (accounts index).active = true ↔ accounts.isActive index = true
  named : ∀ index, (accounts index).active = true →
    (accounts index).bankAccount.accountId.toNat = index.val

/-- Accounts stay open, under the same id, hash and salt. -/
def KeepsAccounts (before after : Accounts) : Prop :=
  ∀ index, (before index).active = true →
    (after index).active = true ∧
      (after index).bankAccount.accountId = (before index).bankAccount.accountId ∧
      (after index).bankAccount.hash = (before index).bankAccount.hash ∧
      (after index).bankAccount.salt = (before index).bankAccount.salt

theorem KeepsAccounts.refl (accounts : Accounts) : KeepsAccounts accounts accounts :=
  fun _ flag => ⟨flag, rfl, rfl, rfl⟩

theorem KeepsAccounts.trans {first second third : Accounts} (front : KeepsAccounts first second)
    (back : KeepsAccounts second third) : KeepsAccounts first third := by
  intro index flag
  obtain ⟨flag', id, hash, salt⟩ := front index flag
  obtain ⟨flag'', id', hash', salt'⟩ := back index flag'
  exact ⟨flag'', id'.trans id, hash'.trans hash, salt'.trans salt⟩

section Representation

variable {generateSha256Hash : CString → CString → CString} {rand : Rand}
  {adminPassword : CString} {bank bank' : Bank} {request : TlvRequest} {id : Nat}
  {reply : RepValue}

theorem zeroBank_represented (rand : Rand) : Represented (zeroBank rand).accounts where
  agree := fun index => by rw [isActive_zeroBank]; exact Iff.rfl
  named := fun _ flag => (nomatch flag)

/-- Entries without a hash are zero, and entries with the flag have a hash, so the
representation only has to be kept where ids are concerned. -/
theorem represented_of_founded (founded : Founded generateSha256Hash rand adminPassword bank)
    (hashed : bank.Hashed)
    (named : ∀ index, (bank.accounts index).active = true →
      (bank.accounts index).bankAccount.accountId.toNat = index.val) :
    Represented bank.accounts where
  agree := fun index => ⟨fun flag => isActive_iff.mpr (hashed index flag), founded.flag⟩
  named := named

theorem initialBank_represented
    (nonempty : ∀ password salt, generateSha256Hash password salt ≠ []) :
    Represented (initialBank generateSha256Hash rand adminPassword).accounts := by
  apply represented_of_founded initialBank_founded (initialBank_hashed nonempty)
  intro index flag
  by_cases admin : index = adminIndex
  · subst admin
    rw [initialBank, withAccount_self]
    rfl
  · rw [initialBank, withAccount_of_ne _ _ _ admin] at flag
    cases flag

/-- The entry that a creation fills in had no flag, so no open account is touched. -/
theorem Represented.keeps_outcome (represented : Represented bank.accounts)
    (outcome : Outcome generateSha256Hash request bank id bank' reply) :
    KeepsAccounts bank.accounts bank'.accounts := by
  intro index flag
  rcases outcome.entry index with ⟨guards, -⟩ | ⟨balance, kept⟩
  · have active := (represented.agree index).mp flag
    rw [guards.inactive] at active
    cases active
  · rw [kept]
    exact ⟨flag, rfl, rfl, rfl⟩

theorem Represented.named_outcome (represented : Represented bank.accounts)
    (outcome : Outcome generateSha256Hash request bank id bank' reply) (index : AccountId)
    (flag : (bank'.accounts index).active = true) :
    (bank'.accounts index).bankAccount.accountId.toNat = index.val := by
  rcases outcome.entry index with ⟨guards, -, salt, created⟩ | ⟨balance, kept⟩
  · rw [created]
    exact accountIndex_eq_some.mp guards.targetFound
  · rw [kept] at flag ⊢
    exact represented.named index flag

theorem serveAll_hashed {calls : List Call} {events : List Served}
    (nonempty : ∀ password salt, generateSha256Hash password salt ≠ [])
    (ran : serveAll generateSha256Hash rand adminPassword calls = some (events, bank)) :
    bank.Hashed :=
  run_invariant ran _ (initialBank_hashed nonempty)
    (fun _ _ _ _ _ hashed served => hashed.outcome nonempty (serve_outcome served))

theorem serveAll_represented {calls : List Call} {events : List Served}
    (nonempty : ∀ password salt, generateSha256Hash password salt ≠ [])
    (ran : serveAll generateSha256Hash rand adminPassword calls = some (events, bank)) :
    Represented bank.accounts := by
  apply run_induction ran (fun _ bank => Represented bank.accounts)
    (initialBank_represented nonempty)
  intro past bank call reply bank' _ reached represented served
  have outcome := serve_outcome served
  exact represented_of_founded ((serveAll_founded reached).outcome outcome)
    ((serveAll_hashed nonempty reached).outcome nonempty outcome)
    (represented.named_outcome outcome)

/-- Along a run from any represented state that is reached, accounts are kept. -/
theorem serve_keepsAccounts {front back : List Call} {past future : List Served}
    {reached : Bank} (nonempty : ∀ password salt, generateSha256Hash password salt ≠ [])
    (ran : serveAll generateSha256Hash rand adminPassword front = some (past, reached))
    (ran' : run (serve generateSha256Hash) reached back = some (future, bank)) :
    KeepsAccounts reached.accounts bank.accounts := by
  apply run_induction ran' (fun _ bank => KeepsAccounts reached.accounts bank.accounts)
    (KeepsAccounts.refl _)
  intro later bank call reply bank' _ reached' keeps served
  have whole : serveAll generateSha256Hash rand adminPassword (front ++ later.map (·.input)) =
      some (past ++ later, bank) :=
    run_append_eq_some.mpr ⟨past, reached, later, ran, reached', rfl⟩
  exact keeps.trans ((serveAll_represented nonempty whole).keeps_outcome (serve_outcome served))

/-- From the zeroed table, through the creation of the administrator's account and any
requests: the two tests agree, open accounts lie at their ids, and every account that
is open at some point is open ever after, with the same id, hash and salt. -/
theorem accounts_represented (generateSha256Hash : CString → CString → CString) (rand : Rand)
    (adminPassword : CString) (nonempty : ∀ password salt, generateSha256Hash password salt ≠ [])
    (front back : List Call) (inRange : ∀ call ∈ front ++ back, call.request.InRange) :
    Represented (zeroBank rand).accounts ∧
      ∃ start, createBankAccount generateSha256Hash (zeroBank rand) (adminAccount adminPassword)
          mainThreadId = some (true, start) ∧
        ∃ past reached future last,
          run (serve generateSha256Hash) start front = some (past, reached) ∧
          run (serve generateSha256Hash) reached back = some (future, last) ∧
          Represented reached.accounts ∧ KeepsAccounts reached.accounts last.accounts := by
  refine ⟨zeroBank_represented rand, _, createBankAccount_admin generateSha256Hash rand
    adminPassword, ?_⟩
  obtain ⟨events, last, ran⟩ := serveAll_answered generateSha256Hash rand adminPassword
    (front ++ back) inRange
  obtain ⟨past, reached, future, ranFront, ranBack, -⟩ := run_append_eq_some.mp ran
  exact ⟨past, reached, future, last, ranFront, ranBack, serveAll_represented nonempty ranFront,
    serve_keepsAccounts nonempty ranFront ranBack⟩

end Representation

/-- A session that opens accounts 1 and 2, and goes on with a transfer. -/
theorem session_represented :
    Represented (zeroBank sessionRand).accounts ∧
      ∃ start, createBankAccount sessionHash (zeroBank sessionRand) (adminAccount ultraTopSecret)
          mainThreadId = some (true, start) ∧
        ∃ past reached future last,
          run (serve sessionHash) start openAccounts = some (past, reached) ∧
          run (serve sessionHash) reached [sessionCall .transfer 2 aSecret ⟨1, 10, []⟩] =
            some (future, last) ∧
          Represented reached.accounts ∧ KeepsAccounts reached.accounts last.accounts :=
  accounts_represented sessionHash sessionRand ultraTopSecret sessionHash_nonempty openAccounts
    [sessionCall .transfer 2 aSecret ⟨1, 10, []⟩] (by decide)

end Sope.Banking
