import Mathlib.Data.List.Nodup
import Sope.Banking.Representation

set_option autoImplicit false

/- The account-creation lines of the server log, beside the accounts that each step of
a run really creates. `create_bank_account` logs `acc[ADMIN_ACCOUNT_ID]`. -/
namespace Sope.Banking

open Machine

/-- The accounts that a step creates: their flags go up in it. -/
def Served.opened (served : Served) : List AccountId :=
  (List.finRange maxBankAccounts).filter fun index =>
    !(served.before.accounts index).active && (served.after.accounts index).active

/-- The lines due for a step: one for each account created in it, about that account. -/
def Served.creationLines (served : Served) : List AccountCreationLine :=
  (Served.opened served).map fun index =>
    logAccountCreation served.input.id (served.after.accounts index).bankAccount

/-- The lines due for a whole run, the administrator's account first. -/
def auditLines (generateSha256Hash : CString → CString → CString) (rand : Rand)
    (adminPassword : CString) (events : List Served) : List AccountCreationLine :=
  logAccountCreation mainThreadId (adminEntry generateSha256Hash rand adminPassword).bankAccount ::
    events.flatMap Served.creationLines

/-- The request passes the guards of a creation in the state it meets. -/
def Served.Opens (generateSha256Hash : CString → CString → CString) (served : Served) : Prop :=
  ∃ target, CreateGuards generateSha256Hash served.before.accounts served.input.request target

section Steps

variable {generateSha256Hash : CString → CString → CString} {rand : Rand}
  {adminPassword : CString} {bank bank' : Bank} {call : Call} {reply : TlvReply}

/-- A step with no new flag creates no account. -/
theorem opened_eq_nil (kept : ∀ index, (bank'.accounts index).active = true →
      (bank.accounts index).active = true) :
    Served.opened ⟨bank, call, reply, bank'⟩ = [] := by
  apply List.filter_eq_nil_iff.mpr
  intro index _
  cases flag : (bank'.accounts index).active with
  | false => simp
  | true => simp [kept index flag]

/-- A step with one new flag creates that account. -/
theorem opened_eq_singleton {target : AccountId}
    (clear : (bank.accounts target).active = false)
    (flag : (bank'.accounts target).active = true)
    (kept : ∀ index, index ≠ target → bank'.accounts index = bank.accounts index) :
    Served.opened ⟨bank, call, reply, bank'⟩ = [target] := by
  have only : ∀ index, (!(bank.accounts index).active && (bank'.accounts index).active) =
      (index == target) := by
    intro index
    by_cases created : index = target
    · subst created
      simp [clear, flag]
    · simp [kept index created, created]
  simp only [Served.opened, only]
  rw [List.filter_beq, List.count_eq_one_of_mem (List.nodup_finRange _) (List.mem_finRange _)]
  rfl

/-- The line that a creation writes is the administrator's. -/
theorem Founded.creationLine (founded : Founded generateSha256Hash rand adminPassword bank)
    {target : AccountId}
    (guards : CreateGuards generateSha256Hash bank.accounts call.request target) :
    (bank.withAccount generateSha256Hash call.request.value.create target call.id).slog =
      bank.slog ++ [logAccountCreation call.id
        (adminEntry generateSha256Hash rand adminPassword).bankAccount] := by
  have admin : (bank.withAccount generateSha256Hash call.request.value.create target
      call.id).accounts adminIndex = bank.accounts adminIndex :=
    withAccount_of_ne _ _ _ (Ne.symm guards.notAdmin)
  rw [founded.admin] at admin
  simp only [Bank.withAccount] at admin ⊢
  rw [admin]

/-- The lines due for a creation: one, with the id of the new account. -/
theorem Bank.Hashed.creationLines (hashed : bank.Hashed) (reply : TlvReply) {target : AccountId}
    (guards : CreateGuards generateSha256Hash bank.accounts call.request target) :
    Served.creationLines
        ⟨bank, call, reply,
          bank.withAccount generateSha256Hash call.request.value.create target call.id⟩ =
      [logAccountCreation call.id
        (newAccount generateSha256Hash call.request.value.create
          (generatePasswordSalt bank.rand).1).bankAccount] := by
  have clear : (bank.accounts target).active = false := by
    by_contra flag
    have active := isActive_iff.mpr (hashed target (by simpa using flag))
    rw [guards.inactive] at active
    cases active
  have flag : ((bank.withAccount generateSha256Hash call.request.value.create target
      call.id).accounts target).active = true := by
    rw [withAccount_self, newAccount_active]
  simp only [Served.creationLines]
  rw [opened_eq_singleton clear flag (fun _ apart => withAccount_of_ne _ _ _ apart)]
  simp only [List.map_cons, List.map_nil, withAccount_self]

/-- The administrator's line and the new account's differ in the id. -/
theorem CreateGuards.line_ne {target : AccountId} (salt : CString)
    (guards : CreateGuards generateSha256Hash bank.accounts call.request target) :
    logAccountCreation call.id (adminEntry generateSha256Hash rand adminPassword).bankAccount ≠
      logAccountCreation call.id
        (newAccount generateSha256Hash call.request.value.create salt).bankAccount := by
  intro same
  have sameId := congrArg AccountCreationLine.accountId same
  exact guards.notAdmin ((accountIndex_eq_adminIndex guards.targetFound).mpr sameId.symm)

/-- A step that passes no guards of a creation logs nothing and has no lines due. -/
theorem Outcome.silent {id : Nat}
    (outcome : Outcome generateSha256Hash call.request bank id bank' reply.value)
    (closed : ¬ Served.Opens generateSha256Hash ⟨bank, call, reply, bank'⟩) :
    bank'.slog = bank.slog ∧ Served.creationLines ⟨bank, call, reply, bank'⟩ = [] := by
  cases outcome with
  | created target guards => exact absurd ⟨target, guards⟩ closed
  | refused | reported | shutdown | ignored =>
      refine ⟨rfl, ?_⟩
      rw [Served.creationLines, opened_eq_nil (fun _ flag => flag), List.map_nil]
  | transferred source dest guards =>
      refine ⟨rfl, ?_⟩
      rw [Served.creationLines, opened_eq_nil, List.map_nil]
      intro index flag
      rwa [withTransfer_active] at flag

theorem serve_of_guards {target : AccountId}
    (guards : CreateGuards generateSha256Hash bank.accounts call.request target)
    (served : serve generateSha256Hash bank call = some (bank', reply)) :
    bank' = bank.withAccount generateSha256Hash call.request.value.create target call.id := by
  obtain ⟨reply', created, -⟩ :=
    buildTlvReply_created call.buffer call.id call.activeThreads guards
  rw [serve, created] at served
  simp only [Option.some.injEq, Prod.mk.injEq] at served
  exact served.1.symm

end Steps

/-- How far the log of a run and the lines due for it agree: as many lines, and the
same ones as long as no step has created an account. -/
structure Audited (generateSha256Hash : CString → CString → CString) (rand : Rand)
    (adminPassword : CString) (past : List Served) (bank : Bank) : Prop where
  count : bank.slog.length =
    (auditLines generateSha256Hash rand adminPassword past).length
  agree : bank.slog = auditLines generateSha256Hash rand adminPassword past ↔
    ∀ event ∈ past, ¬ Served.Opens generateSha256Hash event

section Runs

variable {generateSha256Hash : CString → CString → CString} {rand : Rand}
  {adminPassword : CString} {bank bank' : Bank} {past : List Served} {call : Call}
  {reply : TlvReply}

theorem auditLines_snoc (event : Served) :
    auditLines generateSha256Hash rand adminPassword (past ++ [event]) =
      auditLines generateSha256Hash rand adminPassword past ++ Served.creationLines event := by
  simp [auditLines]

/-- main logs the administrator's account right after creating it. -/
theorem initialBank_slog :
    (initialBank generateSha256Hash rand adminPassword).slog =
      auditLines generateSha256Hash rand adminPassword [] := by
  have admin : (initialBank generateSha256Hash rand adminPassword).accounts adminIndex = _ :=
    withAccount_self ..
  simp only [initialBank, Bank.withAccount] at admin ⊢
  rw [admin]
  rfl

theorem initialBank_audited :
    Audited generateSha256Hash rand adminPassword []
      (initialBank generateSha256Hash rand adminPassword) where
  count := by rw [initialBank_slog]
  agree := by simp [initialBank_slog]

theorem Audited.serve (audited : Audited generateSha256Hash rand adminPassword past bank)
    (founded : Founded generateSha256Hash rand adminPassword bank) (hashed : bank.Hashed)
    (served : serve generateSha256Hash bank call = some (bank', reply)) :
    Audited generateSha256Hash rand adminPassword (past ++ [⟨bank, call, reply, bank'⟩]) bank' := by
  by_cases opens : Served.Opens generateSha256Hash ⟨bank, call, reply, bank'⟩
  · obtain ⟨target, guards⟩ := opens
    have guards : CreateGuards generateSha256Hash bank.accounts call.request target := guards
    obtain rfl := serve_of_guards guards served
    have logged := founded.creationLine guards
    have due := hashed.creationLines reply guards
    constructor
    · rw [auditLines_snoc, logged, due, List.length_append, List.length_append, audited.count]
      rfl
    · rw [auditLines_snoc, logged, due]
      constructor
      · intro same
        have last := (List.append_inj same audited.count).2
        exact absurd (List.cons.inj last).1 (guards.line_ne _)
      · intro closed
        exact absurd ⟨target, guards⟩ (closed _ (by simp))
  · obtain ⟨kept, due⟩ := (serve_outcome served).silent opens
    constructor
    · rw [auditLines_snoc, kept, due, List.append_nil]
      exact audited.count
    · rw [auditLines_snoc, kept, due, List.append_nil, audited.agree]
      simp [opens, or_imp, forall_and]

theorem serveAll_audited {calls : List Call} {events : List Served}
    (nonempty : ∀ password salt, generateSha256Hash password salt ≠ [])
    (ran : serveAll generateSha256Hash rand adminPassword calls = some (events, bank)) :
    Audited generateSha256Hash rand adminPassword events bank :=
  run_induction ran (Audited generateSha256Hash rand adminPassword) initialBank_audited
    (fun _ _ _ _ _ _ reached audited served =>
      audited.serve (serveAll_founded reached) (serveAll_hashed nonempty reached) served)

end Runs

/-- The log of a run that answers every request is the list of lines due exactly when
no request passes the guards of a creation: each account after the administrator's is
logged as the administrator's once more. -/
theorem creations_audited_iff (generateSha256Hash : CString → CString → CString) (rand : Rand)
    (adminPassword : CString) (nonempty : ∀ password salt, generateSha256Hash password salt ≠ [])
    (calls : List Call) (inRange : ∀ call ∈ calls, call.request.InRange) :
    ∃ events bank,
      serveAll generateSha256Hash rand adminPassword calls = some (events, bank) ∧
      (bank.slog = auditLines generateSha256Hash rand adminPassword events ↔
        ∀ event ∈ events, ¬ Served.Opens generateSha256Hash event) := by
  obtain ⟨events, bank, ran⟩ := serveAll_answered generateSha256Hash rand adminPassword calls
    inRange
  exact ⟨events, bank, ran, (serveAll_audited nonempty ran).agree⟩

theorem openAccounts_inRange : ∀ call ∈ openAccounts, call.request.InRange := by decide

/-- In the session that opens accounts 1 and 2, account 0 is logged three times. -/
theorem openAccounts_logs_admin :
    ∃ events bank, serveAll sessionHash sessionRand ultraTopSecret openAccounts =
        some (events, bank) ∧
      bank.slog.map (·.accountId) = [0, 0, 0] ∧
      (bank.accounts 1).active = true ∧ (bank.accounts 2).active = true ∧
      bank.slog ≠ auditLines sessionHash sessionRand ultraTopSecret events := by
  have ran : serveAll sessionHash sessionRand ultraTopSecret openAccounts = some (_, _) := rfl
  refine ⟨_, _, ran, rfl, rfl, rfl, ?_⟩
  intro same
  have closed := (serveAll_audited sessionHash_nonempty ran).agree.mp same
  apply closed _ (List.mem_cons_self ..)
  exact ⟨1, rfl, ⟨rfl, rfl, rfl⟩, rfl, rfl⟩

theorem openAccounts_audited_iff :
    ∃ events bank,
      serveAll sessionHash sessionRand ultraTopSecret openAccounts = some (events, bank) ∧
      (bank.slog = auditLines sessionHash sessionRand ultraTopSecret events ↔
        ∀ event ∈ events, ¬ Served.Opens sessionHash event) :=
  creations_audited_iff sessionHash sessionRand ultraTopSecret sessionHash_nonempty openAccounts
    openAccounts_inRange

end Sope.Banking
