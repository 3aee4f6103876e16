import Sope.Banking.Access
import Sope.Server.Handle

set_option autoImplicit false

/- Who may do what, over whole runs of handled requests. -/
namespace Sope.Server

open Machine Banking

/-- The event opened the account `index`. -/
def HandledEvent.Creates (event : HandledEvent) (index : AccountId) : Prop :=
  event.input.request.type = .createAccount ∧
    event.output.reply.value.header.retCode = .ok ∧
    accountIndex event.input.request.value.create.accountId = some index

section Runs

variable {generateSha256Hash : CString → CString → CString} {rand : Rand}
  {adminPassword : CString}

/-- The history so far accounts for every open account and for `server_exit`. -/
structure Authorised (generateSha256Hash : CString → CString → CString) (rand : Rand)
    (adminPassword : CString) (past : List HandledEvent) (globals : Globals) : Prop where
  founded : Founded generateSha256Hash rand adminPassword globals.bank
  opened : ∀ index, index ≠ adminIndex → (globals.bank.accounts index).active = true →
    ∃ event ∈ past, event.Creates index ∧
      FromAdmin generateSha256Hash rand adminPassword event.input.request
  exited : globals.serverExit = true → ∃ event ∈ past, event.input.request.type = .shutdown ∧
    FromAdmin generateSha256Hash rand adminPassword event.input.request

theorem initialGlobals_authorised :
    Authorised generateSha256Hash rand adminPassword []
      (initialGlobals generateSha256Hash rand adminPassword) := by
  refine ⟨initialBank_founded, ?_, ?_⟩
  · intro index notAdmin flag
    rw [initialGlobals, initialBank, withAccount_of_ne _ _ _ notAdmin] at flag
    cases flag
  · intro exited
    cases exited

theorem Authorised.step {past : List HandledEvent} {globals globals' : Globals}
    {iteration : Iteration} {handled : Handled}
    (authorised : Authorised generateSha256Hash rand adminPassword past globals)
    (ran : handleRequest generateSha256Hash globals iteration = some (globals', handled)) :
    Authorised generateSha256Hash rand adminPassword
      (past ++ [⟨globals, iteration, handled, globals'⟩]) globals' := by
  obtain ⟨replied, logged, exit⟩ := handleRequest_eq_some ran
  have outcome := buildTlvReply_outcome replied
  have earlier {P : HandledEvent → Prop} (found : ∃ event ∈ past, P event) :
      ∃ event ∈ past ++ [⟨globals, iteration, handled, globals'⟩], P event := by
    obtain ⟨event, member, holds⟩ := found
    exact ⟨event, List.mem_append_left _ member, holds⟩
  have now : (⟨globals, iteration, handled, globals'⟩ : HandledEvent) ∈
      past ++ [⟨globals, iteration, handled, globals'⟩] :=
    List.mem_append_right _ (List.mem_singleton.mpr rfl)
  refine ⟨authorised.founded.outcome outcome, ?_, ?_⟩
  · intro index notAdmin flag
    rcases authorised.founded.flag_set outcome flag with flag | ⟨create, code, found, admin⟩
    · exact earlier (authorised.opened index notAdmin flag)
    · exact ⟨_, now, ⟨create, code, found⟩, admin⟩
  · intro exited
    rw [exit, Bool.or_eq_true] at exited
    rcases exited with exited | shuts
    · exact earlier (authorised.exited exited)
    · rw [logged, shutsDown_markReply, shutsDown_iff, (buildTlvReply_names replied).1] at shuts
      obtain ⟨-, shutdown, code⟩ := shuts
      exact ⟨_, now, shutdown, authorised.founded.shutdown_fromAdmin outcome shutdown code⟩

theorem handleAll_authorised {iterations : List Iteration} {events : List HandledEvent}
    {globals : Globals}
    (ran : handleAll generateSha256Hash rand adminPassword iterations = some (events, globals)) :
    Authorised generateSha256Hash rand adminPassword events globals :=
  run_induction ran (Authorised generateSha256Hash rand adminPassword)
    initialGlobals_authorised (fun _ _ _ _ _ _ _ authorised fired => authorised.step fired)

/-- Access control over whole runs: accounts are opened and the server is stopped
only by the administrator, a request without a login changes nothing, and the
administrator's account neither sends, receives nor reports money. -/
theorem handleAll_access_control (generateSha256Hash : CString → CString → CString)
    (rand : Rand) (adminPassword : CString) (iterations : List Iteration)
    (inRange : ∀ iteration ∈ iterations, iteration.request.InRange) :
    ∃ events globals,
      handleAll generateSha256Hash rand adminPassword iterations = some (events, globals) ∧
      (∀ index, index ≠ adminIndex →
        (globals.bank.accounts index).active = true ∨
          globals.bank.accounts.isActive index = true →
        ∃ event ∈ events, event.Creates index ∧
          FromAdmin generateSha256Hash rand adminPassword event.input.request) ∧
      (globals.serverExit = true → ∃ event ∈ events, event.input.request.type = .shutdown ∧
        FromAdmin generateSha256Hash rand adminPassword event.input.request) ∧
      (∀ event ∈ events, ∀ user,
        accountIndex event.input.request.value.header.accountId = some user →
        ((event.before.bank.accounts user).active = false ∨
            event.before.bank.accounts.isActive user = false →
          event.after.bank.accounts = event.before.bank.accounts ∧
            event.output.reply.value.header.retCode = .idNotFound) ∧
        (event.before.bank.accounts.isActive user = true →
          event.before.bank.accounts.accepts generateSha256Hash user
            event.input.request.value.header.password = false →
          event.after.bank.accounts = event.before.bank.accounts ∧
            event.output.reply.value.header.retCode = .loginFail)) ∧
      (globals.bank.accounts adminIndex).bankAccount.balance = 0 ∧
      (∀ event ∈ events, NamesAdminForMoney event.input.request →
        event.output.reply.value.header.retCode ≠ .ok) := by
  obtain ⟨events, globals, ran⟩ := handleAll_answered generateSha256Hash rand adminPassword
    iterations inRange
  have authorised := handleAll_authorised ran
  have eventFounded (event : HandledEvent) (member : event ∈ events) :
      Founded generateSha256Hash rand adminPassword event.before.bank ∧
        buildTlvReply generateSha256Hash event.input.request event.before.bank
          event.input.buffer event.input.id (event.before.activeThreads + 1) =
          some (event.after.bank, event.output.reply) := by
    obtain ⟨past, future, rfl⟩ := List.append_of_mem member
    obtain ⟨reached, fired, -⟩ := run_event ran
    exact ⟨(handleAll_authorised reached).founded, (handleRequest_eq_some fired).1⟩
  refine ⟨events, globals, ran, ?_, authorised.exited, ?_, ?_, ?_⟩
  · rintro index notAdmin (flag | active)
    · exact authorised.opened index notAdmin flag
    · exact authorised.opened index notAdmin (authorised.founded.flag active)
  · intro event member user found
    obtain ⟨founded, replied⟩ := eventFounded event member
    constructor
    · intro inactive
      have noHash : event.before.bank.accounts.isActive user = false := by
        rcases inactive with clear | noHash
        · by_contra active
          rw [founded.flag (by simpa using active)] at clear
          cases clear
        · exact noHash
      obtain ⟨same, code⟩ := buildTlvReply_no_login found
        (fun login => by rw [login.active] at noHash; cases noHash) replied
      rw [same, code, if_pos noHash]
      exact ⟨rfl, rfl⟩
    · intro active rejected
      obtain ⟨same, code⟩ := buildTlvReply_no_login found
        (fun login => by rw [login.accepted] at rejected; cases rejected) replied
      rw [same, code, if_neg (by simp [active])]
      exact ⟨rfl, rfl⟩
  · rw [authorised.founded.admin]
    rfl
  · intro event member names
    obtain ⟨-, replied⟩ := eventFounded event member
    exact namesAdmin_refused (buildTlvReply_outcome replied) names

end Runs

/-- The administrator opens account 1 and shuts the server down. -/
def openThenShutdown : List Iteration :=
  [⟨(openAccount 1 25 topSecret).request, sessionBuffer, 1, true⟩,
    ⟨(sessionCall .shutdown adminAccountId ultraTopSecret ⟨0, 0, []⟩).request, sessionBuffer, 2,
      true⟩]

theorem openThenShutdown_access_control :
    ∃ events globals,
      handleAll sessionHash sessionRand ultraTopSecret openThenShutdown =
        some (events, globals) ∧
      (∀ index, index ≠ adminIndex →
        (globals.bank.accounts index).active = true ∨
          globals.bank.accounts.isActive index = true →
        ∃ event ∈ events, event.Creates index ∧
          FromAdmin sessionHash sessionRand ultraTopSecret event.input.request) ∧
      (globals.serverExit = true → ∃ event ∈ events, event.input.request.type = .shutdown ∧
        FromAdmin sessionHash sessionRand ultraTopSecret event.input.request) ∧
      (∀ event ∈ events, ∀ user,
        accountIndex event.input.request.value.header.accountId = some user →
        ((event.before.bank.accounts user).active = false ∨
            event.before.bank.accounts.isActive user = false →
          event.after.bank.accounts = event.before.bank.accounts ∧
            event.output.reply.value.header.retCode = .idNotFound) ∧
        (event.before.bank.accounts.isActive user = true →
          event.before.bank.accounts.accepts sessionHash user
            event.input.request.value.header.password = false →
          event.after.bank.accounts = event.before.bank.accounts ∧
            event.output.reply.value.header.retCode = .loginFail)) ∧
      (globals.bank.accounts adminIndex).bankAccount.balance = 0 ∧
      (∀ event ∈ events, NamesAdminForMoney event.input.request →
        event.output.reply.value.header.retCode ≠ .ok) :=
  handleAll_access_control sessionHash sessionRand ultraTopSecret openThenShutdown (by decide)

end Sope.Server
