import Sope.Lib.Journal
import Sope.Log.Lines
import Sope.Server.Semaphores

set_option autoImplicit false

/- The server with its log file. Every call of general_aux.c that logs is taken apart: it
looks at the semaphore, writes its line, and makes its call, and between any two of these the
other threads may move. -/
namespace Sope.Log

open Machine Banking Server Journal

section Reports

variable {n : Nat}

/-- `thread_id`, and `MAIN_THREAD_ID`. -/
def threadId : Thread n → Nat
  | .main => mainThreadId
  | .office i => i.val + 1

def labelThread : Label n → Thread n
  | .main _ => .main
  | .office i _ _ => .office i

/-- What `wait_sem` and `post_sem` log about an account, if it is active. -/
def accountNote (accounts : Accounts) (id : Nat) (smo : SyncMechOp) (accountId : UInt32)
    (sem : Option AccountId) : List LogLine :=
  match accountIndex accountId, sem with
  | some account, some sem =>
      if (accounts account).active then
        [.syncMechSem id smo .account accountId.toInt32 (accounts sem).semaphore]
      else []
  | _, _ => []

/-- The line of `sync_delay`, if the account is active. -/
def accountDelay (accounts : Accounts) (id : Nat) (accountId delayMs : UInt32) : List LogLine :=
  match accountIndex accountId with
  | some account =>
      if (accounts account).active then [.syncDelay id accountId.toInt32 delayMs] else []
  | none => []

/-- What an office logs before its next statement. -/
def officeNotes (shared : Shared n) (id : Nat) : OfficePc → List LogLine
  | .waitMain =>
      [.syncMechSem id .semWait .consumer adminAccountId.toInt32 shared.mainSem]
  | .waitAccount request =>
      accountNote shared.globals.bank.accounts id .semWait request.value.header.accountId
        (accountIndex request.value.header.accountId)
  | .waitTarget request =>
      if request.type = .transfer then
        accountNote shared.globals.bank.accounts id .semWait request.value.transfer.accountId
          (accountIndex request.value.transfer.accountId)
      else []
  | .postAccount request _ _ =>
      accountNote shared.globals.bank.accounts id .semPost request.value.header.accountId
        (accountIndex request.value.header.accountId)
  | .postTarget request targetSem _ =>
      if request.type = .transfer then
        accountNote shared.globals.bank.accounts id .semPost request.value.transfer.accountId
          targetSem
      else []
  | _ => []

/-- What main logs before its next statement. -/
def mainNotes (state : State n) : List LogLine :=
  match state.main with
  | .initSem => [.syncMechSem mainThreadId .semInit .account adminAccountId.toInt32 1]
  | .post request =>
      [.syncMechSem mainThreadId .semPost .producer request.value.header.pid state.shared.mainSem]
  | .finalPost posted =>
      if posted < n then
        [.syncMechSem mainThreadId .semPost .producer adminAccountId.toInt32 state.shared.mainSem]
      else []
  | _ => []

def notes (state : State n) : Thread n → List LogLine
  | .main => mainNotes state
  | .office i => officeNotes state.shared (i.val + 1) (state.offices i)

/-- What `create_bank_account` logs up to its `init_sem`. -/
def fillingLines (before after : Bank) : List LogLine :=
  (after.slog.drop before.slog.length).map .accountCreation

/-- What `create_bank_account` logs. -/
def creationLines (before after : Bank) (id : Nat) (accountId : UInt32) : List LogLine :=
  (after.slog.drop before.slog.length).flatMap fun line =>
    [.accountCreation line, .syncMechSem id .semInit .account accountId.toInt32 1]

def requestLines (self id : Nat) (request : TlvRequest) : List LogLine :=
  (logRequest self id request).toList.map .request

def replyLines (self id : Nat) (reply : TlvReply) : List LogLine :=
  (logReply self id reply).toList.map .reply

/-- What an office logs behind the statement at `pc`. -/
def officeReports (self : Nat) (before after : Bank) (id : Nat) (opened : Bool) :
    OfficePc → List LogLine
  | .lock => [.syncMech id .mutexLock .consumer adminAccountId.toInt32]
  | .pop request => requestLines self id request
  | .waitAccount request =>
      accountDelay before.accounts id request.value.header.accountId
        request.value.header.opDelayMs
  | .waitTarget request =>
      if request.type = .transfer then
        accountDelay before.accounts id request.value.transfer.accountId
          request.value.header.opDelayMs
      else []
  | .build request _ => creationLines before after id request.value.create.accountId
  | .openFifo _ reply => replyLines self id (markReply opened reply)
  | .unlock request _ => [.syncMech id .mutexUnlock .consumer request.value.header.pid]
  | _ => []

/-- What main logs behind its statement; `tids` are what `pthread_create` returns. -/
def mainReports (tids : Fin n → UInt64) (before after : State n) : List LogLine :=
  match before.main with
  | .spawn started =>
      if inside : started < n then [.bankOffice true (started + 1) (tids ⟨started, inside⟩)] else []
  | .createAdmin =>
      fillingLines before.shared.globals.bank after.shared.globals.bank
  | .loopTest =>
      if before.shared.closeThread then
        [.delay mainThreadId before.shared.globals.shutdownDelayMs]
      else []
  | .lock _ => [.syncMech mainThreadId .mutexLock .consumer adminAccountId.toInt32]
  | .unlock request => [.syncMech mainThreadId .mutexUnlock .consumer request.value.header.pid]
  | .join joined =>
      if inside : joined < n then [.bankOffice false (joined + 1) (tids ⟨joined, inside⟩)] else []
  | _ => []

def reports (self : Nat) (tids : Fin n → UInt64) (event : StepEvent n) : List LogLine :=
  match event.input with
  | .main _ => mainReports tids event.before event.after
  | .office i _ opened =>
      officeReports self event.before.shared.globals.bank event.after.shared.globals.bank
        (i.val + 1) opened (event.before.offices i)

/-- The server as the process `self`. -/
def reporter (self : Nat) (tids : Fin n → UInt64) :
    Reporter (State n) (Label n) Action (Thread n) LogLine :=
  ⟨labelThread, notes, reports self tids⟩

/-- `main_sem` is initialised, and nothing else is done. -/
def initialLogged (n : Nat) (rand : Rand) : Logged (State n) (Thread n) LogLine where
  state := initialState n rand
  phases := fun _ => .after []
  log := [.syncMechSem mainThreadId .semInit .producer adminAccountId.toInt32 0]

abbrev LoggedEvent (n : Nat) :=
  Event (Logged (State n) (Thread n) LogLine) (Label n) (Option Action)

/-- Any interleaving of the threads, with all that they write to `SERVER_LOGFILE`. -/
def executeLogged (generateSha256Hash : CString → CString → CString) {n : Nat} (rand : Rand)
    (adminPassword : CString) (self : Nat) (tids : Fin n → UInt64) (labels : List (Label n)) :
    Option (List (LoggedEvent n) × Logged (State n) (Thread n) LogLine) :=
  run ((reporter self tids).step (step generateSha256Hash adminPassword)) (initialLogged n rand)
    labels

end Reports

/-- The lines that an office writes between its `lock_mutex` and its `unlock_mutex`. -/
def LogLine.guarded : LogLine → Bool
  | .request _ | .reply _ | .syncDelay _ _ _ | .syncMech _ .mutexLock _ _ => true
  | .accountCreation line => line.id != mainThreadId
  | .syncMechSem id .semInit .account _ _ => id != mainThreadId
  | .syncMechSem _ _ .account _ _ => true
  | _ => false

section Guarded

variable {generateSha256Hash : CString → CString → CString} {n : Nat} {rand : Rand}
  {adminPassword : CString} {self : Nat} {tids : Fin n → UInt64}

/-- Without its log the server is the server. -/
theorem executeLogged_statements {labels : List (Label n)} {events : List (LoggedEvent n)}
    {last : Logged (State n) (Thread n) LogLine}
    (ran : executeLogged generateSha256Hash rand adminPassword self tids labels =
      some (events, last)) :
    execute generateSha256Hash rand adminPassword ((statements events).map (·.input)) =
      some (statements events, last.state) :=
  run_statements ran

theorem mainNotes_unguarded (state : State n) : (mainNotes state).filter LogLine.guarded = [] := by
  unfold mainNotes
  split
  · rfl
  · rfl
  · split <;> rfl
  · rfl

theorem officeNotes_outside (shared : Shared n) (id : Nat) {pc : OfficePc}
    (outside : pc.inside = false) : (officeNotes shared id pc).filter LogLine.guarded = [] := by
  cases pc <;> first | rfl | cases outside

theorem officeReports_outside (self : Nat) (before after : Bank) (id : Nat) (opened : Bool)
    {pc : OfficePc} (outside : pc.inside = false) (notLock : pc ≠ .lock) :
    (officeReports self before after id opened pc).filter LogLine.guarded = [] := by
  cases pc with
  | lock => exact absurd rfl notLock
  | _ => first | rfl | cases outside

/-- The line of a new account names the thread that created it. -/
theorem fillBankAccount_lines {before after : Bank} {accData : ReqCreateAccount} {id : Nat}
    {filled : Bool}
    (fills : fillBankAccount generateSha256Hash before accData id = some (filled, after)) :
    fillingLines before after = [] ∨ ∃ account,
      fillingLines before after = [.accountCreation (logAccountCreation id account)] := by
  simp only [fillBankAccount, Option.bind_eq_bind, Option.bind_eq_some_iff] at fills
  obtain ⟨active, -, fills⟩ := fills
  cases active with
  | true =>
      simp only [↓reduceIte, Option.pure_def, Option.some.injEq, Prod.mk.injEq] at fills
      left
      rw [← fills.2, fillingLines, List.drop_length, List.map_nil]
  | false =>
      simp only [Bool.false_eq_true, ↓reduceIte, Option.bind_eq_some_iff, Option.pure_def,
        Option.some.injEq, Prod.mk.injEq] at fills
      obtain ⟨index, -, -, same⟩ := fills
      right
      rw [← same, fillingLines]
      exact ⟨_, by rw [List.drop_left]; rfl⟩

variable {state state' : State n} {action : Action}

theorem mainReports_unguarded {received : Option TlvRequest}
    (move : MainMove generateSha256Hash adminPassword state received state' action)
    (notLock : ∀ request, state.main ≠ .lock request) :
    (mainReports tids state state').filter LogLine.guarded = [] := by
  cases move with
  | createAdmin here bank fills | keepAdmin here bank fills =>
      simp only [mainReports, here]
      rcases fillBankAccount_lines fills with none | ⟨account, lines⟩
      · rw [none]
        rfl
      · rw [lines]
        rfl
  | spawn started here inside | join joined here inside =>
      simp only [mainReports, here, dif_pos inside]
      rfl
  | spawned started here all | joined joined here all =>
      simp only [mainReports, here, dif_neg all]
      rfl
  | leave here closed =>
      simp only [mainReports, here, closed, ↓reduceIte]
      rfl
  | enter here running =>
      simp only [mainReports, here, running, Bool.false_eq_true, ↓reduceIte]
      rfl
  | lock request here => exact absurd here (notLock request)
  | _ =>
      simp only [mainReports, *]
      rfl

/-- Where the server is when requests come only after the administrator's account. -/
structure Orderly (state : State n) : Prop where
  protocol : Protocol state
  noneYet : NoneYet state

theorem initialState_orderly : Orderly (initialState n rand) :=
  ⟨initialState_protocol, fun _ => initialState_allRequests _⟩

theorem Orderly.next {label : Label n} (orderly : Orderly state)
    (fired : step generateSha256Hash adminPassword state label = some (state', action)) :
    Orderly state' := by
  refine ⟨orderly.protocol.step fired, ?_⟩
  rcases step_move fired with ⟨received, -, move⟩ | ⟨i, buffer, opened, shared', pc', -, move, rfl⟩
  · exact orderly.noneYet.main_move orderly.protocol move
  · exact fun beforeLoop => (orderly.noneYet beforeLoop).office_move move

/-- Who owns the mutex changes only by what that thread does. -/
theorem Orderly.owner (orderly : Orderly state) {label : Label n}
    (fired : step generateSha256Hash adminPassword state label = some (state', action))
    {thread : Thread n} (apart : thread ≠ labelThread label) :
    state'.shared.mutex = some thread ↔ state.shared.mutex = some thread := by
  rcases step_move fired with ⟨received, rfl, move⟩ |
    ⟨i, buffer, opened, shared', pc', rfl, move, rfl⟩
  · rcases move.mutex with ⟨same, -⟩ | ⟨free, taken, -⟩ | ⟨inside, free, -⟩
    · rw [same]
    · simp [free, taken, labelThread] at apart ⊢
      exact fun same => apart same.symm
    · have owner : state.shared.mutex = some .main := (orderly.protocol.lock .main).mp inside
      simp [free, owner, labelThread] at apart ⊢
      exact fun same => apart same.symm
  · dsimp only
    rcases move.mutex with ⟨same, -⟩ | ⟨free, taken, -⟩ | ⟨inside, free, -⟩
    · rw [same]
    · simp [free, taken, labelThread] at apart ⊢
      exact fun same => apart same.symm
    · have owner : state.shared.mutex = some (.office i) :=
        (orderly.protocol.lock (.office i)).mp inside
      simp [free, owner, labelThread] at apart ⊢
      exact fun same => apart same.symm

/-- What the owner of the mutex notes is about the accounts. -/
theorem officeNotes_congr {shared shared' : Shared n} (id : Nat) {pc : OfficePc}
    (inside : pc.inside = true) (same : shared'.globals.bank = shared.globals.bank) :
    officeNotes shared' id pc = officeNotes shared id pc := by
  cases pc <;> first | (simp only [officeNotes, same]; done) | rfl | cases inside

/-- Nobody else changes what the owner of the mutex notes. -/
theorem Orderly.notes_same (orderly : Orderly state) {label : Label n} {i : Fin n}
    (fired : step generateSha256Hash adminPassword state label = some (state', action))
    (owns : state.shared.mutex = some (.office i)) (apart : Thread.office i ≠ labelThread label) :
    notes state' (.office i) = notes state (.office i) := by
  have inside : (state.offices i).inside = true := (orderly.protocol.lock (.office i)).mpr owns
  rcases step_move fired with ⟨received, rfl, move⟩ |
    ⟨j, buffer, opened, shared', pc', rfl, move, rfl⟩
  · have here : state'.offices i = state.offices i := by
      rcases move.office orderly.protocol.spawning i with same | ⟨fresh, -⟩
      · exact same
      · rw [fresh] at inside
        cases inside
    rw [notes, notes, here]
    rcases move.bank with same | setUp
    · exact officeNotes_congr _ inside same
    · -- while the first account is created there is no request to note anything about
      have none := (orderly.noneYet setUp).office i
      generalize state.offices i = pc at inside none
      cases pc <;> first | rfl | exact (none _ rfl).elim | cases inside
  · have other : i ≠ j := fun same => apart (by rw [same]; rfl)
    have outside : (state.offices j).inside = false := by
      by_contra inside'
      have owns' : state.shared.mutex = some (.office j) :=
        (orderly.protocol.lock (.office j)).mp (by simpa [State.inside] using inside')
      rw [owns, Option.some.injEq, Thread.office.injEq] at owns'
      exact other owns'
    rw [notes, notes]
    dsimp only
    rw [Function.update_of_ne other]
    exact officeNotes_congr _ inside (move.bank_outside outside)

theorem reports_silent (orderly : Orderly state) {label : Label n}
    (fired : step generateSha256Hash adminPassword state label = some (state', action))
    (left : state'.shared.mutex ≠ some (labelThread label)) :
    (reports self tids ⟨state, label, action, state'⟩).filter LogLine.guarded = [] := by
  rcases step_move fired with ⟨received, rfl, move⟩ |
    ⟨i, buffer, opened, shared', pc', rfl, move, rfl⟩
  · apply mainReports_unguarded move
    intro request here
    cases move with
    | lock => exact left rfl
    | _ => simp [here] at *
  · dsimp only [labelThread] at left
    rw [reports]
    dsimp only
    rcases move.mutex with ⟨same, side⟩ | ⟨-, taken, -⟩ | ⟨inside, free, outside'⟩
    · have outside : (state.offices i).inside = false := by
        by_contra inside
        have owns := (orderly.protocol.lock (.office i)).mp (by simpa [State.inside] using inside)
        exact left (same.trans owns)
      apply officeReports_outside _ _ _ _ _ outside
      intro here
      rw [here] at move side
      cases move
      cases side
    · exact absurd taken left
    · generalize state.offices i = pc at move inside
      cases move with
      | unlock => rfl
      | _ => first | (cases inside; done) | cases outside'

/-- The guarded lines are written by the owner of the mutex, about what it did. -/
theorem slog_guards (generateSha256Hash : CString → CString → CString) (adminPassword : CString)
    (self : Nat) (tids : Fin n → UInt64) :
    Guards (reporter self tids) (step generateSha256Hash adminPassword) Orderly LogLine.guarded
      (fun state => state.shared.mutex) where
  kept := fun _ fired orderly => orderly.next fired
  notes := by
    intro state thread orderly free
    cases thread with
    | main => exact mainNotes_unguarded state
    | office i =>
        apply officeNotes_outside
        by_contra inside
        exact free ((orderly.protocol.lock (.office i)).mp (by simpa [State.inside] using inside))
  reports := fun _ fired orderly left => reports_silent orderly fired left
  others := by
    intro event fired orderly thread apart
    refine ⟨orderly.owner fired apart, fun owns => ?_⟩
    cases thread with
    | main => exact (mainNotes_unguarded _).trans (mainNotes_unguarded _).symm
    | office i => exact congrArg _ (orderly.notes_same fired owns apart)

theorem initialLogged_tells :
    Tells (reporter self tids) LogLine.guarded (fun state => state.shared.mutex) []
      (initialLogged n rand) :=
  tells_start (fun _ => rfl) rfl

/-- In every interleaving the guarded lines follow the statements. -/
theorem executeLogged_tells {labels : List (Label n)} {events : List (LoggedEvent n)}
    {last : Logged (State n) (Thread n) LogLine}
    (ran : executeLogged generateSha256Hash rand adminPassword self tids labels =
      some (events, last)) :
    Orderly last.state ∧ Tells (reporter self tids) LogLine.guarded
      (fun state => state.shared.mutex) (statements events) last :=
  run_tells (slog_guards generateSha256Hash adminPassword self tids) ran initialState_orderly
    initialLogged_tells

end Guarded

end Sope.Log
