import Sope.Log.Sections

set_option autoImplicit false

/- The account semaphores in the server log. The value that is logged is read before the line
is written and before the call is made, and in between other threads move. Under the mutex it
is all the same the value that the call finds. -/
namespace Sope.Log

open Machine Banking Server Journal

/-- What a line tells of `wait_sem` and `post_sem` on the semaphore of an account. -/
def semaphoreLine (index : AccountId) : LogLine → Option (SyncMechOp × Nat)
  | .syncMechSem _ .semWait .account sid val =>
      if accountIndex sid.toUInt32 = some index then some (.semWait, val) else none
  | .syncMechSem _ .semPost .account sid val =>
      if accountIndex sid.toUInt32 = some index then some (.semPost, val) else none
  | _ => none

/-- `SEM_WAIT` with the value 1 and `SEM_POST` with the value 0, in turn. -/
def rounds (m : Nat) : List (SyncMechOp × Nat) :=
  (List.replicate m [(.semWait, 1), (.semPost, 0)]).flatten

theorem rounds_succ (m : Nat) : rounds (m + 1) = rounds m ++ [(.semWait, 1), (.semPost, 0)] := by
  rw [rounds, List.replicate_succ', List.flatten_append, List.flatten_singleton, rounds]

section Lines

variable {n : Nat} {self : Nat} {tids : Fin n → UInt64} {index : AccountId}

theorem semaphoreLine_guarded {line : LogLine} (unguarded : line.guarded = false) :
    semaphoreLine index line = none := by
  unfold semaphoreLine
  split <;> first | rfl | cases unguarded

theorem filterMap_guarded (lines : List LogLine) :
    (lines.filter LogLine.guarded).filterMap (semaphoreLine index) =
      lines.filterMap (semaphoreLine index) := by
  rw [List.filterMap_filter]
  apply List.filterMap_congr
  intro line _
  cases guarded : line.guarded with
  | true => rfl
  | false => exact (semaphoreLine_guarded guarded).symm

theorem accountNote_semaphore {accounts : Accounts} {id : Nat} {smo : SyncMechOp}
    {accountId : UInt32} {account sem : AccountId}
    (call : smo = .semWait ∨ smo = .semPost) (found : accountIndex accountId = some account)
    (active : (accounts account).active = true) :
    (accountNote accounts id smo accountId (some sem)).filterMap (semaphoreLine index) =
      if account = index then [(smo, (accounts sem).semaphore)] else [] := by
  simp only [accountNote, found, active, ↓reduceIte]
  rcases call with rfl | rfl <;>
  · by_cases same : account = index
    · subst same
      simp [semaphoreLine, found]
    · simp [semaphoreLine, found, same]

theorem accountNote_inactive {accounts : Accounts} {id : Nat} {smo : SyncMechOp}
    {accountId : UInt32} {account : AccountId} (sem : Option AccountId)
    (found : accountIndex accountId = some account)
    (inactive : (accounts account).active = false) :
    accountNote accounts id smo accountId sem = [] := by
  cases sem with
  | none => simp only [accountNote, found]
  | some sem => simp only [accountNote, found, inactive, Bool.false_eq_true, ↓reduceIte]

theorem creationLines_semaphore (before after : Bank) (id : Nat) (accountId : UInt32) :
    (creationLines before after id accountId).filterMap (semaphoreLine index) = [] := by
  apply List.filterMap_eq_nil_iff.mpr
  intro line member
  obtain ⟨account, -, member⟩ := List.mem_flatMap.mp member
  rcases List.mem_cons.mp member with rfl | member
  · rfl
  · rw [List.mem_singleton.mp member]
    rfl

theorem accountDelay_semaphore (accounts : Accounts) (id : Nat) (accountId delayMs : UInt32) :
    (accountDelay accounts id accountId delayMs).filterMap (semaphoreLine index) = [] := by
  unfold accountDelay
  split
  · split <;> rfl
  · rfl

theorem requestLines_semaphore (id : Nat) (request : TlvRequest) :
    (requestLines self id request).filterMap (semaphoreLine index) = [] := by
  rw [requestLines, List.filterMap_map]
  exact List.filterMap_eq_nil_iff.mpr fun _ _ => rfl

theorem replyLines_semaphore (id : Nat) (reply : TlvReply) :
    (replyLines self id reply).filterMap (semaphoreLine index) = [] := by
  rw [replyLines, List.filterMap_map]
  exact List.filterMap_eq_nil_iff.mpr fun _ _ => rfl

/-- Behind its statements an office logs nothing about the semaphores. -/
theorem officeReports_semaphore (before after : Bank) (id : Nat) (opened : Bool) (pc : OfficePc) :
    (officeReports self before after id opened pc).filterMap (semaphoreLine index) = [] := by
  unfold officeReports
  split
  · rfl
  · exact requestLines_semaphore _ _
  · exact accountDelay_semaphore _ _ _ _
  · split
    · exact accountDelay_semaphore _ _ _ _
    · rfl
  · exact creationLines_semaphore _ _ _ _
  · exact replyLines_semaphore _ _
  · rfl
  · rfl

theorem fillingLines_semaphore (before after : Bank) :
    (fillingLines before after).filterMap (semaphoreLine index) = [] := by
  rw [fillingLines, List.filterMap_map, List.filterMap_eq_nil_iff]
  exact fun _ _ => rfl

theorem mainReports_semaphore (before after : State n) :
    (mainReports tids before after).filterMap (semaphoreLine index) = [] := by
  unfold mainReports
  split
  · split <;> rfl
  · exact fillingLines_semaphore _ _
  · split <;> rfl
  · rfl
  · rfl
  · split <;> rfl
  · rfl

theorem mainNotes_semaphore (state : State n) :
    (mainNotes state).filterMap (semaphoreLine index) = [] := by
  rw [← filterMap_guarded, mainNotes_unguarded]
  rfl

end Lines

/-- What one statement can do with an account, and what is logged of that. -/
inductive SemaphoreMove (before after : BankAccountSem) : List (SyncMechOp × Nat) → Prop where
  | keep (active : after.active = before.active) (semaphore : after.semaphore = before.semaphore) :
      SemaphoreMove before after []
  | create (whole : before.active = true → before.semaphore = 1) (semaphore : after.semaphore = 1) :
      SemaphoreMove before after []
  | wait (active : after.active = true) (unit : before.semaphore = 1)
      (taken : after.semaphore = 0) : SemaphoreMove before after [(.semWait, 1)]
  | post (active : before.active = true) (none : before.semaphore = 0)
      (given : after.semaphore = 1) : SemaphoreMove before after [(.semPost, 0)]

/-- The log has whole rounds of the account, and the wait of one whose unit is taken. -/
def SemaphoreLogged (account : BankAccountSem) (lines : List (SyncMechOp × Nat)) : Prop :=
  ∃ m, lines = rounds m ++
    if account.active = true ∧ account.semaphore = 0 then [(.semWait, 1)] else []

theorem SemaphoreLogged.move {before after : BankAccountSem}
    {lines new : List (SyncMechOp × Nat)} (logged : SemaphoreLogged before lines)
    (move : SemaphoreMove before after new) : SemaphoreLogged after (lines ++ new) := by
  obtain ⟨m, rfl⟩ := logged
  cases move with
  | keep active semaphore => exact ⟨m, by rw [active, semaphore, List.append_nil]⟩
  | create whole semaphore =>
      refine ⟨m, ?_⟩
      have rest : ¬ (before.active = true ∧ before.semaphore = 0) := by
        rintro ⟨active, none⟩
        have unit := whole active
        omega
      simp [rest, semaphore]
  | wait active unit taken => exact ⟨m, by simp [active, unit, taken]⟩
  | post active none given =>
      refine ⟨m + 1, ?_⟩
      rw [rounds_succ]
      simp [active, none, given]

section Moves

variable {generateSha256Hash : CString → CString → CString} {n : Nat} {rand : Rand}
  {adminPassword : CString} {self : Nat} {tids : Fin n → UInt64} {index : AccountId}
  {shared shared' : Shared n} {i : Fin n} {pc pc' : OfficePc} {action : Action}

/-- Taking the unit that is there. -/
theorem SemaphoreMove.ofWait {accounts accounts' : Accounts} {account : AccountId}
    (active : (accounts account).active = true) (unit : (accounts account).semaphore = 1)
    (taken : waitSem accounts account = some accounts') :
    SemaphoreMove (accounts index) (accounts' index)
      (if account = index then [(.semWait, (accounts account).semaphore)] else []) := by
  obtain ⟨flag, value⟩ := waitSem_units taken index
  by_cases same : account = index
  · subst same
    rw [if_pos rfl] at value ⊢
    rw [unit] at value ⊢
    exact .wait (flag.trans active) unit (by omega)
  · rw [if_neg same] at value ⊢
    exact .keep flag value

theorem SemaphoreMove.ofPost {accounts : Accounts} {account : AccountId}
    (active : (accounts account).active = true) (none : (accounts account).semaphore = 0) :
    SemaphoreMove (accounts index) (postSem accounts account index)
      (if account = index then [(.semPost, (accounts account).semaphore)] else []) := by
  obtain ⟨flag, value⟩ := postSem_units accounts account index
  by_cases same : account = index
  · subst same
    rw [if_pos rfl] at value ⊢
    rw [none] at value ⊢
    exact .post active none value
  · rw [if_neg same] at value ⊢
    exact .keep flag value

theorem Balanced.account_taken {accounts : Accounts} {request : TlvRequest}
    {targetSem : Option AccountId} {reply : TlvReply} {account : AccountId}
    (balanced : Balanced accounts (.postAccount request targetSem reply))
    (found : accountIndex request.value.header.accountId = some account)
    (active : (accounts account).active = true) : (accounts account).semaphore = 0 := by
  have units := balanced.units account active
  simp only [OfficePc.held, accountHeld_of_found found, ↓reduceIte] at units
  omega

theorem Balanced.target_taken {accounts : Accounts} {request : TlvRequest} {reply : TlvReply}
    {target target' : AccountId}
    (balanced : Balanced accounts (.postTarget request (some target') reply))
    (transfer : request.type = .transfer)
    (found : accountIndex request.value.transfer.accountId = some target)
    (active : (accounts target).active = true) :
    target' = target ∧ (accounts target).semaphore = 0 := by
  have assigned := balanced.relies.2 target transfer found
  rw [if_pos active, Option.some.injEq] at assigned
  have units := balanced.units target active
  simp only [OfficePc.held, targetHeld, assigned, ↓reduceIte] at units
  exact ⟨assigned, by omega⟩

/-- One statement of the office that owns the mutex. -/
theorem OfficeMove.semaphore
    (move : OfficeMove generateSha256Hash shared i pc shared' pc' action)
    (balanced : Balanced shared.globals.bank.accounts pc) :
    SemaphoreMove (shared.globals.bank.accounts index) (shared'.globals.bank.accounts index)
      ((officeNotes shared (i.val + 1) pc).filterMap (semaphoreLine index)) := by
  cases move with
  | waitAccount request account found active accounts taken =>
      rw [Shared.withAccounts_accounts, officeNotes, found,
        accountNote_semaphore (.inl rfl) found active]
      exact .ofWait active (balanced.account_unit active) taken
  | skipAccount request account found inactive =>
      rw [officeNotes, accountNote_inactive _ found inactive]
      exact .keep rfl rfl
  | waitTarget request target transfer found active accounts taken =>
      rw [Shared.withAccounts_accounts, officeNotes, if_pos transfer, found,
        accountNote_semaphore (.inl rfl) found active]
      exact .ofWait active (balanced.target_unit transfer found active) taken
  | skipTarget request inactive =>
      by_cases transfer : request.type = .transfer
      · obtain ⟨target, found, inactive⟩ := inactive transfer
        rw [officeNotes, if_pos transfer, accountNote_inactive _ found inactive]
        exact .keep rfl rfl
      · rw [officeNotes, if_neg transfer]
        exact .keep rfl rfl
  | build request targetSem buffer bank reply replied =>
      rcases outcome_units (buildTlvReply_outcome replied) index with
        ⟨flag, semaphore⟩ | ⟨create, other, semaphore⟩
      · exact .keep flag semaphore
      · refine .create (fun active => ?_) semaphore
        have assigned : TargetAssigned shared.globals.bank.accounts request targetSem :=
          balanced.relies
        have none := assigned.1 (by rw [create]; exact OpType.noConfusion)
        have units := balanced.units index active
        simpa only [OfficePc.held, accountHeld, targetHeld, if_neg other, none, reduceCtorEq,
          ↓reduceIte, Nat.add_zero] using units
  | postAccount request targetSem reply account found active =>
      rw [Shared.withAccounts_accounts, officeNotes, found,
        accountNote_semaphore (.inr rfl) found active]
      exact .ofPost active (Balanced.account_taken balanced found active)
  | keepAccount request targetSem reply account found inactive =>
      rw [officeNotes, accountNote_inactive _ found inactive]
      exact .keep rfl rfl
  | postTarget request target target' reply transfer found active =>
      obtain ⟨rfl, none⟩ := Balanced.target_taken balanced transfer found active
      rw [Shared.withAccounts_accounts, officeNotes, if_pos transfer,
        accountNote_semaphore (.inr rfl) found active]
      exact .ofPost active none
  | keepTarget request targetSem reply inactive =>
      by_cases transfer : request.type = .transfer
      · obtain ⟨target, found, inactive⟩ := inactive transfer
        rw [officeNotes, if_pos transfer, accountNote_inactive _ found inactive]
        exact .keep rfl rfl
      · rw [officeNotes, if_neg transfer]
        exact .keep rfl rfl
  | prepareShutdown request reply =>
      dsimp only
      rw [prepareShutdown_bank]
      exact .keep rfl rfl
  | _ => exact .keep rfl rfl

theorem accountNote_move {accounts : Accounts} {id : Nat} {smo : SyncMechOp} {accountId : UInt32}
    {sem : Option AccountId}
    (moves : ∀ account, accountIndex accountId = some account →
      (accounts account).active = true → ∃ after, SemaphoreMove (accounts index) after
        ((accountNote accounts id smo accountId sem).filterMap (semaphoreLine index))) :
    ∃ after, SemaphoreMove (accounts index) after
      ((accountNote accounts id smo accountId sem).filterMap (semaphoreLine index)) := by
  cases found : accountIndex accountId with
  | none =>
      simp only [accountNote, found]
      exact ⟨_, .keep rfl rfl⟩
  | some account =>
      cases active : (accounts account).active with
      | true => exact moves account found active
      | false =>
          rw [accountNote_inactive _ found active]
          exact ⟨_, .keep rfl rfl⟩

/-- What an office has noted is of a statement that it can make. -/
theorem officeNotes_move (index : AccountId) (id : Nat)
    (balanced : Balanced shared.globals.bank.accounts pc) :
    ∃ after, SemaphoreMove (shared.globals.bank.accounts index) after
      ((officeNotes shared id pc).filterMap (semaphoreLine index)) := by
  have waits {account : AccountId} (unit : (shared.globals.bank.accounts account).semaphore = 1) :
      ∃ accounts, waitSem shared.globals.bank.accounts account = some accounts :=
    ⟨_, waitSem_eq_some.mpr ⟨by omega, rfl⟩⟩
  cases pc with
  | waitAccount request =>
      refine accountNote_move fun account found active => ?_
      have unit := balanced.account_unit active
      obtain ⟨accounts, taken⟩ := waits unit
      rw [found, accountNote_semaphore (.inl rfl) found active]
      exact ⟨_, .ofWait active unit taken⟩
  | waitTarget request =>
      by_cases transfer : request.type = .transfer
      · rw [officeNotes, if_pos transfer]
        refine accountNote_move fun target found active => ?_
        have unit := balanced.target_unit transfer found active
        obtain ⟨accounts, taken⟩ := waits unit
        rw [found, accountNote_semaphore (.inl rfl) found active]
        exact ⟨_, .ofWait active unit taken⟩
      · rw [officeNotes, if_neg transfer]
        exact ⟨_, .keep rfl rfl⟩
  | postAccount request targetSem reply =>
      refine accountNote_move fun account found active => ?_
      rw [found, accountNote_semaphore (.inr rfl) found active]
      exact ⟨_, .ofPost active (Balanced.account_taken balanced found active)⟩
  | postTarget request targetSem reply =>
      by_cases transfer : request.type = .transfer
      · rw [officeNotes, if_pos transfer]
        refine accountNote_move fun target found active => ?_
        have assigned := balanced.relies.2 target transfer found
        rw [if_pos active] at assigned
        rw [assigned] at balanced ⊢
        rw [accountNote_semaphore (.inr rfl) found active]
        exact ⟨_, .ofPost active (Balanced.target_taken balanced transfer found active).2⟩
      · rw [officeNotes, if_neg transfer]
        exact ⟨_, .keep rfl rfl⟩
  | _ => exact ⟨_, .keep rfl rfl⟩

theorem SemaphoreLogged.in_rounds {account : BankAccountSem} {lines : List (SyncMechOp × Nat)}
    (logged : SemaphoreLogged account lines) : ∃ m, lines <+: rounds m := by
  obtain ⟨m, rfl⟩ := logged
  refine ⟨m + 1, ?_⟩
  rw [rounds_succ, List.prefix_append_right_inj]
  split
  · exact List.prefix_append [(SyncMechOp.semWait, 1)] [(.semPost, 0)]
  · exact List.nil_prefix

variable {state state' : State n}

theorem current_noRequest (nothing : AllRequests (fun _ => False) state) :
    state.current.request = none := by
  unfold State.current
  split
  · rename_i i _
    cases holds : (state.offices i).request with
    | none => rfl
    | some request => exact (nothing.office i request holds).elim
  · rfl

/-- Main gives the administrator's account its unit. -/
theorem createBankAccount_move {bank bank' : Bank} {created : Bool}
    (whole : (bank.accounts index).active = true → (bank.accounts index).semaphore = 1)
    (creates : createBankAccount generateSha256Hash bank (adminAccount adminPassword)
      mainThreadId = some (created, bank')) :
    SemaphoreMove (bank.accounts index) (bank'.accounts index) [] := by
  cases admin : bank.accounts.isActive adminIndex with
  | true =>
      rw [createBankAccount_of_active accountIndex_admin admin] at creates
      cases creates
      exact .keep rfl rfl
  | false =>
      rw [createBankAccount_of_inactive accountIndex_admin admin] at creates
      cases creates
      by_cases isAdmin : index = adminIndex
      · subst isAdmin
        refine .create whole ?_
        rw [withAccount_self]
        rfl
      · rw [withAccount_of_ne _ _ _ isAdmin]
        exact .keep rfl rfl

theorem told_semaphore (orderly : Orderly state)
    (balanced : Balanced state.initialised state.current) {label : Label n}
    (fired : step generateSha256Hash adminPassword state label = some (state', action)) :
    SemaphoreMove (state.initialised index) (state'.initialised index)
      ((told (reporter self tids) LogLine.guarded ⟨state, label, action, state'⟩).filterMap
        (semaphoreLine index)) := by
  rw [told, filterMap_guarded, List.filterMap_append]
  rcases step_move fired with ⟨received, rfl, move⟩ |
    ⟨i, buffer, opened, shared', pc', rfl, move, rfl⟩
  · have silent : (notes state (.main : Thread n)).filterMap (semaphoreLine index) = [] :=
      mainNotes_semaphore state
    simp only [reporter, labelThread, reports, silent, mainReports_semaphore, List.append_nil]
    rcases move.initialised with same | ⟨here, created, bank, creates, after⟩
    · rw [same]
      exact .keep rfl rfl
    · rw [initialised_of_ne (by rw [here]; exact MainPc.noConfusion)] at balanced ⊢
      rw [← after]
      refine createBankAccount_move (fun active => ?_) creates
      have noRequest := current_noRequest (orderly.noneYet (by rw [here]; rfl))
      have units := balanced.units index active
      rwa [(held_of_no_request noRequest state.shared.globals.bank.accounts).1, Nat.add_zero]
        at units
  · simp only [reporter, labelThread, notes, reports, officeReports_semaphore, List.append_nil]
    cases inside : (state.offices i).inside with
    | true =>
        have elsewhere := orderly.noneYet.ne_initSem orderly.protocol inside
        have after : State.initialised { state with
            shared := shared', offices := Function.update state.offices i pc' } =
            shared'.globals.bank.accounts := initialised_of_ne elsewhere
        rw [initialised_of_ne elsewhere] at balanced ⊢
        rw [after]
        exact OfficeMove.semaphore move (orderly.protocol.current_eq inside ▸ balanced)
    | false =>
        rw [← filterMap_guarded, officeNotes_outside _ _ inside]
        simp only [State.initialised, move.bank_outside inside]
        exact .keep rfl rfl

theorem execute_told_semaphore (self : Nat) (tids : Fin n → UInt64) (index : AccountId)
    {labels : List (Label n)} {events : List (StepEvent n)}
    (ran : execute generateSha256Hash rand adminPassword labels = some (events, state))
    (apart : ∀ event ∈ events, ¬ PopsSelfTransfer event) :
    SemaphoreLogged (state.initialised index)
      ((events.flatMap (told (reporter self tids) LogLine.guarded)).filterMap
        (semaphoreLine index)) := by
  refine (run_induction ran
    (fun past state => Orderly state ∧ ((∀ event ∈ past, ¬ PopsSelfTransfer event) →
      SemaphoreLogged (state.initialised index)
        ((past.flatMap (told (reporter self tids) LogLine.guarded)).filterMap
          (semaphoreLine index))))
    ⟨initialState_orderly, fun _ => ⟨0, rfl⟩⟩ ?_).2 apart
  intro past state label action state' _ reached ⟨orderly, logged⟩ fired
  refine ⟨orderly.next fired, fun apart => ?_⟩
  have before := fun event member => apart event (List.mem_append_left _ member)
  rw [List.flatMap_append, List.flatMap_singleton, List.filterMap_append]
  exact (logged before).move (told_semaphore orderly (execute_balanced reached before) fired)

/-- In every interleaving that pops no transfer from an active account to itself, the log has
for each account a `SEM_WAIT` that finds its one unit and a `SEM_POST` that finds none, in turn:
the value that was read before the call is the one that the call found. -/
theorem slog_semaphores (generateSha256Hash : CString → CString → CString) (rand : Rand)
    (adminPassword : CString) (self : Nat) (tids : Fin n → UInt64) (labels : List (Label n))
    {events : List (LoggedEvent n)} {last : Logged (State n) (Thread n) LogLine}
    (ran : executeLogged generateSha256Hash rand adminPassword self tids labels =
      some (events, last))
    (apart : ∀ event ∈ statements events, ¬ PopsSelfTransfer event) (index : AccountId) :
    ∃ m, last.log.filterMap (semaphoreLine index) <+: rounds m := by
  obtain ⟨orderly, tells⟩ := executeLogged_tells ran
  have executed := executeLogged_statements ran
  have logged := execute_told_semaphore self tids index executed apart
  have balanced := execute_balanced executed apart
  have front := tells.log_prefix.filterMap (semaphoreLine index)
  rw [filterMap_guarded, List.filterMap_append] at front
  suffices whole : ∃ m, _ <+: rounds m from whole.imp fun _ => front.trans
  cases owner : last.state.shared.mutex with
  | none =>
      simp only [Option.toList_none, List.flatMap_nil, List.filterMap_nil, List.append_nil]
      exact logged.in_rounds
  | some thread =>
      simp only [Option.toList_some, List.flatMap_singleton, filterMap_guarded]
      cases thread with
      | main =>
          have silent : (notes last.state (.main : Thread n)).filterMap (semaphoreLine index) =
              [] := mainNotes_semaphore last.state
          simp only [reporter, silent, List.append_nil]
          exact logged.in_rounds
      | office i =>
          have inside : (last.state.offices i).inside = true :=
            (orderly.protocol.lock (.office i)).mpr owner
          have elsewhere := orderly.noneYet.ne_initSem orderly.protocol inside
          rw [initialised_of_ne elsewhere] at balanced logged
          obtain ⟨after, move⟩ := officeNotes_move index (i.val + 1)
            (orderly.protocol.current_eq inside ▸ balanced)
          exact (logged.move move).in_rounds

end Moves

theorem loggedTransfer_semaphores :
    ∃ events last,
      executeLogged sessionHash sessionRand ultraTopSecret 300 twoThreads loggedTransfer =
        some (events, last) ∧
      last.log.filterMap (semaphoreLine 1) = rounds 1 ∧
      ∃ m, last.log.filterMap (semaphoreLine 1) <+: rounds m := by
  have defined :
      (executeLogged sessionHash sessionRand ultraTopSecret 300 twoThreads loggedTransfer).map
        (·.2.log.filterMap (semaphoreLine 1)) = some (rounds 1) := by
    decide +kernel
  obtain ⟨⟨events, last⟩, ran, lines⟩ := Option.map_eq_some_iff.mp defined
  have apart := no_selfTransfer (executeLogged_statements ran) fun label member =>
    (by decide : ∀ label ∈ loggedTransfer, ∀ request ∈ label.received,
      request.type = .transfer →
        request.value.header.accountId ≠ request.value.transfer.accountId)
      label (statements_inputs ran label member)
  exact ⟨events, last, ran, lines,
    slog_semaphores sessionHash sessionRand ultraTopSecret 300 twoThreads loggedTransfer ran apart
      1⟩

end Sope.Log
