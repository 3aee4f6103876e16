import Sope.Log.Slog

set_option autoImplicit false

/- The mutex in the server log. Every line about a request, an account or a new account is
behind a `MUTEX_LOCK` of the same thread, with no other thread's in between, and the account
semaphores are always logged with the values that a free mutex leaves them. -/
namespace Sope.Log

open Machine Banking Server Journal

/-- The line of a `lock_mutex`. -/
def LogLine.isLock : LogLine → Bool
  | .syncMech _ .mutexLock _ _ => true
  | _ => false

/-- The thread that was the last one to log that it has the mutex. -/
def lastLock (lines : List LogLine) : Option Nat :=
  ((lines.filter LogLine.isLock).map LogLine.id).getLast?

/-- Every guarded line is by the thread that logged the mutex last. -/
def Sectioned (lines : List LogLine) : Prop :=
  ∀ before line after, lines = before ++ line :: after → line.guarded = true →
    line.isLock = false → lastLock before = some line.id

section Lists

variable {lines lines' : List LogLine} {line : LogLine}

theorem guarded_of_isLock (lock : line.isLock = true) : line.guarded = true := by
  unfold LogLine.isLock at lock
  split at lock
  · rfl
  · cases lock

theorem lastLock_filter (lines : List LogLine) :
    lastLock (lines.filter LogLine.guarded) = lastLock lines := by
  have both : (lines.filter LogLine.guarded).filter LogLine.isLock =
      lines.filter LogLine.isLock := by
    rw [List.filter_filter]
    apply List.filter_congr
    intro line _
    cases lock : line.isLock with
    | true => rw [guarded_of_isLock lock]; rfl
    | false => rfl
  rw [lastLock, both, lastLock]

theorem lastLock_append_lock (lock : line.isLock = true) :
    lastLock (lines ++ [line]) = some line.id := by
  simp [lastLock, List.filter_append, lock]

theorem lastLock_append (none : ∀ line ∈ lines', line.isLock = false) :
    lastLock (lines ++ lines') = lastLock lines := by
  have silent : lines'.filter LogLine.isLock = [] := by
    apply List.filter_eq_nil_iff.mpr
    intro line member
    simp [none line member]
  rw [lastLock, List.filter_append, silent, List.append_nil, lastLock]

theorem sectioned_nil : Sectioned [] := by
  intro before line after split
  simp at split

theorem Sectioned.of_prefix (sectioned : Sectioned lines') (front : lines <+: lines') :
    Sectioned lines := by
  obtain ⟨rest, rfl⟩ := front
  intro before line after split guarded notLock
  refine sectioned before line (after ++ rest) ?_ guarded notLock
  rw [split, List.append_assoc, List.cons_append]

/-- One more line, either a `MUTEX_LOCK` or by the thread that has the mutex. -/
theorem Sectioned.snoc (sectioned : Sectioned lines)
    (last : line.isLock = true ∨ lastLock lines = some line.id) : Sectioned (lines ++ [line]) := by
  intro before line' after split guarded notLock
  rcases List.eq_nil_or_concat after with rfl | ⟨after', line'', rfl⟩
  · obtain ⟨rfl, same⟩ := List.append_inj' split rfl
    obtain rfl := List.singleton_inj.mp same
    rcases last with lock | owner
    · rw [notLock] at lock
      cases lock
    · exact owner
  · rw [List.concat_eq_append, ← List.cons_append, ← List.append_assoc] at split
    obtain ⟨front, -⟩ := List.append_inj' split rfl
    exact sectioned before line' after' front guarded notLock

theorem Sectioned.append (sectioned : Sectioned lines)
    (owner : ∀ line ∈ lines', line.isLock = false ∧ lastLock lines = some line.id) :
    Sectioned (lines ++ lines') := by
  induction lines' using List.reverseRecOn with
  | nil => rwa [List.append_nil]
  | append_singleton front line ih =>
      have earlier := ih fun line' member => owner line' (List.mem_append_left _ member)
      rw [← List.append_assoc]
      refine earlier.snoc (.inr ?_)
      rw [lastLock_append fun line' member => (owner line' (List.mem_append_left _ member)).1]
      exact (owner line (List.mem_append_right _ (List.mem_singleton.mpr rfl))).2

/-- What holds of the guarded lines holds of the whole log. -/
theorem sectioned_filter : Sectioned (lines.filter LogLine.guarded) ↔ Sectioned lines := by
  constructor
  · intro sectioned before line after split guarded notLock
    rw [← lastLock_filter]
    refine sectioned _ line (after.filter LogLine.guarded) ?_ guarded notLock
    rw [split, List.filter_append, List.filter_cons_of_pos guarded]
  · intro sectioned before line after split guarded notLock
    obtain ⟨first, second, rfl, rfl, rest⟩ := List.filter_eq_append_iff.mp split
    obtain ⟨skipped, after', rfl, none, -, rfl⟩ := List.filter_eq_cons_iff.mp rest
    have whole := sectioned (first ++ skipped) line after'
      (by rw [List.append_assoc]) guarded notLock
    rw [← lastLock_filter, List.filter_append, List.filter_eq_nil_iff.mpr none, List.append_nil]
      at whole
    exact whole

end Lists

section Told

variable {generateSha256Hash : CString → CString → CString} {n : Nat} {rand : Rand}
  {adminPassword : CString} {self : Nat} {tids : Fin n → UInt64} {state state' : State n}
  {action : Action}

theorem buildTlvReply_lines {request : TlvRequest} {bank bank' : Bank} {buffer reply : TlvReply}
    {id : Nat} {activeThreads : Int}
    (replied : buildTlvReply generateSha256Hash request bank buffer id activeThreads =
      some (bank', reply)) (accountId : UInt32) :
    creationLines bank bank' id accountId = [] ∨ ∃ account,
      creationLines bank bank' id accountId = [.accountCreation (logAccountCreation id account),
        .syncMechSem id .semInit .account accountId.toInt32 1] := by
  cases buildTlvReply_outcome replied with
  | created target guards code =>
      right
      rw [creationLines, Bank.withAccount]
      exact ⟨_, by rw [List.drop_left]; rfl⟩
  | _ =>
      left
      rw [creationLines]
      simp [Bank.withTransfer]

/-- The thread `id` wrote it, and not for a `lock_mutex`. -/
def LogLine.Own (id : Nat) (line : LogLine) : Prop := line.isLock = false ∧ line.id = id

theorem accountNote_own (accounts : Accounts) (id : Nat) (smo : SyncMechOp) (accountId : UInt32)
    (sem : Option AccountId) : ∀ line ∈ accountNote accounts id smo accountId sem, line.Own id := by
  intro line member
  unfold accountNote at member
  split at member
  · split at member
    · rw [List.mem_singleton.mp member]
      exact ⟨rfl, rfl⟩
    · cases member
  · cases member

theorem accountDelay_own (accounts : Accounts) (id : Nat) (accountId delayMs : UInt32) :
    ∀ line ∈ accountDelay accounts id accountId delayMs, line.Own id := by
  intro line member
  unfold accountDelay at member
  split at member
  · split at member
    · rw [List.mem_singleton.mp member]
      exact ⟨rfl, rfl⟩
    · cases member
  · cases member

theorem requestLines_own (id : Nat) (request : TlvRequest) :
    ∀ line ∈ requestLines self id request, line.Own id := by
  intro line member
  obtain ⟨line', logged, rfl⟩ := List.mem_map.mp member
  rw [Option.mem_toList, logRequest] at logged
  simp only [Option.bind_eq_bind, Option.bind_eq_some_iff, Option.pure_def,
    Option.some.injEq] at logged
  obtain ⟨-, -, rfl⟩ := logged
  exact ⟨rfl, rfl⟩

theorem replyLines_own (id : Nat) (reply : TlvReply) :
    ∀ line ∈ replyLines self id reply, line.Own id := by
  intro line member
  obtain ⟨line', logged, rfl⟩ := List.mem_map.mp member
  rw [Option.mem_toList, logReply] at logged
  simp only [Option.bind_eq_bind, Option.bind_eq_some_iff, Option.pure_def,
    Option.some.injEq] at logged
  obtain ⟨-, -, rfl⟩ := logged
  exact ⟨rfl, rfl⟩

theorem officeNotes_own (shared : Shared n) (id : Nat) (pc : OfficePc) :
    ∀ line ∈ officeNotes shared id pc, line.Own id := by
  intro line member
  unfold officeNotes at member
  split at member
  · rw [List.mem_singleton.mp member]
    exact ⟨rfl, rfl⟩
  · exact accountNote_own _ _ _ _ _ line member
  · split at member
    · exact accountNote_own _ _ _ _ _ line member
    · cases member
  · exact accountNote_own _ _ _ _ _ line member
  · split at member
    · exact accountNote_own _ _ _ _ _ line member
    · cases member
  · cases member

/-- All that an office logs is its own, but for the line of its `lock_mutex`. -/
theorem officeReports_own {shared shared' : Shared n} {i : Fin n} {pc pc' : OfficePc}
    (move : OfficeMove generateSha256Hash shared i pc shared' pc' action) (opened : Bool)
    (notLock : pc ≠ .lock) :
    ∀ line ∈ officeReports self shared.globals.bank shared'.globals.bank (i.val + 1) opened pc,
      line.Own (i.val + 1) := by
  intro line member
  cases move with
  | lock => exact absurd rfl notLock
  | pop request => exact requestLines_own _ _ line member
  | waitAccount | skipAccount => exact accountDelay_own _ _ _ _ line member
  | waitTarget request | skipTarget request =>
      by_cases transfer : request.type = .transfer
      · simp only [officeReports, if_pos transfer] at member
        exact accountDelay_own _ _ _ _ line member
      · simp only [officeReports, if_neg transfer] at member
        cases member
  | build request targetSem buffer bank reply replied =>
      simp only [officeReports] at member
      rcases buildTlvReply_lines replied request.value.create.accountId with none | ⟨account, lines⟩
      · rw [none] at member
        cases member
      · rw [lines] at member
        rcases List.mem_cons.mp member with rfl | member
        · exact ⟨rfl, rfl⟩
        · rw [List.mem_singleton.mp member]
          exact ⟨rfl, rfl⟩
  | openFifo request reply => exact replyLines_own _ _ line member
  | unlock =>
      rw [List.mem_singleton.mp member]
      exact ⟨rfl, rfl⟩
  | _ => cases member

/-- One statement is a `lock_mutex`, or tells nothing but what its thread did with the mutex
already its own. -/
theorem told_cases (self : Nat) (tids : Fin n → UInt64) (orderly : Orderly state) {label : Label n}
    (fired : step generateSha256Hash adminPassword state label = some (state', action)) :
    (state'.shared.mutex = some (labelThread label) ∧
        told (reporter self tids) LogLine.guarded ⟨state, label, action, state'⟩ =
          [.syncMech (threadId (labelThread label)) .mutexLock .consumer adminAccountId.toInt32]) ∨
      (∀ thread, state'.shared.mutex = some thread → state.shared.mutex = some thread) ∧
        ∀ line ∈ told (reporter self tids) LogLine.guarded ⟨state, label, action, state'⟩,
          state.shared.mutex = some (labelThread label) ∧
            line.Own (threadId (labelThread label)) := by
  rcases step_move fired with ⟨received, rfl, move⟩ |
    ⟨i, buffer, opened, shared', pc', rfl, move, rfl⟩
  · have silent (notLock : ∀ request, state.main ≠ .lock request) :
        told (reporter self tids) LogLine.guarded ⟨state, .main received, action, state'⟩ = [] := by
      rw [told, List.filter_append]
      exact List.append_eq_nil_iff.mpr
        ⟨mainNotes_unguarded state, mainReports_unguarded move notLock⟩
    cases move with
    | lock request here free =>
        refine .inl ⟨rfl, ?_⟩
        rw [told, List.filter_append]
        have none : (notes state (labelThread (.main received))).filter LogLine.guarded = [] :=
          mainNotes_unguarded state
        simp only [reporter, none, List.nil_append, reports, mainReports, here]
        rfl
    | unlock request here =>
        refine .inr ⟨fun _ none => by simp at none, fun line member => ?_⟩
        rw [silent fun request' lock => by rw [here] at lock; cases lock] at member
        cases member
    | _ =>
        refine .inr ⟨fun _ same => same, fun line member => ?_⟩
        rw [silent fun request' lock => by simp_all] at member
        cases member
  · have owned (inside : (state.offices i).inside = true) (notLock : state.offices i ≠ .lock) :
        ∀ line ∈ told (reporter self tids) LogLine.guarded
          ⟨state, .office i buffer opened, action, { state with
            shared := shared', offices := Function.update state.offices i pc' }⟩,
          state.shared.mutex = some (.office i) ∧ line.Own (i.val + 1) := by
      intro line member
      refine ⟨(orderly.protocol.lock (.office i)).mp inside, ?_⟩
      rcases List.mem_append.mp (List.mem_of_mem_filter member) with note | report
      · exact officeNotes_own _ _ _ line note
      · exact officeReports_own move opened notLock line report
    rcases move.mutex with ⟨same, side⟩ | ⟨free, taken, -⟩ | ⟨inside, free, outside'⟩
    · refine .inr ⟨fun thread => by rw [same]; exact id, fun line member => ?_⟩
      have notLock : state.offices i ≠ .lock := by
        intro here
        rw [here] at move side
        cases move
        cases side
      cases inside : (state.offices i).inside with
      | true => exact owned inside notLock line member
      | false =>
          have silent := List.append_eq_nil_iff.mpr
            ⟨officeNotes_outside state.shared (i.val + 1) inside,
              officeReports_outside self state.shared.globals.bank shared'.globals.bank
                (i.val + 1) opened inside notLock⟩
          rw [← List.filter_append] at silent
          exact absurd member (by rw [told]; exact silent ▸ List.not_mem_nil)
    · refine .inl ⟨taken, ?_⟩
      have here : state.offices i = .lock := by
        generalize state.offices i = pc at move
        cases move with
        | lock => rfl
        | _ => first | cases taken | cases free.symm.trans taken
      rw [told]
      simp only [reporter, labelThread, notes, reports, here]
      rfl
    · refine .inr ⟨fun thread owns => ?_, fun line member => ?_⟩
      · rw [free] at owns
        cases owns
      · refine owned inside ?_ line member
        intro here
        rw [here] at inside
        cases inside

/-- What the statements of a run tell has its sections, and the mutex is with the thread that
told of it last. -/
theorem execute_told (self : Nat) (tids : Fin n → UInt64) {labels : List (Label n)}
    {events : List (StepEvent n)}
    (ran : execute generateSha256Hash rand adminPassword labels = some (events, state)) :
    Sectioned (events.flatMap (told (reporter self tids) LogLine.guarded)) ∧
      ∀ thread, state.shared.mutex = some thread →
        lastLock (events.flatMap (told (reporter self tids) LogLine.guarded)) =
          some (threadId thread) := by
  refine (run_induction ran
    (fun past state => Orderly state ∧
      Sectioned (past.flatMap (told (reporter self tids) LogLine.guarded)) ∧
      ∀ thread, state.shared.mutex = some thread →
        lastLock (past.flatMap (told (reporter self tids) LogLine.guarded)) =
          some (threadId thread))
    ⟨initialState_orderly, sectioned_nil, fun _ none => by cases none⟩ ?_).2
  intro past state label action state' _ _ ⟨orderly, sectioned, owner⟩ fired
  refine ⟨orderly.next fired, ?_⟩
  rw [List.flatMap_append, List.flatMap_singleton]
  rcases told_cases self tids orderly fired with
    ⟨taken, line⟩ | ⟨stays, own⟩
  · rw [line]
    refine ⟨sectioned.snoc (.inl rfl), fun thread owns => ?_⟩
    rw [lastLock_append_lock rfl, Option.some.inj (owns.symm.trans taken)]
    rfl
  · have silent := fun line member => (own line member).2.1
    refine ⟨sectioned.append fun line member => ?_, fun thread owns => ?_⟩
    · obtain ⟨owns, notLock, id⟩ := own line member
      exact ⟨notLock, by rw [owner _ owns, id]⟩
    · rw [lastLock_append silent]
      exact owner thread (stays thread owns)

/-- What the owner of the mutex still notes is its own. -/
theorem notes_own (state : State n) (thread : Thread n) :
    ∀ line ∈ (notes state thread).filter LogLine.guarded, line.Own (threadId thread) := by
  intro line member
  cases thread with
  | main =>
      rw [notes, mainNotes_unguarded] at member
      cases member
  | office i => exact officeNotes_own _ _ _ line (List.mem_of_mem_filter member)

/-- In every interleaving of main and the offices, every line that an office writes about a
request, a reply, a new account or an account semaphore comes behind a `MUTEX_LOCK` line of
that office, and no other thread has logged one since. -/
theorem slog_sectioned (generateSha256Hash : CString → CString → CString) (rand : Rand)
    (adminPassword : CString) (self : Nat) (tids : Fin n → UInt64) (labels : List (Label n))
    {events : List (LoggedEvent n)} {last : Logged (State n) (Thread n) LogLine}
    (ran : executeLogged generateSha256Hash rand adminPassword self tids labels =
      some (events, last)) : Sectioned last.log := by
  obtain ⟨-, tells⟩ := executeLogged_tells ran
  obtain ⟨sectioned, owner⟩ := execute_told self tids (executeLogged_statements ran)
  refine sectioned_filter.mp (Sectioned.of_prefix ?_ tells.log_prefix)
  refine sectioned.append fun line member => ?_
  obtain ⟨thread, owns, member⟩ := List.mem_flatMap.mp member
  obtain ⟨notLock, id⟩ := notes_own last.state thread line member
  exact ⟨notLock, by rw [owner thread (Option.mem_toList.mp owns), id]⟩

end Told

def twoThreads (office : Fin 2) : UInt64 := .ofNat (139872 + 64 * office.val)

def mainTurns {n : Nat} (turns : Nat) (received : Option TlvRequest) : List (Label n) :=
  List.replicate turns (.main received)

/-- The first office opens account 1, and the second transfers from it to account 2, which
there is not. Main reads the transfer while the first office has the mutex. -/
def loggedTransfer : List (Label 2) :=
  mainTurns 10 none ++ mainTurns 11 (some (openAccount 1 25 topSecret).request) ++
    officeTurns firstOffice 15 ++
    mainTurns 3 (some (sessionCall .transfer 1 topSecret ⟨2, 5, []⟩).request) ++
    officeTurns firstOffice 14 ++
    mainTurns 8 (some (sessionCall .transfer 1 topSecret ⟨2, 5, []⟩).request) ++
    officeTurns secondOffice 19 ++ officeTurns firstOffice 2 ++ officeTurns secondOffice 13

theorem loggedTransfer_sectioned :
    ∃ events last,
      executeLogged sessionHash sessionRand ultraTopSecret 300 twoThreads loggedTransfer =
        some (events, last) ∧
      last.log.length = 30 ∧ Sectioned last.log := by
  have defined :
      (executeLogged sessionHash sessionRand ultraTopSecret 300 twoThreads loggedTransfer).map
        (·.2.log.length) = some 30 := by
    decide +kernel
  obtain ⟨⟨events, last⟩, ran, length⟩ := Option.map_eq_some_iff.mp defined
  exact ⟨events, last, ran, length,
    slog_sectioned sessionHash sessionRand ultraTopSecret 300 twoThreads loggedTransfer ran⟩

end Sope.Log
