import Sope.Exchange.Replies
import Sope.Log.Sections

set_option autoImplicit false

/- The sessions in the server log. Each request that is handled has its line and the line of
its reply behind it, no other session's in between, and the requests in that order are what
takes a fresh bank to the accounts of the server. -/
namespace Sope.Log

open Machine Banking Server Journal
open Exchange (undelivered)

/-- A request with its reply as the office `id` made it, and whether the user FIFO could be
opened. -/
structure Session where
  id : Nat
  request : TlvRequest
  reply : TlvReply
  opened : Bool

/-- What `log_request` and `log_reply` write of it. -/
def Session.lines (self : Nat) (session : Session) : List LogLine :=
  requestLines self session.id session.request ++
    replyLines self session.id (markReply session.opened session.reply)

def Session.handled (session : Session) : TlvRequest × TlvReply := (session.request, session.reply)

def LogLine.inSession : LogLine → Bool
  | .request _ | .reply _ => true
  | _ => false

section Lines

variable {self : Nat}

theorem filter_inSession (lines : List LogLine) :
    (lines.filter LogLine.guarded).filter LogLine.inSession = lines.filter LogLine.inSession := by
  rw [List.filter_filter]
  apply List.filter_congr
  intro line _
  cases line <;> rfl

@[simp] theorem requestLines_inSession (id : Nat) (request : TlvRequest) :
    (requestLines self id request).filter LogLine.inSession = requestLines self id request := by
  rw [requestLines, List.filter_map]
  exact congrArg _ (List.filter_eq_self.mpr fun _ _ => rfl)

@[simp] theorem replyLines_inSession (id : Nat) (reply : TlvReply) :
    (replyLines self id reply).filter LogLine.inSession = replyLines self id reply := by
  rw [replyLines, List.filter_map]
  exact congrArg _ (List.filter_eq_self.mpr fun _ _ => rfl)

@[simp] theorem accountNote_inSession (accounts : Accounts) (id : Nat) (smo : SyncMechOp)
    (accountId : UInt32) (sem : Option AccountId) :
    (accountNote accounts id smo accountId sem).filter LogLine.inSession = [] := by
  unfold accountNote
  split
  · split <;> rfl
  · rfl

@[simp] theorem accountDelay_inSession (accounts : Accounts) (id : Nat)
    (accountId delayMs : UInt32) :
    (accountDelay accounts id accountId delayMs).filter LogLine.inSession = [] := by
  unfold accountDelay
  split
  · split <;> rfl
  · rfl

@[simp] theorem creationLines_inSession (before after : Bank) (id : Nat) (accountId : UInt32) :
    (creationLines before after id accountId).filter LogLine.inSession = [] := by
  apply List.filter_eq_nil_iff.mpr
  intro line member
  obtain ⟨account, -, member⟩ := List.mem_flatMap.mp member
  rcases List.mem_cons.mp member with rfl | member
  · exact Bool.false_ne_true
  · rw [List.mem_singleton.mp member]
    exact Bool.false_ne_true

theorem officeNotes_inSession {n : Nat} (shared : Shared n) (id : Nat) (pc : OfficePc) :
    (officeNotes shared id pc).filter LogLine.inSession = [] := by
  unfold officeNotes
  split
  · rfl
  · exact accountNote_inSession ..
  · split
    · exact accountNote_inSession ..
    · rfl
  · exact accountNote_inSession ..
  · split
    · exact accountNote_inSession ..
    · rfl
  · rfl

end Lines

/-- The line of the request that is popped and not answered yet. -/
def openLines (self id : Nat) : OfficePc → List LogLine
  | .countActive request | .storeCount request _ | .waitAccount request | .waitTarget request | .build request _
  | .postAccount request _ _ | .postTarget request _ _ | .openFifo request _ =>
      requestLines self id request
  | _ => []

section Offices

variable {generateSha256Hash : CString → CString → CString} {n : Nat} {self : Nat}
  {shared shared' : Shared n} {i : Fin n} {pc pc' : OfficePc} {action : Action}

/-- A statement opens a session, or closes one, or neither. -/
theorem OfficeMove.sessions (self : Nat)
    (move : OfficeMove generateSha256Hash shared i pc shared' pc' action) (opened : Bool) :
    ∃ new : List Session,
      openLines self (i.val + 1) pc ++
          (officeReports self shared.globals.bank shared'.globals.bank (i.val + 1) opened
            pc).filter LogLine.inSession =
        new.flatMap (Session.lines self) ++ openLines self (i.val + 1) pc' ∧
      (undelivered pc).toList ++ action.handles.toList =
        new.map Session.handled ++ (undelivered pc').toList := by
  cases move with
  | pop request => exact ⟨[], by simp [openLines, officeReports], rfl⟩
  | waitAccount request | skipAccount request =>
      exact ⟨[], by simp [openLines, officeReports], rfl⟩
  | waitTarget request | skipTarget request =>
      refine ⟨[], ?_, rfl⟩
      by_cases transfer : request.type = .transfer <;>
        simp [openLines, officeReports, transfer]
  | build request => exact ⟨[], by simp [openLines, officeReports], rfl⟩
  | openFifo request reply =>
      exact ⟨[⟨i.val + 1, request, reply, opened⟩],
        by simp [openLines, officeReports, Session.lines], by simp [undelivered, Session.handled,
          Action.handles]⟩
  | lock | unlock => exact ⟨[], rfl, rfl⟩
  | _ => exact ⟨[], by simp [openLines, officeReports], rfl⟩

theorem OfficeMove.sessions_outside (self : Nat)
    (move : OfficeMove generateSha256Hash shared i pc shared' pc' action)
    (outside : pc.inside = false) (before after : Bank) (opened : Bool) :
    (officeReports self before after (i.val + 1) opened pc).filter LogLine.inSession = [] ∧
      action.handles = none := by
  cases move with
  | pop | countActive | storeCount | waitAccount | skipAccount | waitTarget | skipTarget | build
  | postAccount | keepAccount | postTarget | keepTarget | openFifo | front | unlock =>
      cases outside
  | _ => exact ⟨rfl, rfl⟩

end Offices

section Owner

variable {generateSha256Hash : CString → CString → CString} {n : Nat} {rand : Rand}
  {adminPassword : CString} {self : Nat} {tids : Fin n → UInt64} {state state' : State n}
  {action : Action} {α : Type}

/-- What `view` shows of the office that owns the mutex. -/
def ownerView (view : Nat → OfficePc → α) (state : State n) : α :=
  match state.shared.mutex with
  | some (.office i) => view (i.val + 1) (state.offices i)
  | _ => view 0 .loopTest

theorem ownerView_main (protocol : Protocol state) {received : Option TlvRequest}
    (move : MainMove generateSha256Hash adminPassword state received state' action)
    {view : Nat → OfficePc → α} (start : ∀ id, view id .notStarted = view id .loopTest) :
    ownerView view state' = ownerView view state := by
  rcases move.mutex with ⟨same, -⟩ | ⟨free, taken, -⟩ | ⟨here, free, -⟩
  · simp only [ownerView, same]
    cases state.shared.mutex with
    | none => rfl
    | some thread =>
        cases thread with
        | main => rfl
        | office i => exact move.office_same protocol.spawning (view (i.val + 1)) (start _) i
  · simp only [ownerView, free, taken]
  · have owner : state.shared.mutex = some .main := (protocol.lock .main).mp here
    simp only [ownerView, owner, free]

/-- An office that moves outside leaves the owner alone. Otherwise it is the owner. -/
theorem ownerView_office (protocol : Protocol state) {shared' : Shared n} {i : Fin n}
    {pc' : OfficePc}
    (move : OfficeMove generateSha256Hash state.shared i (state.offices i) shared' pc' action)
    (next : state' = { state with
      shared := shared', offices := Function.update state.offices i pc' })
    {view : Nat → OfficePc → α}
    (outside : ∀ id (pc : OfficePc), pc.inside = false → view id pc = view 0 .loopTest) :
    (state.offices i).inside = false ∧ ownerView view state' = ownerView view state ∨
      ownerView view state = view (i.val + 1) (state.offices i) ∧
        ownerView view state' = view (i.val + 1) pc' := by
  have owner (inside : (state.offices i).inside = true) :
      state.shared.mutex = some (.office i) := (protocol.lock (.office i)).mp inside
  rcases move.mutex with ⟨same, side⟩ | ⟨free, taken, -⟩ | ⟨inside, free, outside'⟩
  · cases inside : (state.offices i).inside with
    | true =>
        right
        simp only [ownerView, next, same, owner inside, Function.update_self, and_self]
    | false =>
        refine .inl ⟨rfl, ?_⟩
        simp only [ownerView, next, same]
        cases owns : state.shared.mutex with
        | none => rfl
        | some thread =>
            cases thread with
            | main => rfl
            | office j =>
                have other : j ≠ i := by
                  rintro rfl
                  have inside' : (state.offices j).inside = true :=
                    (protocol.lock (.office j)).mpr owns
                  rw [inside] at inside'
                  cases inside'
                simp only [Function.update_of_ne other]
  · have before : (state.offices i).inside = false := by
      by_contra inside
      rw [owner (by simpa using inside)] at free
      cases free
    right
    simp only [ownerView, next, free, taken, Function.update_self, and_true]
    exact (outside _ _ before).symm
  · right
    simp only [ownerView, next, free, owner inside, true_and]
    exact (outside _ _ outside').symm

/-- What the owner of the mutex has open. -/
def sessionView (self id : Nat) (pc : OfficePc) : List LogLine × List (TlvRequest × TlvReply) :=
  (openLines self id pc, (undelivered pc).toList)

theorem sessionView_outside (self id : Nat) (pc : OfficePc) (outside : pc.inside = false) :
    sessionView self id pc = sessionView self 0 .loopTest := by
  cases pc <;> first | rfl | cases outside

/-- The sessions so far: all that is told of them, and all that is handled. -/
def Sessions (self : Nat) (tids : Fin n → UInt64) (past : List (StepEvent n)) (state : State n)
    (sessions : List Session) : Prop :=
  (past.flatMap (told (reporter self tids) LogLine.guarded)).filter LogLine.inSession =
      sessions.flatMap (Session.lines self) ++ (ownerView (sessionView self) state).1 ∧
    handledRequests past =
      sessions.map Session.handled ++ (ownerView (sessionView self) state).2

theorem told_inSession (event : StepEvent n) :
    (told (reporter self tids) LogLine.guarded event).filter LogLine.inSession =
      ((reporter self tids).notes event.before (labelThread event.input)).filter
          LogLine.inSession ++
        (reports self tids event).filter LogLine.inSession := by
  rw [told, filter_inSession, List.filter_append]
  rfl

theorem mainNotes_inSession (state : State n) :
    (mainNotes state).filter LogLine.inSession = [] := by
  rw [← filter_inSession, mainNotes_unguarded]
  rfl

theorem fillingLines_inSession (before after : Bank) :
    (fillingLines before after).filter LogLine.inSession = [] := by
  rw [fillingLines, List.filter_map, List.map_eq_nil_iff, List.filter_eq_nil_iff]
  exact fun _ _ => Bool.false_ne_true

theorem mainReports_inSession (before after : State n) :
    (mainReports tids before after).filter LogLine.inSession = [] := by
  unfold mainReports
  split
  · split <;> rfl
  · exact fillingLines_inSession ..
  · split <;> rfl
  · rfl
  · rfl
  · split <;> rfl
  · rfl

theorem Sessions.step {past : List (StepEvent n)} {sessions : List Session}
    (told : Sessions self tids past state sessions) (orderly : Orderly state) {label : Label n}
    (fired : step generateSha256Hash adminPassword state label = some (state', action)) :
    ∃ new, Sessions self tids (past ++ [⟨state, label, action, state'⟩]) state'
      (sessions ++ new) := by
  obtain ⟨lines, handled⟩ := told
  simp only [Sessions, List.flatMap_append, List.flatMap_singleton, List.filter_append, lines,
    handledRequests_snoc, handled, List.map_append, told_inSession]
  rcases step_move fired with ⟨received, rfl, move⟩ |
    ⟨i, buffer, opened, shared', pc', rfl, move, rfl⟩
  · refine ⟨[], ?_⟩
    rw [ownerView_main orderly.protocol move fun _ => rfl,
      Action.handles_eq_none move.not_handled]
    have notes : ((reporter self tids).notes state (labelThread (.main received))).filter
        LogLine.inSession = [] := mainNotes_inSession state
    simp [notes, reports, mainReports_inSession]
  · have notes : ((reporter self tids).notes state (labelThread (.office i buffer opened))).filter
        LogLine.inSession = [] := officeNotes_inSession ..
    simp only [notes, reports, List.nil_append]
    rcases ownerView_office orderly.protocol move rfl (sessionView_outside self) with
      ⟨outside, same⟩ | ⟨before, after⟩
    · obtain ⟨silent, none⟩ := OfficeMove.sessions_outside self move outside
        state.shared.globals.bank shared'.globals.bank opened
      refine ⟨[], ?_⟩
      rw [same, silent, none]
      simp
    · obtain ⟨new, opens, answers⟩ := OfficeMove.sessions self move opened
      refine ⟨new, ?_⟩
      rw [before, after]
      simp only [sessionView, List.append_assoc]
      rw [opens, answers]
      exact ⟨rfl, rfl⟩

theorem execute_sessions (self : Nat) (tids : Fin n → UInt64) {labels : List (Label n)}
    {events : List (StepEvent n)}
    (ran : execute generateSha256Hash rand adminPassword labels = some (events, state)) :
    ∃ sessions, Sessions self tids events state sessions := by
  refine (run_induction ran
    (fun past state => Orderly state ∧ ∃ sessions, Sessions self tids past state sessions)
    ⟨initialState_orderly, [], rfl, rfl⟩ ?_).2
  intro past state label action state' _ _ ⟨orderly, sessions, told⟩ fired
  obtain ⟨new, told⟩ := told.step orderly fired
  exact ⟨orderly.next fired, sessions ++ new, told⟩

/-- What is replayed of all requests is replayed of the first ones. -/
theorem replayed_prefix {start bank : Bank} {requests later : List TlvRequest}
    {replies laterReplies : List TlvReply} (length : requests.length = replies.length)
    (replayed : Replayed generateSha256Hash start ((requests ++ later).map plainCall) bank
      (replies ++ laterReplies)) :
    ∃ served bank', run (serve generateSha256Hash) start (requests.map plainCall) =
        some (served, bank') ∧
      List.Forall₂ SameAnswer replies (served.map (·.output)) ∧
      (later = [] → SameData bank bank') := by
  obtain ⟨served, last, ran, same, answers⟩ := replayed
  rw [List.map_append] at ran
  obtain ⟨first, middle, second, ran₁, ran₂, rfl⟩ := run_append_eq_some.mp ran
  refine ⟨first, middle, ran₁, ?_, ?_⟩
  · have outputs : (first.map (·.output)).length = replies.length := by
      have inputs := congrArg List.length (run_inputs ran₁)
      simpa [length] using inputs
    have front := List.forall₂_take replies.length answers
    rwa [List.take_left, List.map_append, ← outputs, List.take_left] at front
  · rintro rfl
    rw [List.map_nil, run_nil, Option.some.injEq, Prod.mk.injEq] at ran₂
    exact ran₂.2 ▸ same

end Owner

end Sope.Log
