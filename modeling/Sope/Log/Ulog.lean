import Sope.Exchange.Replies
import Sope.Log.Slog

set_option autoImplicit false

/- The log file that all user processes share. Each of them writes there what it asks for, and
what came of it. -/
namespace Sope.Log

open Machine Banking Exchange Journal Fifo
open Server (handledRequests)

variable {m n : Nat}

/-- `reply` before there is one; `uninit` is what the stack holds there. -/
def initialReply (uninit : TlvReply) (request : TlvRequest) : TlvReply :=
  { uninit with
    type := request.type
    value := { uninit.value with
      header := { uninit.value.header with accountId := request.value.header.accountId } } }

/-- The pid as `log_request` and `log_reply` are given it. -/
def logId (client : Client) : Nat := client.pid.toInt.toNat

def askedLines (client : Client) (request : TlvRequest) : List LogLine :=
  requestLines (logId client) (logId client) request

def answeredLines (client : Client) (reply : TlvReply) : List LogLine :=
  replyLines (logId client) (logId client) reply

/-- What a user process logs behind a statement, by where it stood, what the statement showed
and where the process stands then. -/
def userReports (client : Client) (uninit : TlvReply) :
    ClientPc → Report n → ClientPc → List LogLine
  | .start, _, .openServer request => askedLines client request
  | .openServer request, _, .exited =>
      answeredLines client ((initialReply uninit request).withRetCode .srvDown)
  | .poll _, .logged reply, _ => answeredLines client reply
  | .poll _, _, .exitHandler =>
      client.request.toList.flatMap fun request =>
        answeredLines client ((initialReply uninit request).withRetCode .srvTimeout)
  | _, _, _ => []

def ulogThread : Label m n → Option (Fin m)
  | .client k _ => some k
  | _ => none

def ulogReports (clients : Fin m → Client) (uninit : Fin m → TlvReply)
    (event : WorldEvent m n) : List (Fin m × LogLine) :=
  match event.input with
  | .client k _ =>
      (userReports (clients k) (uninit k) (event.before.clients k) event.output
        (event.after.clients k)).map (k, ·)
  | _ => []

/-- The user processes; a line of `USER_LOGFILE` is kept with the process that wrote it. -/
def ulogReporter (clients : Fin m → Client) (uninit : Fin m → TlvReply) :
    Reporter (World m n) (Label m n) (Report n) (Option (Fin m)) (Fin m × LogLine) :=
  ⟨ulogThread, fun _ _ => [], ulogReports clients uninit⟩

abbrev LoggedWorld (m n : Nat) := Logged (World m n) (Option (Fin m)) (Fin m × LogLine)

def initialUlog (m n : Nat) (rand : Rand) (stale : Pipes CString TlvReply) : LoggedWorld m n where
  state := initialWorld m n rand stale
  phases := fun _ => .after []
  log := []

/-- Any interleaving of the user processes with the server, with all that they write to
`USER_LOGFILE`. -/
def exchangeLogged (generateSha256Hash : CString → CString → CString) (rand : Rand)
    (adminPassword : CString) (clients : Fin m → Client) (uninit : Fin m → TlvReply)
    (stale : Pipes CString TlvReply) (labels : List (Label m n)) :
    Option (List (Event (LoggedWorld m n) (Label m n) (Option (Report n))) × LoggedWorld m n) :=
  run ((ulogReporter clients uninit).step (worldStep generateSha256Hash adminPassword clients))
    (initialUlog m n rand stale) labels

/-- The lines that process `k` wrote. -/
def ownLines (k : Fin m) (log : List (Fin m × LogLine)) : List LogLine :=
  (log.filter (·.1 == k)).map (·.2)

/-- What one process has to log, with what the others did: nothing if it has not come to that
or its command line is refused, the request alone, or the request and one reply. -/
inductive UserLines (clients : Fin m → Client) (uninit : Fin m → TlvReply)
    (past : List (WorldEvent m n)) (k : Fin m) : List LogLine → Prop where
  | nothing : UserLines clients uninit past k []
  | asked (request : TlvRequest) (own : (clients k).request = some request) :
      UserLines clients uninit past k (askedLines (clients k) request)
  | serverDown (request : TlvRequest) (own : (clients k).request = some request)
      (unsent : (clients k).pid ∉ (sentRequests past).map (·.value.header.pid)) :
      UserLines clients uninit past k (askedLines (clients k) request ++
        answeredLines (clients k) ((initialReply (uninit k) request).withRetCode .srvDown))
  | timedOut (request : TlvRequest) (own : (clients k).request = some request) :
      UserLines clients uninit past k (askedLines (clients k) request ++
        answeredLines (clients k) ((initialReply (uninit k) request).withRetCode .srvTimeout))
  | answered (request : TlvRequest) (reply : TlvReply)
      (own : (clients k).request = some request)
      (handled : (request, reply) ∈ handledRequests (serverEvents past)) :
      UserLines clients uninit past k
        (askedLines (clients k) request ++ answeredLines (clients k) reply)

section Guarded

variable {generateSha256Hash : CString → CString → CString} {rand : Rand}
  {adminPassword : CString} {clients : Fin m → Client} {uninit : Fin m → TlvReply}
  {stale : Pipes CString TlvReply} {labels : List (Label m n)}

/-- Only the process itself writes its lines. -/
theorem ulog_guards (generateSha256Hash : CString → CString → CString) (adminPassword : CString)
    (clients : Fin m → Client) (uninit : Fin m → TlvReply) (k : Fin m) :
    Guards (ulogReporter clients uninit)
      (worldStep (n := n) generateSha256Hash adminPassword clients) (fun _ => True)
      (fun line => line.1 == k) fun _ => some (some k) where
  kept := fun _ _ _ => trivial
  notes := fun _ _ _ _ => rfl
  reports := by
    intro event _ _ apart
    apply List.filter_eq_nil_iff.mpr
    intro line member
    dsimp only [ulogReporter, ulogReports] at apart member
    cases label : event.input with
    | client k' around =>
        rw [label] at apart member
        obtain ⟨text, -, rfl⟩ := List.mem_map.mp member
        simp only [ulogThread, ne_eq, Option.some.injEq] at apart
        simpa using Ne.symm apart
    | _ =>
        rw [label] at member
        cases member
  others := fun _ _ _ _ _ => ⟨Iff.rfl, fun _ => rfl⟩

theorem ownLines_append (k : Fin m) (log log' : List (Fin m × LogLine)) :
    ownLines k (log ++ log') = ownLines k log ++ ownLines k log' := by
  rw [ownLines, List.filter_append, List.map_append, ownLines, ownLines]

theorem ownLines_filter (k : Fin m) (log : List (Fin m × LogLine)) :
    ownLines k (log.filter (·.1 == k)) = ownLines k log := by
  rw [ownLines, List.filter_filter, ownLines]
  simp only [Bool.and_self]

@[simp] theorem ownLines_self (k : Fin m) (lines : List LogLine) :
    ownLines k (lines.map (k, ·)) = lines := by
  rw [ownLines, List.filter_map, List.map_map]
  have all : lines.filter ((fun line : Fin m × LogLine => line.1 == k) ∘ (k, ·)) = lines :=
    List.filter_eq_self.mpr fun _ _ => beq_self_eq_true k
  rw [all]
  exact List.map_id lines

theorem ownLines_of_ne {k k' : Fin m} (other : k' ≠ k) (lines : List LogLine) :
    ownLines k (lines.map (k', ·)) = [] := by
  rw [ownLines, List.filter_eq_nil_iff.mpr]
  · rfl
  · intro line member
    obtain ⟨text, -, rfl⟩ := List.mem_map.mp member
    simpa using other

/-- The lines of process `k` about one statement. -/
def userTold (clients : Fin m → Client) (uninit : Fin m → TlvReply) (k : Fin m)
    (event : WorldEvent m n) : List LogLine :=
  ownLines k (ulogReports clients uninit event)

theorem userTold_own (k : Fin m) (events : List (WorldEvent m n)) :
    ownLines k (events.flatMap (Journal.told (ulogReporter clients uninit) (·.1 == k))) =
      events.flatMap (userTold clients uninit k) := by
  induction events with
  | nil => rfl
  | cons event events ih =>
      rw [List.flatMap_cons, ownLines_append, ih, Journal.told, ownLines_filter]
      rfl

/-- The process has begun and has not ended. -/
def asks : ClientPc → Bool
  | .start | .exitHandler | .exited => false
  | _ => true

/-- Where a process stands, and what it has logged then. -/
structure UserTold (clients : Fin m → Client) (uninit : Fin m → TlvReply)
    (past : List (WorldEvent m n)) (world : World m n) (k : Fin m) (lines : List LogLine) :
    Prop where
  start : world.clients k = .start → lines = []
  asking : asks (world.clients k) = true → ∃ request, (clients k).request = some request ∧
    lines = askedLines (clients k) request
  lines : UserLines clients uninit past k lines

theorem UserLines.later {past : List (WorldEvent m n)} {event : WorldEvent m n} {k : Fin m}
    {lines : List LogLine} (logged : UserLines clients uninit past k lines)
    (quiet : ∀ request ∈ event.output.sends, request.value.header.pid ≠ (clients k).pid) :
    UserLines clients uninit (past ++ [event]) k lines := by
  cases logged with
  | nothing => exact .nothing
  | asked request own => exact .asked request own
  | serverDown request own unsent =>
      refine .serverDown request own ?_
      rw [sentRequests_snoc, List.map_append, List.mem_append]
      rintro (earlier | now)
      · exact unsent earlier
      · obtain ⟨request', sends, same⟩ := List.mem_map.mp now
        exact quiet request' sends same
  | timedOut request own => exact .timedOut request own
  | answered request reply own handled =>
      refine .answered request reply own ?_
      rw [serverEvents_snoc]
      cases serverEvent event with
      | none => simpa using handled
      | some event =>
          rw [Option.toList_some, Server.handledRequests_snoc]
          exact List.mem_append_left _ handled

variable {past : List (WorldEvent m n)} {world world' : World m n} {k : Fin m}
  {lines : List LogLine}

/-- An answer to a request with the pid of a process is one to its request. -/
theorem request_of_handled (flow : Flow clients past world) (distinct : DistinctPids clients)
    {request : TlvRequest} (sent : request ∈ sentRequests past)
    (pid : request.value.header.pid = (clients k).pid) : (clients k).request = some request := by
  obtain ⟨k', own, -⟩ := flow.senders request sent
  obtain rfl := distinct k' k ((userRequest_pid own).symm.trans pid)
  exact own

theorem UserTold.of_asking {pc : ClientPc} {request : TlvRequest} (next : world.clients k = pc)
    (asking : asks pc = true) (own : (clients k).request = some request) :
    UserTold clients uninit past world k (askedLines (clients k) request) where
  start := by
    intro fresh
    rw [next] at fresh
    rw [fresh] at asking
    cases asking
  asking := fun _ => ⟨request, own, rfl⟩
  lines := .asked request own

theorem UserTold.of_ended {pc : ClientPc} (next : world.clients k = pc)
    (ended : pc = .exitHandler ∨ pc = .exited) (lines' : UserLines clients uninit past k lines) :
    UserTold clients uninit past world k lines := by
  refine ⟨fun fresh => ?_, fun asking => ?_, lines'⟩
  · rw [next] at fresh
    rcases ended with rfl | rfl <;> cases fresh
  · rw [next] at asking
    rcases ended with rfl | rfl <;> cases asking

/-- A statement of the process itself. -/
theorem UserTold.self (logged : UserTold clients uninit past world k lines)
    (flow : Flow clients past world) (distinct : DistinctPids clients)
    (replies : ∀ fd, world.clients k = .poll fd → ∀ reply ∈ (world.pipes.inodes fd).contents,
      ∃ request, (clients k).request = some request ∧
        (request, reply) ∈ handledRequests (serverEvents past))
    {event : WorldEvent m n} {pc : ClientPc} {pipes : Pipes CString TlvReply} {report : Report n}
    (move : ClientMove (clients k) world.pipes (world.clients k) pc pipes report)
    (next : world'.clients k = pc) (shown : event.output = report)
    (unseen : serverEvent event = none) :
    UserTold clients uninit (past ++ [event]) world' k
      (lines ++ userReports (clients k) (uninit k) (world.clients k) report pc) := by
  have handled {answer : TlvRequest × TlvReply}
      (before : answer ∈ handledRequests (serverEvents past)) :
      answer ∈ handledRequests (serverEvents (past ++ [event])) := by
    rwa [serverEvents_snoc, unseen, Option.toList_none, List.append_nil]
  have asked (asking : asks (world.clients k) = true) := logged.asking asking
  generalize here : world.clients k = before at move asked replies ⊢
  cases move with
  | begin request built =>
      rw [logged.start here]
      exact .of_asking next rfl built
  | reject refused =>
      rw [logged.start here]
      exact .of_ended next (.inr rfl) .nothing
  | serverDown request =>
      obtain ⟨request', own, rfl⟩ := asked rfl
      obtain rfl := Option.some.inj (own.symm.trans (flow.toSend k request (by rw [here]; rfl)))
      refine .of_ended next (.inr rfl) (.serverDown request' own ?_)
      rw [sentRequests_snoc, shown, Report.sends, List.append_nil]
      · exact flow.unsent distinct (by rw [here]; rfl)
      · simp
  | sendBroken request | absent | openFailed =>
      obtain ⟨request, own, rfl⟩ := asked rfl
      rw [userReports, List.append_nil]
      · exact .of_ended next (by simp) (.asked request own)
      all_goals simp
  | timeOver fd =>
      obtain ⟨request, own, rfl⟩ := asked rfl
      refine .of_ended next (.inl rfl) ?_
      rw [userReports, own]
      · simpa using UserLines.timedOut request own
      all_goals simp
  | receive fd reply pipes' received =>
      obtain ⟨request, own, rfl⟩ := asked rfl
      obtain ⟨rest, contents, -⟩ := Pipes.read_spec received
      obtain ⟨request', own', answer⟩ := replies fd rfl reply (contents ▸ List.mem_cons_self)
      obtain rfl := Option.some.inj (own.symm.trans own')
      exact .of_ended next (.inl rfl) (.answered request reply own (handled answer))
  | cleanUp | nothingLeft =>
      rw [userReports, List.append_nil]
      · refine .of_ended next (.inr rfl) (logged.lines.later fun request sends => ?_)
        rw [shown] at sends
        cases sends
      all_goals simp
  | _ =>
      obtain ⟨request, own, rfl⟩ := asked rfl
      rw [userReports, List.append_nil]
      · exact .of_asking next rfl own
      all_goals simp

/-- A statement of anybody else. -/
theorem UserTold.others (logged : UserTold clients uninit past world k lines)
    {event : WorldEvent m n} (same : world'.clients k = world.clients k)
    (quiet : ∀ request ∈ event.output.sends, request.value.header.pid ≠ (clients k).pid) :
    UserTold clients uninit (past ++ [event]) world' k lines where
  start := by
    rw [same]
    exact logged.start
  asking := by
    rw [same]
    exact logged.asking
  lines := logged.lines.later quiet

theorem userTold_of_ne {event : WorldEvent m n}
    (other : ∀ around, event.input ≠ .client k around) : userTold clients uninit k event = [] := by
  rw [userTold, ulogReports]
  cases label : event.input with
  | client k' around =>
      refine ownLines_of_ne (fun same => ?_) _
      rw [same] at label
      exact other around label
  | _ => rfl

/-- The server moves no process and sends nothing. -/
theorem worldStep_server {label : Label m n} {report : Report n}
    (server : ∀ k around, label ≠ .client k around)
    (fired : worldStep generateSha256Hash adminPassword clients world label =
      some (world', report)) : world'.clients = world.clients ∧ report.sends = [] := by
  cases label with
  | main =>
      rw [worldStep] at fired
      split at fired
      · cases fired
      · simp only [Option.bind_eq_bind, Option.bind_eq_some_iff, Option.pure_def,
          Option.some.injEq, Prod.mk.injEq, Prod.exists] at fired
        obtain ⟨-, -, -, rfl, rfl⟩ := fired
        exact ⟨rfl, rfl⟩
  | office i buffer =>
      obtain ⟨-, -, -, -, -, rfl, rfl⟩ := worldStep_office fired
      exact ⟨rfl, rfl⟩
  | write i =>
      obtain ⟨-, -, -, ⟨-, -, rfl, rfl⟩ | ⟨-, rfl, rfl⟩⟩ := worldStep_write fired
      · exact ⟨rfl, rfl⟩
      · exact ⟨rfl, rfl⟩
  | client k around => exact absurd rfl (server k around)

theorem UserTold.step (logged : UserTold clients uninit past world k lines)
    (flow : Flow clients past world) (distinct : DistinctPids clients)
    (replies : ∀ fd, world.clients k = .poll fd → ∀ reply ∈ (world.pipes.inodes fd).contents,
      ∃ request, (clients k).request = some request ∧
        (request, reply) ∈ handledRequests (serverEvents past))
    {label : Label m n} {report : Report n}
    (fired : worldStep generateSha256Hash adminPassword clients world label =
      some (world', report)) :
    UserTold clients uninit (past ++ [⟨world, label, report, world'⟩]) world' k
      (lines ++ userTold clients uninit k ⟨world, label, report, world'⟩) := by
  cases label with
  | client k' around =>
      obtain ⟨pc, pipes, move, rfl⟩ := worldStep_client fired
      by_cases own : k' = k
      · subst own
        have lines' : userTold clients uninit k' ⟨world, .client k' around, report, { world with
              pipes
              serverFifo := world.serverFifo ++ report.sends
              clients := Function.update world.clients k' pc }⟩ =
            userReports (clients k') (uninit k') (world.clients k') report pc := by
          rw [userTold, ulogReports]
          simp only [ownLines_self, Function.update_self]
        rw [lines']
        exact logged.self flow distinct replies move (Function.update_self ..) rfl
          (move.serverEvent_eq_none ..)
      · rw [userTold_of_ne (by simp [own]), List.append_nil]
        refine logged.others (Function.update_of_ne (Ne.symm own) ..) fun request sends same => ?_
        rcases move.sends with none | ⟨request', rfl, writing, -⟩
        · rw [none] at sends
          cases sends
        · obtain rfl := List.mem_singleton.mp sends
          have asked := flow.toSend k' request (by rw [writing]; rfl)
          exact own (distinct k' k ((userRequest_pid asked).symm.trans same))
  | _ =>
      obtain ⟨same, quiet⟩ := worldStep_server (by simp) fired
      rw [userTold_of_ne (by simp), List.append_nil]
      exact logged.others (congrFun same k) (by simp [quiet])

theorem exchange_told (distinct : DistinctPids clients) (unread : Stale stale)
    (uninit : Fin m → TlvReply) (k : Fin m) {events : List (WorldEvent m n)}
    (ran : exchange generateSha256Hash rand adminPassword clients stale labels =
      some (events, world)) :
    UserTold clients uninit events world k (events.flatMap (userTold clients uninit k)) := by
  refine run_induction ran
    (fun past world =>
      UserTold clients uninit past world k (past.flatMap (userTold clients uninit k)))
    ⟨fun _ => rfl, fun asking => (by cases asking), .nothing⟩ ?_
  intro past now label report next _ reached logged fired
  have flow := exchange_flow distinct reached
  rw [List.flatMap_append, List.flatMap_singleton]
  refine logged.step flow distinct ?_ fired
  intro fd polling reply inFifo
  obtain ⟨request, pid, written⟩ :=
    (exchange_delivered distinct unread reached).polled k fd polling reply inFifo
  have handled := (exchange_replied distinct reached).written _ written
  have sent := (exchange_handled distinct reached).subset (List.mem_map_of_mem handled)
  exact ⟨request, request_of_handled flow distinct sent pid, handled⟩

/-- In every interleaving of user processes and server, each process has in `USER_LOGFILE` at
most the line of its request and then the line of one reply: `SRV_DOWN`, and it has sent
nothing; `SRV_TIMEOUT`; or the answer that `build_tlv_reply` made to this request. Once it has
written all that it has to, these are its lines. -/
theorem ulog_lines (generateSha256Hash : CString → CString → CString) (rand : Rand)
    (adminPassword : CString) (clients : Fin m → Client) (uninit : Fin m → TlvReply)
    (stale : Pipes CString TlvReply) (distinct : DistinctPids clients) (unread : Stale stale)
    (labels : List (Label m n))
    {events : List (Event (LoggedWorld m n) (Label m n) (Option (Report n)))}
    {last : LoggedWorld m n}
    (ran : exchangeLogged generateSha256Hash rand adminPassword clients uninit stale labels =
      some (events, last)) (k : Fin m) :
    ∃ lines, UserLines clients uninit (statements events) k lines ∧
      ownLines k last.log <+: lines ∧
      ((last.phases (some k)).left = [] → ownLines k last.log = lines) := by
  have logged := exchange_told distinct unread uninit k (run_statements ran)
  obtain ⟨-, tells⟩ := run_tells (ulog_guards generateSha256Hash adminPassword clients uninit k)
    ran trivial (tells_start (fun _ => rfl) rfl)
  have whole : last.log.filter (·.1 == k) ++ (last.phases (some k)).left.filter (·.1 == k) =
      (statements events).flatMap (Journal.told (ulogReporter clients uninit) (·.1 == k)) := by
    cases here : last.phases (some k) with
    | before left =>
        rw [Phase.left, tells.early (some k) left rfl here]
        exact List.append_nil _
    | after left => exact tells.late (some k) left rfl here
  have lines := congrArg (ownLines k) whole
  rw [userTold_own, ownLines_append, ownLines_filter, ownLines_filter] at lines
  refine ⟨_, logged.lines, ⟨_, lines⟩, fun nothing => ?_⟩
  rw [← lines, nothing]
  exact (List.append_nil _).symm

end Guarded

/-- The only process asks, waits, and gets its answer. -/
def loggedOffice : List (Label 1 1) :=
  List.replicate 4 .main ++ clientTurns Server.onlyOffice 6 ++ List.replicate 7 .main ++
    List.replicate 14 (.office Server.onlyOffice sessionBuffer) ++ [.write Server.onlyOffice] ++
    clientTurns Server.onlyOffice 2

theorem loggedOffice_ulog :
    ∃ events last,
      exchangeLogged sessionHash sessionRand ultraTopSecret onlyClient (fun _ => sessionBuffer)
        noPipes loggedOffice = some (events, last) ∧
      (last.phases (some 0)).left = [] ∧ (ownLines 0 last.log).length = 2 ∧
      ∃ lines, UserLines onlyClient (fun _ => sessionBuffer) (statements events) 0 lines ∧
        ownLines 0 last.log <+: lines ∧
        ((last.phases (some 0)).left = [] → ownLines 0 last.log = lines) := by
  have defined :
      (exchangeLogged sessionHash sessionRand ultraTopSecret onlyClient (fun _ => sessionBuffer)
        noPipes loggedOffice).map
        (fun out => ((out.2.phases (some 0)).left.isEmpty, (ownLines 0 out.2.log).length)) =
          some (true, 2) := by
    decide +kernel
  obtain ⟨⟨events, last⟩, ran, shown⟩ := Option.map_eq_some_iff.mp defined
  obtain ⟨nothing, lines⟩ := Prod.mk.inj shown
  exact ⟨events, last, ran, List.isEmpty_iff.mp nothing, lines,
    ulog_lines sessionHash sessionRand ultraTopSecret onlyClient (fun _ => sessionBuffer) noPipes
      onlyClient_pids noPipes_stale loggedOffice ran 0⟩

end Sope.Log
