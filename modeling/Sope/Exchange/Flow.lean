import Sope.Exchange.Moves
import Sope.Server.Indices
import Sope.Server.Queue

set_option autoImplicit false

/- The way of a request from its client to the office that handles it. What the server
does in an exchange is a run of the server alone, so its queue keeps the order. -/
namespace Sope.Exchange

open Machine Banking Server Fifo

section Flow

variable {m n : Nat} {generateSha256Hash : CString → CString → CString} {rand : Rand}
  {adminPassword : CString} {clients : Fin m → Client} {stale : Pipes CString TlvReply}
  {world world' : World m n} {report : Report n}

/-- The server's part in a step. -/
def serverEvent (event : WorldEvent m n) : Option (StepEvent n) :=
  match event.output with
  | .server label action => some ⟨event.before.server, label, action, event.after.server⟩
  | _ => none

def serverEvents (past : List (WorldEvent m n)) : List (StepEvent n) := past.filterMap serverEvent

theorem ClientMove.not_server {client : Client} {pipes pipes' : Pipes CString TlvReply}
    {pc pc' : ClientPc} (move : ClientMove client pipes pc pc' pipes' report)
    (label : Server.Label n) (action : Action) : report ≠ .server label action := by
  intro same
  cases move <;> cases same

theorem WorldMove.server_step {label : Server.Label n} {action : Action}
    (move : WorldMove generateSha256Hash adminPassword clients world world'
      (.server label action)) :
    step generateSha256Hash adminPassword world.server label = some (world'.server, action) := by
  generalize shown : Report.server label action = report at move
  cases move with
  | main server action' running fired =>
      cases shown
      exact fired
  | office i buffer server action' running idle fired =>
      cases shown
      exact fired
  | client k pc pipes report move => exact absurd shown.symm (move.not_server label action)
  | _ => cases shown

theorem WorldMove.server_same
    (move : WorldMove generateSha256Hash adminPassword clients world world' report)
    (hidden : ∀ label action, report ≠ .server label action) : world'.server = world.server := by
  cases move with
  | main server action => exact absurd rfl (hidden _ action)
  | office i buffer server action => exact absurd rfl (hidden _ action)
  | _ => rfl

/-- An exchange contains a run of the server. -/
theorem exchange_server {labels : List (Label m n)} {events : List (WorldEvent m n)}
    (ran : exchange generateSha256Hash rand adminPassword clients stale labels =
      some (events, world)) :
    execute generateSha256Hash rand adminPassword ((serverEvents events).map (·.input)) =
      some (serverEvents events, world.server) := by
  refine run_project (·.server) serverEvent ?_ ?_ ran
  · intro event fired viewed
    refine (worldStep_move fired).server_same fun label action shown => ?_
    rw [serverEvent, shown] at viewed
    cases viewed
  · intro event event' fired viewed
    unfold serverEvent at viewed
    split at viewed
    · rename_i label action shown
      obtain rfl := Option.some.inj viewed
      have move := worldStep_move fired
      rw [shown] at move
      exact ⟨rfl, rfl, move.server_step⟩
    · cases viewed

theorem serverEvents_snoc (past : List (WorldEvent m n)) (event : WorldEvent m n) :
    serverEvents (past ++ [event]) = serverEvents past ++ (serverEvent event).toList := by
  simp only [serverEvents, List.filterMap_append, List.filterMap_cons, List.filterMap_nil]
  cases serverEvent event <;> rfl

/-- The requests put into the server FIFO so far. -/
def sentRequests (past : List (WorldEvent m n)) : List TlvRequest :=
  past.flatMap fun event => event.output.sends

theorem sentRequests_snoc (past : List (WorldEvent m n)) (event : WorldEvent m n) :
    sentRequests (past ++ [event]) = sentRequests past ++ event.output.sends := by
  simp [sentRequests]

/-- The request that main has read and not pushed yet. -/
def carried : MainPc → Option TlvRequest
  | .lock request | .push request => some request
  | _ => none

/-- Main takes the oldest request out of the FIFO, carries it, and pushes it. -/
theorem mainMove_flow {server : State n} {action : Action}
    (move : MainMove generateSha256Hash adminPassword world.server world.received server action) :
    action.pushes.toList ++ (carried server.main).toList ++ world.unread =
      (carried world.server.main).toList ++ world.serverFifo := by
  generalize given : world.received = received at move
  cases move with
  | receive here request got =>
      simp only [World.received, here] at given
      have split : world.serverFifo = request :: world.serverFifo.tail :=
        List.eq_cons_of_mem_head? (given.trans got)
      simp only [World.unread, here, carried, Action.pushes, Option.toList_none,
        Option.toList_some, List.nil_append, List.singleton_append]
      exact split.symm
  | receiveNone here got =>
      simp only [World.received, here] at given
      have empty : world.serverFifo = [] := List.head?_eq_none_iff.mp (given.trans got)
      simp only [World.unread, here, carried, Action.pushes, Option.toList_none, empty,
        List.tail_nil, List.append_nil]
  | push request here =>
      simp only [World.unread, here, carried, Action.pushes, Option.toList_none,
        Option.toList_some, List.append_nil]
  | lock request here =>
      simp only [World.unread, here, carried, Action.pushes, Option.toList_none, List.nil_append]
  | _ => simp only [World.unread, carried, Action.pushes, Option.toList_none, List.append_nil, *]

theorem userRequest_pid {pid : Int32} {uninit : ReqCreateAccount} {argv : Argv}
    {request : TlvRequest} (built : userRequest pid uninit argv = some request) :
    request.value.header.pid = pid :=
  congrArg (·.pid) (userRequest_fields built).2.1

/-- The client has got past its `write` to the server FIFO. -/
def ClientPc.hasSent : ClientPc → Bool
  | .start | .openServer _ | .writeServer _ => false
  | _ => true

/-- The request that the client is about to send. -/
def ClientPc.toSend : ClientPc → Option TlvRequest
  | .openServer request | .writeServer request => some request
  | _ => none

/-- Requests arrive at the queue in the order in which they were sent, and each client
sends at most its own request, once. -/
structure Flow (clients : Fin m → Client) (past : List (WorldEvent m n)) (world : World m n) :
    Prop where
  order : pushedRequests (serverEvents past) ++
    ((carried world.server.main).toList ++ world.serverFifo) = sentRequests past
  toSend : ∀ k request, (world.clients k).toSend = some request →
    (clients k).request = some request
  senders : ∀ request ∈ sentRequests past, ∃ k, (clients k).request = some request ∧
    (world.clients k).hasSent = true
  nodup : ((sentRequests past).map (·.value.header.pid)).Nodup

section Client

variable {client : Client} {pipes pipes' : Pipes CString TlvReply} {pc pc' : ClientPc}

theorem ClientMove.sends (move : ClientMove client pipes pc pc' pipes' report) :
    report.sends = [] ∨ ∃ request, report = .sent request ∧ pc = .writeServer request ∧
      pc'.hasSent = true := by
  cases move with
  | send request => exact Or.inr ⟨request, rfl, rfl, rfl⟩
  | _ => exact Or.inl rfl

theorem ClientMove.serverEvent_eq_none (move : ClientMove client pipes pc pc' pipes' report)
    (world : World m n) (label : Label m n) (world' : World m n) :
    serverEvent ⟨world, label, report, world'⟩ = none := by
  unfold serverEvent
  split
  · rename_i label' action shown
    exact absurd shown (move.not_server label' action)
  · rfl

theorem ClientMove.hasSent (move : ClientMove client pipes pc pc' pipes' report)
    (sent : pc.hasSent = true) : pc'.hasSent = true := by
  cases move <;> first | rfl | cases sent

theorem ClientMove.toSend {request : TlvRequest}
    (move : ClientMove client pipes pc pc' pipes' report) (sends : pc'.toSend = some request) :
    pc.toSend = some request ∨ client.request = some request := by
  cases move with
  | begin request' built =>
      cases sends
      exact Or.inr built
  | openServer request' => exact Or.inl sends
  | _ => cases sends

end Client

theorem initialWorld_flow : Flow clients [] (initialWorld m n rand stale) where
  order := rfl
  toSend _ _ sends := nomatch sends
  senders _ member := nomatch member
  nodup := List.nodup_nil

theorem Flow.client {past : List (WorldEvent m n)} (flow : Flow clients past world)
    (pids : DistinctPids clients) {label : Label m n} {k : Fin m} {pc : ClientPc}
    {pipes : Pipes CString TlvReply}
    (move : ClientMove (clients k) world.pipes (world.clients k) pc pipes report)
    (next : world' = { world with
      pipes
      serverFifo := world.serverFifo ++ report.sends
      clients := Function.update world.clients k pc }) :
    Flow clients (past ++ [⟨world, label, report, world'⟩]) world' := by
  have unseen := move.serverEvent_eq_none world label world'
  have kept (k' : Fin m) (sent : (world.clients k').hasSent = true) :
      (world'.clients k').hasSent = true := by
    rw [next]
    by_cases same : k' = k
    · subst same
      exact (congrArg ClientPc.hasSent (Function.update_self ..)).trans (move.hasSent sent)
    · exact (congrArg ClientPc.hasSent (Function.update_of_ne same ..)).trans sent
  refine ⟨?_, ?_, ?_, ?_⟩
  · rw [serverEvents_snoc, unseen, Option.toList_none, List.append_nil, sentRequests_snoc,
      ← flow.order, next]
    simp only [List.append_assoc]
  · intro k' request sends
    rw [next] at sends
    by_cases same : k' = k
    · subst same
      have sends : pc.toSend = some request :=
        (congrArg ClientPc.toSend (Function.update_self ..)).symm.trans sends
      rcases move.toSend sends with before | built
      · exact flow.toSend k' request before
      · exact built
    · exact flow.toSend k' request
        ((congrArg ClientPc.toSend (Function.update_of_ne same ..)).symm.trans sends)
  · intro request member
    rw [sentRequests_snoc] at member
    rcases List.mem_append.mp member with earlier | now
    · obtain ⟨k', own, sent⟩ := flow.senders request earlier
      exact ⟨k', own, kept k' sent⟩
    · rcases move.sends with none | ⟨request', shown, writing, sent⟩
      · dsimp only at now
        rw [none] at now
        cases now
      · dsimp only at now
        rw [shown, Report.sends, List.mem_singleton] at now
        subst now
        refine ⟨k, flow.toSend k request (by rw [writing]; rfl), ?_⟩
        rw [next]
        exact (congrArg ClientPc.hasSent (Function.update_self ..)).trans sent
  · rw [sentRequests_snoc, List.map_append]
    rcases move.sends with none | ⟨request', shown, writing, -⟩
    · dsimp only
      rw [none, List.map_nil, List.append_nil]
      exact flow.nodup
    · have own : (clients k).request = some request' :=
        flow.toSend k request' (by rw [writing]; rfl)
      rw [shown]
      refine List.Nodup.append flow.nodup (List.nodup_singleton _) ?_
      intro pid earlier now
      obtain ⟨request, member, rfl⟩ := List.mem_map.mp earlier
      obtain ⟨k', own', sent⟩ := flow.senders request member
      have same : k' = k := by
        have now : request.value.header.pid = request'.value.header.pid :=
          List.mem_singleton.mp now
        rw [userRequest_pid own, userRequest_pid own'] at now
        exact pids k' k now
      rw [same, writing] at sent
      cases sent

/-- A step that sends nothing and moves no client. -/
theorem Flow.keep {past : List (WorldEvent m n)} (flow : Flow clients past world)
    {event : WorldEvent m n} (quiet : event.output.sends = [])
    (same : world'.clients = world.clients)
    (order : pushedRequests (serverEvents (past ++ [event])) ++
      ((carried world'.server.main).toList ++ world'.serverFifo) = sentRequests past) :
    Flow clients (past ++ [event]) world' := by
  have sent : sentRequests (past ++ [event]) = sentRequests past := by
    rw [sentRequests_snoc, quiet, List.append_nil]
  refine ⟨order.trans sent.symm, ?_, ?_, ?_⟩
  · rw [same]
    exact flow.toSend
  · rw [same, sent]
    exact flow.senders
  · rw [sent]
    exact flow.nodup

theorem Flow.step {past : List (WorldEvent m n)} (flow : Flow clients past world)
    (pids : DistinctPids clients) {label : Label m n}
    (move : WorldMove generateSha256Hash adminPassword clients world world' report) :
    Flow clients (past ++ [⟨world, label, report, world'⟩]) world' := by
  cases move with
  | client k pc pipes report move => exact flow.client pids move rfl
  | main server action running fired =>
      obtain ⟨received, same, move⟩ | ⟨_, _, _, _, _, wrong, -⟩ := step_move fired
      · cases same
        refine flow.keep rfl rfl ?_
        rw [serverEvents_snoc, serverEvent, Option.toList_some, pushedRequests_snoc,
          ← flow.order, List.append_assoc]
        dsimp only
        rw [← mainMove_flow move, List.append_assoc]
      · cases wrong
  | office i buffer server action running idle fired =>
      obtain ⟨received, wrong, -⟩ | ⟨_, _, _, _, _, -, move, next⟩ := step_move fired
      · cases wrong
      · refine flow.keep rfl rfl ?_
        have noPush := Action.pushes_eq_none move.not_pushed
        rw [serverEvents_snoc, serverEvent, Option.toList_some, pushedRequests_snoc, ← flow.order]
        dsimp only
        rw [noPush, Option.toList_none, List.append_nil, next]
  | write | broken =>
      refine flow.keep rfl rfl ?_
      have unseen : ∀ event : WorldEvent m n, serverEvent event = none →
          serverEvents (past ++ [event]) = serverEvents past := by
        intro event none
        rw [serverEvents_snoc, none, Option.toList_none, List.append_nil]
      rw [unseen _ rfl]
      exact flow.order

theorem exchange_flow (pids : DistinctPids clients) {labels : List (Label m n)}
    {events : List (WorldEvent m n)}
    (ran : exchange generateSha256Hash rand adminPassword clients stale labels =
      some (events, world)) : Flow clients events world :=
  run_induction ran (Flow clients) initialWorld_flow
    fun _ _ _ _ _ _ _ flow fired => flow.step pids (worldStep_move fired)

/-- A process that has yet to write its request has sent none. -/
theorem Flow.unsent {past : List (WorldEvent m n)} (flow : Flow clients past world)
    (distinct : DistinctPids clients) {k : Fin m} (asking : (world.clients k).hasSent = false) :
    (clients k).pid ∉ (sentRequests past).map (·.value.header.pid) := by
  intro sent
  obtain ⟨request, member, same⟩ := List.mem_map.mp sent
  obtain ⟨k', own, hasSent⟩ := flow.senders request member
  obtain rfl := distinct k' k ((userRequest_pid own).symm.trans same)
  rw [asking] at hasSent
  cases hasSent

/-- The requests handled so far are among those sent, in their order. -/
theorem exchange_handled {labels : List (Label m n)} {events : List (WorldEvent m n)}
    (pids : DistinctPids clients)
    (ran : exchange generateSha256Hash rand adminPassword clients stale labels =
      some (events, world)) :
    (handledRequests (serverEvents events)).map (·.1) <+: sentRequests events := by
  have ordered := execute_ordered (exchange_server ran)
  have flow := exchange_flow pids ran
  have popped : (handledRequests (serverEvents events)).map (·.1) <+:
      poppedRequests (serverEvents events) := ⟨_, ordered.handled⟩
  have pushed : poppedRequests (serverEvents events) <+: pushedRequests (serverEvents events) :=
    ⟨_, ordered.popped⟩
  exact (popped.trans pushed).trans ⟨_, flow.order⟩

end Flow

end Sope.Exchange
