import Sope.Exchange.Framing
import Sope.Server.Refinement
import Sope.Lib.Linearizable

set_option autoImplicit false

/- The bank as the user processes see it: however they and the offices are interleaved, what
they send and what they log is what one sequential bank could have answered, in an order that
agrees with the real time of the processes. -/
namespace Sope.Exchange

open Machine Banking Server Fifo Linearizable

variable {m n : Nat}

/-- A process calls when its request goes into the server FIFO, and has returned when it logs
the reply; the request takes effect in `build_tlv_reply`. -/
def point (pids : Fin m → Int32) :
    Label m n × Report n → Option (Point Int32 TlvRequest TlvReply)
  | (_, .sent request) => some (.act (.call request.value.header.pid request))
  | (_, .server _ (.handled request reply)) =>
      some (.commit ⟨request.value.header.pid, request, reply⟩)
  | (.client k _, .logged reply) => some (.act (.ret (pids k) reply))
  | _ => none

def trace {σ : Type} (pids : Fin m → Int32) (events : List (Event σ (Label m n) (Report n))) :
    List (Point Int32 TlvRequest TlvReply) :=
  events.filterMap fun event => point pids (event.input, event.output)

/-- What a bank can do that is given one request after the other. -/
def SequentialBank (generateSha256Hash : CString → CString → CString) (rand : Rand)
    (adminPassword : CString) (answered : List (TlvRequest × TlvReply)) : Prop :=
  ∃ served bank,
    run (serve generateSha256Hash) (initialBank generateSha256Hash rand adminPassword)
      ((answered.map (·.1)).map plainCall) = some (served, bank) ∧
    List.Forall₂ SameAnswer (answered.map (·.2)) (served.map (·.output))

/-- The operations that take effect with these answers. -/
def operations (answered : List (TlvRequest × TlvReply)) :
    List (Entry Int32 TlvRequest TlvReply) :=
  answered.map fun answer => ⟨answer.1.value.header.pid, answer.1, answer.2⟩

section Traces

variable {σ σ' : Type} {pids : Fin m → Int32} {events : List (Event σ (Label m n) (Report n))}
  {events' : List (Event σ' (Label m n) (Report n))}

/-- Only what goes in and what is shown matters. -/
theorem trace_congr (inputs : events.map (·.input) = events'.map (·.input))
    (outputs : events.map (·.output) = events'.map (·.output)) :
    trace pids events = trace pids events' := by
  have zipped {σ : Type} (events : List (Event σ (Label m n) (Report n))) :
      trace pids events =
        ((events.map (·.input)).zip (events.map (·.output))).filterMap (point pids) := by
    rw [List.zip_map', List.filterMap_map]
    rfl
  rw [zipped, zipped, inputs, outputs]

/-- A point of the trace is a step of the run. -/
theorem split_trace {front back : List (Point Int32 TlvRequest TlvReply)}
    {here : Point Int32 TlvRequest TlvReply} (split : trace pids events = front ++ here :: back) :
    ∃ past event future, events = past ++ event :: future ∧ trace pids past = front ∧
      point pids (event.input, event.output) = some here := by
  obtain ⟨first, second, rfl, rfl, rest⟩ := List.filterMap_eq_append_iff.mp split
  obtain ⟨skipped, event, future, rfl, none, shown, -⟩ := List.filterMap_eq_cons_iff.mp rest
  refine ⟨first ++ skipped, event, future, by rw [List.append_assoc], ?_, shown⟩
  rw [trace, List.filterMap_append, List.filterMap_eq_nil_iff.mpr none, List.append_nil]

end Traces

section Messages

variable {generateSha256Hash : CString → CString → CString} {rand : Rand}
  {adminPassword : CString} {clients : Fin m → Client} {stale : Pipes CString TlvReply}
  {world : World m n} {pids : Fin m → Int32} {events : List (WorldEvent m n)}
  {labels : List (Label m n)}

theorem trace_committed :
    committed (trace pids events) = operations (handledRequests (serverEvents events)) := by
  rw [Bytes.handledRequests_reports, operations, committed, trace, List.filterMap_filterMap,
    List.filterMap_map, List.map_filterMap]
  apply List.filterMap_congr
  rintro ⟨before, label, report, after⟩ -
  cases report with
  | server label action => cases action <;> rfl
  | logged reply => cases label <;> rfl
  | _ => rfl

theorem trace_calls :
    (trace pids events).filterMap Point.calls =
      (sentRequests events).map (·.value.header.pid) := by
  rw [sentRequests, trace, List.filterMap_filterMap, List.filterMap_eq_flatMap_toList,
    List.map_flatMap]
  apply List.flatMap_congr
  rintro ⟨before, label, report, after⟩ -
  cases report with
  | server label action => cases action <;> rfl
  | logged reply => cases label <;> rfl
  | _ => rfl

theorem mem_trace_call {request : TlvRequest} (sent : request ∈ sentRequests events) :
    .act (.call request.value.header.pid request) ∈ trace pids events := by
  obtain ⟨event, member, sends⟩ := List.mem_flatMap.mp sent
  obtain ⟨before, label, report, after⟩ := event
  refine List.mem_filterMap.mpr ⟨_, member, ?_⟩
  cases report with
  | sent request' =>
      obtain rfl := List.mem_singleton.mp sends
      rfl
  | _ => cases sends

theorem point_commit {label : Label m n} {report : Report n}
    {operation : Entry Int32 TlvRequest TlvReply}
    (commits : point pids (label, report) = some (.commit operation)) :
    ∃ label, report = .server label (.handled operation.input operation.output) ∧
      operation.key = operation.input.value.header.pid := by
  cases report with
  | server label' action =>
      cases action with
      | handled request reply =>
          cases commits
          exact ⟨label', rfl, rfl⟩
      | _ => cases commits
  | logged reply => cases label <;> cases commits
  | _ => cases commits

theorem point_ret {label : Label m n} {report : Report n} {pid : Int32} {reply : TlvReply}
    (returns : point pids (label, report) = some (.act (.ret pid reply))) :
    ∃ k around, label = .client k around ∧ report = .logged reply ∧ pids k = pid := by
  cases report with
  | server label' action => cases action <;> cases returns
  | logged reply' =>
      cases label with
      | client k around =>
          cases returns
          exact ⟨k, around, rfl, rfl, rfl⟩
      | _ => cases returns
  | _ => cases returns

/-- What a process logs is an answer that was made for its own request before. -/
theorem exchange_logged (distinct : DistinctPids clients) (unread : Stale stale)
    {past future : List (WorldEvent m n)} {event : WorldEvent m n}
    (ran : exchange generateSha256Hash rand adminPassword clients stale labels =
      some (past ++ event :: future, world)) {k : Fin m} {around : Surroundings}
    {reply : TlvReply} (moves : event.input = .client k around)
    (logged : event.output = .logged reply) :
    ∃ request, request.value.header.pid = (clients k).pid ∧
      (request, reply) ∈ handledRequests (serverEvents past) := by
  obtain ⟨reached, fired, -⟩ := run_event ran
  rw [moves, logged] at fired
  obtain ⟨pc, pipes, move, -⟩ := worldStep_client fired
  obtain ⟨fd, polling, inFifo⟩ := move.logged
  obtain ⟨request, pid, written⟩ :=
    (exchange_delivered distinct unread reached).polled k fd polling reply inFifo
  exact ⟨request, pid, (exchange_replied distinct reached).written _ written⟩

/-- `build_tlv_reply` is called for a request between its `write` and the log of its reply. -/
theorem exchange_commits (distinct : DistinctPids clients) (unread : Stale stale)
    (ran : exchange generateSha256Hash rand adminPassword clients stale labels =
      some (events, world)) : Commits (trace (fun k => (clients k).pid) events) where
  calledOnce := by
    rw [trace_calls]
    exact (exchange_flow distinct ran).nodup
  once := by
    have handled := ((exchange_handled distinct ran).sublist.map (·.value.header.pid)).nodup
      (exchange_flow distinct ran).nodup
    rw [List.map_map] at handled
    rw [trace_committed, operations, List.map_map]
    exact handled
  called := by
    intro front operation back split
    obtain ⟨past, event, future, rfl, rfl, shown⟩ := split_trace split
    obtain ⟨label, output, key⟩ := point_commit shown
    obtain ⟨reached, fired, -⟩ := run_event ran
    have snoc := run_snoc event reached fired
    have member : operation.input ∈
        (handledRequests (serverEvents (past ++ [event]))).map (·.1) := by
      rw [serverEvents_snoc, serverEvent, output, Option.toList_some, handledRequests_snoc]
      simp [Action.handles]
    have sent := (exchange_handled distinct snoc).subset member
    have quiet : event.output.sends = [] := by rw [output]; rfl
    rw [sentRequests_snoc, quiet, List.append_nil] at sent
    rw [key]
    exact mem_trace_call sent
  returned := by
    intro front pid reply back split
    obtain ⟨past, event, future, rfl, rfl, shown⟩ := split_trace split
    obtain ⟨k, around, moves, logged, rfl⟩ := point_ret shown
    obtain ⟨request, own, handled⟩ := exchange_logged distinct unread ran moves logged
    refine ⟨⟨request.value.header.pid, request, reply⟩, mem_committed.mp ?_, own, rfl⟩
    rw [trace_committed]
    exact List.mem_map.mpr ⟨_, handled, rfl⟩

/-- The answers so far are those of a sequential bank. -/
theorem execute_sequential {state : State n} {past : List (StepEvent n)}
    {labels : List (Server.Label n)}
    (ran : execute generateSha256Hash rand adminPassword labels = some (past, state)) :
    SequentialBank generateSha256Hash rand adminPassword (handledRequests past) := by
  have refines := execute_refines ran
  cases settingUp : state.main.settingUp with
  | true =>
      obtain ⟨-, handled, -⟩ := refines.nothing_handled (execute_ordered ran) settingUp
      rw [handled]
      exact ⟨[], _, rfl, .nil⟩
  | false =>
      obtain ⟨served, bank, replayed, -, answers⟩ :=
        refines.replayed _ (plainCall_requests _)
      rw [startBank, settingUp] at replayed
      exact ⟨served, bank, replayed, answers⟩

theorem committed_answers (answered : List (TlvRequest × TlvReply)) :
    (operations answered).map (fun operation => (operation.input, operation.output)) =
      answered := by
  rw [operations, List.map_map]
  exact List.map_id answered

theorem exchange_linearization (distinct : DistinctPids clients) (unread : Stale stale)
    (ran : exchange generateSha256Hash rand adminPassword clients stale labels =
      some (events, world)) :
    Linearization (SequentialBank generateSha256Hash rand adminPassword)
      (history (trace (fun k => (clients k).pid) events))
      (operations (handledRequests (serverEvents events))) := by
  rw [← trace_committed]
  refine (exchange_commits distinct unread ran).linearization ?_
  rw [trace_committed, committed_answers]
  exact execute_sequential (exchange_server ran)

end Messages

end Sope.Exchange

namespace Sope.Exchange.Bytes

open Machine Banking Server Fifo Wire Linearizable

variable {m n : Nat}

/-- The bank is linearizable for the user processes: in every interleaving of any number of
them with any number of offices, byte by byte, the order in which the requests are handled
explains all replies that are logged, and a request that is sent after the reply to another
was logged is handled after that other. -/
theorem exchange_linearizable (generateSha256Hash : CString → CString → CString) (rand : Rand)
    (adminPassword : CString) (clients : Fin m → Client) (request : RequestBytes)
    (stale : Pipes CString TlvReply) (distinct : DistinctPids fun k => (clients k).message)
    (unread : Stale stale) (labels : List (Label m n)) {events : List (WorldEvent m n)}
    {world : World m n}
    (ran : exchange generateSha256Hash rand adminPassword clients request
      (stale.encoded tlvReply) labels = some (events, world)) :
    Linearization (SequentialBank generateSha256Hash rand adminPassword)
      (history (trace (fun k => (clients k).pid) events))
      (operations ((events.map (·.output)).filterMap handles)) := by
  obtain ⟨events', world', ran', same, -⟩ := exchange_message ran
  have inputs : events.map (·.input) = events'.map (·.input) :=
    (run_inputs ran).trans (run_inputs ran').symm
  have linear := exchange_linearization distinct unread ran'
  rw [handledRequests_reports, ← same] at linear
  rw [trace_congr inputs same]
  exact linear

theorem typedClient_linearizable : ∃ events world reply, exchange sessionHash sessionRand
      ultraTopSecret typedClient anyRequestBytes (noPipes.encoded tlvReply) patientOffice =
        some (events, world) ∧
    (events.map (·.output)).getLast? = some (.logged reply) ∧
    Linearization (SequentialBank sessionHash sessionRand ultraTopSecret)
      (history (trace (fun k => (typedClient k).pid) events))
      (operations ((events.map (·.output)).filterMap handles)) := by
  obtain ⟨events, world, reply, ran, last⟩ := typedClient_logs
  exact ⟨events, world, reply, ran, last,
    exchange_linearizable sessionHash sessionRand ultraTopSecret typedClient anyRequestBytes
      noPipes typedClient_pids noPipes_stale patientOffice ran⟩

end Sope.Exchange.Bytes
