import Sope.Exchange.Framing

set_option autoImplicit false

/- From command line to command line: what user processes were asked for reaches the bank
through arrays, structures, FIFOs and the queue, and the answers come back. -/
namespace Sope.Exchange.Bytes

open Machine Banking Server Fifo Wire CharArray

/-- The members of the request that the operation uses are its arguments. -/
def Said (value : ReqValue) : Operation → Prop
  | .createAccount accountId initialBalance password =>
      value.create.accountId.toNat = accountId ∧
        value.create.balance.toNat = initialBalance ∧ value.create.password = password
  | .transfer accountId amount =>
      value.transfer.accountId.toNat = accountId ∧ value.transfer.amount.toNat = amount
  | .balance _ | .shutdown _ => True

/-- The request means what the command says. -/
structure Means (command : Command) (pid : Int32) (delay : Int) (request : TlvRequest) : Prop where
  type : request.type = command.operation.type
  length : request.length = requestLength
  pid : request.value.header.pid = pid
  accountId : request.value.header.accountId.toNat = command.accountId
  password : request.value.header.password = command.password
  opDelayMs : (request.value.header.opDelayMs.toNat : Int) = delay
  arguments : Said request.value command.operation

theorem means_of_built {command : Command} {pid : Int32} {delay : Int}
    {memory memory' : RequestMemory} (built : command.Built pid delay memory memory') :
    Means command pid delay memory'.request where
  type := built.type
  length := built.length
  pid := built.pid
  accountId := built.accountId
  password := built.password.read
  opDelayMs := built.opDelayMs
  arguments := by
    have written := built.arguments
    cases kind : command.operation with
    | createAccount accountId initialBalance password =>
        rw [kind] at written
        exact ⟨written.1, written.2.1, written.2.2.read⟩
    | transfer accountId amount =>
        rw [kind] at written
        exact ⟨written.1, written.2.1⟩
    | balance | shutdown => trivial

/-- The process runs the command, with this delay and these blanks between the arguments. -/
structure Runs (client : Client) (command : Command) (delay : Int) (spacing : Spacing) : Prop where
  argv : client.argv = command.argv delay spacing
  low : 0 ≤ delay
  high : delay ≤ maxOpDelayMs.toNat

/-- So it sends one request, which means what the command says. -/
theorem Runs.means {client : Client} {command : Command} {delay : Int} {spacing : Spacing}
    (runs : Runs client command delay spacing) :
    ∃ request, client.message.request = some request ∧
      Means command client.pid delay request := by
  obtain ⟨memory', built, fields⟩ :=
    buildTlvRequest_of_delay client.request.val client.pid command spacing runs.low runs.high
  have password : (command.argv delay spacing).password = command.password := rfl
  have valid : isValidPassword command.password = true := by
    have long := command.long
    have short := command.short
    simp only [isValidPassword, Bool.or_eq_true, decide_eq_true_eq]
    rw [if_neg (by omega)]
  have read := buildTlvRequest_request client.password.noNul client.arguments.noNul
    (by rw [runs.argv]; exact built)
  refine ⟨memory'.request, ?_, means_of_built fields⟩
  change (if isValidPassword client.argv.password then
    Banking.buildTlvRequest client.pid client.request.val.create.args client.argv else none) = _
  rw [read, runs.argv, password, valid]
  rfl

section Typed

variable {m n : Nat} {generateSha256Hash : CString → CString → CString} {adminPassword : CString}
  {clients : Fin m → Client} {rand : Rand} {uninit : RequestBytes}
  {stale : Pipes CString TlvReply} {world : World m n} {commands : Fin m → Command}
  {delays : Fin m → Int} {spacings : Fin m → Spacing}

theorem handled_means (pids : DistinctPids fun k => (clients k).message)
    (runs : ∀ k, Runs (clients k) (commands k) (delays k) (spacings k))
    {labels : List (Label m n)} {events : List (Exchange.WorldEvent m n)}
    {world : Exchange.World m n}
    (ran : Exchange.exchange generateSha256Hash rand adminPassword (fun k => (clients k).message)
      stale labels = some (events, world))
    {answer : TlvRequest × TlvReply} (handled : answer ∈ handledRequests (serverEvents events)) :
    ∃ k, Means (commands k) (clients k).pid (delays k) answer.1 := by
  have sent := (exchange_handled pids ran).subset (List.mem_map_of_mem handled)
  obtain ⟨k, own, -⟩ := (exchange_flow pids ran).senders _ sent
  obtain ⟨request, own', means⟩ := (runs k).means
  obtain rfl := Option.some.inj (own'.symm.trans own)
  exact ⟨k, means⟩

/-- Every request that the bank answers is a command that some process was given, and no
process is answered twice. -/
theorem answered_commands (pids : DistinctPids fun k => (clients k).message)
    (runs : ∀ k, Runs (clients k) (commands k) (delays k) (spacings k))
    {labels : List (Label m n)} {events : List (WorldEvent m n)}
    (ran : exchange generateSha256Hash rand adminPassword clients uninit
      (stale.encoded tlvReply) labels = some (events, world)) :
    (∀ answer ∈ (events.map (·.output)).filterMap handles,
        ∃ k, Means (commands k) (clients k).pid (delays k) answer.1) ∧
      (((events.map (·.output)).filterMap handles).map (·.1.value.header.pid)).Nodup := by
  obtain ⟨events', world', ran', same, -⟩ := exchange_message ran
  rw [same, ← handledRequests_reports]
  refine ⟨fun answer handled => handled_means pids runs ran' handled, ?_⟩
  have nodup := ((exchange_handled pids ran').sublist.map (·.value.header.pid)).nodup
    (exchange_flow pids ran').nodup
  rwa [List.map_map] at nodup

/-- A process logs an answer only to the command that it was given itself: the one that
the bank has made for it. -/
theorem logged_commands (pids : DistinctPids fun k => (clients k).message) (unread : Stale stale)
    (runs : ∀ k, Runs (clients k) (commands k) (delays k) (spacings k))
    {labels : List (Label m n)} {past future : List (WorldEvent m n)} {event : WorldEvent m n}
    (ran : exchange generateSha256Hash rand adminPassword clients uninit
      (stale.encoded tlvReply) labels = some (past ++ event :: future, world))
    {k : Fin m} {around : Surroundings} {reply : TlvReply} (moves : event.input = .client k around)
    (logged : event.output = .logged reply) :
    ∃ request, (request, reply) ∈ (past.map (·.output)).filterMap handles ∧
      Means (commands k) (clients k).pid (delays k) request ∧
      reply.type = (commands k).operation.type ∧
      reply.value.header.accountId.toNat = (commands k).accountId := by
  obtain ⟨reached, fired, -⟩ := run_event ran
  obtain ⟨past', world', reached', same, shows⟩ := exchange_message reached
  have stepped := worldStep_same generateSha256Hash adminPassword clients shows event.input
  rw [fired, moves, logged] at stepped
  generalize moved : Exchange.worldStep generateSha256Hash adminPassword
    (fun k => (clients k).message) world' (.client k around) = moved' at stepped
  cases stepped with
  | @some _ moved' both =>
      obtain ⟨next, report⟩ := moved'
      obtain ⟨shown, -⟩ := both
      have shown : .logged reply = report := shown
      subst shown
      obtain ⟨pc, pipes, move, -⟩ := worldStep_client moved
      obtain ⟨fd, polling, inFifo⟩ := move.logged
      have inputs := run_inputs reached'
      obtain ⟨request, pid, answered⟩ :=
        (exchange_delivered pids unread reached').polled k fd polling reply inFifo
      have handled := (exchange_replied pids reached').written _ answered
      obtain ⟨k', means⟩ := handled_means pids runs reached' handled
      have own : k' = k := pids k' k (means.pid.symm.trans pid)
      subst own
      have ran' : Exchange.exchange generateSha256Hash rand adminPassword
          (fun k => (clients k).message) stale (past'.map (·.input)) = some (past', world') := by
        rw [inputs]
        exact reached'
      obtain ⟨type, account⟩ := execute_handled_names (exchange_server ran') handled
      rw [handledRequests_reports, ← same] at handled
      refine ⟨request, handled, means, type.trans means.type, ?_⟩
      rw [account]
      exact means.accountId

/-- Every request that the bank answers is a command that some process was given, no
process is answered twice, and what a process logs is the answer to its own command. -/
theorem commands_answered (pids : DistinctPids fun k => (clients k).message)
    (unread : Stale stale) (runs : ∀ k, Runs (clients k) (commands k) (delays k) (spacings k))
    (labels : List (Label m n)) {events : List (WorldEvent m n)}
    (ran : exchange generateSha256Hash rand adminPassword clients uninit
      (stale.encoded tlvReply) labels = some (events, world)) :
    (∀ answer ∈ (events.map (·.output)).filterMap handles,
        ∃ k, Means (commands k) (clients k).pid (delays k) answer.1) ∧
      (((events.map (·.output)).filterMap handles).map (·.1.value.header.pid)).Nodup ∧
      ∀ past event future, events = past ++ event :: future → ∀ k around reply,
        event.input = .client k around → event.output = .logged reply →
        ∃ request, (request, reply) ∈ (past.map (·.output)).filterMap handles ∧
          Means (commands k) (clients k).pid (delays k) request ∧
          reply.type = (commands k).operation.type ∧
          reply.value.header.accountId.toNat = (commands k).accountId := by
  obtain ⟨commanded, once⟩ := answered_commands pids runs ran
  refine ⟨commanded, once, ?_⟩
  rintro past event future rfl k around reply moves logged
  exact logged_commands pids unread runs ran moves logged

end Typed

theorem typedClient_runs (k : Fin 1) : Runs (typedClient k) balanceCommand 10 wideSpacing :=
  ⟨rfl, by decide, by decide⟩

theorem typedClient_answered : ∃ events world reply, exchange sessionHash sessionRand
      ultraTopSecret typedClient anyRequestBytes (noPipes.encoded tlvReply) patientOffice =
        some (events, world) ∧
    (events.map (·.output)).getLast? = some (.logged reply) ∧
    (∀ answer ∈ (events.map (·.output)).filterMap handles,
        ∃ k, Means balanceCommand (typedClient k).pid 10 answer.1) ∧
      (((events.map (·.output)).filterMap handles).map (·.1.value.header.pid)).Nodup ∧
      ∀ past event future, events = past ++ event :: future → ∀ k around reply,
        event.input = .client k around → event.output = .logged reply →
        ∃ request, (request, reply) ∈ (past.map (·.output)).filterMap handles ∧
          Means balanceCommand (typedClient k).pid 10 request ∧
          reply.type = balanceCommand.operation.type ∧
          reply.value.header.accountId.toNat = balanceCommand.accountId := by
  obtain ⟨events, world, reply, ran, last⟩ := typedClient_logs
  exact ⟨events, world, reply, ran, last,
    commands_answered typedClient_pids noPipes_stale typedClient_runs patientOffice ran⟩

end Sope.Exchange.Bytes
