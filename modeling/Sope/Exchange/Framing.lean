import Sope.Exchange.Bytes
import Sope.Exchange.Replies

set_option autoImplicit false

/- The exchange of bytes and the exchange of messages in lockstep: all writers of a FIFO
write whole structures of one size, so every `read` returns one of them. -/
namespace Sope.Exchange.Bytes

open Machine Banking Server Fifo Wire

section Framing

variable {m n : Nat}

/-- A turn of a user process on bytes, and the same turn on messages. -/
structure SameTurn (turn : Turn n)
    (moved : Exchange.ClientPc × Pipes CString TlvReply × Report n) : Prop where
  pc : moved.1 = turn.pc.message
  pipes : turn.pipes = moved.2.1.encoded tlvReply
  report : moved.2.2 = turn.report
  sent : ∃ memories, turn.sent = tlvRequest.stream memories ∧
    turn.report.sends = memories.map (·.val.request)

theorem SameTurn.quiet {pc : ClientPc} {pc' : Exchange.ClientPc} {pipes : Pipes CString TlvReply}
    {bytes : Pipes CString UInt8} {report : Report n} (same : pc' = pc.message)
    (encoded : bytes = pipes.encoded tlvReply) (none : report.sends = []) :
    SameTurn ⟨pc, bytes, [], report⟩ (pc', pipes, report) :=
  ⟨same, encoded, rfl, [], rfl, none⟩

/-- The reply that a client reads replaces its whole variable. -/
theorem decode_overwrite (client : Client) (reply : TlvReply) :
    tlvReply.decode (overwrite client.reply (tlvReply.encode reply)) = some reply := by
  rw [overwrite_whole (client.size.trans (tlvReply.length_encode reply).symm),
    tlvReply.decode_encode]

theorem clientStep_same (client : Client) (around : Surroundings) (pipes : Pipes CString TlvReply)
    (pc : ClientPc) :
    Option.Rel (SameTurn (n := n)) (clientStep client around (pipes.encoded tlvReply) pc)
      (Exchange.clientStep client.message around pipes pc.message) := by
  cases pc with
  | start =>
      simp only [clientStep, Exchange.clientStep, ClientPc.message, client.message_request]
      cases client.sends with
      | none => exact .some (.quiet rfl rfl rfl)
      | some request => exact .some (.quiet rfl rfl rfl)
  | openServer request =>
      refine .some (.quiet ?_ rfl rfl)
      cases around.serverOpens <;> rfl
  | writeServer request =>
      simp only [clientStep, Exchange.clientStep, ClientPc.message]
      cases around.delivery with
      | delivered =>
          exact .some ⟨rfl, rfl, rfl, [request], (List.append_nil _).symm, rfl⟩
      | full => exact .some (.quiet rfl rfl rfl)
      | noReader => exact .some (.quiet rfl rfl rfl)
  | makeFifo =>
      simp only [clientStep, Exchange.clientStep, ClientPc.message, client.message_path,
        Pipes.encoded_make]
      cases pipes.make (userFifoPath client.pid) with
      | none => exact .some (.quiet rfl rfl rfl)
      | some pipes' => exact .some (.quiet rfl rfl rfl)
  | removeFifo =>
      simp only [clientStep, Exchange.clientStep, ClientPc.message, client.message_path,
        Pipes.encoded_unlink]
      cases pipes.unlink (userFifoPath client.pid) with
      | none => exact .some (.quiet rfl rfl rfl)
      | some pipes' => exact .some (.quiet rfl rfl rfl)
  | openFifo =>
      simp only [clientStep, Exchange.clientStep, ClientPc.message, client.message_path,
        Pipes.encoded_openRead]
      cases pipes.openRead (userFifoPath client.pid) with
      | none => exact .some (.quiet rfl rfl rfl)
      | some opened => exact .some (.quiet rfl rfl rfl)
  | poll fd =>
      simp only [clientStep, Exchange.clientStep, ClientPc.message]
      cases around.timeOver with
      | true => exact .some (.quiet rfl Pipes.encoded_closeRead.symm rfl)
      | false =>
          simp only [Bool.false_eq_true, ↓reduceIte,
            Pipes.encoded_read (show 0 < tlvReply.width by decide)]
          cases pipes.read fd with
          | none => exact .some (.quiet rfl rfl rfl)
          | some got =>
              simp only [Option.map_some, decode_overwrite]
              exact .some (.quiet rfl Pipes.encoded_closeRead.symm rfl)
  | exitHandler =>
      simp only [clientStep, Exchange.clientStep, ClientPc.message, Pipes.encoded_unlink]
      refine .some (.quiet rfl ?_ rfl)
      change _ = Pipes.encoded tlvReply ((pipes.unlink (userFifoPath client.pid)).getD pipes)
      cases pipes.unlink (userFifoPath client.pid) <;> rfl
  | exited => exact .none

/-- The same world on bytes and on messages. -/
structure Shows (world : World m n) (world' : Exchange.World m n) : Prop where
  server : world'.server = world.server
  size : world.request.length = tlvRequest.width
  serverFifo : ∃ memories, world.serverFifo = tlvRequest.stream memories ∧
    world'.serverFifo = memories.map (·.val.request)
  killed : world'.killed = world.killed
  pipes : world.pipes = world'.pipes.encoded tlvReply
  writing : world'.writing = world.writing
  clients : world'.clients = fun k => (world.clients k).message

variable {world : World m n} {world' : Exchange.World m n}

theorem Shows.opening (shows : Shows world world') (i : Fin n) :
    world'.opening i = world.opening i := by
  unfold Exchange.World.opening World.opening
  rw [shows.server]
  cases world.server.offices i with
  | openFifo request reply => simp only [shows.pipes, Pipes.encoded_openWrite]
  | _ => rfl

/-- Main reads the oldest message whole, or nothing, and goes on with it. -/
theorem Shows.read (shows : Shows world world') :
    world'.received = world.received ∧
      (overwrite world.request world.read).length = tlvRequest.width ∧
      ∃ memories, world.serverFifo.drop world.read.length = tlvRequest.stream memories ∧
        world'.unread = memories.map (·.val.request) := by
  obtain ⟨memories, bytes, messages⟩ := shows.serverFifo
  have nothing (empty : world.read = []) : world.received = none ∧
      (overwrite world.request world.read).length = tlvRequest.width := by
    refine ⟨if_pos empty, ?_⟩
    rw [empty]
    exact shows.size
  unfold Exchange.World.received Exchange.World.unread
  rw [shows.server, messages]
  cases here : world.server.main with
  | read =>
      have taken : world.read = world.serverFifo.take tlvRequest.width := by
        simp only [World.read, here]
      rw [bytes] at taken ⊢
      cases memories with
      | nil =>
          obtain ⟨none, size⟩ := nothing taken
          exact ⟨none.symm, size, [], by rw [Codec.stream_nil, List.drop_nil], rfl⟩
      | cons memory memories =>
          rw [Codec.take_stream] at taken
          have long := tlvRequest.length_encode memory
          have nonempty : world.read ≠ [] := by
            rw [taken]
            exact List.ne_nil_of_length_pos (by rw [long]; decide)
          have whole : overwrite world.request world.read = tlvRequest.encode memory := by
            rw [taken, overwrite_whole (shows.size.trans long.symm)]
          refine ⟨?_, by rw [whole, long], memories, ?_, rfl⟩
          · rw [World.received, if_neg nonempty, whole, tlvRequest.decode_encode]
            rfl
          · rw [taken, long, Codec.drop_stream]
  | _ =>
      have empty : world.read = [] := by simp only [World.read, here]
      obtain ⟨none, size⟩ := nothing empty
      exact ⟨none.symm, size, memories, by rw [empty, ← bytes]; rfl, rfl⟩

variable (generateSha256Hash : CString → CString → CString) (adminPassword : CString)
  (clients : Fin m → Client)

/-- Every statement is refused on both sides, or reports the same and leads to the same. -/
theorem worldStep_same (shows : Shows world world') (label : Label m n) :
    Option.Rel (fun moved moved' => moved.2 = moved'.2 ∧ Shows moved.1 moved'.1)
      (worldStep generateSha256Hash adminPassword clients world label)
      (Exchange.worldStep generateSha256Hash adminPassword (fun k => (clients k).message) world'
        label) := by
  cases label with
  | main =>
      obtain ⟨received, size, unread⟩ := shows.read
      simp only [worldStep, Exchange.worldStep, shows.killed, shows.server, received]
      cases world.killed with
      | true => exact .none
      | false =>
          simp only [Bool.false_eq_true, ↓reduceIte, Option.bind_eq_bind, Option.pure_def]
          cases step generateSha256Hash adminPassword world.server (.main world.received) with
          | none => exact .none
          | some moved =>
              exact .some ⟨rfl, rfl, size, unread, rfl, shows.pipes, shows.writing,
                shows.clients⟩
  | office i buffer =>
      simp only [worldStep, Exchange.worldStep, shows.killed, shows.server, shows.writing,
        shows.opening i]
      cases world.killed || (world.writing i).isSome with
      | true => exact .none
      | false =>
          simp only [Bool.false_eq_true, ↓reduceIte, Option.bind_eq_bind, Option.pure_def]
          cases step generateSha256Hash adminPassword world.server
              (.office i buffer (world.opening i).isSome) with
          | none => exact .none
          | some moved =>
              exact .some ⟨rfl, rfl, shows.size, shows.serverFifo, rfl, shows.pipes, rfl,
                shows.clients⟩
  | write i =>
      simp only [worldStep, Exchange.worldStep, shows.killed, shows.writing]
      cases world.killed with
      | true => exact .none
      | false =>
          simp only [Bool.false_eq_true, ↓reduceIte, Option.bind_eq_bind, Option.pure_def]
          cases world.writing i with
          | none => exact .none
          | some written =>
              simp only [Option.bind_some, shows.pipes, Pipes.encoded_write]
              cases world'.pipes.write written.fd written.reply with
              | none =>
                  exact .some ⟨rfl, shows.server, shows.size, shows.serverFifo, rfl, rfl,
                    rfl, shows.clients⟩
              | some pipes =>
                  exact .some ⟨rfl, shows.server, shows.size, shows.serverFifo, rfl, rfl, rfl,
                    shows.clients⟩
  | client k around =>
      have turned := clientStep_same (n := n) (clients k) around world'.pipes (world.clients k)
      have pc : world'.clients k = (world.clients k).message := congrFun shows.clients k
      rw [← shows.pipes, ← pc] at turned
      simp only [worldStep, Exchange.worldStep, Option.bind_eq_bind, Option.pure_def]
      generalize clientStep (clients k) around world.pipes (world.clients k) = turn at turned ⊢
      generalize Exchange.clientStep (clients k).message around world'.pipes (world'.clients k) =
        moved at turned ⊢
      cases turned with
      | none => exact .none
      | @some turn moved same =>
          obtain ⟨pc', pipes', report'⟩ := moved
          obtain ⟨rfl, encoded, rfl, memories, sent, sends⟩ := same
          obtain ⟨unread, bytes, messages⟩ := shows.serverFifo
          refine .some ⟨rfl, shows.server, shows.size, ⟨unread ++ memories, ?_, ?_⟩, shows.killed,
            encoded, shows.writing, ?_⟩
          · simp [bytes, sent, Codec.stream]
          · rw [messages, List.map_append, ← sends]
            cases turn.report <;> rfl
          · funext k'
            change Function.update world'.clients k turn.pc.message k' = _
            rw [shows.clients]
            exact
              (Function.apply_update (fun _ => ClientPc.message) world.clients k turn.pc k').symm

variable (rand : Rand) (request : RequestBytes) (stale : Pipes CString TlvReply)

theorem initialWorld_shows :
    Shows (initialWorld m n rand request (stale.encoded tlvReply))
      (Exchange.initialWorld m n rand stale) :=
  ⟨rfl, tlvRequest.length_encode request, ⟨[], rfl, rfl⟩, rfl, rfl, rfl, rfl⟩

theorem exchange_same (labels : List (Label m n)) :
    Option.Rel
      (fun ran ran' => ran.1.map (·.output) = ran'.1.map (·.output) ∧ Shows ran.2 ran'.2)
      (exchange generateSha256Hash rand adminPassword clients request (stale.encoded tlvReply)
        labels)
      (Exchange.exchange generateSha256Hash rand adminPassword (fun k => (clients k).message)
        stale labels) :=
  run_lockstep Shows
    (fun _ _ label shows => worldStep_same generateSha256Hash adminPassword clients shows label)
    (initialWorld_shows rand request stale) labels

/-- The exchange of bytes refines the exchange of messages, and the other way round: the
same orders of steps are possible, and show the same. -/
theorem exchange_lockstep (labels : List (Label m n)) :
    (exchange generateSha256Hash rand adminPassword clients request (stale.encoded tlvReply)
        labels).map (fun ran => ran.1.map (·.output)) =
      (Exchange.exchange generateSha256Hash rand adminPassword (fun k => (clients k).message)
        stale labels).map fun ran => ran.1.map (·.output) := by
  have same := exchange_same generateSha256Hash adminPassword clients rand request stale labels
  generalize exchange generateSha256Hash rand adminPassword clients request
    (stale.encoded tlvReply) labels = ran at same ⊢
  generalize Exchange.exchange generateSha256Hash rand adminPassword
    (fun k => (clients k).message) stale labels = ran' at same ⊢
  cases same with
  | none => rfl
  | some both => exact congrArg some both.1

variable {generateSha256Hash adminPassword clients rand request stale}

/-- A run on bytes with the run on messages beside it. -/
theorem exchange_message {labels : List (Label m n)} {events : List (WorldEvent m n)}
    (ran : exchange generateSha256Hash rand adminPassword clients request (stale.encoded tlvReply)
      labels = some (events, world)) :
    ∃ events' world', Exchange.exchange generateSha256Hash rand adminPassword
        (fun k => (clients k).message) stale labels = some (events', world') ∧
      events.map (·.output) = events'.map (·.output) ∧ Shows world world' := by
  have same := exchange_same generateSha256Hash adminPassword clients rand request stale labels
  rw [ran] at same
  generalize Exchange.exchange generateSha256Hash rand adminPassword
    (fun k => (clients k).message) stale labels = ran' at same
  cases same with
  | @some _ ran' both => exact ⟨ran'.1, ran'.2, rfl, both.1, both.2⟩

/-- A run on messages with the run on bytes beside it. -/
theorem exchange_bytes {labels : List (Label m n)}
    {events' : List (Exchange.WorldEvent m n)} {world' : Exchange.World m n}
    (ran' : Exchange.exchange generateSha256Hash rand adminPassword
      (fun k => (clients k).message) stale labels = some (events', world')) :
    ∃ events world, exchange generateSha256Hash rand adminPassword clients request
        (stale.encoded tlvReply) labels = some (events, world) ∧
      events.map (·.output) = events'.map (·.output) := by
  have same := exchange_same generateSha256Hash adminPassword clients rand request stale labels
  rw [ran'] at same
  generalize exchange generateSha256Hash rand adminPassword clients request
    (stale.encoded tlvReply) labels = ran at same ⊢
  cases same with
  | @some ran _ both => exact ⟨ran.1, ran.2, rfl, both.1⟩

end Framing

section Frames

variable {m n : Nat} {generateSha256Hash : CString → CString → CString} {adminPassword : CString}
  {clients : Fin m → Client} {rand : Rand} {request : RequestBytes}
  {stale : Pipes CString TlvReply} {world : World m n}

/-- The request that a statement of main puts into the queue. -/
def pushes : Report n → Option TlvRequest
  | .server _ action => action.pushes
  | _ => none

/-- The request that a statement of an office answers, and the answer. -/
def handles : Report n → Option (TlvRequest × TlvReply)
  | .server _ action => action.handles
  | _ => none

/-- What the server shows is what the reports show of it. -/
theorem observed_serverEvents {α : Type} (shows : Action → Option α)
    (reported : Report n → Option α)
    (server : ∀ label action, reported (.server label action) = shows action)
    (others : ∀ report, (∀ label action, report ≠ .server label action) → reported report = none)
    (past : List (Exchange.WorldEvent m n)) :
    observed shows (serverEvents past) = (past.map (·.output)).filterMap reported := by
  simp only [observed, serverEvents, List.filterMap_filterMap, List.filterMap_map]
  refine List.filterMap_congr fun event _ => ?_
  cases shown : event.output with
  | server label action => simp [serverEvent, shown, server]
  | _ => simp [serverEvent, shown, others]

theorem handledRequests_reports (past : List (Exchange.WorldEvent m n)) :
    handledRequests (serverEvents past) = (past.map (·.output)).filterMap handles :=
  observed_serverEvents _ _ (fun _ _ => rfl)
    (fun report other => by cases report with
      | server label action => exact absurd rfl (other label action)
      | _ => rfl) past

theorem pushedRequests_reports (past : List (Exchange.WorldEvent m n)) :
    pushedRequests (serverEvents past) = (past.map (·.output)).filterMap pushes :=
  observed_serverEvents _ _ (fun _ _ => rfl)
    (fun report other => by cases report with
      | server label action => exact absurd rfl (other label action)
      | _ => rfl) past

theorem sentRequests_reports (past : List (Exchange.WorldEvent m n)) :
    sentRequests past = (past.map (·.output)).flatMap Report.sends := by
  rw [sentRequests, List.flatMap_map]

/-- In every state the server FIFO holds whole requests: what was sent is what main has
pushed, what it carries, and what lies there, in this order. -/
theorem exchange_frames (pids : DistinctPids fun k => (clients k).message)
    {labels : List (Label m n)} {events : List (WorldEvent m n)}
    (ran : exchange generateSha256Hash rand adminPassword clients request (stale.encoded tlvReply)
      labels = some (events, world)) :
    ∃ unread : List RequestBytes, world.serverFifo = tlvRequest.stream unread ∧
      (events.map (·.output)).filterMap pushes ++ ((carried world.server.main).toList ++
        unread.map (·.val.request)) = (events.map (·.output)).flatMap Report.sends := by
  obtain ⟨events', world', ran', same, shows⟩ := exchange_message ran
  obtain ⟨unread, bytes, messages⟩ := shows.serverFifo
  have order := (exchange_flow pids ran').order
  rw [pushedRequests_reports, sentRequests_reports, messages, shows.server, ← same] at order
  exact ⟨unread, bytes, order⟩

end Frames

/-- `user 1 top_secret 10 1 ""`. -/
def balanceCommand : Command where
  accountId := 1
  password := topSecret
  operation := .balance []
  inside := by decide
  long := by decide
  short := by decide
  noNul := by decide
  wellFormed := trivial

def anyRequestBytes : RequestBytes :=
  ⟨anyRequest, ⟨isBytes_of_all rfl, isBytes_of_all rfl⟩⟩

/-- The only process there is, as number 1000. -/
def typedClient : Fin 1 → Client := fun _ =>
  { pid := 1000
    argv := balanceCommand.argv 10 wideSpacing
    request := anyRequestBytes
    reply := List.replicate 20 0
    password := ⟨isBytes_of_all rfl, balanceCommand.noNul⟩
    arguments := ⟨isBytes_of_all rfl, by decide⟩
    size := rfl
    inside := by
      obtain ⟨memory, built, -⟩ := buildTlvRequest_of_delay anyRequestBytes.val 1000 balanceCommand
        wideSpacing (show 0 ≤ (10 : Int) by decide) (by decide)
      rw [built]
      rfl }

theorem typedClient_pids : DistinctPids fun k => (typedClient k).message :=
  fun _ _ _ => Subsingleton.elim ..

/-- The process gets an answer and logs it. -/
theorem typedClient_logs : ∃ events world reply, exchange sessionHash sessionRand ultraTopSecret
      typedClient anyRequestBytes (noPipes.encoded tlvReply) patientOffice = some (events, world) ∧
    (events.map (·.output)).getLast? = some (.logged reply) := by
  obtain ⟨events', world', reply, ran', last⟩ : ∃ events world reply,
      Exchange.exchange sessionHash sessionRand ultraTopSecret (fun k => (typedClient k).message)
        noPipes patientOffice = some (events, world) ∧
      (events.map (·.output)).getLast? = some (.logged reply) := ⟨_, _, _, rfl, rfl⟩
  obtain ⟨events, world, ran, outputs⟩ := exchange_bytes ran'
  exact ⟨events, world, reply, ran, by rw [outputs]; exact last⟩

theorem typedClient_frames : ∃ events world, exchange sessionHash sessionRand
      ultraTopSecret typedClient anyRequestBytes (noPipes.encoded tlvReply) patientOffice =
        some (events, world) ∧
    ∃ unread : List RequestBytes, world.serverFifo = tlvRequest.stream unread ∧
      (events.map (·.output)).filterMap pushes ++ ((carried world.server.main).toList ++
        unread.map (·.val.request)) = (events.map (·.output)).flatMap Report.sends := by
  obtain ⟨events, world, -, ran, -⟩ := typedClient_logs
  exact ⟨events, world, ran, exchange_frames typedClient_pids ran⟩

end Sope.Exchange.Bytes
