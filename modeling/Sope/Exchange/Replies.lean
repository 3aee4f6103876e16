import Sope.Exchange.Answers
import Sope.Exchange.Flow

set_option autoImplicit false

/- Which reply reaches whom: every reply is written for one request that was handled,
at most once, into the FIFO of the client that sent the request. -/
namespace Sope.Exchange

open Machine Banking Server Fifo

section Replies

variable {m n : Nat} {generateSha256Hash : CString → CString → CString} {rand : Rand}
  {adminPassword : CString} {clients : Fin m → Client} {stale : Pipes CString TlvReply}
  {world world' : World m n} {report : Report n}

def Report.writes : Report n → Option (TlvRequest × TlvReply)
  | .wrote request reply => some (request, reply)
  | _ => none

/-- The replies written so far, each with the request that it answers. -/
def writtenReplies (past : List (WorldEvent m n)) : List (TlvRequest × TlvReply) :=
  past.filterMap fun event => event.output.writes

theorem writtenReplies_snoc (past : List (WorldEvent m n)) (event : WorldEvent m n) :
    writtenReplies (past ++ [event]) = writtenReplies past ++ event.output.writes.toList := by
  simp only [writtenReplies, List.filterMap_append, List.filterMap_cons, List.filterMap_nil]
  cases event.output.writes <;> rfl

/-- The request and the reply that an office has still to deliver. -/
def undelivered : OfficePc → Option (TlvRequest × TlvReply)
  | .postAccount request _ reply | .postTarget request _ reply | .openFifo request reply =>
      some (request, reply)
  | _ => none

def World.unwritten (world : World m n) (i : Fin n) : Option (TlvRequest × TlvReply) :=
  match world.writing i with
  | some written => some (written.request, written.reply)
  | none => undelivered (world.server.offices i)

/-- An office gets a reply to deliver by handling its request, and gives it up by
opening the user FIFO. -/
theorem officeMove_undelivered {shared shared' : Shared n} {i : Fin n} {pc pc' : OfficePc}
    {action : Action} (move : OfficeMove generateSha256Hash shared i pc shared' pc' action) :
    (action.handles = none ∧ undelivered pc' = undelivered pc ∧
        ∀ request reply, pc ≠ .openFifo request reply) ∨
      (∃ request reply, action = .handled request reply ∧ undelivered pc' = some (request, reply) ∧
        ∀ request reply, pc ≠ .openFifo request reply) ∨
      ∃ request reply reply', pc = .openFifo request reply ∧ pc' = .unlock request reply' ∧
        action.handles = none := by
  cases move with
  | build request targetSem buffer bank reply =>
      exact Or.inr (Or.inl ⟨request, reply, rfl, rfl, fun _ _ => OfficePc.noConfusion⟩)
  | openFifo request reply opened =>
      exact Or.inr (Or.inr ⟨request, reply, _, rfl, rfl, rfl⟩)
  | _ => exact Or.inl ⟨rfl, rfl, fun _ _ => OfficePc.noConfusion⟩

theorem ClientMove.writes {client : Client} {pipes pipes' : Pipes CString TlvReply}
    {pc pc' : ClientPc} (move : ClientMove client pipes pc pc' pipes' report) :
    report.writes = none := by
  cases move <;> rfl

theorem ClientMove.logged {client : Client} {pipes pipes' : Pipes CString TlvReply}
    {pc pc' : ClientPc} {reply : TlvReply}
    (move : ClientMove client pipes pc pc' pipes' (.logged reply : Report n)) :
    ∃ fd, pc = .poll fd ∧ reply ∈ (pipes.inodes fd).contents := by
  cases move with
  | receive fd _ _ received =>
      obtain ⟨rest, contents, -⟩ := Pipes.read_spec received
      exact ⟨fd, rfl, contents ▸ List.mem_cons_self⟩

theorem World.opening_eq_none {i : Fin n}
    (elsewhere : ∀ request reply, world.server.offices i ≠ .openFifo request reply) :
    world.opening i = none := by
  unfold World.opening
  split
  · rename_i request reply here
    exact absurd here (elsewhere request reply)
  · rfl

/-- Handled requests are answered at most once: a reply that is not written yet belongs
to a request for which none has been written. -/
structure Replied (past : List (WorldEvent m n)) (world : World m n) : Prop where
  written : ∀ answer ∈ writtenReplies past, answer ∈ handledRequests (serverEvents past)
  nodup : ((writtenReplies past).map (·.1.value.header.pid)).Nodup
  holding : ∀ i written, world.writing i = some written →
    ∃ reply, world.server.offices i = .unlock written.request reply
  unwritten : ∀ i answer, world.unwritten i = some answer →
    answer ∈ handledRequests (serverEvents past) ∧
      answer.1.value.header.pid ∉ (writtenReplies past).map (·.1.value.header.pid)
  apart : ∀ i j answer other, world.unwritten i = some answer →
    world.unwritten j = some other → i ≠ j →
    answer.1.value.header.pid ≠ other.1.value.header.pid

theorem initialWorld_replied : Replied [] (initialWorld m n rand stale) where
  written _ member := nomatch member
  nodup := List.nodup_nil
  holding _ _ writing := nomatch writing
  unwritten _ _ pending := nomatch pending
  apart _ _ _ _ pending := nomatch pending

/-- A step that writes nothing and gives no office a new reply to deliver. -/
theorem Replied.keep {past : List (WorldEvent m n)} (replied : Replied past world)
    {event : WorldEvent m n} (quiet : event.output.writes = none)
    (handled : handledRequests (serverEvents past) <+:
      handledRequests (serverEvents (past ++ [event])))
    (holding : ∀ i written, world'.writing i = some written →
      ∃ reply, world'.server.offices i = .unlock written.request reply)
    (unwritten : ∀ i answer, world'.unwritten i = some answer → world.unwritten i = some answer) :
    Replied (past ++ [event]) world' := by
  have written : writtenReplies (past ++ [event]) = writtenReplies past := by
    rw [writtenReplies_snoc, quiet, Option.toList_none, List.append_nil]
  refine ⟨?_, ?_, holding, ?_, ?_⟩
  · rw [written]
    exact fun answer member => handled.subset (replied.written answer member)
  · rw [written]
    exact replied.nodup
  · rw [written]
    intro i answer pending
    obtain ⟨member, unanswered⟩ := replied.unwritten i answer (unwritten i answer pending)
    exact ⟨handled.subset member, unanswered⟩
  · intro i j answer other pending pending'
    exact replied.apart i j answer other (unwritten i answer pending) (unwritten j other pending')

theorem serverEvents_unseen {past : List (WorldEvent m n)} {event : WorldEvent m n}
    (unseen : serverEvent event = none) : serverEvents (past ++ [event]) = serverEvents past := by
  rw [serverEvents_snoc, unseen, Option.toList_none, List.append_nil]

theorem handled_server {past : List (WorldEvent m n)} {label : Label m n}
    {inner : Server.Label n} {action : Action} :
    handledRequests (serverEvents (past ++
      [(⟨world, label, .server inner action, world'⟩ : WorldEvent m n)])) =
      handledRequests (serverEvents past) ++ action.handles.toList := by
  rw [serverEvents_snoc]
  exact handledRequests_snoc ..

theorem Replied.main {past : List (WorldEvent m n)} (replied : Replied past world)
    (protocol : Protocol world.server) {label : Label m n} {received : Option TlvRequest}
    {server : State n} {action : Action}
    (move : MainMove generateSha256Hash adminPassword world.server received server action) :
    Replied (past ++ [⟨world, label, .server (.main received) action,
      { world with server, serverFifo := world.unread }⟩])
      { world with server, serverFifo := world.unread } := by
  refine replied.keep rfl ?_ ?_ ?_
  · rw [handled_server]
    exact List.prefix_append ..
  · intro i written writing
    obtain ⟨reply, here⟩ := replied.holding i written writing
    rcases move.office protocol.spawning i with same | ⟨before, -⟩
    · exact ⟨reply, same.trans here⟩
    · rw [before] at here
      cases here
  · intro i answer pending
    have same : undelivered (server.offices i) = undelivered (world.server.offices i) :=
      move.office_same protocol.spawning undelivered rfl i
    rw [← pending]
    simp only [World.unwritten, same]

theorem World.unwritten_of_none {i : Fin n} (idle : world.writing i = none) :
    world.unwritten i = undelivered (world.server.offices i) := by
  unfold World.unwritten
  rw [idle]

theorem World.unwritten_of_some {i : Fin n} {written : Writing}
    (writing : world.writing i = some written) :
    world.unwritten i = some (written.request, written.reply) := by
  unfold World.unwritten
  rw [writing]

section Office

variable {past : List (WorldEvent m n)} {label : Label m n} {i : Fin n} {buffer : TlvReply}
  {server : State n} {shared : Shared n} {pc : OfficePc} {action : Action}

/-- The office that moves has no reply half written, and the others keep what they have
to deliver. -/
structure Moved (world world' : World m n) (i : Fin n) (pc : OfficePc) : Prop where
  idle : world.writing i = none
  writing : world'.writing = Function.update world.writing i (world.opening i)
  offices : world'.server.offices = Function.update world.server.offices i pc

theorem Moved.unwritten_of_ne (moved : Moved world world' i pc) {j : Fin n} (different : j ≠ i) :
    world'.unwritten j = world.unwritten j := by
  simp only [World.unwritten, moved.writing, moved.offices, Function.update_of_ne different]

theorem Moved.unwritten_self (moved : Moved world world' i pc) (closed : world.opening i = none) :
    world'.unwritten i = undelivered pc := by
  simp only [World.unwritten, moved.writing, moved.offices, Function.update_self, closed]

theorem Moved.holding (moved : Moved world world' i pc) (replied : Replied past world)
    (here : ∀ written, world.opening i = some written →
      ∃ reply, pc = .unlock written.request reply) (j : Fin n) (written : Writing)
    (writing : world'.writing j = some written) :
    ∃ reply, world'.server.offices j = .unlock written.request reply := by
  rw [moved.writing] at writing
  rw [moved.offices]
  by_cases same : j = i
  · rw [same, Function.update_self] at writing ⊢
    exact here written writing
  · rw [Function.update_of_ne same] at writing ⊢
    exact replied.holding j written writing

/-- The office has handled its request, for which no reply can have been written. -/
theorem Replied.handles (replied : Replied past world) (moved : Moved world world' i pc)
    {event : WorldEvent m n} {request : TlvRequest} {reply : TlvReply}
    (quiet : event.output.writes = none) (closed : world.opening i = none)
    (fresh : undelivered pc = some (request, reply))
    (handled : handledRequests (serverEvents (past ++ [event])) =
      handledRequests (serverEvents past) ++ [(request, reply)])
    (nodup : ((handledRequests (serverEvents (past ++ [event]))).map
      (·.1.value.header.pid)).Nodup) :
    Replied (past ++ [event]) world' := by
  have written : writtenReplies (past ++ [event]) = writtenReplies past := by
    rw [writtenReplies_snoc, quiet, Option.toList_none, List.append_nil]
  have new (answer : TlvRequest × TlvReply)
      (old : answer ∈ handledRequests (serverEvents past)) :
      answer.1.value.header.pid ≠ request.value.header.pid := by
    rw [handled, List.map_append] at nodup
    intro same
    exact (List.nodup_append.mp nodup).2.2 _ (List.mem_map_of_mem old) _ (List.mem_singleton_self _)
      same
  have pending (j : Fin n) (answer : TlvRequest × TlvReply)
      (unwritten : world'.unwritten j = some answer) :
      (j = i ∧ answer = (request, reply)) ∨ (j ≠ i ∧ world.unwritten j = some answer) := by
    by_cases same : j = i
    · subst same
      rw [moved.unwritten_self closed, fresh] at unwritten
      exact Or.inl ⟨rfl, (Option.some.inj unwritten).symm⟩
    · exact Or.inr ⟨same, moved.unwritten_of_ne same ▸ unwritten⟩
  refine ⟨?_, ?_, moved.holding replied ?_, ?_, ?_⟩
  · rw [written, handled]
    exact fun answer member => List.mem_append_left _ (replied.written answer member)
  · rw [written]
    exact replied.nodup
  · intro opened opening
    rw [closed] at opening
    cases opening
  · rw [written, handled]
    intro j answer unwritten
    rcases pending j answer unwritten with ⟨-, rfl⟩ | ⟨-, before⟩
    · refine ⟨List.mem_append_right _ (List.mem_singleton_self _), fun answered => ?_⟩
      obtain ⟨other, member, same⟩ := List.mem_map.mp answered
      exact new other (replied.written other member) same
    · obtain ⟨member, unanswered⟩ := replied.unwritten j answer before
      exact ⟨List.mem_append_left _ member, unanswered⟩
  · intro j k answer other unwritten unwritten' different
    rcases pending j answer unwritten with ⟨rfl, rfl⟩ | ⟨-, before⟩
    · rcases pending k other unwritten' with ⟨rfl, -⟩ | ⟨-, before'⟩
      · exact absurd rfl different
      · exact (new other (replied.unwritten k other before').1).symm
    · rcases pending k other unwritten' with ⟨rfl, rfl⟩ | ⟨-, before'⟩
      · exact new answer (replied.unwritten j answer before).1
      · exact replied.apart j k answer other before before' different

theorem Replied.office (replied : Replied past world) (moved : Moved world world' i pc)
    (move : OfficeMove generateSha256Hash world.server.shared i (world.server.offices i) shared pc
      action)
    {event : WorldEvent m n} (quiet : event.output.writes = none)
    (handled : handledRequests (serverEvents (past ++ [event])) =
      handledRequests (serverEvents past) ++ action.handles.toList)
    (nodup : ((handledRequests (serverEvents (past ++ [event]))).map
      (·.1.value.header.pid)).Nodup) :
    Replied (past ++ [event]) world' := by
  have grows : handledRequests (serverEvents past) <+:
      handledRequests (serverEvents (past ++ [event])) := ⟨_, handled.symm⟩
  rcases officeMove_undelivered move with ⟨silent, same, elsewhere⟩ |
    ⟨request, reply, rfl, fresh, elsewhere⟩ | ⟨request, reply, reply', here, unlock, silent⟩
  · have closed := World.opening_eq_none elsewhere
    refine replied.keep quiet grows (moved.holding replied ?_) ?_
    · intro opened opening
      rw [closed] at opening
      cases opening
    · intro j answer unwritten
      by_cases office : j = i
      · subst office
        rw [moved.unwritten_self closed, same] at unwritten
        rwa [World.unwritten_of_none moved.idle]
      · rwa [moved.unwritten_of_ne office] at unwritten
  · exact replied.handles moved quiet (World.opening_eq_none elsewhere) fresh handled nodup
  · have before : world.unwritten i = some (request, reply) := by
      rw [World.unwritten_of_none moved.idle, here]
      rfl
    refine replied.keep quiet grows (moved.holding replied ?_) ?_
    · intro opened opening
      have same := (World.opening_eq_some.mp opening).1.symm.trans here
      exact ⟨reply', unlock.trans (congrArg (OfficePc.unlock · reply')
        (OfficePc.openFifo.inj same).1.symm)⟩
    · intro j answer unwritten
      by_cases office : j = i
      · subst office
        cases opening : world.opening j with
        | none =>
            rw [moved.unwritten_self opening, unlock] at unwritten
            cases unwritten
        | some opened =>
            have same := OfficePc.openFifo.inj
              ((World.opening_eq_some.mp opening).1.symm.trans here)
            have writing : world'.writing j = some opened := by
              rw [moved.writing, Function.update_self, opening]
            rw [World.unwritten_of_some writing, same.1, same.2] at unwritten
            exact before.trans unwritten
      · rwa [moved.unwritten_of_ne office] at unwritten

/-- The reply is written, and the office has nothing left to deliver. -/
theorem Replied.write (replied : Replied past world) {written : Writing}
    (writing : world.writing i = some written) {pipes : Pipes CString TlvReply}
    (next : world' = { world with pipes, writing := Function.update world.writing i none })
    (event : WorldEvent m n) (output : event.output = .wrote written.request written.reply) :
    Replied (past ++ [event]) world' := by
  have answers : writtenReplies (past ++ [event]) =
      writtenReplies past ++ [(written.request, written.reply)] := by
    rw [writtenReplies_snoc, output]
    rfl
  have unseen : serverEvents (past ++ [event]) = serverEvents past := by
    apply serverEvents_unseen
    rw [serverEvent, output]
  have mine := World.unwritten_of_some writing
  obtain ⟨member, unanswered⟩ := replied.unwritten i _ mine
  obtain ⟨reply, here⟩ := replied.holding i written writing
  have pending (j : Fin n) (answer : TlvRequest × TlvReply)
      (unwritten : world'.unwritten j = some answer) :
      j ≠ i ∧ world.unwritten j = some answer := by
    subst next
    by_cases same : j = i
    · subst same
      simp only [World.unwritten, Function.update_self, here] at unwritten
      cases unwritten
    · simp only [World.unwritten, Function.update_of_ne same] at unwritten
      exact ⟨same, unwritten⟩
  refine ⟨?_, ?_, ?_, ?_, ?_⟩
  · rw [answers, unseen]
    intro answer earlier
    rcases List.mem_append.mp earlier with old | now
    · exact replied.written answer old
    · rw [List.mem_singleton.mp now]
      exact member
  · rw [answers, List.map_append]
    refine List.Nodup.append replied.nodup (List.nodup_singleton _) ?_
    intro pid old now
    rw [List.mem_singleton.mp now] at old
    exact unanswered old
  · intro j opened opening
    subst next
    by_cases same : j = i
    · subst same
      simp only [Function.update_self] at opening
      cases opening
    · simp only [Function.update_of_ne same] at opening
      exact replied.holding j opened opening
  · rw [answers, unseen]
    intro j answer unwritten
    obtain ⟨other, before⟩ := pending j answer unwritten
    obtain ⟨member', unanswered'⟩ := replied.unwritten j answer before
    refine ⟨member', fun answered => ?_⟩
    rw [List.map_append] at answered
    rcases List.mem_append.mp answered with old | now
    · exact unanswered' old
    · exact replied.apart j i answer _ before mine other (List.mem_singleton.mp now)
  · intro j k answer other unwritten unwritten' different
    exact replied.apart j k answer other (pending j answer unwritten).2
      (pending k other unwritten').2 different

theorem Replied.step (replied : Replied past world) (protocol : Protocol world.server)
    (move : WorldMove generateSha256Hash adminPassword clients world world' report)
    (nodup : ((handledRequests (serverEvents (past ++
      [(⟨world, label, report, world'⟩ : WorldEvent m n)]))).map (·.1.value.header.pid)).Nodup) :
    Replied (past ++ [⟨world, label, report, world'⟩]) world' := by
  cases move with
  | main server action running fired =>
      obtain ⟨received, same, move⟩ | ⟨_, _, _, _, _, wrong, -⟩ := step_move fired
      · cases same
        exact replied.main protocol move
      · cases wrong
  | office i buffer server action running idle fired =>
      obtain ⟨received, wrong, -⟩ | ⟨i', _, _, shared, pc, same, move, next⟩ := step_move fired
      · cases wrong
      · cases same
        have offices : server.offices = Function.update world.server.offices i pc := by rw [next]
        exact replied.office ⟨idle, rfl, offices⟩ move rfl handled_server nodup
  | write i written pipes running writing wrote => exact replied.write writing rfl _ rfl
  | broken =>
      refine replied.keep rfl ?_ replied.holding fun _ _ same => same
      rw [serverEvents_unseen rfl]
  | client k pc pipes report move =>
      refine replied.keep move.writes ?_ replied.holding fun _ _ same => same
      rw [serverEvents_unseen (move.serverEvent_eq_none ..)]

end Office

theorem exchange_replied (pids : DistinctPids clients) {labels : List (Label m n)}
    {events : List (WorldEvent m n)}
    (ran : exchange generateSha256Hash rand adminPassword clients stale labels =
      some (events, world)) : Replied events world := by
  apply run_induction ran Replied initialWorld_replied
  intro past world input report world' _ reached replied fired
  have protocol := execute_protocol (exchange_server reached)
  have reached' := run_snoc ⟨world, input, report, world'⟩ reached fired
  have nodup : (((handledRequests (serverEvents (past ++ [⟨world, input, report, world'⟩]))).map
      (·.1)).map (·.value.header.pid)).Nodup :=
    ((exchange_handled pids reached').sublist.map _).nodup (exchange_flow pids reached').nodup
  rw [List.map_map] at nodup
  exact replied.step protocol (worldStep_move fired) nodup

/-- What lies in the FIFO that a client reads was written for its own request; a FIFO
that it has just made is empty. -/
structure Delivered (clients : Fin m → Client) (past : List (WorldEvent m n))
    (world : World m n) : Prop where
  polled : ∀ k fd, world.clients k = .poll fd →
    ∀ reply ∈ (world.pipes.inodes fd).contents, ∃ request,
      request.value.header.pid = (clients k).pid ∧ (request, reply) ∈ writtenReplies past
  fresh : ∀ k inode, world.clients k = .openFifo →
    world.pipes.entries (clients k).path = some inode → (world.pipes.inodes inode).contents = []

/-- No client begins to wait, and the FIFOs hold no more than before. -/
theorem Delivered.keep {past : List (WorldEvent m n)} (delivered : Delivered clients past world)
    {event : WorldEvent m n} (quiet : event.output.writes = none)
    (polls : ∀ k fd, world'.clients k = .poll fd → world.clients k = .poll fd)
    (opens : ∀ k, world'.clients k = .openFifo → world.clients k = .openFifo)
    (entries : ∀ path inode, world'.pipes.entries path = some inode →
      world.pipes.entries path = some inode)
    (contents : ∀ inode, (world'.pipes.inodes inode).contents ⊆
      (world.pipes.inodes inode).contents) :
    Delivered clients (past ++ [event]) world' := by
  refine ⟨?_, ?_⟩
  · rw [writtenReplies_snoc, quiet, Option.toList_none, List.append_nil]
    intro k fd polling reply member
    exact delivered.polled k fd (polls k fd polling) reply (contents fd member)
  · intro k inode opening entry
    have empty := delivered.fresh k inode (opens k opening) (entries _ _ entry)
    exact List.eq_nil_of_subset_nil (empty ▸ contents inode)

section Client

variable {past : List (WorldEvent m n)} {label : Label m n} {k : Fin m} {pc : ClientPc}
  {pipes : Pipes CString TlvReply}

theorem contents_withPipe {inode : Nat} {pipe : Pipe TlvReply}
    (fewer : pipe.contents ⊆ (pipes.inodes inode).contents) (other : Nat) :
    ((pipes.withPipe inode pipe).inodes other).contents ⊆ (pipes.inodes other).contents := by
  by_cases here : other = inode
  · rw [here, Pipes.withPipe_self]
    exact fewer
  · rw [Pipes.withPipe_of_ne _ _ here]
    exact List.Subset.refl _

theorem contents_withReaders (pipes : Pipes CString TlvReply) (inode readers other : Nat) :
    ((pipes.withPipe inode { pipes.inodes inode with readers }).inodes other).contents =
      (pipes.inodes other).contents := by
  by_cases here : other = inode
  · rw [here, Pipes.withPipe_self]
  · rw [Pipes.withPipe_of_ne _ _ here]

theorem contents_closeRead (pipes : Pipes CString TlvReply) (fd other : Nat) :
    ((pipes.closeRead fd).inodes other).contents = (pipes.inodes other).contents :=
  contents_withReaders ..

theorem poll_of_update {pcs : Fin m → ClientPc} {fd : Nat} {k' : Fin m} (idle : pc.reads = none)
    (polling : Function.update pcs k pc k' = .poll fd) : pcs k' = .poll fd := by
  by_cases same : k' = k
  · rw [same, Function.update_self] at polling
    rw [polling] at idle
    cases idle
  · rwa [Function.update_of_ne same] at polling

theorem openFifo_of_update {pcs : Fin m → ClientPc} {k' : Fin m} (other : pc ≠ .openFifo)
    (opening : Function.update pcs k pc k' = .openFifo) : pcs k' = .openFifo := by
  by_cases same : k' = k
  · rw [same, Function.update_self] at opening
    exact absurd opening other
  · rwa [Function.update_of_ne same] at opening

theorem Delivered.make (delivered : Delivered clients past world) (pids : DistinctPids clients)
    (readers : Readers clients world.pipes world.clients)
    (made : world.pipes.make (clients k).path = some pipes)
    (next : world' = { world with
      pipes, serverFifo := world.serverFifo ++ [],
      clients := Function.update world.clients k .openFifo }) :
    Delivered clients (past ++ [⟨world, label, .silent, world'⟩]) world' := by
  subst next
  obtain ⟨-, entries, inodes, -⟩ := Pipes.make_spec made
  have old (inode : Nat) (given : inode < world.pipes.next) :
      pipes.inodes inode = world.pipes.inodes inode := by
    rw [inodes, Function.update_of_ne (Nat.ne_of_lt given)]
  refine ⟨?_, ?_⟩
  · rw [writtenReplies_snoc]
    simp only [Report.writes, Option.toList_none, List.append_nil]
    intro k' fd polling reply member
    have before := poll_of_update rfl polling
    have entry := (readers.polls k' fd (ClientPc.reads_eq_some.mpr before)).1
    rw [old fd (world.pipes.bounded _ _ entry)] at member
    exact delivered.polled k' fd before reply member
  · intro k' inode opening entry
    dsimp only at opening entry ⊢
    rw [entries] at entry
    by_cases same : k' = k
    · rw [same, Function.update_self] at entry
      rw [inodes, ← Option.some.inj entry, Function.update_self]
    · have elsewhere : (clients k').path ≠ (clients k).path := fun path => same (pids.path path)
      rw [Function.update_of_ne elsewhere] at entry
      rw [Function.update_of_ne same] at opening
      rw [old inode (world.pipes.bounded _ _ entry)]
      exact delivered.fresh k' inode opening entry

theorem Delivered.openFifo (delivered : Delivered clients past world) {fd : Nat}
    (here : world.clients k = .openFifo)
    (opened : world.pipes.openRead (clients k).path = some (fd, pipes))
    (next : world' = { world with
      pipes, serverFifo := world.serverFifo ++ [],
      clients := Function.update world.clients k (.poll fd) }) :
    Delivered clients (past ++ [⟨world, label, .silent, world'⟩]) world' := by
  obtain ⟨entry, same⟩ := Pipes.openRead_spec opened
  subst same
  subst next
  have contents := contents_withReaders world.pipes fd ((world.pipes.inodes fd).readers + 1)
  refine ⟨?_, ?_⟩
  · rw [writtenReplies_snoc]
    simp only [Report.writes, Option.toList_none, List.append_nil]
    intro k' fd' polling reply member
    by_cases same : k' = k
    · rw [same, Function.update_self] at polling
      have empty := delivered.fresh k fd here entry
      rw [← ClientPc.poll.inj polling] at member
      rw [contents fd, empty] at member
      cases member
    · rw [Function.update_of_ne same] at polling
      exact delivered.polled k' fd' polling reply (contents fd' ▸ member)
  · intro k' inode opening entry'
    have before := openFifo_of_update (fun same => ClientPc.noConfusion same) opening
    exact (contents inode).trans (delivered.fresh k' inode before entry')

theorem Delivered.client (delivered : Delivered clients past world) (pids : DistinctPids clients)
    (readers : Readers clients world.pipes world.clients)
    (move : ClientMove (clients k) world.pipes (world.clients k) pc pipes report) :
    Delivered clients (past ++ [⟨world, label, report,
      { world with
        pipes, serverFifo := world.serverFifo ++ report.sends,
        clients := Function.update world.clients k pc }⟩])
      { world with
        pipes, serverFifo := world.serverFifo ++ report.sends,
        clients := Function.update world.clients k pc } := by
  generalize here : world.clients k = before at move
  have unpolled {after : ClientPc} (idle : after.reads = none) (k' : Fin m) (fd : Nat)
      (polling : Function.update world.clients k after k' = .poll fd) :
      world.clients k' = .poll fd := poll_of_update idle polling
  cases move with
  | make _ made => exact delivered.make pids readers made rfl
  | openFifo _ _ opened => exact delivered.openFifo here opened rfl
  | remove _ removed | cleanUp _ removed =>
      obtain ⟨entries, inodes, -⟩ := Pipes.unlink_spec removed
      refine delivered.keep rfl (unpolled rfl) (fun k' => openFifo_of_update
        fun same => ClientPc.noConfusion same) ?_ ?_
      · intro path inode entry
        dsimp only at entry
        rw [entries] at entry
        exact Pipes.entry_unlink entry
      · intro inode
        dsimp only
        rw [inodes]
        exact List.Subset.refl _
  | timeOver fd =>
      refine delivered.keep rfl (unpolled rfl) (fun k' => openFifo_of_update
        fun same => ClientPc.noConfusion same) (fun _ _ entry => entry) fun inode reply member => ?_
      exact contents_closeRead world.pipes fd inode ▸ member
  | receive fd reply _ received =>
      obtain ⟨rest, contents, same⟩ := Pipes.read_spec received
      subst same
      refine delivered.keep rfl (unpolled rfl) (fun k' => openFifo_of_update
        fun same => ClientPc.noConfusion same) (fun _ _ entry => entry) fun inode reply member => ?_
      have shorter : rest ⊆ (world.pipes.inodes fd).contents := by
        rw [contents]
        exact List.subset_cons_self ..
      exact contents_withPipe shorter inode (contents_closeRead _ fd inode ▸ member)
  | wait fd =>
      refine delivered.keep rfl ?_ ?_ (fun _ _ entry => entry) fun _ => List.Subset.refl _
      all_goals
        dsimp only
        rw [← here, Function.update_eq_self]
      · exact fun _ _ same => same
      · exact fun _ same => same
  | _ =>
      exact delivered.keep rfl (unpolled rfl) (fun k' => openFifo_of_update
        fun same => ClientPc.noConfusion same) (fun _ _ entry => entry)
        fun _ => List.Subset.refl _

end Client

/-- The reply that is written goes to the client that the request names. -/
theorem Delivered.write {past : List (WorldEvent m n)} (delivered : Delivered clients past world)
    (pids : DistinctPids clients) (readers : Readers clients world.pipes world.clients)
    {i : Fin n} {written : Writing}
    (addressed : Addressed clients world.pipes world.clients written)
    {pipes : Pipes CString TlvReply}
    (wrote : world.pipes.write written.fd written.reply = some pipes)
    (next : world' = { world with pipes, writing := Function.update world.writing i none })
    (event : WorldEvent m n) (output : event.output = .wrote written.request written.reply) :
    Delivered clients (past ++ [event]) world' := by
  have same := Pipes.write_spec wrote
  subst same
  subst next
  have answers : writtenReplies (past ++ [event]) =
      writtenReplies past ++ [(written.request, written.reply)] := by
    rw [writtenReplies_snoc, output]
    rfl
  refine ⟨?_, ?_⟩
  · rw [answers]
    intro k fd polling reply member
    have entry := (readers.polls k fd (ClientPc.reads_eq_some.mpr polling)).1
    have earlier (old : reply ∈ (world.pipes.inodes fd).contents) : ∃ request,
        request.value.header.pid = (clients k).pid ∧
          (request, reply) ∈ writtenReplies past ++ [(written.request, written.reply)] := by
      obtain ⟨request, pid, answered⟩ := delivered.polled k fd polling reply old
      exact ⟨request, pid, List.mem_append_left _ answered⟩
    by_cases here : fd = written.fd
    · subst here
      rw [Pipes.withPipe_self] at member
      rcases List.mem_append.mp member with old | now
      · exact earlier old
      · have path := addressed.only.2 _ entry
        refine ⟨written.request, (userFifoPath_inj path).symm, List.mem_append_right _ ?_⟩
        rw [List.mem_singleton.mp now]
        exact List.mem_singleton_self _
    · rw [Pipes.withPipe_of_ne _ _ here] at member
      exact earlier member
  · intro k inode opening entry
    have elsewhere : inode ≠ written.fd := by
      -- somebody reads the FIFO that is written to, and nobody reads this one
      rintro rfl
      have nonzero : (world.pipes.inodes written.fd).readers ≠ 0 := by
        intro zero
        rw [Pipes.write, if_pos zero] at wrote
        cases wrote
      obtain ⟨k', reads⟩ := readers.owned written.fd (Nat.pos_of_ne_zero nonzero)
      have same := readers.unique pids entry reads
      rw [same] at reads
      rw [ClientPc.reads_eq_some.mp reads] at opening
      cases opening
    dsimp only at opening entry ⊢
    rw [Pipes.withPipe_of_ne _ _ elsewhere]
    exact delivered.fresh k inode opening entry

theorem Delivered.step {past : List (WorldEvent m n)} {label : Label m n}
    (delivered : Delivered clients past world) (pids : DistinctPids clients)
    (readers : Readers clients world.pipes world.clients)
    (addressed : WritingAddressed clients world)
    (move : WorldMove generateSha256Hash adminPassword clients world world' report) :
    Delivered clients (past ++ [⟨world, label, report, world'⟩]) world' := by
  cases move with
  | write i written pipes running writing wrote =>
      exact delivered.write pids readers (addressed i written writing) wrote rfl _ rfl
  | client k pc pipes report move => exact delivered.client pids readers move
  | _ =>
      exact delivered.keep rfl (fun _ _ same => same) (fun _ same => same)
        (fun _ _ same => same) fun _ => List.Subset.refl _

theorem exchange_delivered (pids : DistinctPids clients) (unread : Stale stale)
    {labels : List (Label m n)} {events : List (WorldEvent m n)}
    (ran : exchange generateSha256Hash rand adminPassword clients stale labels =
      some (events, world)) : Delivered clients events world := by
  apply run_induction ran (Delivered clients)
  · exact ⟨fun _ _ polling => (nomatch polling), fun _ _ opening => (nomatch opening)⟩
  · intro past world input report world' _ reached delivered fired
    exact delivered.step pids (exchange_readers pids unread reached)
      (exchange_addressed pids unread reached) (worldStep_move fired)

/-- A handled request is answered with its own type and account. -/
theorem execute_handled_names {labels : List (Server.Label n)} {events : List (StepEvent n)}
    {state : State n}
    (ran : execute generateSha256Hash rand adminPassword labels = some (events, state))
    {request : TlvRequest} {reply : TlvReply}
    (handled : (request, reply) ∈ handledRequests events) :
    reply.type = request.type ∧
      reply.value.header.accountId = request.value.header.accountId := by
  obtain ⟨event, member, shown⟩ := List.mem_filterMap.mp handled
  obtain ⟨past, future, rfl⟩ := List.append_of_mem member
  obtain ⟨-, fired, -⟩ := run_event ran
  have output : event.output = .handled request reply := by
    cases action : event.output with
    | handled request' reply' =>
        rw [action] at shown
        cases shown
        rfl
    | _ =>
        rw [action] at shown
        cases shown
  rw [output] at fired
  rcases step_move fired with ⟨_, -, move⟩ | ⟨i, _, _, _, _, -, move, -⟩
  · exact absurd rfl (move.not_handled request reply)
  · generalize event.before.offices i = pc at move
    generalize shown : Action.handled request reply = action at move
    cases move with
    | build request' targetSem buffer bank reply' replied =>
        cases shown
        exact buildTlvReply_names replied
    | _ => cases shown

/-- A client that logs a reply logs the one that `build_tlv_reply` made for its own
request. At most one reply is written for each request. -/
theorem exchange_replies_own (generateSha256Hash : CString → CString → CString) (rand : Rand)
    (adminPassword : CString) (pids : DistinctPids clients) (unread : Stale stale)
    (labels : List (Label m n)) {events : List (WorldEvent m n)}
    (ran : exchange generateSha256Hash rand adminPassword clients stale labels =
      some (events, world)) :
    (∀ past event future, events = past ++ event :: future → ∀ k around reply,
      event.input = .client k around → event.output = .logged reply →
      ∃ request, (clients k).request = some request ∧
        (request, reply) ∈ handledRequests (serverEvents past) ∧
        reply.type = request.type ∧
        reply.value.header.accountId = request.value.header.accountId) ∧
      (∀ answer ∈ writtenReplies events, answer ∈ handledRequests (serverEvents events) ∧
        ∃ k, (clients k).request = some answer.1) ∧
      ((writtenReplies events).map (·.1.value.header.pid)).Nodup := by
  have sender {past : List (WorldEvent m n)} {world : World m n} {answer : TlvRequest × TlvReply}
      (reached : exchange generateSha256Hash rand adminPassword clients stale
        (past.map (·.input)) = some (past, world))
      (handled : answer ∈ handledRequests (serverEvents past)) :
      ∃ k, (clients k).request = some answer.1 := by
    have sent := (exchange_handled pids reached).subset (List.mem_map_of_mem handled)
    obtain ⟨k, own, -⟩ := (exchange_flow pids reached).senders _ sent
    exact ⟨k, own⟩
  refine ⟨?_, ?_, (exchange_replied pids ran).nodup⟩
  · rintro past event future rfl k around reply moves logged
    obtain ⟨reached, fired, -⟩ := run_event ran
    rw [moves, logged] at fired
    obtain ⟨pc, pipes, move, -⟩ := worldStep_client fired
    obtain ⟨fd, polling, inFifo⟩ := move.logged
    obtain ⟨request, pid, answered⟩ :=
      (exchange_delivered pids unread reached).polled k fd polling reply inFifo
    have handled := (exchange_replied pids reached).written _ answered
    obtain ⟨k', own⟩ := sender reached handled
    have same : k' = k := pids k' k ((userRequest_pid own).symm.trans pid)
    rw [same] at own
    obtain ⟨type, account⟩ := execute_handled_names (exchange_server reached) handled
    exact ⟨request, own, handled, type, account⟩
  · intro answer member
    have handled := (exchange_replied pids ran).written answer member
    have inputs := run_inputs ran
    exact ⟨handled, sender (inputs ▸ ran) handled⟩

end Replies

/-- The client waits with its FIFO open before the office begins, and reads the reply. -/
def patientOffice : List (Label 1 1) :=
  List.replicate 4 .main ++ clientTurns onlyOffice 5 ++ List.replicate 7 .main ++
    List.replicate 14 (.office onlyOffice sessionBuffer) ++ [.write onlyOffice] ++
    clientTurns onlyOffice 1

theorem patientOffice_replies_own :
    ∃ events world event reply, exchange sessionHash sessionRand ultraTopSecret onlyClient
        noPipes patientOffice = some (events, world) ∧ events.getLast? = some event ∧
      event.output = .logged reply ∧
      (∀ past event future, events = past ++ event :: future → ∀ k around reply,
        event.input = .client k around → event.output = .logged reply →
        ∃ request, (onlyClient k).request = some request ∧
          (request, reply) ∈ handledRequests (serverEvents past) ∧
          reply.type = request.type ∧
          reply.value.header.accountId = request.value.header.accountId) ∧
      (∀ answer ∈ writtenReplies events, answer ∈ handledRequests (serverEvents events) ∧
        ∃ k, (onlyClient k).request = some answer.1) ∧
      ((writtenReplies events).map (·.1.value.header.pid)).Nodup :=
  ⟨_, _, _, _, rfl, rfl, rfl, exchange_replies_own sessionHash sessionRand ultraTopSecret
    onlyClient_pids noPipes_stale patientOffice rfl⟩

end Sope.Exchange
