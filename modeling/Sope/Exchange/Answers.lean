import Sope.Exchange.Readers
import Sope.Server.Queue

set_option autoImplicit false

/- When a client that waits for its reply gets one. The request is sent before the
FIFO for the reply exists, so it depends on who is faster. -/
namespace Sope.Exchange

open Machine Banking Server Fifo

section Answers

variable {m n : Nat} {clients : Fin m → Client}

/-- A reply that is about to be written belongs to a client that still has the FIFO
open, or has left it for good. -/
structure Addressed (clients : Fin m → Client) (pipes : Pipes CString TlvReply)
    (pcs : Fin m → ClientPc) (written : Writing) : Prop where
  only : pipes.OnlyAt written.fd (userFifoPath written.request.value.header.pid)
  client : ∃ k, written.request.value.header.pid = (clients k).pid ∧
    ((pcs k).reads = some written.fd ∨ (pcs k).live = false)

theorem ClientMove.onlyAt {client : Client} {pipes pipes' : Pipes CString TlvReply}
    {pc pc' : ClientPc} {report : Report n} {inode : Nat} {path : CString}
    (move : ClientMove client pipes pc pc' pipes' report) (only : pipes.OnlyAt inode path) :
    pipes'.OnlyAt inode path := by
  cases move with
  | make _ made => exact only.make made
  | remove _ removed | cleanUp _ removed => exact only.unlink removed
  | openFifo _ _ opened =>
      obtain ⟨-, rfl⟩ := Pipes.openRead_spec opened
      exact only.withPipe _ _
  | timeOver fd => exact only.withPipe _ _
  | receive _ _ _ received =>
      obtain ⟨rest, -, rfl⟩ := Pipes.read_spec received
      exact (only.withPipe _ _).withPipe _ _
  | _ => exact only

/-- A client keeps its FIFO open until it is done. -/
theorem ClientMove.reading {client : Client} {pipes pipes' : Pipes CString TlvReply}
    {pc pc' : ClientPc} {report : Report n} {fd : Nat}
    (move : ClientMove client pipes pc pc' pipes' report)
    (reading : pc.reads = some fd ∨ pc.live = false) :
    pc'.reads = some fd ∨ pc'.live = false := by
  cases move with
  | timeOver | receive | cleanUp | nothingLeft => exact Or.inr rfl
  | wait => exact reading
  | _ => rcases reading with reads | gone <;> contradiction

theorem Addressed.client_move {pipes pipes' : Pipes CString TlvReply} {pcs : Fin m → ClientPc}
    {written : Writing} {k : Fin m} {pc' : ClientPc} {report : Report n}
    (addressed : Addressed clients pipes pcs written)
    (move : ClientMove (clients k) pipes (pcs k) pc' pipes' report) :
    Addressed clients pipes' (Function.update pcs k pc') written := by
  refine ⟨move.onlyAt addressed.only, ?_⟩
  obtain ⟨k', pid, reading⟩ := addressed.client
  refine ⟨k', pid, ?_⟩
  by_cases same : k' = k
  · subst same
    rw [Function.update_self]
    exact move.reading reading
  · rwa [Function.update_of_ne same]

/-- Replies are written only into FIFOs of the clients that they are for. -/
def WritingAddressed (clients : Fin m → Client) (world : World m n) : Prop :=
  ∀ i written, world.writing i = some written →
    Addressed clients world.pipes world.clients written

variable {generateSha256Hash : CString → CString → CString} {adminPassword : CString}
  {rand : Rand} {stale : Pipes CString TlvReply} {world world' : World m n} {report : Report n}

theorem World.opening_eq_some {i : Fin n} {written : Writing} :
    world.opening i = some written ↔
      world.server.offices i = .openFifo written.request written.reply ∧
      world.pipes.openWrite (userFifoPath written.request.value.header.pid) =
        some written.fd := by
  unfold World.opening
  split
  · rename_i request reply here
    rw [here, Option.map_eq_some_iff]
    constructor
    · rintro ⟨fd, opened, rfl⟩
      exact ⟨rfl, opened⟩
    · rintro ⟨same, opened⟩
      cases same
      exact ⟨written.fd, opened, rfl⟩
  · rename_i elsewhere
    constructor
    · intro impossible
      cases impossible
    · rintro ⟨here, -⟩
      exact absurd here (elsewhere _ _)

theorem addressed_opening (readers : Readers clients world.pipes world.clients) {i : Fin n}
    {written : Writing} (opening : world.opening i = some written) :
    Addressed clients world.pipes world.clients written := by
  obtain ⟨-, opened⟩ := World.opening_eq_some.mp opening
  obtain ⟨entry, open'⟩ := Pipes.openWrite_eq_some.mp opened
  obtain ⟨k, reads⟩ := readers.owned written.fd open'
  refine ⟨Pipes.onlyAt_of_entry entry, k, ?_, Or.inl reads⟩
  exact userFifoPath_inj (world.pipes.oneName _ _ _ entry (readers.polls k _ reads).1)

theorem WritingAddressed.step (addressed : WritingAddressed clients world)
    (readers : Readers clients world.pipes world.clients)
    (move : WorldMove generateSha256Hash adminPassword clients world world' report) :
    WritingAddressed clients world' := by
  cases move with
  | main | broken => exact addressed
  | office i buffer server action =>
      intro j written writing
      by_cases same : j = i
      · subst same
        dsimp only at writing
        rw [Function.update_self] at writing
        exact addressed_opening readers writing
      · dsimp only at writing
        rw [Function.update_of_ne same] at writing
        exact addressed j written writing
  | write i written pipes running writing wrote =>
      have after := Pipes.write_spec wrote
      subst after
      intro j written' writing'
      by_cases same : j = i
      · subst same
        dsimp only at writing'
        rw [Function.update_self] at writing'
        cases writing'
      · dsimp only at writing'
        rw [Function.update_of_ne same] at writing'
        obtain ⟨only, client⟩ := addressed j written' writing'
        exact ⟨only.withPipe _ _, client⟩
  | client k pc pipes report move =>
      intro i written writing
      exact (addressed i written writing).client_move move

theorem exchange_addressed (pids : DistinctPids clients) (unread : Stale stale)
    {labels : List (Label m n)} {events : List (WorldEvent m n)}
    (ran : exchange generateSha256Hash rand adminPassword clients stale labels =
      some (events, world)) : WritingAddressed clients world := by
  apply run_induction ran fun _ world => WritingAddressed clients world
  · intro i written writing
    cases writing
  · intro past world input report world' _ reached addressed fired
    exact addressed.step (exchange_readers pids unread reached) (worldStep_move fired)

/-- The step is office `i`'s `open_user_fifo` for a request of client `k`, which has
been handled with `reply`. -/
structure OpensFor (clients : Fin m → Client) (event : WorldEvent m n) (k : Fin m) (i : Fin n)
    (request : TlvRequest) (reply : TlvReply) : Prop where
  moves : ∃ buffer, event.input = .office i buffer
  here : event.before.server.offices i = .openFifo request reply
  pid : request.value.header.pid = (clients k).pid

/-- The FIFO was opened: the reply is logged as it is, and will be written. -/
def Opened (event : WorldEvent m n) (i : Fin n) (request : TlvRequest) (reply : TlvReply) : Prop :=
  event.after.server.offices i = .unlock request reply ∧
    ∃ fd, event.after.writing i = some ⟨fd, request, reply⟩

/-- A step of office `i` at `open_user_fifo`. -/
theorem opened_iff {event : WorldEvent m n} {k : Fin m} {i : Fin n} {request : TlvRequest}
    {reply : TlvReply} (opens : OpensFor clients event k i request reply)
    (fired : worldStep generateSha256Hash adminPassword clients event.before event.input =
      some (event.after, event.output))
    (pids : DistinctPids clients)
    (readers : Readers clients event.before.pipes event.before.clients) :
    Opened event i request reply ↔ ∃ fd, event.before.clients k = .poll fd := by
  obtain ⟨buffer, moves⟩ := opens.moves
  rw [moves] at fired
  obtain ⟨server, action, -, -, moved, after, -⟩ := worldStep_office fired
  have path : userFifoPath request.value.header.pid = (clients k).path :=
    congrArg userFifoPath opens.pid
  have writing : event.after.writing i = event.before.opening i := by
    rw [after]
    exact Function.update_self ..
  have offices : event.after.server.offices i =
      .unlock request (markReply (event.before.opening i).isSome reply) := by
    rw [after]
    simp only [step, opens.here, officeStep, Option.bind_eq_bind, Option.bind_some,
      Option.pure_def, Option.some.injEq, Prod.mk.injEq] at moved
    rw [← moved.1]
    exact Function.update_self ..
  simp only [← ClientPc.reads_eq_some, ← readers.openWrite_iff pids, ← path]
  constructor
  · rintro ⟨-, fd, written⟩
    rw [writing] at written
    exact ⟨fd, (World.opening_eq_some.mp written).2⟩
  · rintro ⟨fd, opened⟩
    have opening : event.before.opening i = some ⟨fd, request, reply⟩ :=
      World.opening_eq_some.mpr ⟨opens.here, opened⟩
    rw [opening] at offices
    exact ⟨offices, fd, writing.trans opening⟩

/-- The step is office `i`'s `write` of a reply to client `k`. -/
structure WritesFor (clients : Fin m → Client) (event : WorldEvent m n) (k : Fin m) (i : Fin n)
    (written : Writing) : Prop where
  moves : event.input = .write i
  writing : event.before.writing i = some written
  pid : written.request.value.header.pid = (clients k).pid

/-- The reply was written, and lies in the FIFO that the client reads. -/
def Reaches (event : WorldEvent m n) (k : Fin m) (written : Writing) : Prop :=
  event.output = .wrote written.request written.reply ∧
    ∃ fd, event.after.clients k = .poll fd ∧
      written.reply ∈ (event.after.pipes.inodes fd).contents

/-- A `write` goes through as long as somebody has the FIFO open. -/
theorem write_isSome_iff {pipes : Pipes CString TlvReply} {inode : Nat} (message : TlvReply) :
    (pipes.write inode message).isSome ↔ 0 < (pipes.inodes inode).readers := by
  by_cases none : (pipes.inodes inode).readers = 0
  · simp [Pipes.write, none]
  · simp [Pipes.write, none, Nat.pos_of_ne_zero none]

section Addressed

variable {pipes : Pipes CString TlvReply} {pcs : Fin m → ClientPc} {written : Writing} {k : Fin m}

/-- The only reader that a reply can have is the client that it is for. -/
theorem Addressed.open_iff (addressed : Addressed clients pipes pcs written)
    (readers : Readers clients pipes pcs) (pids : DistinctPids clients)
    (pid : written.request.value.header.pid = (clients k).pid) :
    0 < (pipes.inodes written.fd).readers ↔ (pcs k).reads = some written.fd := by
  constructor
  · intro open'
    obtain ⟨k', reads⟩ := readers.owned written.fd open'
    have named := addressed.only.2 _ (readers.polls k' written.fd reads).1
    obtain rfl : k' = k := pids.path (named.trans (congrArg userFifoPath pid))
    exact reads
  · intro reads
    exact (readers.polls k written.fd reads).2 ▸ Nat.one_pos

/-- If the client polls, it does so on the FIFO that the office has opened. -/
theorem Addressed.polls_iff (addressed : Addressed clients pipes pcs written)
    (pids : DistinctPids clients) (pid : written.request.value.header.pid = (clients k).pid) :
    (pcs k).reads = some written.fd ↔ ∃ fd, pcs k = .poll fd := by
  constructor
  · intro reads
    exact ⟨written.fd, ClientPc.reads_eq_some.mp reads⟩
  · rintro ⟨fd, polling⟩
    obtain ⟨k', pid', reading⟩ := addressed.client
    obtain rfl : k' = k := pids k' k (pid'.symm.trans pid)
    rcases reading with reads | gone
    · exact reads
    · rw [polling] at gone
      cases gone

end Addressed

/-- A step of office `i` at `write`. -/
theorem reaches_iff {event : WorldEvent m n} {k : Fin m} {i : Fin n} {written : Writing}
    (writes : WritesFor clients event k i written)
    (fired : worldStep generateSha256Hash adminPassword clients event.before event.input =
      some (event.after, event.output))
    (pids : DistinctPids clients)
    (readers : Readers clients event.before.pipes event.before.clients)
    (addressed : WritingAddressed clients event.before) :
    Reaches event k written ↔ ∃ fd, event.before.clients k = .poll fd := by
  have addressed := addressed i written writes.writing
  have through := (write_isSome_iff written.reply).trans
    (addressed.open_iff readers pids writes.pid)
  rw [← addressed.polls_iff pids writes.pid, ← through]
  rw [writes.moves] at fired
  obtain ⟨written', -, writing', ⟨pipes, wrote, after, output⟩ | ⟨refused, -, output⟩⟩ :=
    worldStep_write fired
  · obtain rfl : written' = written := Option.some.inj (writing'.symm.trans writes.writing)
    have some : (event.before.pipes.write written'.fd written'.reply).isSome = true := by
      rw [wrote]
      rfl
    refine iff_of_true ⟨output, written'.fd, ?_, ?_⟩ some
    · rw [after]
      exact ClientPc.reads_eq_some.mp (through.mp some)
    · rw [after]
      dsimp only
      rw [Pipes.write_spec wrote, Pipes.withPipe_self]
      exact List.mem_append_right _ List.mem_cons_self
  · obtain rfl : written' = written := Option.some.inj (writing'.symm.trans writes.writing)
    rw [refused]
    refine iff_of_false (fun reaches => ?_) Bool.false_ne_true
    have wrote := reaches.1
    rw [output] at wrote
    cases wrote

/-- Every client that is alive when an office comes to answer it gets its reply: the FIFO
opens, and the `write` that follows puts the reply where the client reads. -/
structure Answers (clients : Fin m → Client) (events : List (WorldEvent m n)) : Prop where
  opens : ∀ event ∈ events, ∀ k i request reply, OpensFor clients event k i request reply →
    (event.before.clients k).live = true → Opened event i request reply
  writes : ∀ event ∈ events, ∀ k i written, WritesFor clients event k i written →
    Reaches event k written

/-- The client has opened its FIFO before the office comes to answer it, and still polls when
the office writes. -/
structure Awaits (clients : Fin m → Client) (events : List (WorldEvent m n)) : Prop where
  opens : ∀ event ∈ events, ∀ k i request reply, OpensFor clients event k i request reply →
    (event.before.clients k).live = true → ∃ fd, event.before.clients k = .poll fd
  writes : ∀ event ∈ events, ∀ k i written, WritesFor clients event k i written →
    ∃ fd, event.before.clients k = .poll fd

/-- The clients that are alive get their replies if and only if each polls from before the
office's `open` until after its `write`. -/
theorem exchange_answers_iff (generateSha256Hash : CString → CString → CString) (rand : Rand)
    (adminPassword : CString) (pids : DistinctPids clients) (unread : Stale stale)
    (labels : List (Label m n)) {events : List (WorldEvent m n)}
    (ran : exchange generateSha256Hash rand adminPassword clients stale labels =
      some (events, world)) : Answers clients events ↔ Awaits clients events := by
  have reached (event : WorldEvent m n) (member : event ∈ events) :
      Readers clients event.before.pipes event.before.clients ∧
        WritingAddressed clients event.before ∧
        worldStep generateSha256Hash adminPassword clients event.before event.input =
          some (event.after, event.output) := by
    obtain ⟨past, future, rfl⟩ := List.append_of_mem member
    obtain ⟨before, fired, -⟩ := run_event ran
    exact ⟨exchange_readers pids unread before, exchange_addressed pids unread before, fired⟩
  constructor
  · intro answers
    refine ⟨?_, ?_⟩
    · intro event member k i request reply opens live
      obtain ⟨readers, -, fired⟩ := reached event member
      exact (opened_iff opens fired pids readers).mp
        (answers.opens event member k i request reply opens live)
    · intro event member k i written writes
      obtain ⟨readers, addressed, fired⟩ := reached event member
      exact (reaches_iff writes fired pids readers addressed).mp
        (answers.writes event member k i written writes)
  · intro awaits
    refine ⟨?_, ?_⟩
    · intro event member k i request reply opens live
      obtain ⟨readers, -, fired⟩ := reached event member
      exact (opened_iff opens fired pids readers).mpr
        (awaits.opens event member k i request reply opens live)
    · intro event member k i written writes
      obtain ⟨readers, addressed, fired⟩ := reached event member
      exact (reaches_iff writes fired pids readers addressed).mpr
        (awaits.writes event member k i written writes)

end Answers

/- One client and one office. -/

/-- `user 1 top_secret 10 1 ""`, run as process 1000. -/
def onlyClient : Fin 1 → Client := fun _ =>
  { pid := 1000
    uninit := ⟨0, 0, []⟩
    argv :=
      { accountId := ['1'], password := topSecret, delay := ['1', '0'], opCode := ['1'],
        arguments := [] } }

theorem onlyClient_pids : DistinctPids onlyClient := fun _ _ _ => Subsingleton.elim ..

/-- No FIFOs are left from earlier. -/
def noPipes : Pipes CString TlvReply where
  entries := fun _ => none
  inodes := fun _ => ⟨0, []⟩
  next := 0
  bounded := fun _ _ entry => nomatch entry
  oneName := fun _ _ _ entry => nomatch entry

theorem noPipes_stale : Stale noPipes := fun _ => rfl

def clientTurns {m n : Nat} (k : Fin m) (turns : Nat) : List (Label m n) :=
  List.replicate turns (.client k ⟨true, .delivered, false⟩)

/-- The client sends its request, and the office answers before the client goes on. -/
def quickOffice : List (Label 1 1) :=
  List.replicate 4 .main ++ clientTurns onlyOffice 3 ++ List.replicate 7 .main ++
    List.replicate 14 (.office onlyOffice sessionBuffer)

/-- A client that is alive has missed its reply. -/
theorem quickOffice_unanswered :
    ∃ events world event, exchange sessionHash sessionRand ultraTopSecret onlyClient noPipes
        quickOffice = some (events, world) ∧ events.getLast? = some event ∧
      ∃ request reply, OpensFor onlyClient event onlyOffice onlyOffice request reply ∧
        (event.before.clients onlyOffice).live = true ∧
        event.after.server.offices onlyOffice =
          .unlock request (reply.withRetCode .usrDown) ∧
        event.after.writing onlyOffice = none := by
  refine ⟨_, _, _, rfl, rfl, _, _, ⟨⟨_, rfl⟩, rfl, rfl⟩, rfl, rfl, rfl⟩

/-- The equivalence over that run, where both sides fail. -/
theorem quickOffice_answers_iff :
    ∃ events world, exchange sessionHash sessionRand ultraTopSecret onlyClient noPipes
        quickOffice = some (events, world) ∧
      (Answers onlyClient events ↔ Awaits onlyClient events) :=
  ⟨_, _, rfl, exchange_answers_iff sessionHash sessionRand ultraTopSecret onlyClient_pids
    noPipes_stale quickOffice rfl⟩

end Sope.Exchange
