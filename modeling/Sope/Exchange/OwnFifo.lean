import Sope.Exchange.Answers
import Sope.Exchange.Flow

set_option autoImplicit false

/- The FIFO of a user process in the file system, from `create_fifo` to `exit_handler`. Each
process has a path of its own, so what it finds there is what it has left. -/
namespace Sope.Exchange

open Machine Banking Server Fifo

/-- The entry at the path of a process, by where the process is. An earlier process with its
pid may have left one, which is `stale`. -/
def OwnFifo (stale : Option Nat) (unsent : Prop) (entry : Option Nat) : ClientPc → Prop
  | .start | .openServer _ | .writeServer _ => entry = stale
  | .makeFifo => True
  | .removeFifo | .openFifo | .poll _ | .exitHandler => entry.isSome = true
  | .exited => entry = none ∨ entry = stale ∧ unsent

/-- The process finds no FIFO that it can remove or open, prints that and exits. -/
def FifoFails (before after : ClientPc) : Prop :=
  (before = .removeFifo ∨ before = .openFifo) ∧ after = .exitHandler

section Clients

variable {n : Nat} {client : Client} {around : Surroundings} {pipes pipes' : Pipes CString TlvReply}
  {pc pc' : ClientPc} {report : Report n} {path : CString}

/-- What a process does about FIFOs, it does at its own path. -/
theorem ClientMove.foreign (move : ClientMove client pipes pc pc' pipes' report)
    (other : path ≠ client.path) : pipes'.entries path = pipes.entries path := by
  cases move with
  | make _ made =>
      rw [(Pipes.make_spec made).2.1, Function.update_of_ne other]
  | remove _ removed | cleanUp _ removed =>
      rw [(Pipes.unlink_spec removed).1, Function.update_of_ne other]
  | openFifo _ _ opened =>
      obtain ⟨-, rfl⟩ := Pipes.openRead_spec opened
      rfl
  | timeOver fd => rfl
  | receive _ _ _ received =>
      obtain ⟨rest, -, rfl⟩ := Pipes.read_spec received
      rfl
  | _ => rfl

/-- Where there is an entry, `unlink` succeeds. -/
theorem unlink_of_entry (entry : (pipes.entries path).isSome = true) :
    ∃ pipes', pipes.unlink path = some pipes' ∧ pipes'.entries path = none := by
  refine ⟨_, if_pos entry, ?_⟩
  exact Function.update_self ..

/-- A process always finds the FIFO that it has made, and leaves none behind. -/
theorem clientStep_own {stale : Option Nat} {unsent : Prop}
    (fired : clientStep client around pipes pc = some (pc', pipes', report))
    (own : OwnFifo stale unsent (pipes.entries client.path) pc)
    (fresh : pc.hasSent = false → unsent) :
    OwnFifo stale unsent (pipes'.entries client.path) pc' ∧ ¬ FifoFails pc pc' := by
  cases pc with
  | removeFifo =>
      obtain ⟨left, removed, -⟩ := unlink_of_entry own
      simp only [clientStep, removed, Option.some.injEq, Prod.mk.injEq] at fired
      obtain ⟨rfl, rfl, rfl⟩ := fired
      exact ⟨trivial, fun fails => by cases fails.2⟩
  | openFifo =>
      obtain ⟨inode, entry⟩ := Option.isSome_iff_exists.mp own
      have opened : pipes.openRead client.path = some (inode, pipes.withPipe inode
          { pipes.inodes inode with readers := (pipes.inodes inode).readers + 1 }) := by
        rw [Pipes.openRead, entry]
        rfl
      simp only [clientStep, opened, Option.some.injEq, Prod.mk.injEq] at fired
      obtain ⟨rfl, rfl, rfl⟩ := fired
      exact ⟨own, fun fails => by cases fails.2⟩
  | exitHandler =>
      obtain ⟨left, removed, none⟩ := unlink_of_entry own
      simp only [clientStep, removed, Option.some.injEq, Prod.mk.injEq] at fired
      obtain ⟨rfl, rfl, rfl⟩ := fired
      exact ⟨.inl none, fun fails => fails.1.elim (by simp) (by simp)⟩
  | makeFifo =>
      refine ⟨?_, fun fails => fails.1.elim (by simp) (by simp)⟩
      cases made : pipes.make client.path with
      | some after =>
          simp only [clientStep, made, Option.some.injEq, Prod.mk.injEq] at fired
          obtain ⟨rfl, rfl, rfl⟩ := fired
          show (after.entries client.path).isSome = true
          rw [(Pipes.make_spec made).2.1, Function.update_self]
          rfl
      | none =>
          simp only [clientStep, made, Option.some.injEq, Prod.mk.injEq] at fired
          obtain ⟨rfl, rfl, rfl⟩ := fired
          show (pipes.entries client.path).isSome = true
          by_contra free
          rw [Pipes.make, if_neg free] at made
          cases made
  | start =>
      refine ⟨?_, fun fails => fails.1.elim (by simp) (by simp)⟩
      cases clientStep_move fired with
      | begin => exact own
      | reject => exact .inr ⟨own, fresh rfl⟩
  | openServer request =>
      refine ⟨?_, fun fails => fails.1.elim (by simp) (by simp)⟩
      cases clientStep_move fired with
      | openServer => exact own
      | serverDown => exact .inr ⟨own, fresh rfl⟩
  | writeServer request =>
      refine ⟨?_, fun fails => fails.1.elim (by simp) (by simp)⟩
      cases clientStep_move fired with
      | sendBroken => exact .inr ⟨own, fresh rfl⟩
      | send | sendFull => trivial
  | poll fd =>
      refine ⟨?_, fun fails => fails.1.elim (by simp) (by simp)⟩
      cases clientStep_move fired with
      | timeOver | wait => exact own
      | receive _ _ _ received =>
          obtain ⟨rest, -, rfl⟩ := Pipes.read_spec received
          exact own
  | exited => cases fired

end Clients

/-- What the file system holds of user FIFOs. -/
structure OwnFifos {m n : Nat} (clients : Fin m → Client) (stale : Pipes CString TlvReply)
    (past : List (WorldEvent m n)) (world : World m n) : Prop where
  foreign : ∀ path, (∀ k, (clients k).path ≠ path) →
    world.pipes.entries path = stale.entries path
  own : ∀ k, OwnFifo (stale.entries (clients k).path)
    ((clients k).pid ∉ (sentRequests past).map (·.value.header.pid))
    (world.pipes.entries (clients k).path) (world.clients k)
  calls : ∀ event ∈ past, ∀ k, ¬ FifoFails (event.before.clients k) (event.after.clients k)

section Runs

variable {m n : Nat} {generateSha256Hash : CString → CString → CString} {rand : Rand}
  {adminPassword : CString} {clients : Fin m → Client} {stale : Pipes CString TlvReply}
  {past events : List (WorldEvent m n)} {world world' : World m n} {label : Label m n}
  {report : Report n}

theorem initialWorld_ownFifos :
    OwnFifos clients stale [] (initialWorld m n rand stale) where
  foreign _ _ := rfl
  own _ := rfl
  calls _ member := by cases member

/-- Whether a process has sent a request matters only when it has exited. -/
theorem OwnFifo.congr {stale entry : Option Nat} {unsent unsent' : Prop} {pc : ClientPc}
    (own : OwnFifo stale unsent entry pc) (same : pc = .exited → unsent → unsent') :
    OwnFifo stale unsent' entry pc := by
  cases pc with
  | exited => exact own.imp_right fun left => ⟨left.1, same rfl left.2⟩
  | _ => exact own

/-- A step in which no user process moves. -/
theorem OwnFifos.keep (before : OwnFifos clients stale past world)
    (entries : world'.pipes.entries = world.pipes.entries)
    (same : world'.clients = world.clients) (silent : report.sends = []) :
    OwnFifos clients stale (past ++ [⟨world, label, report, world'⟩]) world' where
  foreign path other := by rw [entries, before.foreign path other]
  own k := by
    rw [entries, same, sentRequests_snoc, silent, List.append_nil]
    exact before.own k
  calls event member k := by
    rcases List.mem_append.mp member with old | new
    · exact before.calls event old k
    · cases List.mem_singleton.mp new
      rw [same]
      rintro ⟨here | here, there⟩ <;> rw [here] at there <;> cases there

/-- A step of one user process. -/
theorem OwnFifos.client (before : OwnFifos clients stale past world)
    (flow : Flow clients past world) (distinct : DistinctPids clients) {k : Fin m}
    {around : Surroundings} {pc : ClientPc} {pipes : Pipes CString TlvReply}
    (fired : clientStep (clients k) around world.pipes (world.clients k) =
      some (pc, pipes, report)) (others : world'.clients = Function.update world.clients k pc)
    (same : world'.pipes = pipes) :
    OwnFifos clients stale (past ++ [⟨world, label, report, world'⟩]) world' := by
  have move := clientStep_move fired
  obtain ⟨own, finds⟩ := clientStep_own fired (before.own k) (flow.unsent distinct)
  constructor
  · intro path other
    rw [same, move.foreign (Ne.symm (other k)), before.foreign path other]
  · intro k'
    rw [same, others, sentRequests_snoc, List.map_append]
    by_cases moved : k' = k
    · subst moved
      rw [Function.update_self]
      refine own.congr fun exits unsent => ?_
      rcases move.sends with silent | ⟨request, rfl, -, -⟩
      · rwa [silent, List.map_nil, List.append_nil]
      · subst exits
        generalize world.clients k' = asking at move
        cases move
    · have apart : (clients k').path ≠ (clients k).path := fun path => moved (distinct.path path)
      rw [Function.update_of_ne moved, move.foreign apart]
      refine (before.own k').congr fun _ unsent => ?_
      rcases move.sends with silent | ⟨request, rfl, asking, -⟩
      · rwa [silent, List.map_nil, List.append_nil]
      · have sender := userRequest_pid (flow.toSend k request (by rw [asking]; rfl))
        rw [List.mem_append, not_or]
        refine ⟨unsent, fun sent => moved (distinct k' k ?_)⟩
        exact (List.mem_singleton.mp sent).trans sender
  · intro event member k'
    rcases List.mem_append.mp member with old | new
    · exact before.calls event old k'
    · cases List.mem_singleton.mp new
      rw [others]
      by_cases moved : k' = k
      · subst moved
        rw [Function.update_self]
        exact finds
      · rw [Function.update_of_ne moved]
        rintro ⟨here | here, there⟩ <;> rw [here] at there <;> cases there

theorem OwnFifos.step (before : OwnFifos clients stale past world)
    (flow : Flow clients past world) (distinct : DistinctPids clients)
    (fired : worldStep generateSha256Hash adminPassword clients world label =
      some (world', report)) :
    OwnFifos clients stale (past ++ [⟨world, label, report, world'⟩]) world' := by
  cases label with
  | client k around =>
      simp only [worldStep, Option.bind_eq_bind, Option.bind_eq_some_iff, Option.pure_def,
        Option.some.injEq, Prod.mk.injEq, Prod.exists] at fired
      obtain ⟨pc, pipes, report', moved, rfl, rfl⟩ := fired
      exact before.client flow distinct moved rfl rfl
  | main =>
      by_cases killed : world.killed = true
      · rw [worldStep, if_pos killed] at fired
        cases fired
      · rw [worldStep, if_neg killed] at fired
        simp only [Option.bind_eq_bind, Option.bind_eq_some_iff, Option.pure_def,
          Option.some.injEq, Prod.mk.injEq, Prod.exists] at fired
        obtain ⟨server, action, -, rfl, rfl⟩ := fired
        exact before.keep rfl rfl rfl
  | office i buffer =>
      obtain ⟨server, action, -, -, -, rfl, rfl⟩ := worldStep_office fired
      exact before.keep rfl rfl rfl
  | write i =>
      obtain ⟨written, -, -, ⟨pipes, wrote, rfl, rfl⟩ | ⟨-, rfl, rfl⟩⟩ := worldStep_write fired
      · refine before.keep ?_ rfl rfl
        rw [Pipes.write_spec wrote]
        rfl
      · exact before.keep rfl rfl rfl

theorem exchange_ownFifos (distinct : DistinctPids clients) {labels : List (Label m n)}
    (ran : exchange generateSha256Hash rand adminPassword clients stale labels =
      some (events, world)) : OwnFifos clients stale events world :=
  run_induction ran (OwnFifos clients stale) initialWorld_ownFifos
    fun _ _ _ _ _ _ reached before fired =>
      before.step (exchange_flow distinct reached) distinct fired

end Runs

/-- In every interleaving of user processes with different pids and any number of offices, no
process fails to remove or to open its own FIFO; once it has exited its FIFO is gone, unless an
earlier process has left it and this one has sent nothing; and all other FIFOs are as they
were. -/
theorem exchange_fifos (generateSha256Hash : CString → CString → CString) (rand : Rand)
    (adminPassword : CString) {m n : Nat} (clients : Fin m → Client)
    (stale : Pipes CString TlvReply) (distinct : DistinctPids clients) (labels : List (Label m n))
    {events : List (WorldEvent m n)} {world : World m n}
    (ran : exchange generateSha256Hash rand adminPassword clients stale labels =
      some (events, world)) :
    (∀ event ∈ events, ∀ k, ¬ FifoFails (event.before.clients k) (event.after.clients k)) ∧
      (∀ k, world.clients k = .exited → world.pipes.entries (clients k).path = none ∨
        world.pipes.entries (clients k).path = stale.entries (clients k).path ∧
          (clients k).pid ∉ (sentRequests events).map (·.value.header.pid)) ∧
      ∀ path, (∀ k, (clients k).path ≠ path) →
        world.pipes.entries path = stale.entries path := by
  have kept := exchange_ownFifos distinct ran
  refine ⟨kept.calls, fun k exited => ?_, kept.foreign⟩
  have own := kept.own k
  rw [exited] at own
  exact own

/-- An earlier process with the pid of the client has left its FIFO. -/
def leftFifo : Pipes CString TlvReply := (noPipes.make (userFifoPath 1000)).getD noPipes

/-- The client sends its request, replaces the FIFO, waits for its time to be over and exits. -/
def impatientClient : List (Label 1 1) :=
  clientTurns onlyOffice 7 ++ [.client onlyOffice ⟨true, .delivered, true⟩] ++
    clientTurns onlyOffice 1

theorem impatientClient_fifos :
    ∃ events world, exchange sessionHash sessionRand ultraTopSecret onlyClient leftFifo
        impatientClient = some (events, world) ∧
      (leftFifo.entries (userFifoPath 1000)).isSome = true ∧
      world.clients onlyOffice = .exited ∧ world.pipes.entries (userFifoPath 1000) = none ∧
      (∀ event ∈ events, ∀ k, ¬ FifoFails (event.before.clients k) (event.after.clients k)) ∧
      ∀ path, (∀ k, (onlyClient k).path ≠ path) →
        world.pipes.entries path = leftFifo.entries path := by
  obtain ⟨events, world, ran, left, exited, gone⟩ : ∃ events world,
      exchange sessionHash sessionRand ultraTopSecret onlyClient leftFifo impatientClient =
        some (events, world) ∧
      (leftFifo.entries (userFifoPath 1000)).isSome = true ∧
      world.clients onlyOffice = .exited ∧ world.pipes.entries (userFifoPath 1000) = none :=
    ⟨_, _, rfl, rfl, rfl, rfl⟩
  obtain ⟨finds, -, others⟩ := exchange_fifos sessionHash sessionRand ultraTopSecret onlyClient
    leftFifo onlyClient_pids impatientClient ran
  exact ⟨events, world, ran, left, exited, gone, finds, others⟩

end Sope.Exchange
