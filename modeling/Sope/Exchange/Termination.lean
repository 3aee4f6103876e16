import Sope.Exchange.Answers
import Sope.Exchange.Flow
import Sope.Server.Termination

set_option autoImplicit false

/- Where the server comes to rest among the user processes. An office opens the user FIFO and
then writes to it, and the `write` is the end of the whole process once the reader is gone. -/
namespace Sope.Exchange

open Machine Banking Server Fifo Tally

variable {m n : Nat}

def Label.isServer : Label m n → Bool
  | .client _ _ => false
  | _ => true

/-- A statement of an office. -/
def Label.isOffice : Label m n → Bool
  | .office _ _ | .write _ => true
  | _ => false

/-- The process has the server FIFO open for writing, or is about to close it. -/
def ClientPc.mayWrite : ClientPc → Bool
  | .writeServer _ | .makeFifo => true
  | _ => false

/-- `read` in main, where it does not return: the FIFO is empty and somebody may write to it. -/
def World.blocked (world : World m n) : Prop :=
  world.server.main = .read ∧ world.serverFifo = [] ∧ ∃ k, (world.clients k).mayWrite = true

/-- How many replies are about to be written. -/
def World.pending (world : World m n) : Nat :=
  tally (fun written => written.isSome.toNat) world.writing

/-- What `work` of the server model comes to here: each of its statements is worth two, since
`open_user_fifo` brings a `write` with it, and `SIGPIPE` comes once. -/
def World.budget (work : State n → Nat) (world : World m n) : Nat :=
  2 * work world.server + world.pending + (!world.killed).toNat

theorem pending_le (world : World m n) : world.pending ≤ n :=
  tally_le_count (fun _ => Bool.toNat_le _) world.writing

section Rest

variable {generateSha256Hash : CString → CString → CString} {rand : Rand}
  {adminPassword : CString} {clients : Fin m → Client} {stale : Pipes CString TlvReply}
  {world world' : World m n} {report : Report n} {events events' : List (WorldEvent m n)}

/-- What uses up the work of the server uses up the budget. -/
theorem budget_le (work : State n → Nat) {label : Label m n}
    (fired : worldStep generateSha256Hash adminPassword clients world label =
      some (world', report))
    (less : ∀ label' action, report = .server label' action →
      work world'.server < work world.server) :
    label.isServer.toNat + world'.budget work ≤ world.budget work := by
  cases label with
  | main =>
      obtain ⟨server, action, running, moved, rfl, rfl⟩ := worldStep_main fired
      have less := less _ _ rfl
      simp only [World.budget, World.pending, Label.isServer, Bool.toNat_true] at less ⊢
      omega
  | office i buffer =>
      obtain ⟨server, action, running, idle, moved, rfl, rfl⟩ := worldStep_office fired
      have less := less _ _ rfl
      have update := tally_update (fun written : Option Writing => written.isSome.toNat)
        world.writing i (world.opening i)
      have one := Bool.toNat_le (world.opening i).isSome
      simp only [idle, Option.isSome_none, Bool.toNat_false] at update
      simp only [World.budget, World.pending, Label.isServer, Bool.toNat_true] at less ⊢
      omega
  | write i =>
      obtain ⟨written, running, writing, ⟨pipes, wrote, rfl, rfl⟩ | ⟨refused, rfl, rfl⟩⟩ :=
        worldStep_write fired
      · have update := tally_update (fun written : Option Writing => written.isSome.toNat)
          world.writing i none
        simp only [writing, Option.isSome_some, Option.isSome_none, Bool.toNat_false,
          Bool.toNat_true] at update
        simp only [World.budget, World.pending, Label.isServer, Bool.toNat_true]
        omega
      · simp only [World.budget, World.pending, Label.isServer, Bool.toNat_true, running,
          Bool.not_false, Bool.not_true, Bool.toNat_false]
        omega
  | client k around =>
      obtain ⟨pc, pipes, move, rfl⟩ := worldStep_client fired
      simp [World.budget, World.pending, Label.isServer]

theorem World.received_mem {request : TlvRequest} (got : request ∈ world.received) :
    request ∈ world.serverFifo := by
  unfold World.received at got
  split at got
  · exact List.mem_of_mem_head? got
  · cases got

/-- Main reads only what the user processes send. -/
theorem exchange_received (pids : DistinctPids clients) {labels : List (Label m n)}
    (ran : exchange generateSha256Hash rand adminPassword clients stale labels =
      some (events, world)) :
    ∀ event ∈ serverEvents events, ∀ request ∈ event.input.received,
      ∃ k, (clients k).request = some request := by
  refine run_induction ran (fun past _ => ∀ event ∈ serverEvents past,
    ∀ request ∈ event.input.received, ∃ k, (clients k).request = some request)
    (fun _ none => absurd none List.not_mem_nil) ?_
  intro past now label report next _ reached before fired event member request got
  rw [serverEvents_snoc, List.mem_append] at member
  rcases member with earlier | last
  · exact before event earlier request got
  · have flow := exchange_flow pids reached
    cases worldStep_move fired with
    | main server action =>
        obtain rfl := Option.mem_some.mp (Option.mem_toList.mp last)
        have sent : request ∈ sentRequests past := by
          rw [← flow.order]
          exact List.mem_append_right _ (List.mem_append_right _ (World.received_mem got))
        obtain ⟨k, request, -⟩ := flow.senders request sent
        exact ⟨k, request⟩
    | office i buffer =>
        obtain rfl := Option.mem_some.mp (Option.mem_toList.mp last)
        cases got
    | client k pc pipes report move =>
        rw [move.serverEvent_eq_none] at last
        cases last
    | _ => cases last

theorem exchange_append {labels labels' : List (Label m n)}
    (ran : exchange generateSha256Hash rand adminPassword clients stale labels =
      some (events, world))
    (ran' : run (worldStep generateSha256Hash adminPassword clients) world labels' =
      some (events', world')) :
    exchange generateSha256Hash rand adminPassword clients stale (labels ++ labels') =
      some (events ++ events', world') :=
  run_append_eq_some.mpr ⟨events, world, events', ran, ran', rfl⟩

theorem exchange_reachable (pids : DistinctPids clients)
    (served : ∀ k request, (clients k).request = some request → Served request)
    {labels : List (Label m n)}
    (ran : exchange generateSha256Hash rand adminPassword clients stale labels =
      some (events, world)) :
    Reachable generateSha256Hash rand adminPassword (serverEvents events) world.server := by
  refine ⟨exchange_server ran, fun event member request got => ?_⟩
  obtain ⟨k, built⟩ := exchange_received pids ran event member request got
  exact served k request built

/-- Where no office can move, no reply is about to be written either. -/
theorem offices_rest (running : world.killed = false)
    (rest : ∀ label, label.isOffice = true →
      worldStep generateSha256Hash adminPassword clients world label = none) :
    (∀ i, world.writing i = none) ∧ Quiet generateSha256Hash world.server := by
  have idle (i : Fin n) : world.writing i = none := by
    have stuck := rest (.write i) rfl
    cases writing : world.writing i with
    | none => rfl
    | some written =>
        cases wrote : world.pipes.write written.fd written.reply <;>
          simp [worldStep, running, writing, wrote] at stuck
  have still (i : Fin n) (buffer : TlvReply) : step generateSha256Hash adminPassword world.server
      (.office i buffer (world.opening i).isSome) = none := by
    have stuck := rest (.office i buffer) rfl
    cases fired : step generateSha256Hash adminPassword world.server
      (.office i buffer (world.opening i).isSome) with
    | none => rfl
    | some moved => simp [worldStep, running, idle, fired] at stuck
  exact ⟨idle, quiet_of_stuck fun i buffer => ⟨_, still i buffer⟩⟩

/-- All threads but main leave it and `close_thread` alone, and each statement of an office
uses up the budget. -/
theorem other_step (protocol : Protocol world.server) {label : Label m n} (other : label ≠ .main)
    (fired : worldStep generateSha256Hash adminPassword clients world label =
      some (world', report)) :
    (Protocol world'.server ∧ world'.server.main = world.server.main ∧
      world'.server.shared.closeThread = world.server.shared.closeThread) ∧
      label.isOffice.toNat + world'.budget State.work ≤ world.budget State.work := by
  have spent := budget_le State.work fired
  cases label with
  | main => exact absurd rfl other
  | office i buffer =>
      obtain ⟨server, action, -, -, moved, rfl, rfl⟩ := worldStep_office fired
      obtain ⟨main, close, less⟩ := office_label protocol rfl moved
      exact ⟨⟨protocol.step moved, main, close⟩, spent fun _ _ _ => less⟩
  | write i =>
      obtain ⟨written, -, -, ⟨pipes, -, rfl, rfl⟩ | ⟨-, rfl, rfl⟩⟩ := worldStep_write fired
      · exact ⟨⟨protocol, rfl, rfl⟩, spent fun _ _ shown => by cases shown⟩
      · exact ⟨⟨protocol, rfl, rfl⟩, spent fun _ _ shown => by cases shown⟩
  | client k around =>
      obtain ⟨pc, pipes, move, rfl⟩ := worldStep_client fired
      exact ⟨⟨protocol, rfl, rfl⟩, spent fun _ _ shown => absurd shown (move.not_server _ _)⟩

/-- Once `close_thread` is set, each statement of the server uses up the budget. -/
theorem closed_step (protocol : Protocol world.server)
    (closed : world.server.shared.closeThread = true) {label : Label m n}
    (fired : worldStep generateSha256Hash adminPassword clients world label =
      some (world', report)) :
    (Protocol world'.server ∧ world'.server.shared.closeThread = true) ∧
      label.isServer.toNat + world'.budget State.closedWork ≤
        world.budget State.closedWork := by
  have spent := budget_le State.closedWork fired
  have move := worldStep_move fired
  by_cases own : ∃ label' action, report = .server label' action
  · obtain ⟨label', action, rfl⟩ := own
    obtain ⟨closed', less⟩ := closed_label protocol closed move.server_step
    exact ⟨⟨protocol.step move.server_step, closed'⟩, spent fun _ _ _ => less⟩
  · have hidden : ∀ label' action, report ≠ .server label' action :=
      fun label' action shown => own ⟨label', action, shown⟩
    rw [move.server_same hidden]
    exact ⟨⟨protocol, closed⟩, spent fun _ _ shown => absurd shown (hidden _ _)⟩

/-- No statement of the server can be made; a `read` that blocks is not made. -/
def Stuck (generateSha256Hash : CString → CString → CString) (adminPassword : CString)
    (clients : Fin m → Client) (world : World m n) : Prop :=
  ∀ label, label.isServer = true →
    worldStep generateSha256Hash adminPassword clients world label = none ∨
      label = .main ∧ world.blocked

/-- Main stands still, but not in `read`, which takes what there is in the FIFO or nothing. -/
theorem main_rests (running : world.killed = false)
    (rest : worldStep generateSha256Hash adminPassword clients world .main = none) :
    step generateSha256Hash adminPassword world.server (.main none) = none := by
  have stuck : step generateSha256Hash adminPassword world.server (.main world.received) =
      none := by
    cases fired : step generateSha256Hash adminPassword world.server (.main world.received) with
    | none => rfl
    | some moved => simp [worldStep, running, fired] at rest
  cases here : world.server.main with
  | read => cases got : world.received <;> simp [step, mainStep, here, got] at stuck
  | _ =>
      have nothing : world.received = none := by
        rw [World.received, here]
      rwa [nothing] at stuck

/-- Once `close_thread` is set the server terminates, whatever it and the user processes do:
after a bounded number of its statements none can be made any more. Then `SIGPIPE` has ended
the process, or main blocks in its last `read`, since a user process has the FIFO open, or main
has exited, every office has returned and no reply is about to be written. -/
theorem closed_terminates (generateSha256Hash : CString → CString → CString) (rand : Rand)
    (adminPassword : CString) (clients : Fin m → Client) (pids : DistinctPids clients)
    (served : ∀ k request, (clients k).request = some request → Served request)
    (labels : List (Label m n))
    (ran : exchange generateSha256Hash rand adminPassword clients stale labels =
      some (events, world))
    (closed : world.server.shared.closeThread = true) (labels' : List (Label m n))
    (ran' : run (worldStep generateSha256Hash adminPassword clients) world labels' =
      some (events', world')) :
    (labels'.filter Label.isServer).length ≤
        2 * (requestWork * (world.server.shared.requests.length + n + 1) + 2 * n + 8) + n + 1 ∧
      (Stuck generateSha256Hash adminPassword clients world' →
        world'.killed = true ∨ world'.blocked ∨
        world'.server.main = .exited ∧
          ∀ i, world'.server.offices i = .returned ∧ world'.writing i = none) := by
  obtain ⟨⟨-, closed'⟩, bounded⟩ := run_spends ran'
    (fun now => Protocol now.server ∧ now.server.shared.closeThread = true)
    (World.budget State.closedWork) Label.isServer ⟨execute_protocol (exchange_server ran), closed⟩
    fun now label report next _ kept fired => closed_step kept.1 kept.2 fired
  constructor
  · have work := world.server.work_le
    have main := closedWork_le (n := n) world.server.main
    have pending := pending_le world
    have once := Bool.toNat_le (!world.killed)
    simp only [World.budget, State.closedWork, Nat.mul_add, Nat.mul_one] at bounded work ⊢
    omega
  · intro stuck
    by_cases killed : world'.killed = true
    · exact Or.inl killed
    by_cases blocked : world'.blocked
    · exact Or.inr (Or.inl blocked)
    right; right
    have running := Bool.eq_false_iff.mpr killed
    have rest (label : Label m n) (server : label.isServer = true) :
        worldStep generateSha256Hash adminPassword clients world' label = none :=
      (stuck label server).resolve_right fun reads => blocked reads.2
    obtain ⟨written, quiet⟩ := offices_rest running fun label office =>
      rest label (by cases label <;> first | rfl | cases office)
    have reachable := exchange_reachable pids served (exchange_append ran ran')
    obtain ⟨exited, returned⟩ := reachable.closed_finished closed' quiet
      (main_rests running (rest .main rfl))
    exact ⟨exited, fun i => ⟨returned i, written i⟩⟩

end Rest

theorem onlyClient_served (k : Fin 1) (request : TlvRequest)
    (built : (onlyClient k).request = some request) : Served request := by
  rw [Subsingleton.elim k onlyOffice] at built
  obtain rfl := Option.some.inj (built.symm.trans rfl)
  decide

/-- The client waits with its FIFO open, and its request has been pushed. -/
def requestPushed : List (Label 1 1) :=
  List.replicate 4 .main ++ clientTurns onlyOffice 5 ++ List.replicate 7 .main

/-- The office answers and goes back to wait, and the client reads. -/
def answered : List (Label 1 1) :=
  List.replicate 14 (.office onlyOffice sessionBuffer) ++ [.write onlyOffice] ++
    clientTurns onlyOffice 2 ++ List.replicate 5 (.office onlyOffice sessionBuffer)

def adminClient : Fin 1 → Client := fun _ =>
  { pid := 1000
    uninit := ⟨0, 0, []⟩
    argv :=
      { accountId := ['0'], password := ultraTopSecret, delay := ['1', '0'], opCode := ['3'],
        arguments := [] } }

theorem adminClient_pids : DistinctPids adminClient := fun _ _ _ => Subsingleton.elim ..

theorem adminClient_served (k : Fin 1) (request : TlvRequest)
    (built : (adminClient k).request = some request) : Served request := by
  rw [Subsingleton.elim k onlyOffice] at built
  obtain rfl := Option.some.inj (built.symm.trans rfl)
  decide

/-- The office accepts the shutdown and goes back to its loop. -/
def shutdownAccepted : List (Label 1 1) :=
  requestPushed ++ List.replicate 14 (.office onlyOffice sessionBuffer) ++ [.write onlyOffice] ++
    clientTurns onlyOffice 2 ++ List.replicate 4 (.office onlyOffice sessionBuffer)

/-- Main sets `close_thread`. -/
def closing : List (Label 1 1) := shutdownAccepted ++ List.replicate 4 .main

/-- Main posts, the office returns, and main joins it. -/
def lastSteps : List (Label 1 1) :=
  List.replicate 4 .main ++ [.office onlyOffice sessionBuffer] ++ List.replicate 2 .main

set_option maxRecDepth 2000 in
theorem closing_terminates :
    ∃ events world events' world',
      exchange sessionHash sessionRand ultraTopSecret adminClient noPipes closing =
        some (events, world) ∧
      run (worldStep sessionHash ultraTopSecret adminClient) world lastSteps =
        some (events', world') ∧
      (lastSteps.filter Label.isServer).length ≤
        2 * (requestWork * (world.server.shared.requests.length + 1 + 1) + 2 * 1 + 8) + 1 + 1 ∧
      (world'.killed = true ∨ world'.blocked ∨
        world'.server.main = .exited ∧
          ∀ i, world'.server.offices i = .returned ∧ world'.writing i = none) := by
  obtain ⟨events, world, events', world', ran, ran', closed, stuck⟩ :
      ∃ events world events' world',
        exchange sessionHash sessionRand ultraTopSecret adminClient noPipes closing =
          some (events, world) ∧
        run (worldStep sessionHash ultraTopSecret adminClient) world lastSteps =
          some (events', world') ∧
        world.server.shared.closeThread = true ∧
        Stuck sessionHash ultraTopSecret adminClient world' := by
    refine ⟨_, _, _, _, rfl, rfl, rfl, fun label server => Or.inl ?_⟩
    cases label with
    | main => rfl
    | office i buffer =>
        rw [Subsingleton.elim i onlyOffice]
        rfl
    | write i =>
        rw [Subsingleton.elim i onlyOffice]
        rfl
    | client => cases server
  obtain ⟨bounded, finished⟩ := closed_terminates sessionHash sessionRand ultraTopSecret
    adminClient adminClient_pids adminClient_served closing ran closed lastSteps ran'
  exact ⟨events, world, events', world', ran, ran', bounded, finished stuck⟩

end Sope.Exchange
