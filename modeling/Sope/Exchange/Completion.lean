import Sope.Exchange.Termination
import Sope.Server.Completion

set_option autoImplicit false

/- From an accepted shutdown to the end of the process. With the user processes silent the
server can always get there, with every request answered that was ever sent. -/
namespace Sope.Exchange

open Machine Banking Server Fifo

variable {m n : Nat}

/-- No request is on its way or can come, and each reply that is about to be written has its
reader. -/
structure Calm (world : World m n) : Prop where
  running : world.killed = false
  empty : world.serverFifo = []
  closed : ∀ k, (world.clients k).mayWrite = false
  readers : ∀ i written, world.writing i = some written →
    0 < (world.pipes.inodes written.fd).readers

/-- What the server may do in the world, given what it may do alone: it reads nothing. -/
def Label.allowed (may : State n → Server.Label n → Prop) (world : World m n) : Label m n → Prop
  | .main => may world.server (.main none)
  | .office i buffer => may world.server (.office i buffer (world.opening i).isSome)
  | .write _ => True
  | .client _ _ => False

section Completion

variable {generateSha256Hash : CString → CString → CString} {rand : Rand}
  {adminPassword : CString} {clients : Fin m → Client} {stale : Pipes CString TlvReply}
  {world world' last : World m n} {report : Report n} {events events' : List (WorldEvent m n)}

theorem Calm.received (calm : Calm world) : world.received = none := by
  unfold World.received
  split
  · rw [calm.empty]
    rfl
  · rfl

theorem Calm.unread (calm : Calm world) : world.unread = [] := by
  unfold World.unread
  split
  · rw [calm.empty]
    rfl
  · exact calm.empty

/-- The server keeps calm, and no `SIGPIPE` comes. -/
theorem Calm.step (calm : Calm world) {label : Label m n} (server : label.isServer = true)
    (fired : worldStep generateSha256Hash adminPassword clients world label =
      some (world', report)) : Calm world' := by
  cases label with
  | main =>
      obtain ⟨server, action, -, -, rfl, -⟩ := worldStep_main fired
      exact ⟨calm.running, calm.unread, calm.closed, calm.readers⟩
  | office i buffer =>
      obtain ⟨server, action, -, -, -, rfl, -⟩ := worldStep_office fired
      refine ⟨calm.running, calm.empty, calm.closed, fun j written writing => ?_⟩
      dsimp only at writing ⊢
      by_cases same : j = i
      · subst same
        rw [Function.update_self] at writing
        obtain ⟨-, opened⟩ := World.opening_eq_some.mp writing
        exact (Pipes.openWrite_eq_some.mp opened).2
      · rw [Function.update_of_ne same] at writing
        exact calm.readers j written writing
  | write i =>
      obtain ⟨written, -, writing, ⟨pipes, wrote, rfl, -⟩ | ⟨refused, rfl, -⟩⟩ :=
        worldStep_write fired
      · refine ⟨calm.running, calm.empty, calm.closed, fun j written' writing' => ?_⟩
        dsimp only at writing' ⊢
        by_cases same : j = i
        · subst same
          rw [Function.update_self] at writing'
          cases writing'
        · rw [Function.update_of_ne same] at writing'
          rw [Pipes.write_readers wrote]
          exact calm.readers j written' writing'
      · have goes := (write_isSome_iff written.reply).mpr (calm.readers i written writing)
        rw [refused] at goes
        cases goes
  | client => cases server

/-- What uses up the work of the server alone uses up its budget here. -/
theorem Calm.spends (calm : Calm world) (may : State n → Server.Label n → Prop)
    (I : State n → Prop) (work : State n → Nat)
    (less : ∀ now label action next, may now label → I now →
      Server.step generateSha256Hash adminPassword now label = some (next, action) →
      I next ∧ work next < work now)
    {label : Label m n} (allowed : label.allowed may world) (base : I world.server)
    (fired : worldStep generateSha256Hash adminPassword clients world label =
      some (world', report)) :
    (Calm world' ∧ I world'.server) ∧ world'.budget work < world.budget work := by
  have server : label.isServer = true := by
    cases label with
    | client => exact allowed.elim
    | _ => rfl
  suffices kept : I world'.server ∧ ∀ label' action, report = .server label' action →
      work world'.server < work world.server by
    have spent := budget_le work fired kept.2
    rw [server, Bool.toNat_true] at spent
    exact ⟨⟨calm.step server fired, kept.1⟩, by omega⟩
  cases label with
  | main =>
      obtain ⟨server, action, -, moved, rfl, rfl⟩ := worldStep_main fired
      rw [calm.received] at moved
      obtain ⟨kept, used⟩ := less _ _ _ _ allowed base moved
      exact ⟨kept, fun _ _ _ => used⟩
  | office i buffer =>
      obtain ⟨server, action, -, -, moved, rfl, rfl⟩ := worldStep_office fired
      obtain ⟨kept, used⟩ := less _ _ _ _ allowed base moved
      exact ⟨kept, fun _ _ _ => used⟩
  | write i =>
      obtain ⟨written, -, -, ⟨pipes, -, rfl, rfl⟩ | ⟨-, rfl, rfl⟩⟩ := worldStep_write fired
      · exact ⟨base, fun _ _ shown => by cases shown⟩
      · exact ⟨base, fun _ _ shown => by cases shown⟩
  | client => exact allowed.elim

/-- The server goes on alone from one world to the other, and reads nothing. -/
structure Continues (generateSha256Hash : CString → CString → CString) (adminPassword : CString)
    (clients : Fin m → Client) (world : World m n) (events : List (WorldEvent m n))
    (last : World m n) : Prop where
  ran : run (worldStep generateSha256Hash adminPassword clients) world (events.map (·.input)) =
    some (events, last)
  alone : ∀ event ∈ events, event.input.isServer = true
  silent : ∀ event ∈ serverEvents events, event.input.received = none

/-- The step reads nothing. -/
theorem Calm.silent (calm : Calm world)
    (move : WorldMove generateSha256Hash adminPassword clients world world' report)
    {label : Server.Label n} {action : Action} (shown : report = .server label action) :
    label.received = none := by
  cases move with
  | main =>
      cases shown
      exact calm.received
  | office =>
      cases shown
      rfl
  | client k pc pipes report move => exact absurd shown (move.not_server label action)
  | _ => cases shown

theorem Calm.continues (calm : Calm world) {labels : List (Label m n)}
    (ran : run (worldStep generateSha256Hash adminPassword clients) world labels =
      some (events, last)) (alone : ∀ event ∈ events, event.input.isServer = true) :
    Continues generateSha256Hash adminPassword clients world events last := by
  have inputs := run_inputs ran
  refine ⟨by rw [inputs]; exact ran, alone, fun event member => ?_⟩
  obtain ⟨here, within, seen⟩ := List.mem_filterMap.mp member
  obtain ⟨past, future, rfl⟩ := List.append_of_mem within
  obtain ⟨reached, fired, -⟩ := run_event ran
  have calm' : Calm here.before := run_invariant reached Calm calm
    fun now label report next member calm fired => by
      obtain ⟨earlier, happened, rfl⟩ := List.mem_map.mp member
      exact calm.step (alone earlier (List.mem_append_left _ happened)) fired
  unfold serverEvent at seen
  split at seen
  · rename_i label action shown
    cases seen
    exact calm'.silent (worldStep_move fired) shown
  · cases seen

theorem Continues.trans {last' : World m n}
    (first : Continues generateSha256Hash adminPassword clients world events last)
    (second : Continues generateSha256Hash adminPassword clients last events' last') :
    Continues generateSha256Hash adminPassword clients world (events ++ events') last' where
  ran := by
    rw [List.map_append]
    exact run_append_eq_some.mpr ⟨events, last, events', first.ran, second.ran, rfl⟩
  alone := fun event member =>
    (List.mem_append.mp member).elim (first.alone event) (second.alone event)
  silent := by
    intro event member
    rw [serverEvents, List.filterMap_append] at member
    exact (List.mem_append.mp member).elim (first.silent event) (second.silent event)

/-- The server can go on with what it may do until nothing of it is left. -/
theorem Calm.exhausts (calm : Calm world) (may : State n → Server.Label n → Prop)
    (I : State n → Prop) (work : State n → Nat)
    (less : ∀ now label action next, may now label → I now →
      Server.step generateSha256Hash adminPassword now label = some (next, action) →
      I next ∧ work next < work now) (base : I world.server) :
    ∃ events last, Continues generateSha256Hash adminPassword clients world events last ∧
      Calm last ∧ I last.server ∧
      ((∀ label, Server.isOffice label = true → may last.server label) →
        (∀ i, last.writing i = none) ∧ Quiet generateSha256Hash last.server) ∧
      (may last.server (.main none) →
        Server.step generateSha256Hash adminPassword last.server (.main none) = none) := by
  obtain ⟨labels, events, last, ran, ⟨calm', kept⟩, were, stuck⟩ :=
    run_exhausts (worldStep generateSha256Hash adminPassword clients)
      (fun now => Calm now ∧ I now.server) (World.budget work)
      (fun now label => label.allowed may now)
      (fun _ _ _ _ allowed kept fired => kept.1.spends may I work less allowed kept.2 fired)
      ⟨calm, base⟩
  have alone : ∀ event ∈ events, event.input.isServer = true := by
    intro event member
    have allowed := were event member
    cases label : event.input with
    | client k around =>
        rw [label] at allowed
        exact allowed.elim
    | _ => rfl
  refine ⟨events, last, calm.continues ran alone, calm', kept, fun offices => ?_, fun main => ?_⟩
  · refine offices_rest calm'.running fun label office => stuck label ?_
    cases label with
    | office i buffer => exact offices _ rfl
    | write i => exact trivial
    | _ => cases office
  · exact main_rests calm'.running (stuck .main main)

/-- Whatever was to be done before main is back at its loop with the queue empty. -/
theorem Calm.empties (calm : Calm world) {labels : List (Label m n)}
    (pids : DistinctPids clients)
    (served : ∀ k request, (clients k).request = some request → Served request)
    (ran : exchange generateSha256Hash rand adminPassword clients stale labels =
      some (events, world)) (positive : 0 < n) (exiting : Exiting world.server) :
    ∃ events' last, Continues generateSha256Hash adminPassword clients world events' last ∧
      Calm last ∧ Leaving last.server := by
  obtain ⟨events', last, continues, calm', exiting', quiet, still⟩ :=
    calm.exhausts (fun now label => Server.isOffice label = true ∨ 0 < now.main.busyWork) Exiting
      (fun now => now.work + now.main.busyWork)
      (fun _ _ _ _ allowed exiting fired => exiting.settles allowed fired) exiting
  have reachable := exchange_reachable pids served (exchange_append ran continues.ran)
  obtain ⟨empty, inLoop⟩ := reachable.settled positive exiting'
    (quiet fun _ office => Or.inl office).2 fun busy => still (Or.inr busy)
  exact ⟨events', last, continues, calm', exiting'.exit, empty, inLoop⟩

/-- Until main has set `close_thread`. -/
theorem Calm.closes (calm : Calm world) (leaving : Leaving world.server) :
    ∃ events' last, Continues generateSha256Hash adminPassword clients world events' last ∧
      Calm last ∧ last.server.shared.closeThread = true := by
  obtain ⟨events', last, continues, calm', leaving', -, still⟩ :=
    calm.exhausts (fun now label => label = .main none ∧ now.shared.closeThread = false) Leaving
      State.loopWork
      (fun now label action next allowed leaving fired => by
        rw [allowed.1] at fired
        exact leaving.main allowed.2 fired) leaving
  refine ⟨events', last, continues, calm', ?_⟩
  by_contra running
  have moves : (Server.step generateSha256Hash adminPassword last.server (.main none)).isSome =
      true := leaving'.moves
  rw [still ⟨rfl, by simpa using running⟩] at moves
  cases moves

/-- Until the process ends. -/
theorem Calm.finishes (calm : Calm world) {labels : List (Label m n)}
    (pids : DistinctPids clients)
    (served : ∀ k request, (clients k).request = some request → Served request)
    (ran : exchange generateSha256Hash rand adminPassword clients stale labels =
      some (events, world)) (closed : world.server.shared.closeThread = true) :
    ∃ events' last, Continues generateSha256Hash adminPassword clients world events' last ∧
      Calm last ∧ last.server.main = .exited ∧
      ∀ i, last.server.offices i = .returned ∧ last.writing i = none := by
  obtain ⟨events', last, continues, calm', ⟨-, closed'⟩, rest, still⟩ :=
    calm.exhausts (fun _ _ => True)
      (fun now => Protocol now ∧ now.shared.closeThread = true) State.closedWork
      (fun _ _ _ _ _ kept fired =>
        have moved := closed_label kept.1 kept.2 fired
        ⟨⟨kept.1.step fired, moved.1⟩, moved.2⟩) ⟨execute_protocol (exchange_server ran), closed⟩
  obtain ⟨written, quiet⟩ := rest fun _ _ => trivial
  have reachable := exchange_reachable pids served (exchange_append ran continues.ran)
  obtain ⟨exited, returned⟩ := reachable.closed_finished closed' quiet (still trivial)
  exact ⟨events', last, continues, calm', exited, fun i => ⟨returned i, written i⟩⟩

/-- From every world in which a shutdown has been accepted, main is still in its loop, no request
is on its way or can come, and each reply about to be written has its reader, the server can go
on alone to its end. Then every request that was ever sent has been handled, in order, and no
reply is left to be written. -/
theorem shutdown_completes (generateSha256Hash : CString → CString → CString) (rand : Rand)
    (adminPassword : CString) (positive : 0 < n) (clients : Fin m → Client)
    (pids : DistinctPids clients)
    (served : ∀ k request, (clients k).request = some request → Served request)
    (labels : List (Label m n))
    (ran : exchange generateSha256Hash rand adminPassword clients stale labels =
      some (events, world))
    (exit : world.server.shared.globals.serverExit = true)
    (running : world.server.shared.closeThread = false) (calm : Calm world) :
    ∃ events' last, Continues generateSha256Hash adminPassword clients world events' last ∧
      last.killed = false ∧ last.server.main = .exited ∧
      (∀ i, last.server.offices i = .returned ∧ last.writing i = none) ∧
      (handledRequests (serverEvents (events ++ events'))).map (·.1) =
        sentRequests (events ++ events') := by
  have server := exchange_server ran
  have looping : world.server.main.beforeLoop = false := by
    by_contra beforeLoop
    rw [execute_beforeLoop_runs server (by simpa using beforeLoop)] at exit
    cases exit
  obtain ⟨events₁, world₁, first, calm₁, leaving⟩ :=
    calm.empties pids served ran positive ⟨execute_protocol server, exit, running, looping⟩
  obtain ⟨events₂, world₂, second, calm₂, closed⟩ := calm₁.closes leaving
  have until₂ := first.trans second
  obtain ⟨events₃, last, third, calm₃, exited, returned⟩ :=
    calm₂.finishes pids served (exchange_append ran until₂.ran) closed
  have whole := until₂.trans third
  have ran₃ := exchange_append ran whole.ran
  refine ⟨_, last, whole, calm₃.running, exited, returned, ?_⟩
  have none : ∀ event ∈ serverEvents (events ++ (events₁ ++ events₂ ++ events₃)),
      ¬ ReadsLate event := by
    intro event member late
    rw [serverEvents, List.filterMap_append] at member
    rcases List.mem_append.mp member with early | silent
    · have closed := ((execute_closing server).late ⟨event, early, late⟩).1
      rw [running] at closed
      cases closed
    · obtain ⟨-, -, request, given⟩ := late
      have nothing := whole.silent event silent
      rw [given] at nothing
      cases nothing
  have reached := exchange_server ran₃
  have ordered := execute_ordered reached
  have closed' := (execute_protocol reached).known true (by rw [exited]; rfl)
  have popped := ordered.popped
  have handled := ordered.handled
  have order := (exchange_flow pids ran₃).order
  rw [((execute_closing reached).early none closed').2, List.append_nil] at popped
  rw [inHand_of_returned fun i => by rw [(returned i).1]; rfl, Option.toList_none,
    List.append_nil] at handled
  rw [exited, calm₃.empty] at order
  rw [handled, popped, ← order]
  exact (List.append_nil _).symm

end Completion

set_option maxRecDepth 2000 in
theorem shutdownAccepted_completes :
    ∃ events world,
      exchange sessionHash sessionRand ultraTopSecret adminClient noPipes shutdownAccepted =
        some (events, world) ∧
      ∃ events' last, Continues sessionHash ultraTopSecret adminClient world events' last ∧
        last.killed = false ∧ last.server.main = .exited ∧
        (∀ i, last.server.offices i = .returned ∧ last.writing i = none) ∧
        (handledRequests (serverEvents (events ++ events'))).map (·.1) =
          sentRequests (events ++ events') := by
  obtain ⟨events, world, ran, exit, running, calm⟩ :
      ∃ events world,
        exchange sessionHash sessionRand ultraTopSecret adminClient noPipes shutdownAccepted =
          some (events, world) ∧
        world.server.shared.globals.serverExit = true ∧
        world.server.shared.closeThread = false ∧ Calm world := by
    refine ⟨_, _, rfl, rfl, rfl, rfl, rfl, fun k => ?_, fun i written writing => ?_⟩
    · rw [Subsingleton.elim k onlyOffice]
      rfl
    · rw [Subsingleton.elim i onlyOffice] at writing
      cases writing
  exact ⟨events, world, ran, shutdown_completes sessionHash sessionRand ultraTopSecret
    (by decide) adminClient adminClient_pids adminClient_served shutdownAccepted ran exit running
    calm⟩

end Sope.Exchange
