import Sope.Server.Work

set_option autoImplicit false

/- Where the threads of the server come to rest. While it runs, the offices do so only with
every request handled; once `close_thread` is set, all threads only when main has exited. -/
namespace Sope.Server

open Machine Banking Tally

/-- Main is in its loop, owns no mutex and owes no post. -/
def MainPc.idle : MainPc → Bool
  | .loopTest | .testExit | .testSize | .setClose | .read | .lock _ => true
  | _ => false

theorem idle_cases {pc : MainPc} (idle : pc.idle = true) :
    pc.inside = false ∧ pc.owes = 0 ∧ ∀ started, pc ≠ .spawn started := by
  cases pc <;> first | exact ⟨rfl, rfl, fun _ => MainPc.noConfusion⟩ | cases idle

section Rest

variable {n : Nat}

/-- The server has been given nothing that blocks it, and is here. -/
def Reachable (generateSha256Hash : CString → CString → CString) (rand : Rand)
    (adminPassword : CString) (events : List (StepEvent n)) (state : State n) : Prop :=
  execute generateSha256Hash rand adminPassword (events.map (·.input)) = some (events, state) ∧
    ∀ event ∈ events, ∀ request ∈ event.input.received, Served request

variable {generateSha256Hash : CString → CString → CString} {rand : Rand}
  {adminPassword : CString} {state state' : State n} {action : Action}
  {events : List (StepEvent n)}

/-- The office that owns the mutex can go on. -/
theorem Reachable.progress
    (reachable : Reachable generateSha256Hash rand adminPassword events state) {i : Fin n}
    (inside : (state.offices i).inside = true) (buffer : TlvReply) (opened : Bool) :
    (officeStep generateSha256Hash state.shared i buffer opened (state.offices i)).isSome := by
  obtain ⟨ran, served⟩ := reachable
  have protocol := execute_protocol ran
  have given (label : Label n) (member : label ∈ events.map (·.input)) :
      ∀ request ∈ label.received, Served request := by
    obtain ⟨event, happened, rfl⟩ := List.mem_map.mp member
    exact served event happened
  have apart := no_selfTransfer ran fun label member request got =>
    (given label member request got).2
  have balanced := execute_balanced_inside ran apart inside
  exact balanced.progress inside (fun front => protocol.front front)
    (fun request holds => ((execute_allRequests Served given ran).office i request holds).1)
    buffer opened

/-- No office can move, whatever its buffer and the user FIFO are like. -/
def Quiet (generateSha256Hash : CString → CString → CString) (state : State n) : Prop :=
  ∀ i buffer opened, officeStep generateSha256Hash state.shared i buffer opened
    (state.offices i) = none

theorem Reachable.quiet_outside
    (reachable : Reachable generateSha256Hash rand adminPassword events state)
    (quiet : Quiet generateSha256Hash state) (i : Fin n) : (state.offices i).inside = false := by
  by_contra inside
  have moves := reachable.progress (by simpa using inside) (⟨.balance, 0, ⟨⟨0, .ok⟩, 0⟩⟩) true
  rw [quiet] at moves
  cases moves

theorem Reachable.quiet_free
    (reachable : Reachable generateSha256Hash rand adminPassword events state)
    (quiet : Quiet generateSha256Hash state) (main : state.main.inside = false) :
    state.shared.mutex = none := by
  have protocol := execute_protocol reachable.1
  cases owner : state.shared.mutex with
  | none => rfl
  | some thread =>
      have inside := (protocol.lock thread).mpr owner
      cases thread with
      | main =>
          have inside : state.main.inside = true := inside
          rw [main] at inside
          cases inside
      | office i =>
          have inside : (state.offices i).inside = true := inside
          rw [reachable.quiet_outside quiet i] at inside
          cases inside

/-- An office that cannot move while nobody owns the mutex waits for a token, or it has not
started or has returned. -/
theorem Reachable.quiet_office
    (reachable : Reachable generateSha256Hash rand adminPassword events state)
    (quiet : Quiet generateSha256Hash state) (free : state.shared.mutex = none) (i : Fin n) :
    (state.offices i = .waitMain ∧ state.shared.mainSem = 0) ∨ state.offices i = .notStarted ∨
      state.offices i = .returned := by
  have outside := reachable.quiet_outside quiet i
  have stuck := quiet i ⟨.balance, 0, ⟨⟨0, .ok⟩, 0⟩⟩ true
  cases here : state.offices i with
  | notStarted => exact Or.inr (Or.inl rfl)
  | returned => exact Or.inr (Or.inr rfl)
  | waitMain =>
      rw [here] at stuck
      by_cases none : state.shared.mainSem = 0
      · exact Or.inl ⟨rfl, none⟩
      · simp [officeStep, none] at stuck
  | loopTest | testClose | prepareShutdown | uncountActive | storeUncount =>
      rw [here] at stuck
      cases stuck
  | lock =>
      rw [here] at stuck
      simp [officeStep, free] at stuck
  | _ =>
      rw [here] at outside
      cases outside

/-- Where no office can move and main is idle, every request pushed has been handled, and
all offices wait for the next. -/
theorem Reachable.quiet_drained
    (reachable : Reachable generateSha256Hash rand adminPassword events state)
    (quiet : Quiet generateSha256Hash state) (positive : 0 < n) (idle : state.main.idle = true)
    (running : state.shared.closeThread = false) :
    state.shared.requests = [] ∧
      (handledRequests events).map (·.1) = pushedRequests events ∧
      ∀ i, state.offices i = .waitMain := by
  have protocol := execute_protocol reachable.1
  have staffed := execute_staffed reachable.1
  have ordered := execute_ordered reachable.1
  obtain ⟨outside, owes, setUp⟩ := idle_cases idle
  have free := reachable.quiet_free quiet outside
  have waits (i : Fin n) : state.offices i = .waitMain ∧ state.shared.mainSem = 0 := by
    rcases reachable.quiet_office quiet free i with waits | fresh | back
    · exact waits
    · obtain ⟨started, spawning, -⟩ := staffed.started i fresh
      exact absurd spawning (setUp started)
    · have closed := staffed.closed i back
      rw [running] at closed
      cases closed
  have empty : state.shared.requests = [] := by
    have tokens := protocol.tokens running
    have none : tally OfficePc.inFlight state.offices = 0 :=
      tally_eq_zero fun i => by rw [(waits i).1]; rfl
    rw [(waits ⟨0, positive⟩).2, none, owes] at tokens
    exact List.length_eq_zero_iff.mp tokens.symm
  refine ⟨empty, ?_, fun i => (waits i).1⟩
  have popped := ordered.popped
  have handled := ordered.handled
  rw [empty, List.append_nil] at popped
  have none : state.inHand = none := by rw [State.inHand, current_of_free free]; rfl
  rw [none, Option.toList_none, List.append_nil] at handled
  rw [handled, popped]

/-- An office leaves `close_thread` and main alone, and uses up work. -/
theorem office_label (protocol : Protocol state) {label : Label n} (office : isOffice label = true)
    (fired : step generateSha256Hash adminPassword state label = some (state', action)) :
    state'.main = state.main ∧ state'.shared.closeThread = state.shared.closeThread ∧
      state'.work < state.work := by
  rcases step_move fired with ⟨received, rfl, -⟩ | ⟨i, buffer, opened, shared', pc', rfl, move, rfl⟩
  · cases office
  · exact ⟨rfl, move.close, protocol.work_office move⟩

/-- The statements that main has before it once `close_thread` is set; it reads at most one
more request. -/
def MainPc.closedWork (n : Nat) : MainPc → Nat
  | .exited => 0
  | .join joined => n - joined + 1
  | .finalPost posted => n - posted + n + 2
  | .loopTest => n + n + 3
  | .post _ => n + n + 4
  | .unlock _ => n + n + 5
  | .push _ => n + n + 6 + requestWork
  | .lock _ => n + n + 7 + requestWork
  | .read => n + n + 8 + requestWork
  | _ => 0

theorem closedWork_le (pc : MainPc) : pc.closedWork n ≤ n + n + 8 + requestWork := by
  cases pc <;> simp only [MainPc.closedWork] <;> omega

def State.closedWork (state : State n) : Nat := state.work + state.main.closedWork n

/-- Once `close_thread` is set, every statement of any thread uses up work. -/
theorem closed_label (protocol : Protocol state) (closed : state.shared.closeThread = true)
    {label : Label n}
    (fired : step generateSha256Hash adminPassword state label = some (state', action)) :
    state'.shared.closeThread = true ∧ state'.closedWork < state.closedWork := by
  have clear (here : state.main.closeKnown = some false) : False := by
    have running := protocol.known false here
    rw [closed] at running
    cases running
  rcases step_move fired with ⟨received, rfl, move⟩ |
    ⟨i, buffer, opened, shared', pc', rfl, move, rfl⟩
  · refine ⟨(move.closing closed).1, ?_⟩
    have grown := move.work protocol
    simp only [State.closedWork]
    cases move with
    | spawn started here | spawned started here | createAdmin here | keepAdmin here
    | initSem here | exitSet here | exitClear here | empty here | notEmpty here | setClose here =>
        exact (clear (by rw [here]; rfl)).elim
    | enter here running =>
        rw [closed] at running
        cases running
    | finalPost posted here more =>
        simp only [Action.pushes, Option.toList_none, List.length_nil] at grown
        simp only [here, MainPc.closedWork] at grown ⊢
        omega
    | join joined here inside =>
        simp only [Action.pushes, Option.toList_none, List.length_nil] at grown
        simp only [here, MainPc.closedWork] at grown ⊢
        omega
    | push request here =>
        simp only [Action.pushes, Option.toList_some, List.length_singleton] at grown
        simp only [here, MainPc.closedWork] at grown ⊢
        omega
    | _ =>
        simp only [Action.pushes, Option.toList_none, List.length_nil] at grown
        simp only [*, MainPc.closedWork] at grown ⊢
        omega
  · have less := protocol.work_office move
    refine ⟨move.close.trans closed, ?_⟩
    simp only [State.closedWork]
    omega

/-- Whether an office can move does not depend on the user FIFO. -/
theorem quiet_of_stuck (stuck : ∀ i buffer, ∃ opened,
    step generateSha256Hash adminPassword state (.office i buffer opened) = none) :
    Quiet generateSha256Hash state := by
  intro i buffer opened
  obtain ⟨opened', blocked⟩ := stuck i buffer
  have still : officeStep generateSha256Hash state.shared i buffer opened' (state.offices i) =
      none := by
    cases moves : officeStep generateSha256Hash state.shared i buffer opened'
      (state.offices i) with
    | none => rfl
    | some moved => simp [step, moves] at blocked
  cases here : state.offices i with
  | openFifo request reply =>
      rw [here] at still
      cases still
  | _ =>
      rw [here] at still
      exact still

/-- With `close_thread` set, no thread can move, `read` apart, only when main has exited. -/
theorem Reachable.closed_finished
    (reachable : Reachable generateSha256Hash rand adminPassword events state)
    (closed : state.shared.closeThread = true) (quiet : Quiet generateSha256Hash state)
    (main : step generateSha256Hash adminPassword state (.main none) = none) :
    state.main = .exited ∧ ∀ i, state.offices i = .returned := by
  have protocol := execute_protocol reachable.1
  have staffed := execute_staffed reachable.1
  have draining := execute_draining reachable.1
  simp only [step] at main
  cases here : state.main with
  | exited => exact ⟨rfl, staffed.exited here⟩
  | createAdmin | initSem =>
      have running := protocol.known false (by rw [here]; rfl)
      rw [closed] at running
      cases running
  | spawn started => by_cases inside : started < n <;> simp [mainStep, here, inside] at main
  | lock request =>
      have free := reachable.quiet_free quiet (by rw [here]; rfl)
      simp [mainStep, here, free] at main
  | finalPost posted => by_cases more : posted < n <;> simp [mainStep, here, more] at main
  | join joined =>
      by_cases inside : joined < n
      · have free := reachable.quiet_free quiet (by rw [here]; rfl)
        rcases reachable.quiet_office quiet free ⟨joined, inside⟩ with
          ⟨waits, none⟩ | fresh | back
        · have enough := draining.enough closed
          have one := weight_le_tally OfficePc.waits state.offices ⟨joined, inside⟩
          rw [waits] at one
          simp only [here, MainPc.finalPosts, none, OfficePc.waits] at enough one
          omega
        · obtain ⟨started, spawning, -⟩ := staffed.started _ fresh
          rw [here] at spawning
          cases spawning
        · simp [mainStep, here, inside, back, OfficePc.hasReturned] at main
      · simp [mainStep, here, inside] at main
  | _ => simp [mainStep, here] at main

end Rest

end Sope.Server
