import Sope.Server.Termination

set_option autoImplicit false

/- From an accepted shutdown to the setting of `close_thread`: what the offices and main have
before them as long as `read` returns nothing, and where they are when it is done. -/
namespace Sope.Server

open Machine Banking Tally

/-- What main has to do before it is back at its loop. -/
def MainPc.busyWork : MainPc → Nat
  | .lock _ => requestWork + 4
  | .push _ => requestWork + 3
  | .unlock _ => 2
  | .post _ => 1
  | _ => 0

/-- What main has to do before it sets `close_thread`, once the queue is empty. -/
def MainPc.loopWork : MainPc → Nat
  | .read => 5
  | .loopTest => 4
  | .testExit => 3
  | .testSize => 2
  | .setClose => 1
  | _ => 0

section Completion

variable {generateSha256Hash : CString → CString → CString} {n : Nat} {rand : Rand}
  {adminPassword : CString} {state state' : State n} {action : Action}
  {events : List (StepEvent n)}

theorem OfficeMove.keepsExit {shared shared' : Shared n} {i : Fin n} {pc pc' : OfficePc}
    (move : OfficeMove generateSha256Hash shared i pc shared' pc' action)
    (exiting : shared.globals.serverExit = true) : shared'.globals.serverExit = true := by
  cases move with
  | prepareShutdown request reply =>
      simp only [Globals.prepareShutdown]
      split
      · rfl
      · exact exiting
  | _ => exact exiting

theorem MainMove.sameExit {received : Option TlvRequest}
    (move : MainMove generateSha256Hash adminPassword state received state' action) :
    state'.shared.globals.serverExit = state.shared.globals.serverExit := by
  cases move <;> rfl

/-- No shutdown is accepted while main sets the process up. -/
theorem execute_beforeLoop_runs {labels : List (Label n)}
    (ran : execute generateSha256Hash rand adminPassword labels = some (events, state))
    (beforeLoop : state.main.beforeLoop = true) : state.shared.globals.serverExit = false := by
  refine run_induction ran (fun _ state => state.main.beforeLoop = true →
    state.shared.globals.serverExit = false) (fun _ => rfl) ?_ beforeLoop
  intro past state label action state' _ reached clear fired beforeLoop
  have none := execute_noneYet reached
  rcases step_move fired with ⟨received, -, move⟩ | ⟨i, buffer, opened, shared', pc', -, move, rfl⟩
  · rw [move.sameExit]
    refine clear ?_
    cases move with
    | spawn started here | spawned started here | createAdmin here => rw [here]; rfl
    | _ => cases beforeLoop
  · have idle := (none beforeLoop).office i
    have same := clear beforeLoop
    generalize state.offices i = pc at move idle
    cases move with
    | prepareShutdown request reply => exact (idle request rfl).elim
    | _ => exact same

/-- In its loop, with a shutdown accepted. -/
structure Exiting (now : State n) : Prop where
  protocol : Protocol now
  exit : now.shared.globals.serverExit = true
  running : now.shared.closeThread = false
  looping : now.main.beforeLoop = false

/-- The offices and main, until it is back at its loop, use up work. -/
theorem Exiting.settles (exiting : Exiting state) {label : Label n}
    (allowed : isOffice label = true ∨ 0 < state.main.busyWork)
    (fired : step generateSha256Hash adminPassword state label = some (state', action)) :
    Exiting state' ∧
      state'.work + state'.main.busyWork < state.work + state.main.busyWork := by
  have protocol := exiting.protocol.step fired
  rcases step_move fired with ⟨received, rfl, move⟩ |
    ⟨i, buffer, opened, shared', pc', rfl, move, rfl⟩
  · have busy : 0 < state.main.busyWork := by
      rcases allowed with office | busy
      · cases office
      · exact busy
    have grown := move.work exiting.protocol
    have exit := move.sameExit.trans exiting.exit
    cases move with
    | lock request here | unlock request here | post request here =>
        refine ⟨⟨protocol, exit, exiting.running, rfl⟩, ?_⟩
        simp only [Action.pushes, Option.toList_none, List.length_nil] at grown
        simp only [here, MainPc.busyWork] at grown ⊢
        omega
    | push request here =>
        refine ⟨⟨protocol, exit, exiting.running, rfl⟩, ?_⟩
        simp only [Action.pushes, Option.toList_some, List.length_singleton] at grown
        simp only [here, MainPc.busyWork] at grown ⊢
        omega
    | _ => simp [*, MainPc.busyWork] at busy
  · have less := exiting.protocol.work_office move
    refine ⟨⟨protocol, move.keepsExit exiting.exit, move.close.trans exiting.running,
      exiting.looping⟩, ?_⟩
    dsimp only
    omega

/-- The offices and main come to rest with the queue empty and main back in its loop. -/
theorem Reachable.settled
    (reachable : Reachable generateSha256Hash rand adminPassword events state) (positive : 0 < n)
    (exiting : Exiting state) (quiet : Quiet generateSha256Hash state)
    (still : 0 < state.main.busyWork →
      step generateSha256Hash adminPassword state (.main none) = none) :
    state.shared.requests = [] ∧ 0 < state.main.loopWork := by
  have known := exiting.protocol.known
  have running := exiting.running
  have looping := exiting.looping
  have drained (idle : state.main.idle = true) : state.shared.requests = [] :=
    (reachable.quiet_drained quiet positive idle running).1
  cases here : state.main with
  | loopTest | testExit | testSize | setClose | read =>
      exact ⟨drained (by rw [here]; rfl), Nat.succ_pos _⟩
  | lock request =>
      have free := reachable.quiet_free quiet (by rw [here]; rfl)
      have none := still (by rw [here]; exact Nat.succ_pos _)
      simp [step, mainStep, here, free] at none
  | push request | unlock request | post request =>
      have none := still (by rw [here]; exact Nat.succ_pos _)
      simp [step, mainStep, here] at none
  | spawn | createAdmin | initSem =>
      rw [here] at looping
      cases looping
  | finalPost | join | exited =>
      have closed := known true (by rw [here]; rfl)
      rw [running] at closed
      cases closed

/-- Main alone, once the queue is empty. -/
structure Leaving (now : State n) : Prop where
  exit : now.shared.globals.serverExit = true
  empty : now.shared.requests = []
  inLoop : 0 < now.main.loopWork

def State.loopWork (now : State n) : Nat :=
  if now.shared.closeThread then 0 else now.main.loopWork

theorem Leaving.main (leaving : Leaving state) (running : state.shared.closeThread = false)
    (fired : step generateSha256Hash adminPassword state (.main none) = some (state', action)) :
    Leaving state' ∧ state'.loopWork < state.loopWork := by
  have inLoop := leaving.inLoop
  have empty := leaving.empty
  have exit := leaving.exit
  rcases step_move fired with ⟨received, given, move⟩ | ⟨i, buffer, opened, _, _, other, -⟩
  · cases given
    simp only [State.loopWork, running, Bool.false_eq_true, ↓reduceIte]
    cases move with
    | leave here closed =>
        rw [running] at closed
        cases closed
    | enter here | exitSet here | empty here | receiveNone here =>
        refine ⟨⟨exit, empty, Nat.succ_pos _⟩, ?_⟩
        simp [running, here, MainPc.loopWork]
    | exitClear here clear =>
        rw [exit] at clear
        cases clear
    | notEmpty here some => exact absurd empty some
    | setClose here =>
        refine ⟨⟨exit, empty, Nat.succ_pos _⟩, ?_⟩
        simp [here, MainPc.loopWork]
    | receive here request got => cases got
    | _ => simp [*, MainPc.loopWork] at inLoop
  · cases other

theorem Leaving.moves (leaving : Leaving state) :
    (step generateSha256Hash adminPassword state (.main none)).isSome = true := by
  have inLoop := leaving.inLoop
  cases here : state.main with
  | loopTest | testExit | testSize | setClose | read => simp [step, mainStep, here]
  | _ =>
      rw [here] at inLoop
      cases inLoop

end Completion

end Sope.Server
