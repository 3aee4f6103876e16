import Sope.Server.Shutdown

set_option autoImplicit false

/- The offices at shutdown. Once `close_thread` is set, no office starts to wait on
`main_sem` any more, each that leaves its wait uses up one token, and main adds one
for each office. -/
namespace Sope.Server

open Machine Banking Tally

/-- The office is blocked in `wait_sem(&main_sem)`, or it has passed the loop test and
has yet to execute it. -/
def OfficePc.waits : OfficePc → Nat
  | .waitMain => 1
  | _ => 0

/-- The final posts that main has made, out of `n`. -/
def MainPc.finalPosts (n : Nat) : MainPc → Nat
  | .finalPost posted => posted
  | .join _ | .exited => n
  | _ => 0

/-- Main has made its final posts. -/
def MainPc.hasPosted (n : Nat) : MainPc → Bool
  | .finalPost posted => decide (n ≤ posted)
  | .join _ | .exited => true
  | _ => false

theorem waits_le_one (pc : OfficePc) : pc.waits ≤ 1 := by
  cases pc <;> simp only [OfficePc.waits, Nat.zero_le, Nat.le_refl]

theorem waits_eq_one {pc : OfficePc} : pc.waits = 1 ↔ pc = .waitMain := by
  cases pc <;> simp [OfficePc.waits]

theorem hasPosted_iff {n : Nat} {pc : MainPc} (positive : pc.leftLoop = true) :
    pc.hasPosted n = true ↔ n ≤ pc.finalPosts n := by
  cases pc <;> simp [MainPc.hasPosted, MainPc.finalPosts, MainPc.leftLoop] at positive ⊢

theorem hasPosted_leftLoop {n : Nat} {pc : MainPc} (posted : pc.hasPosted n = true) :
    pc.leftLoop = true := by
  cases pc <;> first | rfl | cases posted

section Drain

variable {generateSha256Hash : CString → CString → CString} {n : Nat} {adminPassword : CString}
  {rand : Rand} {state state' : State n} {action : Action}

/-- The tokens suffice for the offices that wait, with the posts that are still to come. -/
structure Draining (state : State n) : Prop where
  bounded : state.main.finalPosts n ≤ n
  enough : state.shared.closeThread = true →
    tally OfficePc.waits state.offices + state.main.finalPosts n ≤ state.shared.mainSem + n

theorem initialState_draining : Draining (initialState n rand) :=
  ⟨Nat.zero_le n, fun closed => absurd closed Bool.false_ne_true⟩

/-- With `close_thread` set, an office that stops waiting takes one token, and none
starts to wait. -/
theorem OfficeMove.waits {shared shared' : Shared n} {i : Fin n} {pc pc' : OfficePc}
    (move : OfficeMove generateSha256Hash shared i pc shared' pc' action)
    (closed : shared.closeThread = true) :
    shared.mainSem + pc'.waits ≤ shared'.mainSem + pc.waits ∧
      (pc' = .waitMain → pc = .waitMain) := by
  cases move with
  | enter running | proceed running =>
      rw [closed] at running
      cases running
  | wake token =>
      refine ⟨?_, fun here => OfficePc.noConfusion here⟩
      simp only [OfficePc.waits]
      omega
  | _ => exact ⟨by simp only [OfficePc.waits, Shared.withAccounts, le_refl],
      fun here => OfficePc.noConfusion here⟩

theorem Draining.office (draining : Draining state) {shared' : Shared n} {i : Fin n}
    {pc' : OfficePc}
    (move : OfficeMove generateSha256Hash state.shared i (state.offices i) shared' pc' action) :
    Draining { state with
      shared := shared', offices := Function.update state.offices i pc' } where
  bounded := draining.bounded
  enough := by
    intro closed
    dsimp only at closed ⊢
    rw [move.close] at closed
    have before := draining.enough closed
    have moved := (move.waits closed).1
    have update := tally_update OfficePc.waits state.offices i pc'
    omega

/-- Main only adds tokens, and counts those of its final posts. -/
theorem MainMove.finalPosts {received : Option TlvRequest}
    (move : MainMove generateSha256Hash adminPassword state received state' action)
    (bounded : state.main.finalPosts n ≤ n) :
    state'.main.finalPosts n ≤ n ∧
      state'.main.finalPosts n + state.shared.mainSem ≤
        state.main.finalPosts n + state'.shared.mainSem := by
  cases move with
  | finalPost posted here more =>
      simp only [here, MainPc.finalPosts]
      omega
  | posted posted here all =>
      simp only [here, MainPc.finalPosts] at bounded ⊢
      omega
  | join joined here | joined joined here =>
      simp only [here, MainPc.finalPosts]
      omega
  | initSem here =>
      simp only [here, MainPc.finalPosts, Shared.withAccounts]
      omega
  | _ => simp only [*, MainPc.finalPosts, Nat.zero_le, true_and]; omega

theorem Draining.main (draining : Draining state) (protocol : Protocol state)
    {received : Option TlvRequest}
    (move : MainMove generateSha256Hash adminPassword state received state' action) :
    Draining state' := by
  obtain ⟨bounded, posts⟩ := move.finalPosts draining.bounded
  refine ⟨bounded, ?_⟩
  intro closed
  rw [tally_congr (move.office_same protocol.spawning OfficePc.waits rfl)]
  rcases move.closed closed with already | here
  · have before := draining.enough already
    omega
  · -- no final post has been made when `close_thread` is set
    have none : state.main.finalPosts n = 0 := by rw [here]; rfl
    have all := tally_le_count waits_le_one state.offices
    omega

theorem execute_draining {labels : List (Label n)} {events : List (StepEvent n)}
    (ran : execute generateSha256Hash rand adminPassword labels = some (events, state)) :
    Draining state := by
  apply run_induction ran (fun _ state => Draining state) initialState_draining
  intro past state label action state' _ reached draining fired
  rcases step_move fired with ⟨received, -, move⟩ | ⟨i, buffer, opened, shared', pc', -, move, rfl⟩
  · exact draining.main (execute_protocol reached) move
  · exact draining.office move

/-- With `close_thread` set, an office that waits after some steps waited before them. -/
theorem closed_waits (protocol : Protocol state) (closed : state.shared.closeThread = true)
    {labels : List (Label n)} {events : List (StepEvent n)}
    (ran : run (step generateSha256Hash adminPassword) state labels = some (events, state'))
    (i : Fin n) (here' : state'.offices i = .waitMain) : state.offices i = .waitMain := by
  have kept := run_invariant ran
    (fun state' => Protocol state' ∧ state'.shared.closeThread = true ∧
      (state'.offices i = .waitMain → state.offices i = .waitMain))
    ⟨protocol, closed, id⟩ ?_
  · exact kept.2.2 here'
  rintro now label action next - ⟨protocol, closed, waited⟩ fired
  refine ⟨protocol.step fired, ?_⟩
  rcases step_move fired with ⟨received, -, move⟩ | ⟨j, buffer, opened, shared', pc', -, move, rfl⟩
  · refine ⟨(move.closing closed).1, ?_⟩
    intro here
    have same := move.office_same protocol.spawning OfficePc.waits rfl i
    rw [here] at same
    exact waited (waits_eq_one.mp same.symm)
  · refine ⟨move.close.trans closed, ?_⟩
    intro here
    dsimp only at here
    by_cases moved : i = j
    · subst moved
      rw [Function.update_self] at here
      exact waited ((move.waits closed).2 here)
    · rw [Function.update_of_ne moved] at here
      exact waited here

/-- Once main has set `close_thread` and made its `n` final posts, `main_sem` has a token
for each office that waits for one or has yet to do so; the others never wait again. So
an office that main joins is not blocked there. -/
theorem execute_none_stranded (generateSha256Hash : CString → CString → CString) (rand : Rand)
    (adminPassword : CString) (labels : List (Label n)) {events : List (StepEvent n)}
    (ran : execute generateSha256Hash rand adminPassword labels = some (events, state))
    (posted : state.main.hasPosted n = true) :
    state.shared.closeThread = true ∧
      tally OfficePc.waits state.offices ≤ state.shared.mainSem ∧
      (∀ i, state.offices i = .waitMain → ∀ buffer opened,
        (officeStep generateSha256Hash state.shared i buffer opened (state.offices i)).isSome) ∧
      ∀ labels' events' state',
        run (step generateSha256Hash adminPassword) state labels' = some (events', state') →
        ∀ i, state'.offices i = .waitMain → state.offices i = .waitMain := by
  have protocol := execute_protocol ran
  have draining := execute_draining ran
  have left := hasPosted_leftLoop posted
  have closed := protocol.known true (leftLoop_cases left).2
  have all := (hasPosted_iff left).mp posted
  have enough : tally OfficePc.waits state.offices ≤ state.shared.mainSem := by
    have tokens := draining.enough closed
    omega
  refine ⟨closed, enough, ?_, ?_⟩
  · intro i here buffer opened
    have one := weight_le_tally OfficePc.waits state.offices i
    rw [here] at one ⊢
    have token : state.shared.mainSem ≠ 0 := Nat.ne_of_gt (Nat.lt_of_lt_of_le one enough)
    simp [officeStep, token]
  · intro labels' events' state' ran' i here
    exact closed_waits protocol closed ran' i here

end Drain

/-- The second office waits while the first shuts the server down; main sets
`close_thread` and makes both final posts. -/
def shutdownWhileWaiting : List (Label 2) :=
  setUp 2 ++ officeTurns secondOffice 1 ++ arrival adminShutdown ++ officeTurns firstOffice 18 ++
    List.replicate 8 (.main none)

theorem shutdownWhileWaiting_none_stranded :
    ∃ events state,
      execute sessionHash sessionRand ultraTopSecret shutdownWhileWaiting =
        some (events, state) ∧
      state.offices secondOffice = .waitMain ∧
      state.shared.closeThread = true ∧
      tally OfficePc.waits state.offices ≤ state.shared.mainSem ∧
      (∀ i, state.offices i = .waitMain → ∀ buffer opened,
        (officeStep sessionHash state.shared i buffer opened (state.offices i)).isSome) ∧
      ∀ labels' events' state',
        run (step sessionHash ultraTopSecret) state labels' = some (events', state') →
        ∀ i, state'.offices i = .waitMain → state.offices i = .waitMain :=
  ⟨_, _, rfl, rfl, execute_none_stranded sessionHash sessionRand ultraTopSecret
    shutdownWhileWaiting rfl rfl⟩

end Sope.Server
