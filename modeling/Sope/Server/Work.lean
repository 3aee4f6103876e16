import Sope.Server.Semaphores
import Sope.Server.Drain

set_option autoImplicit false

/- How long the server can be busy. A request is worth a fixed amount of work, each
statement of an office uses some of it up, and where no work is left every request has
been handled. -/
namespace Sope.Server

open Machine Banking Tally

/-- The statements that an office has before it until it looks at the queue again or
comes to rest in front of the next `requests.pop`. -/
def OfficePc.work : OfficePc → Nat
  | .returned => 0
  | .pop _ => 0
  | .front => 1
  | .lock => 2
  | .testClose => 3
  | .waitMain => 4
  | .loopTest => 5
  | .storeUncount _ => 6
  | .uncountActive => 7
  | .prepareShutdown _ _ => 8
  | .unlock _ _ => 9
  | .openFifo _ _ => 10
  | .postTarget _ _ _ => 11
  | .postAccount _ _ _ => 12
  | .build _ _ => 13
  | .waitTarget _ => 14
  | .waitAccount _ => 15
  | .storeCount _ _ => 16
  | .countActive _ => 17
  | .notStarted => 18

/-- What a request in the queue is worth. -/
def requestWork : Nat := 18

theorem work_le (pc : OfficePc) : pc.work ≤ requestWork := by
  cases pc <;> simp [OfficePc.work, requestWork]

/-- The work that is left to the offices. -/
def State.work {n : Nat} (state : State n) : Nat :=
  requestWork * state.shared.requests.length + tally OfficePc.work state.offices

theorem State.work_le {n : Nat} (state : State n) :
    state.work ≤ requestWork * (state.shared.requests.length + n) := by
  have most : tally OfficePc.work state.offices ≤ tally (fun _ => requestWork) state.offices :=
    tally_mono Server.work_le state.offices
  have all : tally (fun _ => requestWork) state.offices = requestWork * n := by
    simp [tally, Nat.mul_comm]
  rw [State.work, Nat.mul_add]
  omega

def isOffice {n : Nat} : Label n → Bool
  | .main _ => false
  | .office _ _ _ => true

section Work

variable {generateSha256Hash : CString → CString → CString} {n : Nat} {rand : Rand}
  {adminPassword : CString} {state state' : State n} {action : Action}

/-- Every statement of an office uses up work. -/
theorem OfficeMove.work {shared shared' : Shared n} {i : Fin n} {pc pc' : OfficePc}
    (move : OfficeMove generateSha256Hash shared i pc shared' pc' action)
    (nonempty : ∀ request, pc = .pop request → shared.requests ≠ []) :
    requestWork * shared'.requests.length + pc'.work <
      requestWork * shared.requests.length + pc.work := by
  cases move with
  | pop request =>
      obtain ⟨first, rest, queue⟩ := List.exists_cons_of_ne_nil (nonempty request rfl)
      simp only [queue, List.tail_cons, List.length_cons, OfficePc.work, requestWork]
      omega
  | _ => simp only [OfficePc.work, Shared.withAccounts]; omega

theorem Protocol.pops_nonempty (protocol : Protocol state) {i : Fin n} (request : TlvRequest)
    (popping : state.offices i = .pop request) : state.shared.requests ≠ [] := by
  have running : state.shared.closeThread = false := by
    by_contra closed
    have none := protocol.uncommitted (by simpa using closed) i
    rw [popping] at none
    cases none
  exact protocol.nonempty running (by rw [popping]; exact Nat.one_pos)

theorem Protocol.work_office (protocol : Protocol state) {shared' : Shared n} {i : Fin n}
    {pc' : OfficePc}
    (move : OfficeMove generateSha256Hash state.shared i (state.offices i) shared' pc' action) :
    State.work { state with
      shared := shared', offices := Function.update state.offices i pc' } < state.work := by
  have less := move.work fun request popping => protocol.pops_nonempty request popping
  have update := tally_update OfficePc.work state.offices i pc'
  simp only [State.work]
  omega

/-- Main adds the worth of a request with each push, and nothing else. -/
theorem MainMove.work {received : Option TlvRequest} (protocol : Protocol state)
    (move : MainMove generateSha256Hash adminPassword state received state' action) :
    state'.work ≤ state.work + requestWork * action.pushes.toList.length := by
  cases move with
  | push request here =>
      simp only [State.work, Action.pushes, Option.toList_some, List.length_singleton,
        List.length_append, Nat.mul_add]
      omega
  | spawn started here inside =>
      have fresh := protocol.spawning started here ⟨started, inside⟩ (Nat.le_refl _)
      have update := tally_update OfficePc.work state.offices ⟨started, inside⟩ .loopTest
      rw [fresh] at update
      simp only [OfficePc.work] at update
      simp only [State.work]
      omega
  | _ => exact Nat.le_add_right _ _

/-- In every run the offices together take at most eighteen statements for each request
and each office: they never spin. -/
theorem execute_work_bounded (generateSha256Hash : CString → CString → CString) (rand : Rand)
    (adminPassword : CString) (labels : List (Label n)) {events : List (StepEvent n)}
    (ran : execute generateSha256Hash rand adminPassword labels = some (events, state)) :
    (labels.filter isOffice).length + state.work ≤
      requestWork * (pushedRequests events).length + requestWork * n := by
  have inputs := run_inputs ran
  rw [← inputs]
  refine run_induction ran (fun past state => ((past.map (·.input)).filter isOffice).length +
    state.work ≤ requestWork * (pushedRequests past).length + requestWork * n) ?_ ?_
  · have all : tally OfficePc.work (initialState n rand).offices = requestWork * n := by
      simp [tally, initialState, OfficePc.work, requestWork, Nat.mul_comm]
    simp only [State.work, all]
    simp [initialState, pushedRequests, observed]
  · intro past state label action state' _ reached bounded fired
    have protocol := execute_protocol reached
    rw [pushedRequests_snoc, List.map_append, List.filter_append, List.length_append,
      List.length_append]
    rcases step_move fired with ⟨received, rfl, move⟩ |
      ⟨i, buffer, opened, shared', pc', rfl, move, rfl⟩
    · have grown := move.work protocol
      simp only [List.map_cons, List.map_nil, isOffice, List.filter_cons, List.filter_nil,
        Bool.false_eq_true, ↓reduceIte, List.length_nil, Nat.mul_add]
      omega
    · have less := protocol.work_office move
      simp only [List.map_cons, List.map_nil, isOffice, List.filter_cons, List.filter_nil,
        ↓reduceIte, List.length_singleton, Nat.mul_add]
      omega

end Work

/-- The only office answers a balance request and goes back to wait. -/
def balanceAnswered : List (Label 1) :=
  setUp 1 ++ arrival balanceOf1 ++ officeTurns onlyOffice 19

theorem balanceAnswered_work_bounded :
    ∃ events state,
      execute sessionHash sessionRand ultraTopSecret balanceAnswered = some (events, state) ∧
      (balanceAnswered.filter isOffice).length + state.work ≤
        requestWork * (pushedRequests events).length + requestWork * 1 :=
  ⟨_, _, rfl, execute_work_bounded sessionHash sessionRand ultraTopSecret balanceAnswered rfl⟩

section Work

variable {generateSha256Hash : CString → CString → CString} {n : Nat} {rand : Rand}
  {adminPassword : CString} {state state' : State n} {action : Action}

/-- The requests that the server can be given without blocking for ever: their ids lie in
the table, and no transfer names its own account as target. -/
def Served (request : TlvRequest) : Prop :=
  request.InRange ∧ (request.type = .transfer →
    request.value.header.accountId ≠ request.value.transfer.accountId)

instance (request : TlvRequest) : Decidable (Served request) :=
  inferInstanceAs (Decidable (_ ∧ _))

/-- Where the offices are, beyond what `Protocol` says: those that have not started are yet
to be created, those that have returned saw `close_thread`, and main joins in order. -/
structure Staffed (state : State n) : Prop where
  started : ∀ i, state.offices i = .notStarted → ∃ started, state.main = .spawn started ∧
    started ≤ i.val
  closed : ∀ i, state.offices i = .returned → state.shared.closeThread = true
  joined : ∀ joined, state.main = .join joined → ∀ i : Fin n, i.val < joined →
    state.offices i = .returned
  exited : state.main = .exited → ∀ i, state.offices i = .returned

theorem initialState_staffed : Staffed (initialState n rand) where
  started := fun i _ => ⟨0, rfl, Nat.zero_le i.val⟩
  closed := fun _ here => (nomatch here)
  joined := fun _ here => (nomatch here)
  exited := fun here => (nomatch here)

/-- An office never starts over, and returns only with `close_thread` set. -/
theorem OfficeMove.staffed {shared shared' : Shared n} {i : Fin n} {pc pc' : OfficePc}
    (move : OfficeMove generateSha256Hash shared i pc shared' pc' action) :
    pc ≠ .returned ∧ pc' ≠ .notStarted ∧ (pc' = .returned → shared.closeThread = true) := by
  cases move with
  | leave closed | breakOff closed =>
      exact ⟨OfficePc.noConfusion, OfficePc.noConfusion, fun _ => closed⟩
  | _ =>
      exact ⟨OfficePc.noConfusion, OfficePc.noConfusion, fun here => OfficePc.noConfusion here⟩

theorem Staffed.office (staffed : Staffed state) {shared' : Shared n} {i : Fin n} {pc' : OfficePc}
    (move : OfficeMove generateSha256Hash state.shared i (state.offices i) shared' pc' action) :
    Staffed { state with shared := shared', offices := Function.update state.offices i pc' } := by
  obtain ⟨working, started, closed⟩ := move.staffed
  have keeps (j : Fin n) (back : state.offices j = .returned) :
      Function.update state.offices i pc' j = .returned := by
    have apart : j ≠ i := by
      rintro rfl
      exact working back
    rw [Function.update_of_ne apart, back]
  refine ⟨?_, ?_, fun joined here j early => keeps j (staffed.joined joined here j early),
    fun here j => keeps j (staffed.exited here j)⟩
  · intro j here
    dsimp only at here
    by_cases moved : j = i
    · subst moved
      rw [Function.update_self] at here
      exact absurd here started
    · rw [Function.update_of_ne moved] at here
      exact staffed.started j here
  · intro j here
    dsimp only at here ⊢
    rw [move.close]
    by_cases moved : j = i
    · subst moved
      rw [Function.update_self] at here
      exact closed here
    · rw [Function.update_of_ne moved] at here
      exact staffed.closed j here

theorem hasReturned_iff {pc : OfficePc} : pc.hasReturned = true ↔ pc = .returned := by
  cases pc <;> simp [OfficePc.hasReturned]

/-- Main creates the offices before anything else, and joins one after the other. -/
theorem Staffed.main (staffed : Staffed state) (protocol : Protocol state)
    {received : Option TlvRequest}
    (move : MainMove generateSha256Hash adminPassword state received state' action) :
    Staffed state' where
  started := by
    intro i here'
    have same := move.office protocol.spawning i
    have here : state.offices i = .notStarted := by
      rcases same with same | ⟨before, -⟩
      · exact same ▸ here'
      · exact before
    obtain ⟨started, spawning, early⟩ := staffed.started i here
    cases move with
    | spawn started' there inside =>
        rw [spawning] at there
        cases there
        refine ⟨started + 1, rfl, Nat.lt_of_le_of_ne early fun created => ?_⟩
        have created : i = ⟨started, inside⟩ := Fin.ext created.symm
        rw [created] at here'
        dsimp only at here'
        rw [Function.update_self] at here'
        cases here'
    | spawned started' there all =>
        rw [spawning] at there
        cases there
        exact absurd (Nat.lt_of_le_of_lt early i.isLt) all
    | _ =>
        rw [spawning] at *
        contradiction
  closed := by
    intro i here'
    have here : state.offices i = .returned := by
      rcases move.office protocol.spawning i with same | ⟨-, after⟩
      · exact same ▸ here'
      · rw [after] at here'
        cases here'
    have closed := staffed.closed i here
    cases move with
    | setClose => rfl
    | _ => exact closed
  joined := by
    intro joined here' i early
    cases move with
    | posted posted here all =>
        cases here'
        exact absurd early (Nat.not_lt_zero _)
    | join joined' here inside returned =>
        cases here'
        rcases Nat.lt_succ_iff_lt_or_eq.mp early with before | last
        · exact staffed.joined joined' here i before
        · rw [hasReturned_iff] at returned
          rw [← returned]
          exact congrArg state.offices (Fin.ext last)
    | _ => cases here'
  exited := by
    intro here' i
    cases move with
    | joined joined' here all =>
        exact staffed.joined joined' here i (Nat.lt_of_lt_of_le i.isLt (Nat.le_of_not_lt all))
    | _ => cases here'

theorem execute_staffed {labels : List (Label n)} {events : List (StepEvent n)}
    (ran : execute generateSha256Hash rand adminPassword labels = some (events, state)) :
    Staffed state := by
  refine run_induction ran (fun _ state => Staffed state) initialState_staffed ?_
  intro past state label action state' _ reached staffed fired
  rcases step_move fired with ⟨received, -, move⟩ | ⟨i, buffer, opened, shared', pc', -, move, rfl⟩
  · exact staffed.main (execute_protocol reached) move
  · exact staffed.office move

end Work

end Sope.Server
