import Sope.Server.Queue

set_option autoImplicit false

/- What happens to requests when the server shuts down. Main sets `close_thread` once
the queue is empty, but it then still reads in the same round of its loop, and no
office takes a request any more. -/
namespace Sope.Server

open Machine Banking

/-- Behind the loop of main. -/
def MainPc.leftLoop : MainPc → Bool
  | .finalPost _ | .join _ | .exited => true
  | _ => false

/-- Main holds a request that it has read and not pushed. -/
def MainPc.carries : MainPc → Bool
  | .lock _ | .push _ => true
  | _ => false

theorem leftLoop_cases {pc : MainPc} (left : pc.leftLoop = true) :
    pc.carries = false ∧ pc.closeKnown = some true := by
  cases pc <;> first | exact ⟨rfl, rfl⟩ | cases left

section Shutdown

variable {n : Nat}

/-- A request arrives at the `read` that follows `close_thread = true`. -/
def ReadsLate (event : StepEvent n) : Prop :=
  event.before.shared.closeThread = true ∧ event.before.main = .read ∧
    ∃ request, event.input = .main (some request)

variable {generateSha256Hash : CString → CString → CString} {adminPassword : CString}
  {rand : Rand} {state state' : State n} {action : Action}

/-- Once `close_thread` is set, the queue stays empty if nothing is read late, and
keeps what is. -/
structure Closing (past : List (StepEvent n)) (state : State n) : Prop where
  early : (∀ event ∈ past, ¬ ReadsLate event) → state.shared.closeThread = true →
    state.main.carries = false ∧ state.shared.requests = []
  late : (∃ event ∈ past, ReadsLate event) → state.shared.closeThread = true ∧
    (state.main.carries = true ∨ state.shared.requests ≠ [])

theorem initialState_closing : Closing [] (initialState n rand) :=
  ⟨fun _ closed => absurd closed Bool.false_ne_true,
    fun ⟨_, member, _⟩ => absurd member List.not_mem_nil⟩

/-- An office sees to the queue only while `close_thread` is clear. -/
theorem Protocol.requests_kept (protocol : Protocol state)
    (closed : state.shared.closeThread = true) {shared' : Shared n} {i : Fin n} {pc' : OfficePc}
    (move : OfficeMove generateSha256Hash state.shared i (state.offices i) shared' pc' action) :
    shared'.requests = state.shared.requests := by
  rcases move.queue with ⟨same, -⟩ | ⟨request, popping, -⟩
  · exact same
  · have none := protocol.uncommitted closed i
    rw [popping] at none
    cases none

theorem Closing.office {past : List (StepEvent n)} (closing : Closing past state)
    (protocol : Protocol state) {shared' : Shared n} {i : Fin n} {pc' : OfficePc}
    {buffer : TlvReply} {opened : Bool}
    (move : OfficeMove generateSha256Hash state.shared i (state.offices i) shared' pc' action)
    (next : state' = { state with
      shared := shared', offices := Function.update state.offices i pc' }) :
    Closing (past ++ [⟨state, .office i buffer opened, action, state'⟩]) state' := by
  have close' : state'.shared.closeThread = state.shared.closeThread := by
    rw [next]
    exact move.close
  have main' : state'.main = state.main := by rw [next]
  have requests' (closed : state.shared.closeThread = true) :
      state'.shared.requests = state.shared.requests := by
    rw [next]
    exact protocol.requests_kept closed move
  refine ⟨?_, ?_⟩
  · intro none closed
    rw [close'] at closed
    rw [main', requests' closed]
    exact closing.early (fun event member => none event (List.mem_append_left _ member)) closed
  · rintro ⟨event, member, late⟩
    rcases List.mem_append.mp member with earlier | now
    · obtain ⟨closed, kept⟩ := closing.late ⟨event, earlier, late⟩
      rw [close', main', requests' closed]
      exact ⟨closed, kept⟩
    · obtain rfl := List.mem_singleton.mp now
      obtain ⟨-, -, request, input⟩ := late
      cases input

/-- While main holds no request and `close_thread` is set, only a late `read` gives it
one, and only `push` adds to the queue. -/
theorem MainMove.closing {received : Option TlvRequest}
    (move : MainMove generateSha256Hash adminPassword state received state' action)
    (closed : state.shared.closeThread = true) :
    state'.shared.closeThread = true ∧
      ((state.main = .read ∧ ∃ request, received = some request ∧ state'.main = .lock request ∧
          state'.shared.requests = state.shared.requests) ∨
        (state'.main.carries = state.main.carries ∧
          state'.shared.requests = state.shared.requests) ∨
        (state.main.carries = true ∧ state'.shared.requests ≠ [])) := by
  cases move with
  | setClose here => exact ⟨rfl, Or.inr (Or.inl ⟨by rw [here]; rfl, rfl⟩)⟩
  | receive here request got => exact ⟨closed, Or.inl ⟨here, request, got, rfl, rfl⟩⟩
  | push request here =>
      exact ⟨closed, Or.inr (Or.inr ⟨by rw [here]; rfl, by simp⟩)⟩
  | _ => exact ⟨closed, Or.inr (Or.inl ⟨by simp only [*, MainPc.carries], rfl⟩)⟩

theorem Closing.main {past : List (StepEvent n)} (closing : Closing past state)
    (protocol : Protocol state) {received : Option TlvRequest}
    (move : MainMove generateSha256Hash adminPassword state received state' action) :
    Closing (past ++ [⟨state, .main received, action, state'⟩]) state' := by
  refine ⟨?_, ?_⟩
  · intro none closed'
    have notNow := none _ (List.mem_append_right _ (List.mem_singleton.mpr rfl))
    by_cases closed : state.shared.closeThread = true
    · obtain ⟨empty, drained⟩ :=
        closing.early (fun event member => none event (List.mem_append_left _ member)) closed
      rcases (move.closing closed).2 with ⟨here, request, got, -⟩ | ⟨carries, same⟩ | ⟨carries, -⟩
      · exact absurd ⟨closed, here, request, by rw [got]⟩ notNow
      · exact ⟨carries.trans empty, same.trans drained⟩
      · rw [empty] at carries
        cases carries
    · cases move with
      | setClose here => exact ⟨rfl, protocol.drained here⟩
      | _ => exact absurd closed' closed
  · rintro ⟨event, member, late⟩
    rcases List.mem_append.mp member with earlier | now
    · obtain ⟨closed, kept⟩ := closing.late ⟨event, earlier, late⟩
      obtain ⟨closed', moved⟩ := move.closing closed
      refine ⟨closed', ?_⟩
      rcases moved with ⟨-, request, -, there, -⟩ | ⟨carries, same⟩ | ⟨-, nonempty⟩
      · exact Or.inl (by rw [there]; rfl)
      · rw [carries, same]
        exact kept
      · exact Or.inr nonempty
    · obtain rfl := List.mem_singleton.mp now
      obtain ⟨closed, here, request, input⟩ := late
      obtain ⟨closed', moved⟩ := move.closing closed
      refine ⟨closed', Or.inl ?_⟩
      cases move with
      | receive => rfl
      | receiveNone here' got =>
          rw [got] at input
          cases input
      | _ => simp_all

theorem execute_closing {labels : List (Label n)} {events : List (StepEvent n)}
    (ran : execute generateSha256Hash rand adminPassword labels = some (events, state)) :
    Closing events state := by
  apply run_induction ran Closing initialState_closing
  intro past state label action state' _ reached closing fired
  have protocol := execute_protocol reached
  rcases step_move fired with ⟨received, rfl, move⟩ |
    ⟨i, buffer, opened, shared', pc', rfl, move, next⟩
  · exact closing.main protocol move
  · exact closing.office protocol move next

/-- When all offices have returned, none has a request in hand. -/
theorem inHand_of_returned (returned : ∀ i, (state.offices i).hasReturned = true) :
    state.inHand = none := by
  unfold State.inHand State.current
  split
  · rename_i i _
    have back := returned i
    cases here : state.offices i with
    | returned => rfl
    | _ => rw [here] at back; cases back
  · rfl

/-- When main has left its loop and all offices have returned, every pushed request has
been handled once, and in order, if and only if none was read after `close_thread`
was set. -/
theorem execute_drained_iff (generateSha256Hash : CString → CString → CString) (rand : Rand)
    (adminPassword : CString) (labels : List (Label n)) {events : List (StepEvent n)}
    (ran : execute generateSha256Hash rand adminPassword labels = some (events, state))
    (left : state.main.leftLoop = true) (returned : ∀ i, (state.offices i).hasReturned = true) :
    (state.shared.requests = [] ∧ poppedRequests events = pushedRequests events ∧
        (handledRequests events).map (·.1) = pushedRequests events) ↔
      ∀ event ∈ events, ¬ ReadsLate event := by
  have ordered := execute_ordered ran
  have closing := execute_closing ran
  have popped := ordered.popped
  have handled := ordered.handled
  rw [inHand_of_returned returned, Option.toList_none, List.append_nil] at handled
  constructor
  · rintro ⟨drained, -, -⟩ event member late
    obtain ⟨-, carries | nonempty⟩ := closing.late ⟨event, member, late⟩
    · rw [(leftLoop_cases left).1] at carries
      cases carries
    · exact nonempty drained
  · intro none
    have closed := (execute_protocol ran).known true (leftLoop_cases left).2
    obtain ⟨-, drained⟩ := closing.early none closed
    rw [drained, List.append_nil] at popped
    exact ⟨drained, popped, handled.trans popped⟩

end Shutdown

/-- `user 0 ultra_top_secret 10 3 ""`. -/
def adminShutdown : TlvRequest :=
  (sessionCall .shutdown adminAccountId ultraTopSecret ⟨0, 0, []⟩).request

/-- The only office shuts the server down and finds its queue empty; main sets
`close_thread`, reads a balance request and pushes it; the office returns. -/
def lateBalance : List (Label 1) :=
  setUp 1 ++ arrival adminShutdown ++ officeTurns onlyOffice 18 ++
    List.replicate 9 (.main (some balanceOf1)) ++ officeTurns onlyOffice 1 ++
    List.replicate 5 (.main none)

theorem lateBalance_lost :
    ∃ events state,
      execute sessionHash sessionRand ultraTopSecret lateBalance = some (events, state) ∧
      state.main.leftLoop = true ∧ (∀ i, (state.offices i).hasReturned = true) ∧
      state.shared.requests = [balanceOf1] ∧
      pushedRequests events = [adminShutdown, balanceOf1] ∧
      (handledRequests events).map (·.1) = [adminShutdown] :=
  ⟨_, _, rfl, rfl, by decide, rfl, rfl, rfl⟩

/-- The equivalence at that run, where both sides fail. -/
theorem lateBalance_drained_iff :
    ∃ events state,
      execute sessionHash sessionRand ultraTopSecret lateBalance = some (events, state) ∧
      ((state.shared.requests = [] ∧ poppedRequests events = pushedRequests events ∧
          (handledRequests events).map (·.1) = pushedRequests events) ↔
        ∀ event ∈ events, ¬ ReadsLate event) :=
  ⟨_, _, rfl, execute_drained_iff sessionHash sessionRand ultraTopSecret lateBalance rfl rfl
    (by decide)⟩

end Sope.Server
