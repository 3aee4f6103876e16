import Sope.Server.Protocol

set_option autoImplicit false

/- What has been pushed, popped and handled so far, under any interleaving. -/
namespace Sope.Server

open Machine Banking

def Action.pushes : Action → Option TlvRequest
  | .pushed request => some request
  | _ => none

def Action.pops : Action → Option TlvRequest
  | .popped request => some request
  | _ => none

def Action.handles : Action → Option (TlvRequest × TlvReply)
  | .handled request reply => some (request, reply)
  | _ => none

theorem Action.pushes_eq_none {action : Action} (none : ∀ request, action ≠ .pushed request) :
    action.pushes = Option.none := by
  cases action with
  | pushed request => exact absurd rfl (none request)
  | _ => rfl

theorem Action.pops_eq_none {action : Action} (none : ∀ request, action ≠ .popped request) :
    action.pops = Option.none := by
  cases action with
  | popped request => exact absurd rfl (none request)
  | _ => rfl

theorem Action.handles_eq_none {action : Action}
    (none : ∀ request reply, action ≠ .handled request reply) : action.handles = Option.none := by
  cases action with
  | handled request reply => exact absurd rfl (none request reply)
  | _ => rfl

section Histories

variable {n : Nat}

/-- What a run shows, oldest first. -/
def observed {α : Type} (shows : Action → Option α) (past : List (StepEvent n)) : List α :=
  past.filterMap fun event => shows event.output

def pushedRequests (past : List (StepEvent n)) : List TlvRequest :=
  observed Action.pushes past

/-- The requests taken off the queue, in the order in which the mutex was held. -/
def poppedRequests (past : List (StepEvent n)) : List TlvRequest :=
  observed Action.pops past

/-- The requests that `build_tlv_reply` was called with, and what it made of them. -/
def handledRequests (past : List (StepEvent n)) : List (TlvRequest × TlvReply) :=
  observed Action.handles past

theorem observed_snoc {α : Type} (shows : Action → Option α) (past : List (StepEvent n))
    (event : StepEvent n) :
    observed shows (past ++ [event]) = observed shows past ++ (shows event.output).toList := by
  simp only [observed, List.filterMap_append, List.filterMap_cons, List.filterMap_nil]
  cases shows event.output <;> rfl

theorem pushedRequests_snoc (past : List (StepEvent n)) (event : StepEvent n) :
    pushedRequests (past ++ [event]) = pushedRequests past ++ event.output.pushes.toList :=
  observed_snoc ..

theorem poppedRequests_snoc (past : List (StepEvent n)) (event : StepEvent n) :
    poppedRequests (past ++ [event]) = poppedRequests past ++ event.output.pops.toList :=
  observed_snoc ..

theorem handledRequests_snoc (past : List (StepEvent n)) (event : StepEvent n) :
    handledRequests (past ++ [event]) = handledRequests past ++ event.output.handles.toList :=
  observed_snoc ..

/-- The request that the office has popped and not handled yet. -/
def OfficePc.inHand : OfficePc → Option TlvRequest
  | .countActive request | .storeCount request _ | .waitAccount request | .waitTarget request | .build request _ =>
      some request
  | _ => none

/-- The request in the hand of the office that owns the mutex. -/
def State.inHand (state : State n) : Option TlvRequest := state.current.inHand

theorem inHand_of_outside {pc : OfficePc} (outside : pc.inside = false) : pc.inHand = none := by
  cases pc <;> first | rfl | cases outside

variable {generateSha256Hash : CString → CString → CString} {adminPassword : CString}
  {rand : Rand} {state state' : State n} {action : Action}

/-- A request enters an office's hand when it is popped and leaves it when it is
handled. -/
theorem OfficeMove.inHand {shared shared' : Shared n} {i : Fin n} {pc pc' : OfficePc}
    (move : OfficeMove generateSha256Hash shared i pc shared' pc' action) :
    (action = .silent ∧ pc'.inHand = pc.inHand) ∨
      (∃ request, action = .popped request ∧ pc.inside = true ∧ pc'.inside = true ∧
        pc.inHand = none ∧ pc'.inHand = some request) ∨
      ∃ request reply, action = .handled request reply ∧ pc.inside = true ∧ pc'.inside = true ∧
        pc.inHand = some request ∧ pc'.inHand = none := by
  cases move with
  | pop request => exact Or.inr (Or.inl ⟨request, rfl, rfl, rfl, rfl, rfl⟩)
  | build request targetSem buffer bank reply =>
      exact Or.inr (Or.inr ⟨request, reply, rfl, rfl, rfl, rfl, rfl⟩)
  | _ => exact Or.inl ⟨rfl, rfl⟩

/-- The same for the owner of the mutex. -/
theorem Protocol.inHand_office (protocol : Protocol state) {shared' : Shared n} {i : Fin n}
    {pc' : OfficePc}
    (move : OfficeMove generateSha256Hash state.shared i (state.offices i) shared' pc' action)
    (next : state' = { state with
      shared := shared', offices := Function.update state.offices i pc' }) :
    (action = .silent ∧ state'.inHand = state.inHand) ∨
      (∃ request, action = .popped request ∧ state.inHand = none ∧
        state'.inHand = some request) ∨
      ∃ request reply, action = .handled request reply ∧ state.inHand = some request ∧
        state'.inHand = none := by
  simp only [State.inHand]
  rcases protocol.current_office move next with ⟨outside, -, same⟩ | ⟨before, after⟩
  · rw [same]
    rcases move.inHand with ⟨silent, -⟩ | ⟨_, -, inside, -⟩ | ⟨_, _, -, inside, -⟩
    · exact Or.inl ⟨silent, rfl⟩
    all_goals
      rw [outside] at inside
      cases inside
  · have held : state.current.inHand = (state.offices i).inHand := by
      rcases before with same | ⟨free, outside⟩
      · rw [same]
      · rw [free, inHand_of_outside outside]
        rfl
    have held' : state'.current.inHand = pc'.inHand := by
      rcases after with same | ⟨free, outside⟩
      · rw [same]
      · rw [free, inHand_of_outside outside]
        rfl
    rw [held, held']
    rcases move.inHand with silent | ⟨request, popped, -, -, empty, holds⟩ |
      ⟨request, reply, handled, -, -, holds, empty⟩
    · exact Or.inl silent
    · exact Or.inr (Or.inl ⟨request, popped, empty, holds⟩)
    · exact Or.inr (Or.inr ⟨request, reply, handled, holds, empty⟩)

/-- The order of requests: popped ones are the oldest of those pushed, and all but
the one in hand are handled. -/
structure Ordered (past : List (StepEvent n)) (state : State n) : Prop where
  front : ∀ i request, state.offices i = .pop request →
    state.shared.requests.head? = some request
  popped : poppedRequests past ++ state.shared.requests = pushedRequests past
  handled : (handledRequests past).map (·.1) ++ state.inHand.toList = poppedRequests past

theorem initialState_ordered : Ordered [] (initialState n rand) where
  front := fun _ _ here => OfficePc.noConfusion here
  popped := rfl
  handled := rfl

theorem Ordered.main {past : List (StepEvent n)} (ordered : Ordered past state)
    (protocol : Protocol state) {received : Option TlvRequest} {label : Label n}
    (move : MainMove generateSha256Hash adminPassword state received state' action) :
    Ordered (past ++ [⟨state, label, action, state'⟩]) state' := by
  have noPop := Action.pops_eq_none move.not_popped
  have noHandle := Action.handles_eq_none move.not_handled
  have popping (i : Fin n) (request : TlvRequest) (here : state'.offices i = .pop request) :
      state.shared.requests.head? = some request := by
    rcases move.office protocol.spawning i with same | ⟨-, started⟩
    · exact ordered.front i request (same ▸ here)
    · rw [started] at here
      cases here
  refine ⟨?_, ?_, ?_⟩
  · intro i request here
    have first := popping i request here
    rcases move.queue with ⟨same, -⟩ | ⟨last, -, -, -, grown⟩
    · rw [same, first]
    · rw [grown, List.head?_append, first]
      rfl
  · rw [poppedRequests_snoc, pushedRequests_snoc, noPop, Option.toList_none,
      List.append_nil]
    rcases move.queue with ⟨same, none⟩ | ⟨last, -, -, pushed, grown⟩
    · rw [same, Action.pushes_eq_none none, Option.toList_none, List.append_nil]
      exact ordered.popped
    · rw [grown, pushed, ← List.append_assoc]
      exact congrArg (· ++ [last]) ordered.popped
  · rw [poppedRequests_snoc, handledRequests_snoc, noPop, noHandle,
      Option.toList_none, Option.toList_none, List.append_nil, List.append_nil,
      State.inHand, protocol.current_main move OfficePc.inHand rfl]
    exact ordered.handled

theorem Ordered.office {past : List (StepEvent n)} (ordered : Ordered past state)
    (protocol : Protocol state) {shared' : Shared n} {i : Fin n} {pc' : OfficePc}
    {label : Label n}
    (move : OfficeMove generateSha256Hash state.shared i (state.offices i) shared' pc' action)
    (next : state' = { state with
      shared := shared', offices := Function.update state.offices i pc' }) :
    Ordered (past ++ [⟨state, label, action, state'⟩]) state' := by
  have requests' : state'.shared.requests = shared'.requests := by rw [next]
  have noPush := Action.pushes_eq_none move.not_pushed
  refine ⟨?_, ?_, ?_⟩
  · intro j request here
    rw [requests']
    by_cases moved : j = i
    · subst moved
      have here : pc' = .pop request := by
        rw [next] at here
        exact (Function.update_self ..).symm.trans here
      rcases move.queue with ⟨same, -, looked⟩ | ⟨_, -, there, -⟩
      · rw [same]
        exact looked request here
      · rw [here] at there
        cases there
    · have here : state.offices j = .pop request := by
        rw [next] at here
        exact (Function.update_of_ne moved ..).symm.trans here
      have first := ordered.front j request here
      rcases move.queue with ⟨same, -⟩ | ⟨request', popping, -⟩
      · rw [same]
        exact first
      · -- two offices would be popping at once
        have inside : state.inside (.office j) := by simp only [State.inside, here, OfficePc.inside]
        have inside' : state.inside (.office i) := by
          simp only [State.inside, popping, OfficePc.inside]
        cases protocol.lock.unique inside inside'
        exact absurd rfl moved
  · rw [poppedRequests_snoc, pushedRequests_snoc, noPush, Option.toList_none,
      List.append_nil, requests']
    rcases move.queue with ⟨same, notPopped, -⟩ | ⟨request, popping, -, popped, rest⟩
    · rw [same, Action.pops_eq_none notPopped, Option.toList_none, List.append_nil]
      exact ordered.popped
    · have first := ordered.front i request popping
      have split : state.shared.requests = request :: state.shared.requests.tail :=
        List.eq_cons_of_mem_head? first
      rw [rest, popped, List.append_assoc]
      exact (congrArg (poppedRequests past ++ ·) split.symm).trans ordered.popped
  · rw [poppedRequests_snoc, handledRequests_snoc, List.map_append]
    rcases protocol.inHand_office move next with ⟨silent, same⟩ | ⟨request, popped, empty, holds⟩ |
      ⟨request, reply, handled, holds, empty⟩
    · rw [silent, same]
      simpa [Action.pops, Action.handles] using ordered.handled
    · have before := ordered.handled
      rw [empty, Option.toList_none, List.append_nil] at before
      rw [popped, holds]
      simpa [Action.pops, Action.handles] using before
    · have before := ordered.handled
      rw [holds] at before
      rw [handled, empty]
      simpa [Action.pops, Action.handles] using before

theorem execute_ordered {labels : List (Label n)} {events : List (StepEvent n)}
    (ran : execute generateSha256Hash rand adminPassword labels = some (events, state)) :
    Ordered events state := by
  apply run_induction ran Ordered initialState_ordered
  intro past state label action state' _ reached ordered fired
  have protocol := execute_protocol reached
  rcases step_move fired with ⟨received, -, move⟩ | ⟨i, buffer, opened, shared', pc', -, move, next⟩
  · exact ordered.main protocol move
  · exact ordered.office protocol move next

/-- No office reads the front of an empty queue, and requests are popped in the order
in which main pushed them, each once. -/
theorem execute_queue_safe (generateSha256Hash : CString → CString → CString) (rand : Rand)
    (adminPassword : CString) (labels : List (Label n)) {events : List (StepEvent n)}
    (ran : execute generateSha256Hash rand adminPassword labels = some (events, state)) :
    (∀ i, state.offices i = .front → state.shared.requests ≠ []) ∧
      poppedRequests events <+: pushedRequests events := by
  have ordered := execute_ordered ran
  exact ⟨fun i front => (execute_protocol ran).front front,
    ⟨state.shared.requests, ordered.popped⟩⟩

end Histories

/- Schedules for a server whose offices are all created before anything else. -/

def setUp (n : Nat) : List (Label n) := List.replicate (n + 3) (.main none)

/-- One round of main's loop, in which it reads `request` and pushes it. -/
def arrival {n : Nat} (request : TlvRequest) : List (Label n) :=
  List.replicate 7 (.main (some request))

def officeTurns {n : Nat} (i : Fin n) (turns : Nat) : List (Label n) :=
  List.replicate turns (.office i sessionBuffer true)

def onlyOffice : Fin 1 := 0

def firstOffice : Fin 2 := 0

def secondOffice : Fin 2 := 1

/-- `user 1 top_secret 10 1 ""`. -/
def balanceOf1 : TlvRequest := (sessionCall .balance 1 topSecret ⟨0, 0, []⟩).request

/-- The second of two offices stands in front of `requests.front`. -/
theorem balanceOf1_queue_safe :
    ∃ (events : List (StepEvent 2)) (state : State 2),
      execute sessionHash sessionRand ultraTopSecret
        (setUp 2 ++ arrival balanceOf1 ++ officeTurns secondOffice 4) = some (events, state) ∧
      (∀ i, state.offices i = .front → state.shared.requests ≠ []) ∧
      poppedRequests events <+: pushedRequests events :=
  ⟨_, _, rfl, execute_queue_safe sessionHash sessionRand ultraTopSecret
    (setUp 2 ++ arrival balanceOf1 ++ officeTurns secondOffice 4) rfl⟩

end Sope.Server
