import Sope.Lib.Lock
import Sope.Lib.Tally
import Sope.Server.Moves

set_option autoImplicit false

/- The request queue under any interleaving. As long as `close_thread` is clear,
every request in the queue is matched by one token: a post that main still owes, a unit
of `main_sem`, or an office between `sem_wait` and `pop`. -/
namespace Sope.Server

open Machine Banking Tally

/-- Between `lock_mutex` and `unlock_mutex`. -/
def OfficePc.inside : OfficePc → Bool
  | .front | .pop _ | .countActive _ | .storeCount _ _ | .waitAccount _ | .waitTarget _ | .build _ _
  | .postAccount _ _ _ | .postTarget _ _ _ | .openFifo _ _ | .unlock _ _ => true
  | _ => false

def MainPc.inside : MainPc → Bool
  | .push _ | .unlock _ => true
  | _ => false

def State.inside {n : Nat} (state : State n) : Thread n → Prop
  | .main => state.main.inside = true
  | .office i => (state.offices i).inside = true

/-- The office has taken a unit of `main_sem` and no request yet. -/
def OfficePc.inFlight : OfficePc → Nat
  | .testClose | .lock | .front | .pop _ => 1
  | _ => 0

/-- The office will take a request, whatever happens to `close_thread`. -/
def OfficePc.committed : OfficePc → Nat
  | .lock | .front | .pop _ => 1
  | _ => 0

/-- Main has pushed a request and not posted for it. -/
def MainPc.owes : MainPc → Nat
  | .unlock _ | .post _ => 1
  | _ => 0

/-- The value that `close_thread` must have while main is there. -/
def MainPc.closeKnown : MainPc → Option Bool
  | .spawn _ | .createAdmin | .initSem | .testExit | .testSize | .setClose => some false
  | .finalPost _ | .join _ | .exited => some true
  | _ => none

theorem committed_le_inFlight (pc : OfficePc) : pc.committed ≤ pc.inFlight := by
  cases pc <;> simp only [OfficePc.committed, OfficePc.inFlight, le_refl, Nat.zero_le]

section Moves

variable {generateSha256Hash : CString → CString → CString} {n : Nat} {adminPassword : CString}

section Office

variable {shared shared' : Shared n} {i : Fin n} {pc pc' : OfficePc} {action : Action}

theorem OfficeMove.started
    (move : OfficeMove generateSha256Hash shared i pc shared' pc' action) : pc ≠ .notStarted := by
  cases move <;> exact OfficePc.noConfusion

theorem OfficeMove.close
    (move : OfficeMove generateSha256Hash shared i pc shared' pc' action) :
    shared'.closeThread = shared.closeThread := by
  cases move <;> rfl

/-- An office keeps the mutex as it is, takes it, or gives it back. -/
theorem OfficeMove.mutex
    (move : OfficeMove generateSha256Hash shared i pc shared' pc' action) :
    (shared'.mutex = shared.mutex ∧ pc'.inside = pc.inside) ∨
      (shared.mutex = none ∧ shared'.mutex = some (.office i) ∧ pc'.inside = true) ∨
      (pc.inside = true ∧ shared'.mutex = none ∧ pc'.inside = false) := by
  cases move with
  | lock free => exact Or.inr (Or.inl ⟨free, rfl, rfl⟩)
  | unlock => exact Or.inr (Or.inr ⟨rfl, rfl, rfl⟩)
  | _ => exact Or.inl ⟨rfl, rfl⟩

/-- An office leaves the queue alone, looks at its front, or takes it off. -/
theorem OfficeMove.queue
    (move : OfficeMove generateSha256Hash shared i pc shared' pc' action) :
    (shared'.requests = shared.requests ∧ (∀ request, action ≠ .popped request) ∧
      ∀ request, pc' = .pop request → shared.requests.head? = some request) ∨
    ∃ request, pc = .pop request ∧ pc' = .countActive request ∧ action = .popped request ∧
      shared'.requests = shared.requests.tail := by
  cases move with
  | pop request => exact Or.inr ⟨request, rfl, rfl, rfl, rfl⟩
  | front request first =>
      refine Or.inl ⟨rfl, fun _ => Action.noConfusion, ?_⟩
      intro request' same
      cases same
      exact first
  | _ => exact Or.inl ⟨rfl, fun _ => Action.noConfusion, fun _ => OfficePc.noConfusion⟩

theorem OfficeMove.not_pushed
    (move : OfficeMove generateSha256Hash shared i pc shared' pc' action) (request : TlvRequest) :
    action ≠ .pushed request := by
  cases move <;> exact Action.noConfusion

/-- While `close_thread` is clear, tokens only move between the semaphore and the
office, and one is used up with each request. -/
theorem OfficeMove.tokens
    (move : OfficeMove generateSha256Hash shared i pc shared' pc' action)
    (running : shared.closeThread = false)
    (nonempty : 0 < pc.inFlight → shared.requests ≠ []) :
    shared'.mainSem + pc'.inFlight + shared.requests.length =
      shared.mainSem + pc.inFlight + shared'.requests.length := by
  cases move with
  | leave closed | breakOff closed => rw [running] at closed; cases closed
  | wake token =>
      simp only [OfficePc.inFlight]
      omega
  | pop request =>
      have positive := List.length_pos_of_ne_nil (nonempty Nat.one_pos)
      simp only [OfficePc.inFlight, List.length_tail]
      omega
  | _ => rfl

/-- Once `close_thread` is set, no office commits itself any more. -/
theorem OfficeMove.committed_le
    (move : OfficeMove generateSha256Hash shared i pc shared' pc' action)
    (closed : shared.closeThread = true) : pc'.committed ≤ pc.committed := by
  cases move with
  | proceed running => rw [closed] at running; cases running
  | pop => exact Nat.zero_le _
  | _ => exact Nat.le_refl _

end Office

section Main

variable {state state' : State n} {received : Option TlvRequest} {action : Action}

theorem MainMove.mutex
    (move : MainMove generateSha256Hash adminPassword state received state' action) :
    (state'.shared.mutex = state.shared.mutex ∧ state'.main.inside = state.main.inside) ∨
      (state.shared.mutex = none ∧ state'.shared.mutex = some .main ∧
        state'.main.inside = true) ∨
      (state.main.inside = true ∧ state'.shared.mutex = none ∧ state'.main.inside = false) := by
  cases move with
  | lock request here free => exact Or.inr (Or.inl ⟨free, rfl, rfl⟩)
  | unlock request here => exact Or.inr (Or.inr ⟨by rw [here]; rfl, rfl, rfl⟩)
  | _ => exact Or.inl ⟨rfl, by simp only [*, MainPc.inside]⟩

/-- Main touches no office, but for the one it creates. -/
theorem MainMove.office
    (move : MainMove generateSha256Hash adminPassword state received state' action)
    (spawning : ∀ started, state.main = .spawn started → ∀ i : Fin n, started ≤ i.val →
      state.offices i = .notStarted) (i : Fin n) :
    state'.offices i = state.offices i ∨
      state.offices i = .notStarted ∧ state'.offices i = .loopTest := by
  cases move with
  | spawn started here inside =>
      by_cases created : i = ⟨started, inside⟩
      · subst created
        exact Or.inr ⟨spawning started here _ (Nat.le_refl _), Function.update_self ..⟩
      · exact Or.inl (Function.update_of_ne created ..)
  | _ => exact Or.inl rfl

/-- So a quantity that does not tell a new office from none is the same after it. -/
theorem MainMove.office_same {α : Type}
    (move : MainMove generateSha256Hash adminPassword state received state' action)
    (spawning : ∀ started, state.main = .spawn started → ∀ i : Fin n, started ≤ i.val →
      state.offices i = .notStarted)
    (f : OfficePc → α) (start : f .notStarted = f .loopTest) (i : Fin n) :
    f (state'.offices i) = f (state.offices i) := by
  rcases move.office spawning i with same | ⟨before, after⟩
  · rw [same]
  · rw [before, after, start]

/-- While `close_thread` is clear, each request that main pushes is one it owes a
post for. -/
theorem MainMove.tokens
    (move : MainMove generateSha256Hash adminPassword state received state' action)
    (known : ∀ close, state.main.closeKnown = some close → state.shared.closeThread = close)
    (running : state'.shared.closeThread = false) :
    state.shared.closeThread = false ∧
      state'.shared.mainSem + state'.main.owes + state.shared.requests.length =
        state.shared.mainSem + state.main.owes + state'.shared.requests.length := by
  cases move with
  | setClose => cases running
  | finalPost posted here =>
      have closed := known true (by rw [here]; rfl)
      rw [running] at closed
      cases closed
  | push request here =>
      refine ⟨running, ?_⟩
      simp only [here, MainPc.owes, List.length_append, List.length_singleton]
      omega
  | initSem here => exact ⟨running, by simp only [here, MainPc.owes, Shared.withAccounts]⟩
  | _ => exact ⟨running, by simp only [*, MainPc.owes]⟩

/-- Main sets `close_thread` right after it has found the queue empty. -/
theorem MainMove.closed
    (move : MainMove generateSha256Hash adminPassword state received state' action)
    (closed : state'.shared.closeThread = true) :
    state.shared.closeThread = true ∨ state.main = .setClose := by
  cases move with
  | setClose here => exact Or.inr here
  | _ => exact Or.inl closed

theorem MainMove.closeKnown
    (move : MainMove generateSha256Hash adminPassword state received state' action)
    (known : ∀ close, state.main.closeKnown = some close → state.shared.closeThread = close)
    (close : Bool) (here' : state'.main.closeKnown = some close) :
    state'.shared.closeThread = close := by
  cases move with
  | leave here closed | enter here closed =>
      cases here'
      exact closed
  | createAdmin here => exact known close (by rw [here]; exact here')
  | spawn started here | spawned started here | exitSet here | empty here
  | finalPost posted here | posted posted here | join joined here | joined joined here =>
      exact known close (by rw [here]; exact here')
  | _ => cases here'

/-- Main leaves the queue alone, appends to it while it owns the mutex, and enters
`setClose` only with an empty queue. -/
theorem MainMove.queue
    (move : MainMove generateSha256Hash adminPassword state received state' action) :
    (state'.shared.requests = state.shared.requests ∧ (∀ request, action ≠ .pushed request)) ∨
      ∃ request, state.main = .push request ∧ state'.main = .unlock request ∧
        action = .pushed request ∧
        state'.shared.requests = state.shared.requests ++ [request] := by
  cases move with
  | push request here => exact Or.inr ⟨request, here, rfl, rfl, rfl⟩
  | _ => exact Or.inl ⟨rfl, fun _ => Action.noConfusion⟩

theorem MainMove.setClose_empty
    (move : MainMove generateSha256Hash adminPassword state received state' action)
    (here' : state'.main = .setClose) : state'.shared.requests = [] := by
  cases move with
  | empty here none => exact none
  | _ => cases here'

theorem MainMove.spawning
    (move : MainMove generateSha256Hash adminPassword state received state' action)
    (spawning : ∀ started, state.main = .spawn started → ∀ i : Fin n, started ≤ i.val →
      state.offices i = .notStarted)
    (started : Nat) (here' : state'.main = .spawn started) (i : Fin n) (later : started ≤ i.val) :
    state'.offices i = .notStarted := by
  cases move with
  | spawn started' here inside =>
      cases here'
      have apart : i ≠ ⟨started', inside⟩ := by
        rintro rfl
        exact absurd later (Nat.not_succ_le_self _)
      exact (Function.update_of_ne apart ..).trans
        (spawning started' here i (Nat.le_of_succ_le later))
  | _ => cases here'

theorem MainMove.not_popped
    (move : MainMove generateSha256Hash adminPassword state received state' action)
    (request : TlvRequest) : action ≠ .popped request := by
  cases move <;> exact Action.noConfusion

theorem MainMove.not_handled
    (move : MainMove generateSha256Hash adminPassword state received state' action)
    (request : TlvRequest) (reply : TlvReply) : action ≠ .handled request reply := by
  cases move <;> exact Action.noConfusion

end Main

end Moves

/-- What the mutex, the semaphore, the queue and `close_thread` say together, in
every reachable state. -/
structure Protocol {n : Nat} (state : State n) : Prop where
  spawning : ∀ started, state.main = .spawn started → ∀ i : Fin n, started ≤ i.val →
    state.offices i = .notStarted
  lock : Lock.Held state.shared.mutex state.inside
  known : ∀ close, state.main.closeKnown = some close → state.shared.closeThread = close
  drained : state.main = .setClose → state.shared.requests = []
  tokens : state.shared.closeThread = false →
    state.shared.mainSem + tally OfficePc.inFlight state.offices + state.main.owes =
      state.shared.requests.length
  closed : state.shared.closeThread = true → tally OfficePc.committed state.offices = 0

section Protocol

variable {generateSha256Hash : CString → CString → CString} {n : Nat} {rand : Rand}
  {adminPassword : CString} {state state' : State n} {action : Action}

theorem initialState_protocol : Protocol (initialState n rand) where
  spawning := fun _ _ _ _ => rfl
  lock := by
    intro thread
    cases thread <;> exact iff_of_false Bool.false_ne_true (Option.some_ne_none _).symm
  known := by
    intro close here
    cases here
    rfl
  drained := fun _ => rfl
  tokens := by
    intro running
    have none : tally OfficePc.inFlight (initialState n rand).offices = 0 :=
      tally_eq_zero fun _ => rfl
    rw [none]
    rfl
  closed := fun closed => absurd closed Bool.false_ne_true

/-- An office that has taken a token finds a request, unless `close_thread` is set. -/
theorem Protocol.nonempty (protocol : Protocol state)
    (running : state.shared.closeThread = false) {i : Fin n}
    (flying : 0 < (state.offices i).inFlight) : state.shared.requests ≠ [] := by
  have count := protocol.tokens running
  have weight := weight_le_tally OfficePc.inFlight state.offices i
  apply List.ne_nil_of_length_pos
  omega

theorem Protocol.uncommitted (protocol : Protocol state)
    (closed : state.shared.closeThread = true) (i : Fin n) : (state.offices i).committed = 0 := by
  have weight := weight_le_tally OfficePc.committed state.offices i
  have none := protocol.closed closed
  omega

/-- An office in front of `requests.front` has a request to read. -/
theorem Protocol.front (protocol : Protocol state) {i : Fin n}
    (front : state.offices i = .front) : state.shared.requests ≠ [] := by
  have running : state.shared.closeThread = false := by
    by_contra closed
    have none := protocol.uncommitted (by simpa using closed) i
    rw [front] at none
    cases none
  exact protocol.nonempty running (by rw [front]; exact Nat.one_pos)

theorem Protocol.office (protocol : Protocol state) {shared' : Shared n} {i : Fin n}
    {pc' : OfficePc}
    (move : OfficeMove generateSha256Hash state.shared i (state.offices i) shared' pc' action) :
    Protocol { state with
      shared := shared', offices := Function.update state.offices i pc' } where
  spawning := by
    intro started here j later
    dsimp only
    have apart : j ≠ i := by
      rintro rfl
      exact move.started (protocol.spawning started here j later)
    rw [Function.update_of_ne apart]
    exact protocol.spawning started here j later
  lock := by
    have others : ∀ other, other ≠ Thread.office i →
        (State.inside { state with
          shared := shared', offices := Function.update state.offices i pc' } other ↔
        state.inside other) := by
      intro other apart
      cases other with
      | main => exact Iff.rfl
      | office j =>
          have apart : j ≠ i := fun same => apart (by rw [same])
          simp only [State.inside, Function.update_of_ne apart]
    have moved : State.inside { state with
          shared := shared', offices := Function.update state.offices i pc' } (.office i) ↔
        pc'.inside = true := by
      simp only [State.inside, Function.update_self]
    rcases move.mutex with ⟨same, side⟩ | ⟨free, taken, entered⟩ | ⟨here, free, left⟩
    · dsimp only
      rw [same]
      exact protocol.lock.keep (.office i) others (moved.trans (by rw [side]; exact Iff.rfl))
    · dsimp only
      rw [taken]
      exact (free ▸ protocol.lock).acquire (.office i) others (moved.mpr entered)
    · have owner := (protocol.lock (.office i)).mp here
      dsimp only
      rw [free]
      exact (owner ▸ protocol.lock).release others
        (fun inside => by rw [moved, left] at inside; cases inside)
  known := by
    intro close here
    dsimp only
    rw [move.close]
    exact protocol.known close here
  drained := by
    intro here
    have empty := protocol.drained here
    rcases move.queue with ⟨same, -⟩ | ⟨request, -, -, -, popped⟩
    · exact same.trans empty
    · dsimp only
      rw [popped, empty, List.tail_nil]
  tokens := by
    intro running
    dsimp only at running ⊢
    rw [move.close] at running
    have count := protocol.tokens running
    have moved := move.tokens running (fun flying => protocol.nonempty running flying)
    have update := tally_update OfficePc.inFlight state.offices i pc'
    omega
  closed := by
    intro closed
    dsimp only at closed ⊢
    rw [move.close] at closed
    have none := protocol.closed closed
    have moved := move.committed_le closed
    have update := tally_update OfficePc.committed state.offices i pc'
    omega

theorem Protocol.main (protocol : Protocol state) {received : Option TlvRequest}
    (move : MainMove generateSha256Hash adminPassword state received state' action) :
    Protocol state' where
  spawning := move.spawning protocol.spawning
  lock := by
    have others : ∀ other, other ≠ Thread.main → (state'.inside other ↔ state.inside other) := by
      intro other apart
      cases other with
      | main => exact absurd rfl apart
      | office j =>
          simp only [State.inside, move.office_same protocol.spawning OfficePc.inside rfl j]
    rcases move.mutex with ⟨same, side⟩ | ⟨free, taken, entered⟩ | ⟨here, free, left⟩
    · rw [same]
      exact protocol.lock.keep .main others (by simp only [State.inside, side])
    · rw [taken]
      exact (free ▸ protocol.lock).acquire .main others entered
    · have owner := (protocol.lock .main).mp here
      rw [free]
      exact (owner ▸ protocol.lock).release others
        (fun inside => by rw [State.inside, left] at inside; cases inside)
  known := move.closeKnown protocol.known
  drained := move.setClose_empty
  tokens := by
    intro running
    obtain ⟨running', moved⟩ := move.tokens protocol.known running
    have count := protocol.tokens running'
    have same := tally_congr (move.office_same protocol.spawning OfficePc.inFlight rfl)
    omega
  closed := by
    intro closed
    rw [tally_congr (move.office_same protocol.spawning OfficePc.committed rfl)]
    rcases move.closed closed with already | here
    · exact protocol.closed already
    · -- no token is left when the queue is empty
      have count := protocol.tokens (protocol.known false (by rw [here]; rfl))
      have le := tally_mono committed_le_inFlight state.offices
      rw [protocol.drained here, List.length_nil] at count
      omega

theorem Protocol.step (protocol : Protocol state) {label : Label n}
    (fired : step generateSha256Hash adminPassword state label = some (state', action)) :
    Protocol state' := by
  rcases step_move fired with ⟨received, -, move⟩ | ⟨i, buffer, opened, shared', pc', -, move, rfl⟩
  · exact protocol.main move
  · exact protocol.office move

theorem execute_protocol {labels : List (Label n)} {events : List (StepEvent n)}
    (ran : execute generateSha256Hash rand adminPassword labels = some (events, state)) :
    Protocol state :=
  run_invariant ran Protocol initialState_protocol
    (fun _ _ _ _ _ protocol fired => protocol.step fired)

/-- Where the office that owns the mutex is, and somewhere outside if none owns it. -/
def State.current (state : State n) : OfficePc :=
  match state.shared.mutex with
  | some (.office i) => state.offices i
  | _ => .loopTest

theorem Protocol.current_eq (protocol : Protocol state) {i : Fin n}
    (inside : (state.offices i).inside = true) : state.current = state.offices i := by
  have owner : state.shared.mutex = some (.office i) := (protocol.lock (.office i)).mp inside
  simp only [State.current, owner]

theorem current_of_free (free : state.shared.mutex = none) : state.current = .loopTest := by
  simp only [State.current, free]

/-- An office that moves outside leaves the owner where it is. Otherwise it is the
owner before the move, after it, or both. -/
theorem Protocol.current_office (protocol : Protocol state) {shared' : Shared n} {i : Fin n}
    {pc' : OfficePc}
    (move : OfficeMove generateSha256Hash state.shared i (state.offices i) shared' pc' action)
    (next : state' = { state with
      shared := shared', offices := Function.update state.offices i pc' }) :
    ((state.offices i).inside = false ∧ pc'.inside = false ∧ state'.current = state.current) ∨
      ((state.current = state.offices i ∨
          state.current = .loopTest ∧ (state.offices i).inside = false) ∧
        (state'.current = pc' ∨ state'.current = .loopTest ∧ pc'.inside = false)) := by
  have protocol' : Protocol state' := next ▸ protocol.office move
  have here' : state'.offices i = pc' := by rw [next]; exact Function.update_self ..
  have current' (inside : pc'.inside = true) : state'.current = pc' := by
    rw [protocol'.current_eq (by rw [here']; exact inside), here']
  rcases move.mutex with ⟨same, side⟩ | ⟨free, -, entered⟩ | ⟨here, free, left⟩
  · cases here : (state.offices i).inside with
    | true => exact Or.inr ⟨Or.inl (protocol.current_eq here), Or.inl (current' (side.trans here))⟩
    | false =>
        refine Or.inl ⟨rfl, side.trans here, ?_⟩
        have same' : state'.shared.mutex = state.shared.mutex := by rw [next]; exact same
        simp only [State.current, same']
        cases owner : state.shared.mutex with
        | none => rfl
        | some thread =>
            cases thread with
            | main => rfl
            | office j =>
                have apart : j ≠ i := by
                  rintro rfl
                  have inside : (state.offices j).inside = true :=
                    (protocol.lock (.office j)).mpr owner
                  rw [here] at inside
                  cases inside
                simp only [next, Function.update_of_ne apart]
  · have outside : (state.offices i).inside = false :=
      Bool.eq_false_iff.mpr fun inside => (free ▸ protocol.lock).outside (.office i) inside
    exact Or.inr ⟨Or.inr ⟨current_of_free free, outside⟩, Or.inl (current' entered)⟩
  · have free' : state'.shared.mutex = none := by rw [next]; exact free
    exact Or.inr ⟨Or.inl (protocol.current_eq here), Or.inr ⟨current_of_free free', left⟩⟩

/-- Main never moves the owner, as far as a quantity goes that does not tell a new
office from none. -/
theorem Protocol.current_main (protocol : Protocol state) {received : Option TlvRequest}
    (move : MainMove generateSha256Hash adminPassword state received state' action) {α : Type}
    (f : OfficePc → α) (start : f .notStarted = f .loopTest) :
    f state'.current = f state.current := by
  rcases move.mutex with ⟨same, -⟩ | ⟨free, taken, -⟩ | ⟨here, free, -⟩
  · simp only [State.current, same]
    cases state.shared.mutex with
    | none => rfl
    | some thread =>
        cases thread with
        | main => rfl
        | office i => exact move.office_same protocol.spawning f start i
  · simp only [State.current, free, taken]
  · have owner : state.shared.mutex = some .main := (protocol.lock .main).mp here
    simp only [State.current, owner, free]

end Protocol

end Sope.Server
