import Mathlib.Order.Lattice.Nat
import Sope.Lib.Chain
import Sope.Server.Queue

set_option autoImplicit false

/- The queue of list_queue.h in the heap, and the queue of requests that it stands for.
Reading or writing through NULL or a freed node is undefined. -/
namespace Sope.Server

open Machine Banking Chain

/-- The `node_t` of the heap: cells with a request and the address of the next node. -/
abbrev NodeHeap := Heap Nat TlvRequest

/-- One result of `malloc` in every heap: any address that is not allocated, so also one
that was freed before. -/
structure Malloc where
  address : NodeHeap → Nat
  fresh : ∀ heap, address heap ∉ heap

/-- `list_queue_t` without the pointers to the functions below. -/
structure ListQueue where
  head : Option Nat
  back : Option Nat
  size : Int32

structure Memory where
  heap : NodeHeap
  queue : ListQueue

def listQueueInit (memory : Memory) : Memory :=
  { memory with queue := { head := none, back := none, size := 0 } }

def listQueuePush (malloc : Malloc) (memory : Memory) (request : TlvRequest) : Option Memory := do
  let newData := malloc.address memory.heap
  let heap := memory.heap.insert newData ⟨request, none⟩
  let size := memory.queue.size + 1
  if memory.queue.head = none then
    return ⟨heap, { head := some newData, back := some newData, size }⟩
  else
    let back ← memory.queue.back
    let node ← heap.lookup back
    return ⟨heap.insert back { node with next := some newData },
      { memory.queue with back := some newData, size }⟩

def listQueuePop (memory : Memory) : Option Memory :=
  match memory.queue.head with
  | none => some memory
  | some popedData => do
      let node ← memory.heap.lookup popedData
      return ⟨memory.heap.erase popedData,
        { memory.queue with head := node.next, size := memory.queue.size - 1 }⟩

def listQueueFront (memory : Memory) : Option TlvRequest := do
  let head ← memory.queue.head
  let node ← memory.heap.lookup head
  return node.value

/-- The calls on the queue after `list_queue_init`; a push brings its `malloc` along. -/
inductive QueueCall where
  | push (malloc : Malloc) (request : TlvRequest)
  | pop
  | front

def listQueueCall (memory : Memory) : QueueCall → Option (Memory × Option TlvRequest)
  | .push malloc request => do
      let memory ← listQueuePush malloc memory request
      return (memory, none)
  | .pop => do
      let memory ← listQueuePop memory
      return (memory, none)
  | .front => do
      let request ← listQueueFront memory
      return (memory, some request)

/-- The same calls on the requests that were pushed and not popped yet, oldest first.
Only `front` asks for a queue that is not empty. -/
def queueCall (requests : List TlvRequest) :
    QueueCall → Option (List TlvRequest × Option TlvRequest)
  | .push _ request => some (requests ++ [request], none)
  | .pop => some (requests.tail, none)
  | .front => do
      let request ← requests.head?
      return (requests, some request)

/-- The list in the heap spells the requests. `back` says something only while there is
a last node: once that is popped, `back` keeps its address, which is freed. -/
structure Spells (requests : List TlvRequest) (memory : Memory) (nodes : List (Nat × TlvRequest)) :
    Prop where
  linked : Linked memory.heap memory.queue.head nodes
  values : nodes.map Prod.snd = requests
  back : ∀ front last, nodes = front ++ [last] → memory.queue.back = some last.1
  size : memory.queue.size = Int32.ofNat requests.length

def Stands (requests : List TlvRequest) (memory : Memory) : Prop :=
  ∃ nodes, Spells requests memory nodes

abbrev QueueEvent := Event (List TlvRequest) QueueCall (Option TlvRequest)

section Calls

variable {requests requests' : List TlvRequest} {memory : Memory} {nodes : List (Nat × TlvRequest)}

theorem listQueueInit_stands (memory : Memory) : Stands [] (listQueueInit memory) :=
  ⟨[], ⟨⟨rfl, List.nodup_nil⟩, rfl, fun front last same => by simp at same, rfl⟩⟩

theorem Spells.head_eq_none (spells : Spells requests memory nodes) :
    memory.queue.head = none ↔ nodes = [] := by
  cases nodes with
  | nil => simpa using spells.linked.path
  | cons node rest => simp [spells.linked.path.1]

/-- A push is defined and appends its request, wherever `malloc` puts the node. -/
theorem Spells.push (spells : Spells requests memory nodes) (malloc : Malloc)
    (request : TlvRequest) :
    ∃ memory', listQueuePush malloc memory request = some memory' ∧
      Stands (requests ++ [request]) memory' := by
  have size : memory.queue.size + 1 = Int32.ofNat (requests ++ [request]).length := by
    rw [spells.size, List.length_append, List.length_singleton, Int32.ofNat_add]
    rfl
  have fresh := malloc.fresh memory.heap
  rcases List.eq_nil_or_concat nodes with empty | ⟨front, last, split⟩
  · have requests : requests = [] := by rw [← spells.values, empty]; rfl
    rw [listQueuePush, if_pos (spells.head_eq_none.mpr empty)]
    refine ⟨_, rfl, [(malloc.address memory.heap, request)], Linked.single request, ?_, ?_, size⟩
    · rw [requests]
      rfl
    · intro front last same
      have grown : [] ++ [(malloc.address memory.heap, request)] = front ++ [last] := same
      obtain ⟨-, only⟩ := List.append_inj' grown rfl
      rw [← (List.cons.inj only).1]
  · rw [List.concat_eq_append] at split
    subst split
    have filled : ¬ memory.queue.head = none := by simp [spells.head_eq_none]
    have held := (segment_snoc.mp spells.linked.path).2
    have outside := spells.linked.fresh fresh
    have apart : last.1 ≠ malloc.address memory.heap := fun same => outside (by simp [← same])
    rw [listQueuePush, if_neg filled, spells.back front last rfl]
    simp only [Option.bind_eq_bind, Option.bind_some, Finmap.lookup_insert_of_ne _ apart, held,
      Option.pure_def]
    refine ⟨_, rfl, front ++ [last] ++ [(malloc.address memory.heap, request)],
      spells.linked.append fresh request, ?_, ?_, size⟩
    · rw [List.map_append, spells.values]
      rfl
    · intro front' last' same
      obtain ⟨-, only⟩ := List.append_inj' same rfl
      rw [← (List.cons.inj only).1]

/-- A pop is defined, drops the oldest request and does nothing on an empty queue. -/
theorem Spells.pop (spells : Spells requests memory nodes) :
    ∃ memory', listQueuePop memory = some memory' ∧ Stands requests.tail memory' ∧
      (requests = [] → memory' = memory) := by
  cases nodes with
  | nil =>
      have empty : requests = [] := spells.values.symm
      subst empty
      rw [listQueuePop, spells.head_eq_none.mpr rfl]
      exact ⟨memory, rfl, ⟨[], spells⟩, fun _ => rfl⟩
  | cons node rest =>
      obtain ⟨address, request⟩ := node
      have filled := spells.values
      rw [List.map_cons] at filled
      obtain ⟨next, held, linked⟩ := spells.linked.tail
      rw [listQueuePop, spells.linked.path.1]
      simp only [held, Option.bind_eq_bind, Option.bind_some, Option.pure_def]
      refine ⟨_, rfl, ⟨rest, linked, ?_, ?_, ?_⟩, ?_⟩
      · rw [← filled]
        rfl
      · intro front last split
        exact spells.back ((address, request) :: front) last (by rw [split]; rfl)
      · rw [spells.size, ← filled, List.length_cons, Int32.ofNat_add]
        exact Int32.add_sub_cancel _ _
      · intro empty
        rw [empty] at filled
        cases filled

theorem Spells.front (spells : Spells requests memory nodes) :
    listQueueFront memory = requests.head? := by
  rw [← spells.values]
  cases nodes with
  | nil =>
      rw [listQueueFront, spells.head_eq_none.mpr rfl]
      rfl
  | cons node rest =>
      obtain ⟨here, next, held, -⟩ := spells.linked.path
      simp [listQueueFront, here, held]

/-- Each call on the list does what it does on the requests, and returns the same. -/
theorem Stands.call (stands : Stands requests memory) {call : QueueCall}
    {output : Option TlvRequest} (called : queueCall requests call = some (requests', output)) :
    ∃ memory', listQueueCall memory call = some (memory', output) ∧ Stands requests' memory' := by
  obtain ⟨nodes, spells⟩ := stands
  cases call with
  | push malloc request =>
      obtain ⟨rfl, rfl⟩ := called
      obtain ⟨memory', pushed, stands⟩ := spells.push malloc request
      exact ⟨memory', by simp [listQueueCall, pushed], stands⟩
  | pop =>
      obtain ⟨rfl, rfl⟩ := called
      obtain ⟨memory', popped, stands, -⟩ := spells.pop
      exact ⟨memory', by simp [listQueueCall, popped], stands⟩
  | front =>
      simp only [queueCall, Option.bind_eq_bind, Option.bind_eq_some_iff, Option.pure_def,
        Option.some.injEq, Prod.mk.injEq] at called
      obtain ⟨request, first, rfl, rfl⟩ := called
      exact ⟨memory, by simp [listQueueCall, spells.front, first], ⟨nodes, spells⟩⟩

end Calls

/-- What following `next` from `head` passes. -/
def Follows (memory : Memory) (requests : List TlvRequest) : Prop :=
  ∃ nodes, Segment memory.heap memory.queue.head nodes none ∧ nodes.map Prod.snd = requests

theorem Stands.follows {requests : List TlvRequest} {memory : Memory}
    (stands : Stands requests memory) : Follows memory requests := by
  obtain ⟨nodes, spells⟩ := stands
  exact ⟨nodes, spells.linked.path, spells.values⟩

theorem Stands.size {requests : List TlvRequest} {memory : Memory}
    (stands : Stands requests memory) :
    memory.queue.size = Int32.ofNat requests.length := by
  obtain ⟨nodes, spells⟩ := stands
  exact spells.size

theorem listQueue_run (memory : Memory) {calls : List QueueCall} {events : List QueueEvent}
    {requests : List TlvRequest} (ran : run queueCall [] calls = some (events, requests)) :
    ∃ events' last, run listQueueCall (listQueueInit memory) calls = some (events', last) ∧
      Stands requests last ∧ events'.map (·.output) = events.map (·.output) := by
  refine run_simulation Stands ?_ (listQueueInit_stands memory) ran
  intro requests memory call output requests' stands called
  exact stands.call called

/-- With nothing to follow from `head`, `list_queue_pop` returns at once. -/
theorem listQueueCall_pop_of_empty {memory memory' : Memory} {output : Option TlvRequest}
    (empty : Follows memory []) (popped : listQueueCall memory .pop = some (memory', output)) :
    memory' = memory := by
  obtain ⟨nodes, path, none⟩ := empty
  rw [List.map_eq_nil_iff.mp none] at path
  have head : memory.queue.head = Option.none := path
  simp only [listQueueCall, listQueuePop, head, Option.bind_eq_bind, Option.bind_some,
    Option.pure_def, Option.some.injEq, Prod.mk.injEq] at popped
  exact popped.1.symm

/-- After any calls from `list_queue_init` on that ask for the front of a queue only
while it is not empty, and whatever addresses `malloc` gives out: no freed node was read
or written, the list from `head` is the queue, `size` is its length as far as an int can
hold it, each `front` returned the oldest request and each `pop` of an empty queue
changed nothing. -/
theorem listQueue_fifo (memory : Memory) (calls : List QueueCall) {events : List QueueEvent}
    {requests : List TlvRequest} (ran : run queueCall [] calls = some (events, requests)) :
    ∃ events' last, run listQueueCall (listQueueInit memory) calls = some (events', last) ∧
      Follows last requests ∧
      last.queue.size = Int32.ofNat requests.length ∧
      (requests.length < 2 ^ 31 → last.queue.size.toInt = requests.length) ∧
      events'.map (·.output) = events.map (·.output) ∧
      ∀ event ∈ events', event.input = .pop → Follows event.before [] →
        event.after = event.before := by
  obtain ⟨events', last, ran', stands, outputs⟩ := listQueue_run memory ran
  refine ⟨events', last, ran', stands.follows, stands.size, ?_, outputs, ?_⟩
  · intro small
    rw [stands.size, Int32.toInt_ofNat_of_lt small]
  · intro event member popped empty
    obtain ⟨past, future, split⟩ := List.append_of_mem member
    rw [split] at ran'
    obtain ⟨-, fired, -⟩ := run_event ran'
    rw [popped] at fired
    exact listQueueCall_pop_of_empty empty fired

section Server

variable {n : Nat} {generateSha256Hash : CString → CString → CString} {rand : Rand}
  {adminPassword : CString} {state state' : State n} {action : Action}

/-- The calls on the queue in a step of the server; an office looks at the front and
pops it under one lock. -/
def Action.queueCalls (malloc : Malloc) : Action → List QueueCall
  | .pushed request => [.push malloc request]
  | .popped _ => [.front, .pop]
  | _ => []

def queueCalls (mallocs : StepEvent n → Malloc) (past : List (StepEvent n)) : List QueueCall :=
  past.flatMap fun event => event.output.queueCalls (mallocs event)

/-- What a step does to the queue of requests. -/
theorem Ordered.queue_step {past : List (StepEvent n)} (ordered : Ordered past state)
    {label : Label n}
    (fired : step generateSha256Hash adminPassword state label = some (state', action)) :
    (state'.shared.requests = state.shared.requests ∧ action.pushes = none ∧
      action.pops = none) ∨
    (∃ request, action = .pushed request ∧
      state'.shared.requests = state.shared.requests ++ [request]) ∨
    ∃ request, action = .popped request ∧
      state.shared.requests = request :: state'.shared.requests := by
  rcases step_move fired with ⟨received, -, move⟩ | ⟨i, buffer, opened, shared', pc', -, move, next⟩
  · rcases move.queue with ⟨same, none⟩ | ⟨request, -, -, pushed, grown⟩
    · exact Or.inl ⟨same, Action.pushes_eq_none none, Action.pops_eq_none move.not_popped⟩
    · exact Or.inr (Or.inl ⟨request, pushed, grown⟩)
  · have requests' : state'.shared.requests = shared'.requests := by rw [next]
    rw [requests']
    rcases move.queue with ⟨same, none, -⟩ | ⟨request, popping, -, popped, rest⟩
    · exact Or.inl ⟨same, Action.pushes_eq_none move.not_pushed, Action.pops_eq_none none⟩
    · refine Or.inr (Or.inr ⟨request, popped, ?_⟩)
      rw [rest]
      exact List.eq_cons_of_mem_head? (ordered.front i request popping)

/-- The server's list of requests, replayed as calls. -/
theorem execute_queueCalls (mallocs : StepEvent n → Malloc) {labels : List (Label n)}
    {events : List (StepEvent n)}
    (ran : execute generateSha256Hash rand adminPassword labels = some (events, state)) :
    ∃ queueEvents,
      run queueCall [] (queueCalls mallocs events) = some (queueEvents, state.shared.requests) ∧
      queueEvents.filterMap (·.output) = poppedRequests events := by
  apply run_induction ran (fun past state => ∃ queueEvents,
    run queueCall [] (queueCalls mallocs past) = some (queueEvents, state.shared.requests) ∧
      queueEvents.filterMap (·.output) = poppedRequests past) ⟨[], rfl, rfl⟩
  rintro past state label action state' - reached ⟨queueEvents, replayed, looked⟩ fired
  have calls : queueCalls mallocs (past ++ [⟨state, label, action, state'⟩]) =
      queueCalls mallocs past ++ action.queueCalls (mallocs ⟨state, label, action, state'⟩) := by
    simp [queueCalls]
  rw [calls, poppedRequests_snoc]
  rcases (execute_ordered reached).queue_step fired with ⟨same, pushes, pops⟩ |
    ⟨request, rfl, grown⟩ | ⟨request, rfl, front⟩
  · refine ⟨queueEvents, ?_, by rw [looked, pops, Option.toList_none, List.append_nil]⟩
    have silent : action.queueCalls (mallocs ⟨state, label, action, state'⟩) = [] := by
      cases action with
      | pushed request => cases pushes
      | popped request => cases pops
      | silent | handled => rfl
    rw [silent, List.append_nil, same]
    exact replayed
  · rw [grown]
    refine ⟨queueEvents ++ [⟨state.shared.requests, _, none, _⟩],
      run_append_eq_some.mpr ⟨queueEvents, _, _, replayed, rfl, rfl⟩, ?_⟩
    rw [List.filterMap_append, looked]
    rfl
  · rw [front] at replayed
    refine ⟨queueEvents ++ [⟨_, .front, some request, _⟩, ⟨_, .pop, none, _⟩],
      run_append_eq_some.mpr ⟨queueEvents, _, _, replayed, rfl, rfl⟩, ?_⟩
    rw [List.filterMap_append, looked]
    rfl

/-- In every interleaving of the server, the linked list spells the queue of requests,
and what its fronts returned is what the offices popped. -/
theorem execute_on_listQueue (mallocs : StepEvent n → Malloc) (memory : Memory)
    {labels : List (Label n)} {events : List (StepEvent n)}
    (ran : execute generateSha256Hash rand adminPassword labels = some (events, state)) :
    ∃ queueEvents last,
      run listQueueCall (listQueueInit memory) (queueCalls mallocs events) =
        some (queueEvents, last) ∧
      Follows last state.shared.requests ∧
      (queueEvents.map (·.output)).reduceOption = poppedRequests events := by
  obtain ⟨replay, replayed, looked⟩ := execute_queueCalls mallocs ran
  obtain ⟨queueEvents, last, ran', stands, outputs⟩ := listQueue_run memory replayed
  refine ⟨queueEvents, last, ran', stands.follows, ?_⟩
  rw [outputs, ← looked]
  exact List.filterMap_map ..

end Server

/-- The first address past all that are allocated. -/
def mallocPast : Malloc where
  address := fun heap => heap.keys.sup id + 1
  fresh := by
    intro heap member
    have below : id (heap.keys.sup id + 1) ≤ heap.keys.sup id :=
      Finset.le_sup (Finmap.mem_keys.mpr member)
    exact absurd below (Nat.not_succ_le_self _)

def anyMemory : Memory := ⟨∅, ⟨none, none, 0⟩⟩

theorem queueCall_pushes (malloc : Malloc) (request : TlvRequest) (count : Nat)
    (requests : List TlvRequest) :
    ∃ events, run queueCall requests (List.replicate count (.push malloc request)) =
      some (events, requests ++ List.replicate count request) := by
  induction count generalizing requests with
  | zero => exact ⟨[], by simp⟩
  | succ count ih =>
      obtain ⟨tail, ran⟩ := ih (requests ++ [request])
      rw [List.append_assoc, List.singleton_append, ← List.replicate_succ] at ran
      exact ⟨_, run_cons_eq_some.mpr ⟨_, none, tail, rfl, ran, rfl⟩⟩

/-- 2^31 requests are pushed and none is popped: `size` is negative. -/
theorem pushes_overflow :
    ∃ events requests events' last,
      run queueCall [] (List.replicate (2 ^ 31) (.push mallocPast balanceOf1)) =
        some (events, requests) ∧
      run listQueueCall (listQueueInit anyMemory)
        (List.replicate (2 ^ 31) (.push mallocPast balanceOf1)) = some (events', last) ∧
      last.queue.size.toInt ≠ requests.length := by
  obtain ⟨events, ran⟩ := queueCall_pushes mallocPast balanceOf1 (2 ^ 31) []
  obtain ⟨events', last, ran', stands, -⟩ := listQueue_run anyMemory ran
  refine ⟨events, _, events', last, ran, ran', ?_⟩
  rw [stands.size, List.nil_append, List.length_replicate]
  decide

/-- Two pushes, a look, two pops and a pop of the empty queue. -/
theorem twoRequests_fifo :
    ∃ events' last, run listQueueCall (listQueueInit anyMemory)
        [.push mallocPast balanceOf1, .push mallocPast balanceOf1, .front, .pop, .pop, .pop] =
          some (events', last) ∧
      Follows last [] ∧
      last.queue.size = Int32.ofNat ([] : List TlvRequest).length ∧
      (([] : List TlvRequest).length < 2 ^ 31 →
        last.queue.size.toInt = ([] : List TlvRequest).length) ∧
      events'.map (·.output) = [none, none, some balanceOf1, none, none, none] ∧
      ∀ event ∈ events', event.input = .pop → Follows event.before [] →
        event.after = event.before :=
  listQueue_fifo anyMemory
    [.push mallocPast balanceOf1, .push mallocPast balanceOf1, .front, .pop, .pop, .pop] rfl

end Sope.Server
