import Mathlib.Data.List.Nodup
import Mathlib.Data.List.Basic

set_option autoImplicit false

/- Linearizability. What concurrent clients call and what is returned to them can be put into
the order of one sequential object that never contradicts real time. Where each operation has
a point between its call and its return at which it takes effect, the order of these points
is such an order. -/
namespace Linearizable

/-- What the clients see: an operation is called, or returns. -/
inductive Act (κ ι ο : Type) where
  | call (key : κ) (input : ι)
  | ret (key : κ) (output : ο)

/-- An operation in a sequential order. -/
structure Entry (κ ι ο : Type) where
  key : κ
  input : ι
  output : ο

/-- What a run shows: what the clients see, and where an operation takes effect. -/
inductive Point (κ ι ο : Type) where
  | act (shown : Act κ ι ο)
  | commit (operation : Entry κ ι ο)

variable {κ ι ο : Type}

def Point.seen : Point κ ι ο → Option (Act κ ι ο)
  | .act shown => some shown
  | .commit _ => none

def Point.commits : Point κ ι ο → Option (Entry κ ι ο)
  | .act _ => none
  | .commit operation => some operation

/-- The key of the operation that is called. -/
def Point.calls : Point κ ι ο → Option κ
  | .act (.call key _) => some key
  | _ => none

def history (trace : List (Point κ ι ο)) : List (Act κ ι ο) := trace.filterMap Point.seen

def committed (trace : List (Point κ ι ο)) : List (Entry κ ι ο) :=
  trace.filterMap Point.commits

/-- The order explains the history: every operation in it was called, everything returned is
of an operation in it, an operation that returned before another was called stands before
that other, and one after the other the operations are what the sequential object does. -/
structure Linearization (spec : List (ι × ο) → Prop) (history : List (Act κ ι ο))
    (order : List (Entry κ ι ο)) : Prop where
  once : (order.map (·.key)).Nodup
  called : ∀ operation ∈ order, .call operation.key operation.input ∈ history
  returned : ∀ key output, .ret key output ∈ history →
    ∃ operation ∈ order, operation.key = key ∧ operation.output = output
  realTime : ∀ operation ∈ order, ∀ operation' ∈ order,
    [Act.ret operation.key operation.output,
      .call operation'.key operation'.input].Sublist history →
    [operation, operation'].Sublist order
  legal : spec (order.map fun operation => (operation.input, operation.output))

/-- Each operation takes effect once, after its call and before its return. -/
structure Commits (trace : List (Point κ ι ο)) : Prop where
  calledOnce : (trace.filterMap Point.calls).Nodup
  once : ((committed trace).map (·.key)).Nodup
  called : ∀ front operation back, trace = front ++ .commit operation :: back →
    .act (.call operation.key operation.input) ∈ front
  returned : ∀ front key output back, trace = front ++ .act (.ret key output) :: back →
    ∃ operation, .commit operation ∈ front ∧ operation.key = key ∧ operation.output = output

variable {trace front back : List (Point κ ι ο)} {operation operation' : Entry κ ι ο}
  {act : Act κ ι ο}

theorem mem_committed : operation ∈ committed trace ↔ .commit operation ∈ trace := by
  constructor
  · intro member
    obtain ⟨point, there, commits⟩ := List.mem_filterMap.mp member
    cases point with
    | act act => cases commits
    | commit operation' =>
        cases commits
        exact there
  · intro there
    exact List.mem_filterMap.mpr ⟨_, there, rfl⟩

theorem mem_history : act ∈ history trace ↔ .act act ∈ trace := by
  constructor
  · intro member
    obtain ⟨point, there, seen⟩ := List.mem_filterMap.mp member
    cases point with
    | act act' =>
        cases seen
        exact there
    | commit operation => cases seen
  · intro there
    exact List.mem_filterMap.mpr ⟨_, there, rfl⟩

/-- Where one act comes behind another, the trace can be cut behind the first. -/
theorem split_history {act act' : Act κ ι ο} (pair : [act, act'].Sublist (history trace)) :
    ∃ front back, trace = front ++ .act act :: back ∧ .act act' ∈ back := by
  obtain ⟨first, second, split, member, rest⟩ := List.cons_sublist_iff.mp pair
  obtain ⟨early, late, rfl, rfl, rfl⟩ := List.filterMap_eq_append_iff.mp split
  obtain ⟨front, middle, rfl⟩ := List.append_of_mem (mem_history.mp member)
  have later : act' ∈ history late := List.singleton_sublist.mp rest
  refine ⟨front, middle ++ late, by simp, ?_⟩
  exact List.mem_append_right _ (mem_history.mp later)

theorem Commits.same_operation (commits : Commits trace) (there : .commit operation ∈ trace)
    (there' : .commit operation' ∈ trace) (same : operation.key = operation'.key) :
    operation = operation' :=
  List.inj_on_of_nodup_map commits.once (mem_committed.mpr there) (mem_committed.mpr there') same

/-- What is called in the back has not taken effect in the front. -/
theorem Commits.later (commits : Commits (front ++ back))
    (call : .act (.call operation.key operation.input) ∈ back)
    (there : .commit operation ∈ front ++ back) : .commit operation ∈ back := by
  rcases List.mem_append.mp there with early | late
  · obtain ⟨before, after, rfl⟩ := List.append_of_mem early
    have earlier := commits.called before operation (after ++ back) (by simp)
    have once := commits.calledOnce
    rw [List.filterMap_append, List.nodup_append] at once
    refine absurd rfl (once.2.2 operation.key ?_ operation.key ?_)
    · exact List.mem_filterMap.mpr ⟨_, List.mem_append_left _ earlier, rfl⟩
    · exact List.mem_filterMap.mpr ⟨_, call, rfl⟩
  · exact late

/-- The order in which the operations take effect is a linearization. -/
theorem Commits.linearization {spec : List (ι × ο) → Prop} (commits : Commits trace)
    (legal : spec ((committed trace).map fun operation => (operation.input, operation.output))) :
    Linearization spec (history trace) (committed trace) where
  once := commits.once
  called := by
    intro operation member
    obtain ⟨front, back, rfl⟩ := List.append_of_mem (mem_committed.mp member)
    have earlier := commits.called front operation back rfl
    exact mem_history.mpr (List.mem_append_left _ earlier)
  returned := by
    intro key output member
    obtain ⟨front, back, rfl⟩ := List.append_of_mem (mem_history.mp member)
    obtain ⟨operation, there, same, answer⟩ := commits.returned front key output back rfl
    exact ⟨operation, mem_committed.mpr (List.mem_append_left _ there), same, answer⟩
  realTime := by
    intro operation member operation' member' pair
    obtain ⟨front, back, rfl, call⟩ := split_history pair
    obtain ⟨earlier, there, same, -⟩ := commits.returned front _ _ back rfl
    obtain rfl := commits.same_operation (List.mem_append_left _ there)
      (mem_committed.mp member) same
    have late := commits.later (List.mem_cons_of_mem _ call) (mem_committed.mp member')
    rw [committed, List.filterMap_append]
    exact (List.singleton_sublist.mpr (mem_committed.mpr there)).append
      (List.singleton_sublist.mpr (mem_committed.mpr late))
  legal := legal

end Linearizable
