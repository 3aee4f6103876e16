import Mathlib.Algebra.Order.Group.Multiset

set_option autoImplicit false

/- A pool of workers that share work out among themselves. Each worker has a
multiset of items left; it finishes items, gives some up, or hands a part of them
to a worker that is new in the pool. -/
namespace Pool

variable {σ β : Type} {work : σ → Multiset β} {workers workers' : List σ}

/-- What all workers together have left. -/
def left (work : σ → Multiset β) (workers : List σ) : Multiset β := (workers.map work).sum

theorem left_cons (worker : σ) :
    left work (worker :: workers) = work worker + left work workers := by
  rw [left, List.map_cons, List.sum_cons, left]

theorem left_append : left work (workers ++ workers') = left work workers + left work workers' := by
  rw [left, List.map_append, List.sum_append, left, left]

theorem left_singleton (worker : σ) : left work [worker] = work worker := by
  rw [left, List.map_singleton, List.sum_singleton]

/-- A worker that moves replaces what it had left by what it has left now. -/
theorem left_set (work : σ → Multiset β) {i : Nat} {worker : σ}
    (here : workers[i]? = some worker) (moved : σ) :
    left work (workers.set i moved) + work worker = left work workers + work moved := by
  induction workers generalizing i with
  | nil => cases here
  | cons first rest ih =>
      cases i with
      | zero =>
          rw [List.getElem?_cons_zero, Option.some.injEq] at here
          rw [List.set_cons_zero, left_cons, left_cons, here]
          ac_rfl
      | succ i =>
          have kept := ih (by rwa [List.getElem?_cons_succ] at here)
          rw [List.set_cons_succ, left_cons, left_cons, add_assoc, kept, add_assoc]

theorem work_le_left {worker : σ} (member : worker ∈ workers) :
    work worker ≤ left work workers := by
  induction workers with
  | nil => cases member
  | cons first rest ih =>
      rw [left_cons]
      rcases List.mem_cons.mp member with rfl | later
      · exact Multiset.le_add_right _ _
      · exact (ih later).trans (Multiset.le_add_left _ _)

theorem left_eq_zero (none : ∀ worker ∈ workers, work worker = 0) : left work workers = 0 := by
  induction workers with
  | nil => rfl
  | cons first rest ih =>
      rw [left_cons, none first List.mem_cons_self, ih fun w member =>
        none w (List.mem_cons_of_mem first member), add_zero]

/-- One step of the pool: some items are `finished` and some are `lost`. -/
inductive Step (work : σ → Multiset β) (workers : List σ) :
    Multiset β → Multiset β → List σ → Prop where
  | idle (workers' : List σ) (same : workers'.map work = workers.map work) :
      Step work workers 0 0 workers'
  | move (i : Nat) (worker moved : σ) (finished lost : Multiset β)
      (here : workers[i]? = some worker) (split : work worker = finished + lost + work moved) :
      Step work workers finished lost (workers.set i moved)
  | share (i : Nat) (worker moved new : σ) (here : workers[i]? = some worker)
      (split : work worker = work moved + work new) :
      Step work workers 0 0 (workers.set i moved ++ [new])

/-- No item appears or disappears. -/
theorem Step.conserved {finished lost : Multiset β}
    (step : Step work workers finished lost workers') :
    finished + lost + left work workers' = left work workers := by
  cases step with
  | idle _ same => rw [left, same, add_zero, zero_add, left]
  | move i worker moved _ _ here split =>
      have kept := left_set work here moved
      rw [split] at kept
      apply add_right_cancel (b := work moved)
      rw [← kept]
      ac_rfl
  | share i worker moved new here split =>
      have kept := left_set work here moved
      rw [split] at kept
      rw [left_append, left_singleton]
      apply add_right_cancel (b := work moved)
      rw [← kept, zero_add, zero_add]
      ac_rfl

end Pool
