import Mathlib.Order.Basic

set_option autoImplicit false

/- Mutual exclusion by one lock. The lock records its owner; `inside` says which
threads are in the section that it guards. -/
namespace Lock

variable {T : Type}

/-- The threads inside are exactly the owner. -/
def Held (owner : Option T) (inside : T → Prop) : Prop :=
  ∀ thread, inside thread ↔ owner = some thread

variable {owner : Option T} {inside inside' : T → Prop}

/-- Two threads are never inside at once. -/
theorem Held.unique (held : Held owner inside) {thread other : T} (here : inside thread)
    (there : inside other) : thread = other :=
  Option.some.inj (((held thread).mp here).symm.trans ((held other).mp there))

theorem Held.outside (held : Held none inside) (thread : T) : ¬ inside thread := by
  intro here
  cases (held thread).mp here

/-- A thread that moves without crossing the border leaves the lock as it is. -/
theorem Held.keep (held : Held owner inside) (thread : T)
    (others : ∀ other, other ≠ thread → (inside' other ↔ inside other))
    (same : inside' thread ↔ inside thread) : Held owner inside' := by
  intro other
  by_cases moved : other = thread
  · rw [moved, same]
    exact held thread
  · rw [others other moved]
    exact held other

/-- A thread enters by taking the free lock. -/
theorem Held.acquire (held : Held none inside) (thread : T)
    (others : ∀ other, other ≠ thread → (inside' other ↔ inside other))
    (entered : inside' thread) : Held (some thread) inside' := by
  intro other
  by_cases moved : other = thread
  · rw [moved]
    exact iff_of_true entered rfl
  · rw [others other moved]
    exact iff_of_false (held.outside other) fun same => moved (Option.some.inj same).symm

/-- The owner leaves by giving the lock back. -/
theorem Held.release {thread : T} (held : Held (some thread) inside)
    (others : ∀ other, other ≠ thread → (inside' other ↔ inside other))
    (left : ¬ inside' thread) : Held none inside' := by
  intro other
  refine iff_of_false ?_ (Option.some_ne_none other).symm
  by_cases moved : other = thread
  · rw [moved]
    exact left
  · rw [others other moved]
    exact fun there => moved (Option.some.inj ((held other).mp there)).symm

end Lock
