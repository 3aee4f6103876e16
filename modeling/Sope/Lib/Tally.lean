import Mathlib.Algebra.BigOperators.Group.Finset.Basic
import Mathlib.Algebra.BigOperators.Group.Finset.Piecewise
import Mathlib.Algebra.Order.BigOperators.Group.Finset
import Mathlib.Data.Fintype.BigOperators

set_option autoImplicit false

/- Counting over a family of threads: each thread weighs something according to
its local state, and one thread moves at a time. -/
namespace Tally

variable {α : Type} {n : Nat}

/-- The weight of all threads together. -/
def tally (weight : α → Nat) (threads : Fin n → α) : Nat := ∑ i, weight (threads i)

/-- A thread that moves replaces its old weight by its new one. -/
theorem tally_update (weight : α → Nat) (threads : Fin n → α) (i : Fin n) (moved : α) :
    tally weight (Function.update threads i moved) + weight (threads i) =
      tally weight threads + weight moved := by
  have split := Finset.add_sum_erase Finset.univ (fun j => weight (threads j)) (Finset.mem_univ i)
  have split' := Finset.add_sum_erase Finset.univ
    (fun j => weight (Function.update threads i moved j)) (Finset.mem_univ i)
  have same : ∑ j ∈ Finset.univ.erase i, weight (Function.update threads i moved j) =
      ∑ j ∈ Finset.univ.erase i, weight (threads j) := by
    apply Finset.sum_congr rfl
    intro j member
    rw [Function.update_of_ne (Finset.ne_of_mem_erase member)]
  simp only [Function.update_self, same] at split'
  simp only [tally] at *
  omega

theorem weight_le_tally (weight : α → Nat) (threads : Fin n → α) (i : Fin n) :
    weight (threads i) ≤ tally weight threads :=
  Finset.single_le_sum (f := fun j => weight (threads j)) (fun _ _ => Nat.zero_le _)
    (Finset.mem_univ i)

theorem tally_congr {weight : α → Nat} {threads threads' : Fin n → α}
    (same : ∀ i, weight (threads' i) = weight (threads i)) :
    tally weight threads' = tally weight threads :=
  Finset.sum_congr rfl fun i _ => same i

theorem tally_mono {weight weight' : α → Nat} (le : ∀ a, weight a ≤ weight' a)
    (threads : Fin n → α) : tally weight threads ≤ tally weight' threads :=
  Finset.sum_le_sum fun i _ => le (threads i)

theorem tally_eq_zero {weight : α → Nat} {threads : Fin n → α}
    (none : ∀ i, weight (threads i) = 0) : tally weight threads = 0 :=
  Finset.sum_eq_zero (fun i _ => none i)

/-- Threads that weigh at most one each weigh at most as much as there are threads. -/
theorem tally_le_count {weight : α → Nat} (le : ∀ a, weight a ≤ 1) (threads : Fin n → α) :
    tally weight threads ≤ n := by
  have bound : tally weight threads ≤ ∑ _ : Fin n, 1 :=
    Finset.sum_le_sum fun i _ => le (threads i)
  rwa [← Finset.card_eq_sum_ones, Finset.card_univ, Fintype.card_fin] at bound

end Tally
