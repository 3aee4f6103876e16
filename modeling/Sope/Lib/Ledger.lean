import Mathlib.Algebra.BigOperators.Group.Finset.Basic
import Mathlib.Algebra.BigOperators.Group.Finset.Piecewise
import Mathlib.Algebra.Order.Group.Defs
import Mathlib.Data.Fintype.BigOperators
import Mathlib.Tactic.Abel

set_option autoImplicit false

/- Balances over any finite set of holders, in any commutative group of amounts.
Amounts may be negative: `move` with a negative amount takes money from the
destination. -/
namespace Ledger

variable {ι M : Type} [DecidableEq ι]

section Operations

variable [AddCommGroup M]

/-- Take `amount` from `source` and give it to `dest`. -/
def move (balance : ι → M) (source dest : ι) (amount : M) : ι → M :=
  Function.update (Function.update balance dest (balance dest + amount)) source
    (balance source - amount)

@[simp] theorem move_source (balance : ι → M) (source dest : ι) (amount : M) :
    move balance source dest amount source = balance source - amount :=
  Function.update_self ..

@[simp] theorem move_dest (balance : ι → M) {source dest : ι} (amount : M)
    (apart : source ≠ dest) :
    move balance source dest amount dest = balance dest + amount := by
  rw [move, Function.update_of_ne (Ne.symm apart), Function.update_self]

theorem move_of_ne (balance : ι → M) {source dest holder : ι} (amount : M)
    (other : holder ≠ source) (other' : holder ≠ dest) :
    move balance source dest amount holder = balance holder := by
  rw [move, Function.update_of_ne other, Function.update_of_ne other']

variable [Fintype ι]

/-- All the money there is. -/
def total (balance : ι → M) : M := ∑ holder, balance holder

theorem total_update (balance : ι → M) (holder : ι) (amount : M) :
    total (Function.update balance holder amount) = total balance + (amount - balance holder) := by
  have split := Finset.add_sum_erase Finset.univ balance (Finset.mem_univ holder)
  rw [total, Finset.sum_update_of_mem (Finset.mem_univ holder),
    ← Finset.erase_eq, total, ← split]
  abel

/-- Moving money between two different holders keeps the total, whatever the
sign of the amount. -/
theorem total_move (balance : ι → M) {source dest : ι} (amount : M) (apart : source ≠ dest) :
    total (move balance source dest amount) = total balance := by
  rw [move, total_update, total_update, Function.update_of_ne apart]
  abel

/-- A deposit with an empty holder adds exactly what is deposited. -/
theorem total_deposit (balance : ι → M) (holder : ι) (amount : M) (empty : balance holder = 0) :
    total (Function.update balance holder amount) = total balance + amount := by
  rw [total_update, empty, sub_zero]

/-- One step of a ledger into which `deposited` flows: nothing happens, an empty
holder receives a deposit, or money moves between two holders. -/
inductive Step (balance : ι → M) : M → (ι → M) → Prop where
  | stay : Step balance 0 balance
  | deposit (holder : ι) (amount : M) (empty : balance holder = 0) :
      Step balance amount (Function.update balance holder amount)
  | move (source dest : ι) (amount : M) (apart : source ≠ dest) :
      Step balance 0 (move balance source dest amount)

/-- A ledger grows by what is deposited and by nothing else. -/
theorem Step.total_eq {balance balance' : ι → M} {deposited : M}
    (step : Step balance deposited balance') :
    total balance' = total balance + deposited := by
  cases step with
  | stay => rw [add_zero]
  | deposit holder amount empty => exact total_deposit balance holder deposited empty
  | move source dest amount apart => rw [total_move balance amount apart, add_zero]

end Operations

section Order

variable [AddCommGroup M] [LinearOrder M] [IsOrderedAddMonoid M]

/-- A move lowers the destination exactly when its amount is negative. -/
theorem move_dest_lt_iff (balance : ι → M) {source dest : ι} (amount : M)
    (apart : source ≠ dest) :
    move balance source dest amount dest < balance dest ↔ amount < 0 := by
  rw [move_dest balance amount apart, add_lt_iff_neg_left]

/-- Only the two ends of a move can lose. -/
theorem loser_of_move (balance : ι → M) {source dest holder : ι} (amount : M)
    (apart : source ≠ dest)
    (loses : move balance source dest amount holder < balance holder) :
    holder = source ∨ (holder = dest ∧ amount < 0) := by
  by_cases atSource : holder = source
  · exact Or.inl atSource
  by_cases atDest : holder = dest
  · subst atDest
    exact Or.inr ⟨rfl, (move_dest_lt_iff balance amount apart).mp loses⟩
  · rw [move_of_ne balance amount atSource atDest] at loses
    exact absurd loses (lt_irrefl _)

end Order

end Ledger
