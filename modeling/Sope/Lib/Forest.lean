import Mathlib.Data.List.Basic

set_option autoImplicit false

/- Numbered nodes, each with a parent of a smaller number, down to a root with number
zero. -/
namespace Forest

/-- Where every node that is alive, the root apart, has a parent that is alive too,
and no child of the root is alive, only the root can be. -/
theorem only_root (alive : Nat → Prop) (parent : Nat → Nat)
    (kept : ∀ i, alive i → i ≠ 0 → parent i < i ∧ alive (parent i))
    (childless : ∀ i, alive i → i ≠ 0 → parent i ≠ 0) (i : Nat) (here : alive i) : i = 0 := by
  induction i using Nat.strongRecOn with
  | ind i ih =>
      by_contra other
      obtain ⟨below, parentAlive⟩ := kept i here other
      exact childless i here other (ih (parent i) below parentAlive)

end Forest
