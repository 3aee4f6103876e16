import Sope.Banking.Reply

set_option autoImplicit false

/- The 32-bit arithmetic of a transfer over the integers: which amounts the two
tests let through, and what is then added and subtracted. -/
namespace Sope.Banking

theorem sub_toNat (a b : UInt32) : (a - b).toNat = (a.toNat + 2 ^ 32 - b.toNat) % 2 ^ 32 := by
  have hb := b.toNat_lt
  rw [UInt32.toNat_sub]
  congr 1
  omega

/-- A word read as a signed integer. -/
theorem toInt32_toInt (word : UInt32) :
    word.toInt32.toInt =
      if word.toNat < 2 ^ 31 then (word.toNat : Int) else word.toNat - 2 ^ 32 := by
  have signed := BitVec.toInt_eq_toNat_cond word.toBitVec
  change word.toInt32.toInt = _ at signed
  have value : word.toBitVec.toNat = word.toNat := rfl
  rw [signed, value]
  split <;> split <;> omega

/-- The funds test passes for the wrapped differences from 1 to 2^31 - 1. -/
theorem noFundsTest_eq_false {sourceBalance amount : UInt32} :
    noFundsTest sourceBalance amount = false ↔
      1 ≤ (sourceBalance - amount).toNat ∧ (sourceBalance - amount).toNat < 2 ^ 31 := by
  have signed := toInt32_toInt (sourceBalance - amount)
  have bound := (sourceBalance - amount).toNat_lt
  have one : minBalance.toUInt32.toInt32.toInt = 1 := by decide
  rw [noFundsTest, decide_eq_false_iff_not, Int32.lt_iff_toInt_lt, signed, one]
  split <;> omega

/-- The ceiling test passes for the wrapped sums up to `MAX_BALANCE`. -/
theorem tooHighTest_eq_false {destBalance amount : UInt32} :
    tooHighTest destBalance amount = false ↔ (destBalance + amount).toNat ≤ maxBalance.toNat := by
  rw [tooHighTest, decide_eq_false_iff_not, gt_iff_lt, UInt64.lt_iff_toNat_lt,
    UInt32.toNat_toUInt64, Nat.not_lt]

/-- The integer that an accepted transfer adds to its destination: the amount, or
the amount less 2^32 when the destination's balance wraps. -/
def movedAmount (destBalance amount : UInt32) : Int :=
  if destBalance.toNat + amount.toNat < 2 ^ 32 then amount.toNat else amount.toNat - 2 ^ 32

theorem add_toNat_moved (destBalance amount : UInt32) :
    ((destBalance + amount).toNat : Int) = destBalance.toNat + movedAmount destBalance amount := by
  have hd := destBalance.toNat_lt
  have ha := amount.toNat_lt
  rw [UInt32.toNat_add, movedAmount]
  split <;> omega

/-- When both balances are below 2^31, the source loses exactly what the
destination gains. -/
theorem sub_toNat_moved {sourceBalance destBalance amount : UInt32}
    (sourceBound : sourceBalance.toNat < 2 ^ 31) (destBound : destBalance.toNat < 2 ^ 31)
    (funds : noFundsTest sourceBalance amount = false)
    (room : tooHighTest destBalance amount = false) :
    ((sourceBalance - amount).toNat : Int) =
      sourceBalance.toNat - movedAmount destBalance amount := by
  have ha := amount.toNat_lt
  have ceiling : maxBalance.toNat = 1000000000 := by decide
  rw [noFundsTest_eq_false, sub_toNat] at funds
  rw [tooHighTest_eq_false, UInt32.toNat_add, ceiling] at room
  rw [sub_toNat, movedAmount]
  split <;> omega

end Sope.Banking
