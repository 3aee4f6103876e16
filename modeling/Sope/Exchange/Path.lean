import Mathlib.Data.List.Basic
import Sope.Banking.Types

set_option autoImplicit false

/- The name of a user's FIFO (`get_user_fifo_path` and `open_user_fifo`). -/
namespace Sope.Exchange

open Banking

/-- `USER_FIFO_PATH_PREFIX`. -/
def userFifoPathPrefix : CString :=
  ['/', 't', 'm', 'p', '/', 's', 'e', 'c', 'u', 'r', 'e', '_']

def widthId : Nat := 5

/-- `printf` with `%0*d`: zeros after the sign fill the field up. -/
def paddedDecimal (width : Nat) (value : Int) : CString :=
  let digits := Nat.toDigits 10 value.natAbs
  if value < 0 then '-' :: (List.replicate (width - 1 - digits.length) '0' ++ digits)
  else List.replicate (width - digits.length) '0' ++ digits

def userFifoPath (pid : Int32) : CString :=
  userFifoPathPrefix ++ paddedDecimal widthId pid.toInt

/-- The padding does not change the number that the digits stand for. -/
theorem ofDigitChars_padded (zeros value : Nat) :
    Nat.ofDigitChars 10 (List.replicate zeros '0' ++ Nat.toDigits 10 value) 0 = value := by
  rw [Nat.ofDigitChars_append, Nat.ofDigitChars_replicate_zero, Nat.mul_zero,
    Nat.ofDigitChars_ten_toDigits]

theorem padded_inj {zeros zeros' value value' : Nat}
    (same : List.replicate zeros '0' ++ Nat.toDigits 10 value =
      List.replicate zeros' '0' ++ Nat.toDigits 10 value') : value = value' := by
  have values := congrArg (Nat.ofDigitChars 10 · 0) same
  simpa only [ofDigitChars_padded] using values

theorem isDigit_of_mem_padded {zeros value : Nat} {c : Char}
    (member : c ∈ List.replicate zeros '0' ++ Nat.toDigits 10 value) : c.isDigit = true := by
  rcases List.mem_append.mp member with zero | digit
  · rw [List.eq_of_mem_replicate zero]
    rfl
  · exact Nat.isDigit_of_mem_toDigits (by decide) (by decide) digit

theorem minus_not_in_padded {zeros value : Nat} :
    '-' ∉ List.replicate zeros '0' ++ Nat.toDigits 10 value := by
  intro member
  have isDigit := isDigit_of_mem_padded member
  revert isDigit
  decide

theorem paddedDecimal_inj {width width' : Nat} {value value' : Int}
    (same : paddedDecimal width value = paddedDecimal width' value') : value = value' := by
  unfold paddedDecimal at same
  dsimp only at same
  split at same
  · split at same
    · have magnitudes := padded_inj (List.cons.inj same).2
      omega
    · exact absurd (same ▸ List.mem_cons_self) minus_not_in_padded
  · split at same
    · exact absurd (same ▸ List.mem_cons_self) minus_not_in_padded
    · have magnitudes := padded_inj same
      omega

/-- Different processes have different FIFOs. -/
theorem userFifoPath_inj {pid pid' : Int32} (same : userFifoPath pid = userFifoPath pid') :
    pid = pid' :=
  Int32.toInt_inj.mp (paddedDecimal_inj (List.append_cancel_left same))

end Sope.Exchange
