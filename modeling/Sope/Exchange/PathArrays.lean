import Sope.Exchange.Path
import Sope.Lib.Buffer

set_option autoImplicit false

/- The paths that the two sides format for the FIFO of a user, and the arrays they
format them into. -/
namespace Sope.Exchange

open Banking CharArray

/-- `SERVER_FIFO_PATH`. -/
def serverFifoPath : CString :=
  ['/', 't', 'm', 'p', '/', 's', 'e', 'c', 'u', 'r', 'e', '_', 's', 'r', 'v']

/-- `USER_FIFO_PATH_LEN`. The size of the prefix counts its terminator. -/
def userFifoPathLen : Nat := (userFifoPathPrefix.length + 1) + widthId + 1

/-- The path that `open_user_fifo` opens, in the server. -/
def openUserFifoPath (pid : Int32) : CString :=
  userFifoPathPrefix ++ paddedDecimal widthId pid.toInt

/-- The path that `get_user_fifo_path` gives the client. -/
def getUserFifoPath (pid : Int32) : CString :=
  userFifoPathPrefix ++ paddedDecimal widthId pid.toInt

/-- `fifo_path` of `open_user_fifo`; `none` where a character is written outside. -/
def Arrays.openUserFifo (pid : Int32) (fifoPath : Buffer userFifoPathLen) :
    Option (Buffer userFifoPathLen) :=
  fifoPath.copy 0 (openUserFifoPath pid)

/-- `get_user_fifo_path` into an array of the caller, which is `user_fifo_path`. -/
def Arrays.getUserFifoPath {n : Nat} (pid : Int32) (fifoPath : Buffer n) : Option (Buffer n) :=
  fifoPath.copy 0 (Exchange.getUserFifoPath pid)

section Paths

variable {width : Nat} {value : Int} {pid : Int32}

theorem mem_paddedDecimal {c : Char} (member : c ∈ paddedDecimal width value) :
    c = '-' ∨ c.isDigit = true := by
  unfold paddedDecimal at member
  dsimp only at member
  split at member
  · exact (List.mem_cons.mp member).imp_right isDigit_of_mem_padded
  · exact .inr (isDigit_of_mem_padded member)

theorem userFifoPath_ne_server (pid : Int32) : userFifoPath pid ≠ serverFifoPath := by
  intro same
  have name : paddedDecimal widthId pid.toInt = ['s', 'r', 'v'] := List.append_cancel_left same
  have letter : 's' ∈ paddedDecimal widthId pid.toInt := by
    rw [name]
    exact List.mem_cons_self
  have impossible := mem_paddedDecimal letter
  revert impossible
  decide

theorem nul_notMem_userFifoPath (pid : Int32) : nul ∉ userFifoPath pid := by
  intro member
  rcases List.mem_append.mp member with inPrefix | inName
  · revert inPrefix
    decide
  · have impossible := mem_paddedDecimal inName
    revert impossible
    decide

/-- Where the path fits its array, it is the string in it. -/
theorem getUserFifoPath_string {n : Nat} {fifoPath fifoPath' : Buffer n}
    (written : Arrays.getUserFifoPath pid fifoPath = some fifoPath') :
    fifoPath'.string = userFifoPath pid :=
  copy_string (nul_notMem_userFifoPath pid) written

/-- The width of a field is a minimum: longer numbers make it longer. -/
theorem length_paddedDecimal_le_iff {digits : Nat} (positive : 0 < digits)
    (padded : width ≤ digits + 1) :
    (paddedDecimal width value).length ≤ digits + 1 ↔
      -10 ^ digits < value ∧ value < 10 ^ (digits + 1) := by
  have magnitude {count : Nat} (more : 0 < count) :
      (Nat.toDigits 10 value.natAbs).length ≤ count ↔ value.natAbs < 10 ^ count :=
    Nat.length_toDigits_le_iff (by decide) more
  have signed := magnitude positive
  have unsigned := magnitude (Nat.succ_pos digits)
  have small : ((10 ^ digits : Nat) : Int) = 10 ^ digits := by norm_cast
  have large : ((10 ^ (digits + 1) : Nat) : Int) = 10 ^ (digits + 1) := by norm_cast
  have aboveZero : 0 < 10 ^ digits := Nat.pow_pos (by decide)
  have aboveZero' : 0 < 10 ^ (digits + 1) := Nat.pow_pos (by decide)
  rw [paddedDecimal, ← small, ← large]
  split
  · rw [List.length_cons, List.length_append, List.length_replicate]
    omega
  · rw [List.length_append, List.length_replicate]
    omega

end Paths

/-- The path of the client and that of the server are the same for one process, and
different for two, and none is the path of the server itself. -/
theorem fifo_paths_eq_iff (pid pid' : Int32) :
    (getUserFifoPath pid = getUserFifoPath pid' ↔ pid = pid') ∧
      (openUserFifoPath pid = openUserFifoPath pid' ↔ pid = pid') ∧
      (getUserFifoPath pid = openUserFifoPath pid' ↔ pid = pid') ∧
      getUserFifoPath pid ≠ serverFifoPath ∧ openUserFifoPath pid ≠ serverFifoPath := by
  have same : userFifoPath pid = userFifoPath pid' ↔ pid = pid' :=
    ⟨userFifoPath_inj, congrArg userFifoPath⟩
  have server : userFifoPath pid ≠ serverFifoPath := userFifoPath_ne_server pid
  exact ⟨same, same, same, server, server⟩

/-- Both arrays have room for the path and its terminator exactly if the number of the
process, a sign counted in, has at most six characters. -/
theorem fifo_path_inside_iff (pid : Int32) (fifoPath fifoPath' : Buffer userFifoPathLen) :
    ((Arrays.openUserFifo pid fifoPath).isSome ∧ (Arrays.getUserFifoPath pid fifoPath').isSome) ↔
      -100000 < pid.toInt ∧ pid.toInt < 1000000 := by
  have name : (paddedDecimal widthId pid.toInt).length ≤ 5 + 1 ↔
      -10 ^ 5 < pid.toInt ∧ pid.toInt < 10 ^ (5 + 1) :=
    length_paddedDecimal_le_iff (by decide) (by decide)
  have start : userFifoPathPrefix.length = 12 := rfl
  have room : userFifoPathLen = 19 := rfl
  rw [Arrays.openUserFifo, Arrays.getUserFifoPath, copy_isSome_iff, copy_isSome_iff,
    openUserFifoPath, Exchange.getUserFifoPath, List.length_append, start, room]
  omega

def blankPath : Buffer userFifoPathLen :=
  ⟨List.replicate userFifoPathLen ' ', List.length_replicate⟩

/-- The path of the process 1000000 has 19 characters. -/
theorem million_outside :
    0 ≤ (1000000 : Int32) ∧ ¬ (getUserFifoPath 1000000).length + 1 ≤ userFifoPathLen ∧
      ¬ (openUserFifoPath 1000000).length + 1 ≤ userFifoPathLen ∧
      ¬ (Arrays.openUserFifo 1000000 blankPath).isSome ∧
      ¬ (Arrays.getUserFifoPath 1000000 blankPath).isSome := by
  decide

end Sope.Exchange
