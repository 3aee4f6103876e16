import Sope.Forensic.Record

set_option autoImplicit false

/- The instants in the log (`log_command`). -/
namespace Sope.Forensic

open Banking

/-- `struct timeval`, as `gettimeofday` fills it. -/
structure Timeval where
  tvSec : Int
  tvUsec : Int
  nonneg : 0 ≤ tvUsec
  below : tvUsec < 1000000

/-- `inst`, of which no fraction is left by the division of integers. -/
def inst (startTime timeNow : Timeval) : Int := (timeNow.tvUsec - startTime.tvUsec).tdiv 1000

/-- `log_out`; `%0.02f` prints an integer with two zeros behind the point. -/
def logOut (startTime timeNow : Timeval) (pid : Nat) (command : CString) : CString :=
  "inst:".toList ++ decimal (inst startTime timeNow) ++ ".00".toList ++
    " - pid: ".toList ++ decimal pid ++ " - act: ".toList ++ command ++ ['\n']

/-- Microseconds since the epoch. -/
def Timeval.micros (time : Timeval) : Int := time.tvSec * 1000000 + time.tvUsec

/-- Whole milliseconds since the start. -/
def elapsed (startTime timeNow : Timeval) : Int := (timeNow.micros - startTime.micros) / 1000

section One

variable {startTime timeNow : Timeval}

/-- The difference of the microseconds alone, rounded towards zero. -/
theorem inst_cases (startTime timeNow : Timeval) :
    (startTime.tvUsec ≤ timeNow.tvUsec ∧
        inst startTime timeNow = (timeNow.tvUsec - startTime.tvUsec) / 1000) ∨
      (timeNow.tvUsec < startTime.tvUsec ∧
        inst startTime timeNow = -((startTime.tvUsec - timeNow.tvUsec) / 1000)) := by
  unfold inst
  by_cases order : startTime.tvUsec ≤ timeNow.tvUsec
  · exact .inl ⟨order, Int.tdiv_eq_ediv_of_nonneg (by omega)⟩
  · right
    refine ⟨by omega, ?_⟩
    rw [← Int.neg_sub, Int.neg_tdiv, Int.tdiv_eq_ediv_of_nonneg (by omega)]

/-- In the second of the start the microseconds are enough. -/
theorem inst_of_same (later : startTime.micros ≤ timeNow.micros)
    (same : timeNow.tvSec = startTime.tvSec) :
    inst startTime timeNow = elapsed startTime timeNow := by
  unfold elapsed
  unfold Timeval.micros at later ⊢
  rcases inst_cases startTime timeNow with ⟨order, value⟩ | ⟨order, value⟩
  · rw [value]
    congr 1
    omega
  · omega

/-- In any later second they are not. -/
theorem inst_lt_elapsed (later : startTime.tvSec < timeNow.tvSec) :
    inst startTime timeNow < elapsed startTime timeNow := by
  have startNonneg := startTime.nonneg
  have startBelow := startTime.below
  have nowNonneg := timeNow.nonneg
  have nowBelow := timeNow.below
  unfold elapsed Timeval.micros
  rcases inst_cases startTime timeNow with ⟨order, value⟩ | ⟨order, value⟩
  · rw [value]
    omega
  · rw [value]
    omega

theorem inst_eq_elapsed_iff (later : startTime.micros ≤ timeNow.micros) :
    inst startTime timeNow = elapsed startTime timeNow ↔ timeNow.tvSec = startTime.tvSec := by
  refine ⟨fun right => ?_, inst_of_same later⟩
  by_contra other
  have startBelow := startTime.below
  have nowBelow := timeNow.below
  have startNonneg := startTime.nonneg
  have nowNonneg := timeNow.nonneg
  have after : startTime.tvSec < timeNow.tvSec := by
    unfold Timeval.micros at later
    omega
  exact absurd right (Int.ne_of_lt (inst_lt_elapsed after))

end One

/-- The instants of a run: `times` are those at which `log_command` is called, in order. -/
structure Measures (startTime : Timeval) (times : List Timeval) : Prop where
  right : ∀ timeNow ∈ times, inst startTime timeNow = elapsed startTime timeNow
  nonneg : ∀ timeNow ∈ times, 0 ≤ inst startTime timeNow
  ordered : times.Pairwise fun before after => inst startTime before ≤ inst startTime after

section Runs

variable {startTime : Timeval} {times : List Timeval}

theorem elapsed_mono {before after : Timeval} (order : before.micros ≤ after.micros) :
    elapsed startTime before ≤ elapsed startTime after :=
  Int.ediv_le_ediv (by decide) (Int.sub_le_sub_right order _)

/-- The instants of a run measure the time since the start exactly if the run does not
leave the second in which it has started. -/
theorem measures_iff (startTime : Timeval) (times : List Timeval)
    (later : ∀ timeNow ∈ times, startTime.micros ≤ timeNow.micros)
    (inOrder : times.Pairwise fun before after => before.micros ≤ after.micros) :
    Measures startTime times ↔ ∀ timeNow ∈ times, timeNow.tvSec = startTime.tvSec := by
  constructor
  · intro measures timeNow member
    exact (inst_eq_elapsed_iff (later timeNow member)).mp (measures.right timeNow member)
  · intro same
    have right : ∀ timeNow ∈ times, inst startTime timeNow = elapsed startTime timeNow :=
      fun timeNow member => inst_of_same (later timeNow member) (same timeNow member)
    refine ⟨right, fun timeNow member => ?_, ?_⟩
    · rw [right timeNow member]
      exact Int.ediv_nonneg (Int.sub_nonneg.mpr (later timeNow member)) (by decide)
    · refine inOrder.imp_of_mem fun memberBefore memberAfter order => ?_
      rw [right _ memberBefore, right _ memberAfter]
      exact elapsed_mono order

end Runs

/-- A start one millisecond before the end of a second, and the millisecond after. -/
def lateStart : Timeval := ⟨0, 999000, by decide, by decide⟩
def nextSecond : Timeval := ⟨1, 0, by decide, by decide⟩

theorem nextSecond_not_measured :
    lateStart.micros ≤ nextSecond.micros ∧ ¬ Measures lateStart [nextSecond] := by
  refine ⟨by decide, fun measures => ?_⟩
  have negative := measures.nonneg nextSecond List.mem_cons_self
  exact absurd negative (by decide)

theorem nextSecond_measures_iff :
    Measures lateStart [lateStart, nextSecond] ↔
      ∀ timeNow ∈ [lateStart, nextSecond], timeNow.tvSec = lateStart.tvSec :=
  measures_iff lateStart [lateStart, nextSecond] (by decide) (by decide)

end Sope.Forensic
