import Mathlib.Data.Multiset.Bind
import Sope.Forensic.Records

set_option autoImplicit false

/- Which files are analysed when `fork` may fail: a process that cannot fork walks the
subdirectory itself and exits then, so what its directory still lists is lost. -/
namespace Sope.Forensic

open Machine Banking

/-- `analyze_file` returns. -/
def hasRecord (options : Options) (tools : Tools) (file : File) : Bool :=
  match outMessage options tools file with
  | .ok _ => true
  | .error _ => false

section Reached

-- The files on which `analyze_file` returns; on the others it ends the process.
variable (returns : File → Bool)

/-- The files that `analyze_file` is called with below a directory when every `fork`
succeeds. -/
def Entries.reached (filepath : CString) : Entries → List File
  | .done | .failed _ => []
  | .file name stat rest =>
      ⟨entryPath filepath name, stat⟩ ::
        if returns ⟨entryPath filepath name, stat⟩ then rest.reached filepath else []
  | .other _ rest => rest.reached filepath
  | .dir name inside rest =>
      (if isHidden name then [] else inside.reached (entryPath filepath name)) ++
        rest.reached filepath

def Pc.reached : Pc → List File
  | .enter filepath inside => inside.reached returns filepath
  | .scan filepath rest => rest.reached returns filepath
  | .analyze _ file filepath rest =>
      file :: if returns file then rest.reached returns filepath else []
  | .waits | .blocked | .finished | .exited | .reaped => []

def Proc.reached (proc : Proc) : Multiset File := proc.pc.reached returns

def reachedWork : Workload File where
  of := Proc.reached returns
  dead proc gone := by
    rw [Proc.reached]
    rcases pc_of_dead gone with here | here <;> rw [here] <;> rfl
  wait proc here := by
    rw [Proc.reached, Proc.reached, here]
    rfl
  read proc file filepath rest here := by
    rw [Proc.reached, Proc.reached, here]
    rfl

/-- What is listed behind the subdirectory that a process is at. -/
def Pc.remaining : Pc → List File
  | .scan filepath (.dir _ _ rest) => rest.reached returns filepath
  | _ => []

/-- What is listed behind the file on which a read was cut short. -/
def Pc.cutOff : Pc → List File
  | .analyze .cut file filepath rest => if returns file then rest.reached returns filepath else []
  | _ => []

end Reached

/-- The file that a process has now gone through `analyze_file` with. -/
def Pc.analysed : Pc → Option File
  | .analyze .record file _ _ | .analyze .cut file _ _ => some file
  | _ => none

/-- The process that moves in a step. -/
def mover (event : ForensicEvent) : Option Proc :=
  match event.output with
  | .did i _ => event.before.procs[i]?
  | _ => none

def analysed (event : ForensicEvent) : Option File :=
  (mover event).bind fun proc => proc.pc.analysed

/-- The directory for which `fork` fails in a step. -/
def Pc.subdirectory : Pc → Option CString
  | .scan filepath (.dir name _ _) => some (entryPath filepath name)
  | _ => none

def failedFork (event : ForensicEvent) : Option CString :=
  match event.output with
  | .did _ .forkFails => (mover event).bind fun proc => proc.pc.subdirectory
  | _ => none

/-- What is still listed in the directory where `fork` fails in a step. -/
def remaining (options : Options) (tools : Tools) (event : ForensicEvent) : List File :=
  match event.output with
  | .did _ .forkFails =>
      ((mover event).map fun proc => proc.pc.remaining (hasRecord options tools)).getD []
  | _ => []

/-- What was listed behind the file on which the process crashes in a step, because a signal
cut a read short. -/
def cutOff (options : Options) (tools : Tools) (event : ForensicEvent) : List File :=
  ((mover event).map fun proc => proc.pc.cutOff (hasRecord options tools)).getD []

/-- What is lost in a step. -/
def leftOut (options : Options) (tools : Tools) (event : ForensicEvent) : List File :=
  remaining options tools event ++ cutOff options tools event

section Moves

variable {options : Options} {tools : Tools} {procs : List Proc} {forks : Bool} {proc : Proc}
  {action : Action} {pc : Pc} {world next : World} {label : Label} {report : Report} {i : Nat}

theorem hasRecord_eq {file : File} :
    hasRecord options tools file = true ↔
      ∃ message, outMessage options tools file = .ok message := by
  unfold hasRecord
  cases outMessage options tools file <;> simp

/-- The files that a statement loses where `fork` fails. -/
def Pc.unforked (returns : File → Bool) (pc : Pc) : Action → List File
  | .forkFails => pc.remaining returns
  | _ => []

/-- The multiset that a statement loses: what remains where `fork` fails, and what is listed
behind a read that was cut short. -/
def Pc.lost (returns : File → Bool) (pc : Pc) (action : Action) : Multiset File :=
  pc.unforked returns action + pc.cutOff returns

theorem unforked_of_notice {returns : File → Bool} (notice : action.isNotice = true) (here : Pc) :
    here.unforked returns action = [] := by
  cases action <;> first | rfl | cases notice

/-- What a statement does to the files that its process is going to reach. -/
theorem ProcMove.reached (move : ProcMove options tools procs forks proc action pc) (i : Nat) :
    proc.reached (hasRecord options tools) =
      (proc.pc.analysed.toList : Multiset File) + proc.pc.lost (hasRecord options tools) action +
        (proc.after options tools pc action).reached (hasRecord options tools) +
        proc.childWork (reachedWork (hasRecord options tools)) i action := by
  cases move with
  | enter filepath inside here | kill file filepath rest here | log file filepath rest here =>
      simp [Proc.reached, here, Pc.reached, Pc.analysed, Pc.lost, Pc.cutOff, unforked_of_notice, childWork_of_local,
        isLocal_of_notice]
  | other filepath name rest here | return_ filepath here | exit filepath here
  | failed filepath rest here | file filepath name stat rest here =>
      simp [Proc.reached, here, Pc.reached, Entries.reached, Pc.analysed, Pc.lost, Pc.cutOff, Pc.unforked, Proc.childWork]
  | hidden filepath name inside rest here dotted =>
      simp [Proc.reached, here, Pc.reached, Entries.reached, Pc.analysed, Pc.lost, Pc.cutOff, Pc.unforked, Proc.childWork,
        dotted]
  | fork filepath name inside rest here plain succeeds =>
      simp only [Proc.reached, here, Pc.reached, Entries.reached, plain, Bool.false_eq_true,
        ↓reduceIte, Pc.analysed, Pc.lost, Pc.cutOff, Pc.unforked, Proc.childWork, Proc.child, after_pc, Option.toList_none,
        Multiset.coe_nil, zero_add, ← Multiset.coe_add]
      exact add_comm _ _
  | forkFails filepath name inside rest here plain fails =>
      simp only [Proc.reached, here, Pc.reached, Entries.reached, plain, Bool.false_eq_true,
        ↓reduceIte, Pc.analysed, Pc.lost, Pc.cutOff, Pc.unforked, Pc.remaining, Proc.childWork, after_pc,
        Option.toList_none, Multiset.coe_nil, zero_add, add_zero, ← Multiset.coe_add]
      exact add_comm _ _
  | record file filepath message rest here out =>
      have returns : hasRecord options tools file = true := hasRecord_eq.mpr ⟨message, out⟩
      simp [Proc.reached, here, Pc.reached, Pc.analysed, Pc.lost, Pc.cutOff, Pc.unforked, Proc.childWork, returns]
  | stop file filepath rest here out | crash file filepath rest here out =>
      have ends : hasRecord options tools file = false := by rw [hasRecord, out]
      simp [Proc.reached, here, Pc.reached, Pc.analysed, Pc.lost, Pc.cutOff, Pc.unforked, Proc.childWork, ends]
  | cut file filepath rest here =>
      simp [Proc.reached, here, Pc.reached, Pc.analysed, Pc.lost, Pc.cutOff, Pc.unforked,
        Proc.childWork]
  | reap child here zombie =>
      rcases here with here | here <;>
        simp [Proc.reached, here, Pc.reached, Pc.analysed, Pc.lost, Pc.cutOff, Pc.unforked, Proc.childWork]
  | block here | finish here | leave here =>
      simp [Proc.reached, here, Pc.reached, Pc.analysed, Pc.lost, Pc.cutOff, Pc.unforked, Proc.childWork]

/-- A `fork` and a `wait` are no part of `analyze_file`. -/
theorem ProcMove.analysed_of_shared (move : ProcMove options tools procs forks proc action pc)
    (isShared : action.isLocal = false) : proc.pc.analysed = none := by
  cases move with
  | enter | kill | log => rw [isLocal_of_notice (by simp)] at isShared; cases isShared
  | fork filepath name inside rest here plain succeeds => rw [here]; rfl
  | reap child here zombie => rcases here with here | here <;> rw [here] <;> rfl
  | _ => cases isShared

/-- Nothing is cut off outside of `analyze_file`. -/
theorem cutOff_of_none {returns : File → Bool} {pc : Pc} (outside : pc.analysed = none) :
    pc.cutOff returns = [] := by
  unfold Pc.cutOff
  split
  · cases outside
  · rfl

/-- Every step is a step of the pool of files that are still to be reached. -/
theorem WorldMove.reached_pool (move : WorldMove options tools world label next report) :
    Pool.Step (reachedWork (hasRecord options tools)).of world.procs
      (analysed ⟨world, label, report, next⟩).toList
      (leftOut options tools ⟨world, label, report, next⟩) next.procs := by
  cases move with
  | process i forks proc action pc here free move =>
      have lost : ((leftOut options tools ⟨world, .process i forks,
          .did i action, world.perform options tools i proc pc action⟩ : List File) :
          Multiset File) = proc.pc.lost (hasRecord options tools) action := by
        rw [leftOut, ← Multiset.coe_add, Pc.lost]
        cases action <;> simp [remaining, cutOff, mover, here, Pc.unforked]
      have finished : analysed ⟨world, .process i forks, .did i action,
          world.perform options tools i proc pc action⟩ = proc.pc.analysed := by
        simp [analysed, mover, here]
      rw [lost, finished]
      refine move.pool (reachedWork (hasRecord options tools)) here (move.reached i) ?_
      intro isShared
      have outside := move.analysed_of_shared isShared
      refine ⟨by rw [outside]; rfl, ?_⟩
      rw [Pc.lost, cutOff_of_none outside]
      cases action <;> first | rfl | cases isShared
  | deliver signo cuts main pc here alive pending unblocked goesOn =>
      exact (reachedWork (hasRecord options tools)).caught here goesOn
  | handler next report fired =>
      obtain ⟨-, -, signo, stage, rfl⟩ := handlerStep_frame fired
      exact (reachedWork (hasRecord options tools)).handled fired

end Moves

section Runs

variable {options : Options} {tools : Tools} {filepath : CString} {inside : Entries}
  {labels : List Label} {events : List ForensicEvent} {world : World}

/-- The files analysed so far, those left out so far and those still to be reached are the
files that are reached when every `fork` succeeds. -/
theorem forensic_analysed
    (ran : forensic options tools filepath (.dir inside) labels = some (events, world)) :
    ((events.filterMap analysed : List File) : Multiset File) +
        (events.flatMap (leftOut options tools) : List File) +
        Pool.left (reachedWork (hasRecord options tools)).of world.procs =
      inside.reached (hasRecord options tools) filepath := by
  have kept := forensic_pool (reachedWork (hasRecord options tools))
    (fun event => (analysed event).toList) (leftOut options tools) ran
    fun event _ move => move.reached_pool
  rw [← List.filterMap_eq_flatMap_toList] at kept
  rw [kept, initialWorld, Pool.left_singleton]
  rfl

/-- Once all processes have ended, each file has been analysed or left out. -/
theorem forensic_analysed_or_lost
    (ran : forensic options tools filepath (.dir inside) labels = some (events, world))
    (ended : ∀ proc ∈ world.procs, proc.alive = false) :
    ((events.filterMap analysed : List File) : Multiset File) +
        (events.flatMap (leftOut options tools) : List File) =
      inside.reached (hasRecord options tools) filepath := by
  have kept := forensic_analysed ran
  rwa [(reachedWork _).left_eq_zero ended, add_zero] at kept

end Runs

/-- The file lies in the directory or below it. -/
def LiesIn (directory : CString) (file : File) : Prop :=
  ∃ name, file.path = entryPath directory name

/-- A run analyses, as often as it is listed, each file that is analysed when every `fork`
succeeds: those outside of the subdirectories whose `fork` failed, and those that remain
in a directory when a `fork` fails there. Files that are left out behind a read cut short
are no loss of a `fork`. -/
structure LosesNoFile (options : Options) (tools : Tools) (filepath : CString)
    (inside : Entries) (events : List ForensicEvent) : Prop where
  outside : ∀ file,
    (∀ event ∈ events, ∀ directory ∈ failedFork event, ¬ LiesIn directory file) →
    (events.filterMap analysed).count file + (events.flatMap (cutOff options tools)).count file =
      (inside.reached (hasRecord options tools) filepath).count file
  behind : ∀ event ∈ events, ∀ file ∈ remaining options tools event,
    (events.filterMap analysed).count file + (events.flatMap (cutOff options tools)).count file =
      (inside.reached (hasRecord options tools) filepath).count file

section Loss

variable {options : Options} {tools : Tools} {filepath : CString} {inside : Entries}
  {labels : List Label} {events : List ForensicEvent} {world : World}

theorem flatMap_leftOut (events : List ForensicEvent) :
    ((events.flatMap (leftOut options tools) : List File) : Multiset File) =
      (events.flatMap (remaining options tools) : List File) +
        (events.flatMap (cutOff options tools) : List File) := by
  simp only [← Multiset.coe_bind, leftOut, ← Multiset.coe_add, Multiset.bind_add]

/-- Where nothing remains at a failed `fork`, the files that are reached have been analysed
or cut off. -/
theorem analysed_of_none_remains
    (ran : forensic options tools filepath (.dir inside) labels = some (events, world))
    (ended : ∀ proc ∈ world.procs, proc.alive = false)
    (none : ∀ event ∈ events, remaining options tools event = []) :
    (events.filterMap analysed ++ events.flatMap (cutOff options tools)).Perm
      (inside.reached (hasRecord options tools) filepath) := by
  have split := forensic_analysed_or_lost ran ended
  rw [flatMap_leftOut, List.flatMap_eq_nil_iff.mpr none, Multiset.coe_nil, zero_add,
    Multiset.coe_add, Multiset.coe_eq_coe] at split
  exact split

/-- Without a failed `fork` nothing remains at one. -/
theorem none_remains (forked : ∀ event ∈ events, ∀ i, event.output ≠ .did i .forkFails) :
    ∀ event ∈ events, remaining options tools event = [] := by
  intro event member
  unfold remaining
  split
  · rename_i i failed
    exact absurd failed (forked event member i)
  · rfl

/-- A file that remains where a `fork` fails has been lost once. -/
theorem LosesNoFile.behind_eq_nil (kept : LosesNoFile options tools filepath inside events)
    (ran : forensic options tools filepath (.dir inside) labels = some (events, world))
    (ended : ∀ proc ∈ world.procs, proc.alive = false) {event : ForensicEvent}
    (member : event ∈ events) : remaining options tools event = [] := by
  by_contra some
  obtain ⟨file, rest, cons⟩ := List.exists_cons_of_ne_nil some
  have listed : file ∈ remaining options tools event := by
    rw [cons]
    exact List.mem_cons_self
  have same := kept.behind event member file listed
  have counts := congrArg (Multiset.count file) (forensic_analysed_or_lost ran ended)
  rw [flatMap_leftOut, Multiset.count_add, Multiset.count_add, Multiset.coe_count,
    Multiset.coe_count, Multiset.coe_count, Multiset.coe_count, ← same] at counts
  have lost : 0 < (events.flatMap (remaining options tools)).count file :=
    List.count_pos_iff.mpr (List.mem_flatMap.mpr ⟨event, member, listed⟩)
  omega

end Loss

/-- When all processes have ended, no file is lost exactly if no `fork` has failed where
files remained to be analysed. -/
theorem loses_no_file_iff (options : Options) (tools : Tools) (filepath : CString)
    (inside : Entries) (labels : List Label) {events : List ForensicEvent} {world : World}
    (ran : forensic options tools filepath (.dir inside) labels = some (events, world))
    (ended : ∀ proc ∈ world.procs, proc.alive = false) :
    LosesNoFile options tools filepath inside events ↔
      ∀ event ∈ events, remaining options tools event = [] := by
  constructor
  · intro kept event member
    exact kept.behind_eq_nil ran ended member
  · intro none
    have counts (file : File) := (analysed_of_none_remains ran ended none).count_eq file
    simp only [List.count_append] at counts
    exact ⟨fun file _ => counts file, fun _ _ file _ => counts file⟩

def plainOptions : Options :=
  { sampleOptions with oCommand := none, vCommand := false, hashmode := 0 }

/-- A directory with a file, and another file behind it. -/
def lateTree : Entries :=
  .dir ['d'] (.file ['b'] sampleStat .done) (.file ['a'] sampleStat .done)

/-- No `fork` succeeds. -/
def failingRun : List Label := List.replicate 8 (.process 0 false)

theorem failingRun_loses :
    ∃ events world,
      forensic plainOptions sampleTools ['t'] (.dir lateTree) failingRun = some (events, world) ∧
      (∀ proc ∈ world.procs, proc.alive = false) ∧
      events.filterMap analysed = [⟨['t', '/', 'd', '/', 'b'], sampleStat⟩] ∧
      ¬ LosesNoFile plainOptions sampleTools ['t'] lateTree events := by
  obtain ⟨events, world, ran, ended, files, event, member, lost⟩ : ∃ events world,
      forensic plainOptions sampleTools ['t'] (.dir lateTree) failingRun = some (events, world) ∧
      world.procs.all (fun proc => !proc.alive) = true ∧
      events.filterMap analysed = [⟨['t', '/', 'd', '/', 'b'], sampleStat⟩] ∧
      ∃ event ∈ events, remaining plainOptions sampleTools event =
        [⟨['t', '/', 'a'], sampleStat⟩] :=
    ⟨_, _, rfl, rfl, rfl, _, List.mem_cons_of_mem _ List.mem_cons_self, rfl⟩
  refine ⟨events, world, ran, all_ended ended, files, fun kept => ?_⟩
  have none := kept.behind_eq_nil ran (all_ended ended) member
  rw [lost] at none
  cases none

theorem failingRun_loses_no_file_iff :
    ∃ events world,
      forensic plainOptions sampleTools ['t'] (.dir lateTree) failingRun = some (events, world) ∧
      (LosesNoFile plainOptions sampleTools ['t'] lateTree events ↔
        ∀ event ∈ events, remaining plainOptions sampleTools event = []) := by
  obtain ⟨events, world, ran, ended⟩ : ∃ events world,
      forensic plainOptions sampleTools ['t'] (.dir lateTree) failingRun = some (events, world) ∧
      world.procs.all (fun proc => !proc.alive) = true := ⟨_, _, rfl, rfl⟩
  exact ⟨events, world, ran,
    loses_no_file_iff plainOptions sampleTools ['t'] lateTree failingRun ran (all_ended ended)⟩

end Sope.Forensic
