import Sope.Forensic.Moves
import Sope.Lib.Pool

set_option autoImplicit false

/- The processes as a pool of workers: the work of a process are the files that it, or
a process that it forks, has still to record. -/
namespace Sope.Forensic

open Machine Banking

def Pc.files : Pc → List File
  | .enter filepath inside => inside.files filepath
  | .scan filepath rest => rest.files filepath
  | .analyze _ file filepath rest => file :: rest.files filepath
  | .waits | .blocked | .finished | .exited | .reaped => []

def Proc.work (proc : Proc) : Multiset File := proc.pc.files

theorem pc_of_dead {proc : Proc} (dead : proc.alive = false) :
    proc.pc = .exited ∨ proc.pc = .reaped := by
  rw [Proc.alive] at dead
  cases here : proc.pc with
  | exited => exact .inl rfl
  | reaped => exact .inr rfl
  | _ => rw [here] at dead; cases dead

theorem work_of_dead {proc : Proc} (dead : proc.alive = false) : proc.work = 0 := by
  rw [Proc.work]
  rcases pc_of_dead dead with here | here <;> rw [here] <;> rfl

/-- What each process has to do: nothing when it has exited, and a `wait` or a read that is
cut short leaves it as it is. -/
structure Workload (β : Type) where
  of : Proc → Multiset β
  dead : ∀ proc, proc.alive = false → of proc = 0
  wait : ∀ proc, proc.pc = .blocked → of { proc with pc := .finished } = of proc
  read : ∀ proc file filepath rest, proc.pc = .analyze .record file filepath rest →
    of { proc with pc := .analyze .cut file filepath rest } = of proc

/-- The files that are to be recorded. -/
def fileWork : Workload File where
  of := Proc.work
  dead _ := work_of_dead
  wait proc here := by
    rw [Proc.work, Proc.work, here]
    rfl
  read proc file filepath rest here := by
    rw [Proc.work, Proc.work, here]
    rfl

@[simp] theorem fileWork_of (proc : Proc) : fileWork.of proc = proc.work := rfl

/-- The files that nobody has recorded yet. -/
def World.left (world : World) : Multiset File := Pool.left Proc.work world.procs

/-- The files that a statement records. -/
def Action.finished : Action → Multiset File
  | .record file _ => {file}
  | _ => 0

/-- The files that a statement leaves to a new process. -/
def Action.handed : Action → Multiset File
  | .fork filepath inside => inside.files filepath
  | _ => 0

def Report.finished : Report → Multiset File
  | .did _ action => action.finished
  | _ => 0

/-- A statement that changes only the process that executes it. -/
def Action.isLocal : Action → Bool
  | .fork _ _ | .reap _ => false
  | _ => true

/-- The process is about to crash behind a read that was cut short. -/
def Pc.isCut : Pc → Bool
  | .analyze .cut _ _ _ => true
  | _ => false

section Moves

variable {options : Options} {tools : Tools} {procs : List Proc} {forks : Bool} {proc : Proc}
  {action : Action} {pc : Pc} {world next : World} {i : Nat}

theorem finished_of_notice (notice : action.isNotice = true) : action.finished = 0 := by
  cases action <;> first | rfl | cases notice

theorem handed_of_local (isLocal : action.isLocal = true) : action.handed = 0 := by
  cases action <;> first | rfl | cases isLocal

theorem isLocal_of_notice (notice : action.isNotice = true) : action.isLocal = true := by
  cases action <;> first | rfl | cases notice

/-- What a statement does to the work of its process. Files are lost where a `fork`
fails, where one has no record, and behind a read that was cut short. -/
theorem ProcMove.work (move : ProcMove options tools procs forks proc action pc) :
    ∃ lost, proc.work = action.finished + lost + pc.files + action.handed ∧
      (action.isLocal = false → lost = 0) ∧
      (action ≠ .forkFails → proc.pc.isCut = false →
        (∀ file ∈ proc.work, ∃ message, outMessage options tools file = .ok message) →
        lost = 0) := by
  cases move with
  | enter filepath inside here | kill file filepath rest here | log file filepath rest here =>
      exact ⟨0, by simp [Proc.work, here, Pc.files, finished_of_notice, handed_of_local,
        isLocal_of_notice], fun _ => rfl, fun _ _ _ => rfl⟩
  | other filepath name rest here =>
      exact ⟨0, by simp [Proc.work, here, Pc.files, Entries.files, Action.finished, Action.handed],
        fun _ => rfl, fun _ _ _ => rfl⟩
  | return_ filepath here | exit filepath here | failed filepath rest here =>
      exact ⟨0, by simp [Proc.work, here, Pc.files, Entries.files, Action.finished, Action.handed],
        fun _ => rfl, fun _ _ _ => rfl⟩
  | file filepath name stat rest here =>
      exact ⟨0, by simp [Proc.work, here, Pc.files, Entries.files, Action.finished, Action.handed],
        fun _ => rfl, fun _ _ _ => rfl⟩
  | hidden filepath name inside rest here dotted =>
      exact ⟨0, by simp [Proc.work, here, Pc.files, Entries.files, Action.finished, Action.handed,
        dotted], fun _ => rfl, fun _ _ _ => rfl⟩
  | fork filepath name inside rest here plain succeeds =>
      refine ⟨0, ?_, fun _ => rfl, fun _ _ _ => rfl⟩
      simp only [Proc.work, here, Pc.files, Entries.files, plain, Bool.false_eq_true, ↓reduceIte,
        Action.finished, Action.handed, zero_add, ← Multiset.coe_add]
      exact add_comm _ _
  | forkFails filepath name inside rest here plain fails =>
      refine ⟨rest.files filepath, ?_, fun shared => (nomatch shared),
        fun succeeds => absurd rfl succeeds⟩
      simp only [Proc.work, here, Pc.files, Entries.files, plain, Bool.false_eq_true, ↓reduceIte,
        Action.finished, Action.handed, zero_add, add_zero, ← Multiset.coe_add]
      exact add_comm _ _
  | record file filepath message rest here out =>
      refine ⟨0, ?_, fun _ => rfl, fun _ _ _ => rfl⟩
      simp [Proc.work, here, Pc.files, Action.finished, Action.handed]
  | stop file filepath rest here out | crash file filepath rest here out =>
      refine ⟨proc.work, by simp [Pc.files, Action.finished, Action.handed],
        fun shared => (nomatch shared), ?_⟩
      intro _ _ recorded
      have member : file ∈ proc.work := by simp [Proc.work, here, Pc.files]
      obtain ⟨message, ok⟩ := recorded file member
      rw [out] at ok
      cases ok
  | cut file filepath rest here =>
      refine ⟨proc.work, by simp [Pc.files, Action.finished, Action.handed],
        fun shared => (nomatch shared), ?_⟩
      intro _ notCut
      rw [here] at notCut
      cases notCut
  | reap child here zombie =>
      refine ⟨0, ?_, fun _ => rfl, fun _ _ _ => rfl⟩
      rcases here with here | here <;>
        simp [Proc.work, here, Pc.files, Action.finished, Action.handed]
  | block here | finish here | leave here =>
      exact ⟨0, by simp [Proc.work, here, Pc.files, Action.finished, Action.handed],
        fun _ => rfl, fun _ _ _ => rfl⟩

@[simp] theorem after_pc : (proc.after options tools pc action).pc = pc := by
  unfold Proc.after
  split
  · split <;> rfl
  all_goals rfl

@[simp] theorem after_parent : (proc.after options tools pc action).parent = proc.parent := by
  unfold Proc.after
  split
  · split <;> rfl
  all_goals rfl

@[simp] theorem after_work : (proc.after options tools pc action).work = pc.files := by
  rw [Proc.work, after_pc]

/-- Apart from `fork` and `wait`, a statement changes one process. -/
theorem tableAfter_local (isLocal : action.isLocal = true) :
    tableAfter options tools procs i proc pc action =
      procs.set i (proc.after options tools pc action) := by
  cases action <;> first | rfl | cases isLocal

/-- The table entry by entry. -/
theorem tableAfter_getElem? (here : procs[i]? = some proc) (j : Nat) :
    (tableAfter options tools procs i proc pc action)[j]? =
      if j = i then some (proc.after options tools pc action)
      else match action with
        | .fork filepath inside =>
            if j = procs.length then some (proc.child i filepath inside) else procs[j]?
        | .reap child => if j = child then procs[j]?.map ({ · with pc := .reaped }) else procs[j]?
        | _ => procs[j]? := by
  obtain ⟨inside, -⟩ := List.getElem?_eq_some_iff.mp here
  have moved : (procs.set i (proc.after options tools pc action))[j]? =
      if j = i then some (proc.after options tools pc action) else procs[j]? := by
    rw [List.getElem?_set]
    by_cases same : i = j
    · rw [if_pos same, if_pos (same ▸ inside), if_pos same.symm]
    · rw [if_neg same, if_neg (Ne.symm same)]
  cases action with
  | fork filepath inside' =>
      dsimp only [tableAfter]
      rw [List.getElem?_append, List.length_set]
      split
      · rename_i old
        have notNew : j ≠ procs.length := by omega
        rw [moved, if_neg notNew]
      · rename_i new
        have notOld : j ≠ i := by omega
        rw [if_neg notOld]
        by_cases last : j = procs.length
        · subst last
          rw [if_pos rfl, Nat.sub_self, List.getElem?_cons_zero]
        · have beyond : [proc.child i filepath inside'].length ≤ j - procs.length := by
            rw [List.length_singleton]
            omega
          rw [if_neg last, List.getElem?_eq_none beyond, List.getElem?_eq_none (by omega)]
  | reap child =>
      dsimp only [tableAfter]
      rw [List.getElem?_set, List.length_modify, List.getElem?_modify]
      by_cases same : i = j
      · rw [if_pos same, if_pos (same ▸ inside), if_pos same.symm]
      · rw [if_neg same, if_neg (Ne.symm same)]
        by_cases reaped : child = j
        · simp [reaped]
        · simp [reaped, Ne.symm reaped]
  | _ => exact moved

/-- A process after a statement: the one that moved, one that did not, one that has been
reaped, or a new one. -/
theorem tableAfter_cases {j : Nat} {other : Proc} (here : procs[i]? = some proc)
    (there : (tableAfter options tools procs i proc pc action)[j]? = some other) :
    (j = i ∧ other = proc.after options tools pc action) ∨
      (j ≠ i ∧ procs[j]? = some other) ∨ (j ≠ i ∧ other.pc = .reaped) ∨
      (j = procs.length ∧ ∃ filepath inside, action = .fork filepath inside ∧
        other = proc.child i filepath inside) := by
  rw [tableAfter_getElem? here] at there
  split at there
  · rename_i same
    cases there
    exact .inl ⟨same, rfl⟩
  · rename_i apart
    cases action with
    | fork filepath inside =>
        dsimp only at there
        split at there
        · rename_i new
          cases there
          exact .inr (.inr (.inr ⟨new, filepath, inside, rfl, rfl⟩))
        · exact .inr (.inl ⟨apart, there⟩)
    | reap child =>
        dsimp only at there
        split at there
        · obtain ⟨gone, -, rfl⟩ := Option.map_eq_some_iff.mp there
          exact .inr (.inr (.inl ⟨apart, rfl⟩))
        · exact .inr (.inl ⟨apart, there⟩)
    | _ => exact .inr (.inl ⟨apart, there⟩)

theorem zombieChild_some {child : Nat} (zombie : zombieChild procs = some child) :
    ∃ zombie, procs[child]? = some zombie ∧ zombie.parent = some 0 ∧ zombie.pc = .exited := by
  obtain ⟨inside, found, -⟩ := List.findIdx?_eq_some_iff_getElem.mp zombie
  rw [Bool.and_eq_true, beq_iff_eq] at found
  refine ⟨procs[child], List.getElem?_eq_getElem inside, found.1, ?_⟩
  have exited := found.2
  unfold Pc.isExited at exited
  split at exited
  · assumption
  · cases exited

/-- Reaping a zombie takes no work away. -/
theorem Workload.reap {β : Type} (load : Workload β) {child : Nat}
    (here : procs[i]? = some proc)
    (same : load.of (proc.after options tools pc (.reap child)) = load.of proc)
    (zombie : zombieChild procs = some child) :
    (tableAfter options tools procs i proc pc (.reap child)).map load.of = procs.map load.of := by
  obtain ⟨zombie, there, -, exited⟩ := zombieChild_some zombie
  have gone : load.of { zombie with pc := .reaped } = load.of zombie := by
    have dead : zombie.alive = false := by
      rw [Proc.alive, exited]
      rfl
    rw [load.dead _ rfl, load.dead _ dead]
  apply List.ext_getElem?
  intro j
  simp only [tableAfter, List.getElem?_map, List.getElem?_set, List.length_modify,
    List.getElem?_modify]
  by_cases moved : i = j
  · subst moved
    obtain ⟨inside, -⟩ := List.getElem?_eq_some_iff.mp here
    rw [if_pos rfl, if_pos inside, here, Option.map_some, Option.map_some, same]
  · rw [if_neg moved]
    by_cases reaped : child = j
    · subst reaped
      rw [there]
      simp [gone]
    · simp [reaped]

/-- Only `wait` reaps, and it is called when the process has no work of its own left. -/
theorem ProcMove.reap_inv {child : Nat}
    (move : ProcMove options tools procs forks proc (.reap child) pc) :
    proc.work = 0 ∧ zombieChild procs = some child ∧ pc = .waits := by
  generalize same : Action.reap child = action at move
  cases move with
  | reap child here zombie =>
      cases same
      rcases here with here | here <;> exact ⟨by rw [Proc.work, here]; rfl, zombie, rfl⟩
  | enter | kill | log =>
      have notice : Action.isNotice (.reap child) = true := by rw [same]; simp
      cases notice
  | _ => cases same

/-- The handler changes neither the processes nor what is pending. -/
theorem handlerStep_frame {report : Report}
    (fired : handlerStep options world = some (next, report)) :
    next.procs = world.procs ∧ next.pending = world.pending ∧
      ∃ signo stage, report = .handled signo stage := by
  cases handlerStep_move fired with
  | count signo outer here => cases signo <;> exact ⟨rfl, rfl, _, _, rfl⟩
  | logUsr1 | logUsr2 | append => exact ⟨rfl, rfl, _, _, rfl⟩

/-- What a new process has to do. -/
def Proc.childWork {β : Type} (load : Workload β) (i : Nat) (proc : Proc) : Action → Multiset β
  | .fork filepath inside => load.of (proc.child i filepath inside)
  | _ => 0

theorem childWork_of_local {β : Type} {load : Workload β} (isLocal : action.isLocal = true) :
    proc.childWork load i action = 0 := by
  cases action <;> first | rfl | cases isLocal

/-- A statement is a step of the pool, once it is known how it splits what its process
has to do. -/
theorem ProcMove.pool {β : Type} (load : Workload β) {finished lost : Multiset β}
    (move : ProcMove options tools procs forks proc action pc) (here : procs[i]? = some proc)
    (split : load.of proc = finished + lost + load.of (proc.after options tools pc action) +
      proc.childWork load i action)
    (shared : action.isLocal = false → finished = 0 ∧ lost = 0) :
    Pool.Step load.of procs finished lost (tableAfter options tools procs i proc pc action) := by
  cases isLocal : action.isLocal with
  | true =>
      rw [childWork_of_local isLocal, add_zero] at split
      rw [tableAfter_local isLocal]
      exact .move i proc _ finished lost here split
  | false =>
      obtain ⟨rfl, rfl⟩ := shared isLocal
      rw [add_zero, zero_add] at split
      cases action with
      | fork filepath inside => exact .share i proc _ _ here split
      | reap child =>
          obtain ⟨-, zombie, rfl⟩ := move.reap_inv
          have same : load.of (proc.after options tools .waits (.reap child)) = load.of proc :=
            (split.trans (add_zero _)).symm
          exact .idle _ (load.reap here same zombie)
      | _ => cases isLocal

/-- A signal that is caught is a step of the pool in which nothing is done. -/
theorem Workload.caught {β : Type} (load : Workload β) {main : Proc}
    {cuts : Bool} (here : world.procs[0]? = some main)
    (goesOn : interrupted tools world cuts main.pc = some pc) :
    Pool.Step load.of world.procs 0 0 (world.procs.set 0 { main with pc }) := by
  refine .move 0 main _ 0 0 here ?_
  rw [add_zero, zero_add]
  rcases interrupted_cases goesOn with ⟨-, blocked, rfl⟩ | ⟨-, -, rfl⟩ |
    ⟨-, file, filepath, rest, reads, rfl⟩
  · exact (load.wait main blocked).symm
  · rfl
  · exact (load.read main file filepath rest reads).symm

/-- So is a statement of `sig_handler`. -/
theorem Workload.handled {β : Type} (load : Workload β) {report : Report}
    (fired : handlerStep options world = some (next, report)) :
    Pool.Step load.of world.procs 0 0 next.procs := by
  rw [(handlerStep_frame fired).1]
  exact .idle _ rfl

/-- Nothing is left when all processes have exited. -/
theorem Workload.left_eq_zero {β : Type} (load : Workload β)
    (ended : ∀ proc ∈ procs, proc.alive = false) : Pool.left load.of procs = 0 :=
  Pool.left_eq_zero fun proc member => load.dead proc (ended proc member)

/-- No process stands behind a read that was cut short. -/
def World.Uncut (world : World) : Prop := ∀ proc ∈ world.procs, proc.pc.isCut = false

/-- A statement leads nowhere behind a read that was cut short. -/
theorem ProcMove.uncut (move : ProcMove options tools procs forks proc action pc) :
    pc.isCut = false := by
  cases move <;> rfl

/-- Only a signal that is caught in a read cuts it short. -/
theorem WorldMove.uncut {label : Label} {report : Report} (before : world.Uncut)
    (move : WorldMove options tools world label next report) (whole : label.cuts = false) :
    next.Uncut := by
  intro other member
  cases move with
  | process i forks proc action pc here free move =>
      obtain ⟨j, there⟩ := List.getElem?_of_mem member
      rcases tableAfter_cases here there with ⟨-, rfl⟩ | ⟨-, old⟩ | ⟨-, reaped⟩ |
        ⟨-, filepath, inside, -, rfl⟩
      · rw [after_pc]
        exact move.uncut
      · exact before other (List.mem_of_getElem? old)
      · rw [reaped]
        rfl
      · rfl
  | deliver signo cuts main pc here alive pending unblocked goesOn =>
      rcases List.mem_or_eq_of_mem_set member with old | rfl
      · exact before other old
      · rcases interrupted_cases goesOn with ⟨-, -, rfl⟩ | ⟨-, -, rfl⟩ | ⟨cut, -⟩
        · rfl
        · exact before main (List.mem_of_getElem? here)
        · rw [Label.cuts, cut] at whole
          cases whole
  | handler next report fired =>
      rw [(handlerStep_frame fired).1] at member
      exact before other member

/-- Every step is a step of the pool. -/
theorem WorldMove.pool {label : Label} {report : Report}
    (move : WorldMove options tools world label next report) :
    ∃ lost, Pool.Step Proc.work world.procs report.finished lost next.procs ∧
      ((∀ i, report ≠ .did i .forkFails) → world.Uncut →
        (∀ file ∈ world.left, ∃ message, outMessage options tools file = .ok message) →
        lost = 0) := by
  cases move with
  | process i forks proc action pc here free move =>
      obtain ⟨lost, split, shared, none⟩ := move.work
      have within : proc.work ≤ world.left := Pool.work_le_left (List.mem_of_getElem? here)
      have kept : (∀ i', Report.did i action ≠ .did i' .forkFails) → world.Uncut →
          (∀ file ∈ world.left, ∃ message, outMessage options tools file = .ok message) →
          lost = 0 := by
        intro succeeds uncut recorded
        exact none (fun fails => succeeds i (by rw [fails]))
          (uncut proc (List.mem_of_getElem? here)) fun file member => recorded file (Multiset.mem_of_le within member)
      have split' : fileWork.of proc = action.finished + lost +
          fileWork.of (proc.after options tools pc action) + proc.childWork fileWork i action := by
        rw [fileWork_of, fileWork_of, split, after_work]
        cases action <;> rfl
      refine ⟨lost, move.pool fileWork here split' fun isShared => ?_, kept⟩
      refine ⟨?_, shared isShared⟩
      cases action <;> first | rfl | cases isShared
  | deliver signo cuts main pc here alive pending unblocked goesOn =>
      exact ⟨0, fileWork.caught here goesOn, fun _ _ _ => rfl⟩
  | handler next report fired =>
      obtain ⟨-, -, signo, stage, rfl⟩ := handlerStep_frame fired
      exact ⟨0, fileWork.handled fired, fun _ _ _ => rfl⟩

/-- In a run in which no read is cut short no process stands behind one. -/
theorem forensic_uncut {filepath : CString} {start : Start} {labels : List Label}
    {events : List ForensicEvent} {world : World}
    (ran : forensic options tools filepath start labels = some (events, world))
    (whole : ∀ event ∈ events, event.input.cuts = false) : world.Uncut := by
  refine run_induction ran (fun past world => (∀ event ∈ past, event.input.cuts = false) →
    world.Uncut) (fun _ => ?_) ?_ whole
  · intro proc member
    rw [List.mem_singleton.mp member]
    cases start <;> rfl
  · intro past now label report next _ _ before fired whole
    refine (step_move fired).uncut (before fun event member => ?_) ?_
    · exact whole event (List.mem_append_left _ member)
    · exact whole ⟨now, label, report, next⟩ (List.mem_append_right _ List.mem_cons_self)

/-- A whole run, seen as a run of the pool. -/
theorem forensic_pool {β : Type} (load : Workload β)
    (finished lost : ForensicEvent → List β) {filepath : CString} {start : Start}
    {labels : List Label} {events : List ForensicEvent} {world : World}
    (ran : forensic options tools filepath start labels = some (events, world))
    (steps : ∀ event ∈ events,
      WorldMove options tools event.before event.input event.after event.output →
      Pool.Step load.of event.before.procs (finished event) (lost event) event.after.procs) :
    ((events.flatMap finished : List β) : Multiset β) + (events.flatMap lost : List β) +
        Pool.left load.of world.procs =
      Pool.left load.of (initialWorld filepath start).procs := by
  refine run_induction ran (fun past world => (∀ event ∈ past,
      WorldMove options tools event.before event.input event.after event.output →
      Pool.Step load.of event.before.procs (finished event) (lost event) event.after.procs) →
    ((past.flatMap finished : List β) : Multiset β) + (past.flatMap lost : List β) +
        Pool.left load.of world.procs =
      Pool.left load.of (initialWorld filepath start).procs) (fun _ => ?_) ?_ steps
  · simp
  · intro past now label report next _ _ before fired steps
    have conserved := (steps ⟨now, label, report, next⟩ (by simp) (step_move fired)).conserved
    rw [← before fun event member => steps event (List.mem_append_left _ member), ← conserved,
      List.flatMap_append, List.flatMap_append, List.flatMap_singleton, List.flatMap_singleton,
      ← Multiset.coe_add, ← Multiset.coe_add]
    ac_rfl

end Moves

end Sope.Forensic
