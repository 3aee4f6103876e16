import Sope.Forensic.Signals
import Sope.Lib.Forest

set_option autoImplicit false

/- The end of the loop around `wait`, and what is left to do then. -/
namespace Sope.Forensic

open Machine Banking

/-- `main` has left its loop and is about to print that the data is saved. -/
def World.loopEnded (world : World) : Prop :=
  ∃ main, world.procs[0]? = some main ∧ main.pc = .finished

/-- No file will be recorded any more. -/
def Complete (options : Options) (tools : Tools) (world : World) : Prop :=
  ∀ labels events last, run (step options tools) world labels = some (events, last) →
    events.filterMap recorded = []

/-- A process other than the first exits before a process that it forked. -/
def leavesChild (event : ForensicEvent) : Bool :=
  match event.output with
  | .did i action => i != 0 && action.ends &&
      event.before.procs.any fun child => child.parent == some i && child.alive
  | _ => false

/-- A signal is caught while `main` is blocked in `wait`. -/
def cutsWait (event : ForensicEvent) : Bool :=
  match event.output with
  | .caught _ => event.before.procs[0]?.any fun main =>
      match main.pc with
      | .blocked => true
      | _ => false
  | _ => false

section Moves

variable {options : Options} {tools : Tools} {world next : World} {label : Label} {report : Report}

/-- What is left never grows. -/
theorem WorldMove.left_le (move : WorldMove options tools world label next report) :
    report.finished + next.left ≤ world.left := by
  obtain ⟨lost, pool, -⟩ := move.pool
  have conserved := pool.conserved
  rw [World.left, World.left, ← conserved, add_right_comm]
  exact Multiset.le_add_right _ _

/-- With nothing left no file is recorded any more. -/
theorem complete_of_left (none : world.left = 0) : Complete options tools world := by
  intro labels events last ran
  have kept := run_induction ran (fun past now => past.filterMap recorded = [] ∧ now.left = 0)
    ⟨rfl, none⟩ ?_
  · exact kept.1
  · rintro past now label report next - - ⟨nothing, none⟩ fired
    have bound := (step_move fired).left_le
    rw [none] at bound
    have finished := Multiset.le_zero.mp ((Multiset.le_add_right _ _).trans bound)
    refine ⟨?_, Multiset.le_zero.mp ((Multiset.le_add_left _ _).trans bound)⟩
    rw [List.filterMap_append, nothing, List.nil_append]
    rw [finished_eq ⟨now, label, report, next⟩] at finished
    cases made : recorded ⟨now, label, report, next⟩ with
    | none => simp [made]
    | some entry => simp [made] at finished

/-- Every process that is alive, the first one apart, was forked by one that is alive and
older. -/
def Kept (world : World) : Prop :=
  ∀ (j : Nat) (proc : Proc), world.procs[j]? = some proc → proc.alive = true → j ≠ 0 →
    ∃ k parent, proc.parent = some k ∧ k < j ∧ world.procs[k]? = some parent ∧ parent.alive = true

/-- Only the first process may be alive. -/
def Alone (world : World) : Prop :=
  ∀ (j : Nat) (proc : Proc), world.procs[j]? = some proc → j ≠ 0 → proc.alive = false

theorem initialWorld_kept (filepath : CString) (start : Start) :
    Kept (initialWorld filepath start) := by
  intro j proc here _ other
  have beyond : (initialWorld filepath start).procs[j]? = none :=
    List.getElem?_eq_none (Nat.one_le_iff_ne_zero.mpr other)
  rw [beyond] at here
  cases here

/-- A process that is alive and does not move stays as it is. -/
theorem tableAfter_of_alive {i k : Nat} {proc other : Proc} {action : Action} {pc : Pc}
    {forks : Bool} (here : world.procs[i]? = some proc)
    (move : ProcMove options tools world.procs forks proc action pc) (apart : k ≠ i)
    (there : world.procs[k]? = some other) (alive : other.alive = true) :
    (tableAfter options tools world.procs i proc pc action)[k]? = some other := by
  obtain ⟨inside, -⟩ := List.getElem?_eq_some_iff.mp there
  rw [tableAfter_getElem? here, if_neg apart]
  cases action with
  | fork filepath inside' =>
      dsimp only
      rw [if_neg (by omega), there]
  | reap child =>
      dsimp only
      split
      · rename_i reaped
        subst reaped
        have dead := move.reaped_not_alive there
        rw [alive] at dead
        cases dead
      · exact there
  | _ => exact there

/-- A process that is alive after a statement was there before, or has been forked. -/
theorem tableAfter_alive {i j : Nat} {proc other : Proc} {action : Action} {pc : Pc}
    (here : world.procs[i]? = some proc) (apart : j ≠ i)
    (there : (tableAfter options tools world.procs i proc pc action)[j]? = some other)
    (alive : other.alive = true) :
    world.procs[j]? = some other ∨
      j = world.procs.length ∧ ∃ filepath inside, action = .fork filepath inside ∧
        other = proc.child i filepath inside := by
  rcases tableAfter_cases here there with ⟨same, -⟩ | ⟨-, old⟩ | ⟨-, reaped⟩ | new
  · exact absurd same apart
  · exact .inl old
  · rw [Proc.alive, reaped] at alive
    cases alive
  · exact .inr new

theorem Kept.process (kept : Kept world) {i : Nat} {proc : Proc} {action : Action} {pc : Pc}
    {forks : Bool} (here : world.procs[i]? = some proc)
    (move : ProcMove options tools world.procs forks proc action pc)
    (last : action.ends = true →
      ∀ child ∈ world.procs, child.parent = some i → child.alive = false) :
    Kept (world.perform options tools i proc pc action) := by
  obtain ⟨alive, alive'⟩ := move.alive
  obtain ⟨inside, -⟩ := List.getElem?_eq_some_iff.mp here
  have moved : (tableAfter options tools world.procs i proc pc action)[i]? =
      some (proc.after options tools pc action) := by
    rw [tableAfter_getElem? here, if_pos rfl]
  intro j other there otherAlive notFirst
  by_cases same : j = i
  · subst same
    cases moved.symm.trans there
    obtain ⟨k, parent, forkedBy, older, parentThere, parentAlive⟩ := kept j proc here alive notFirst
    refine ⟨k, parent, after_parent.trans forkedBy, older, ?_, parentAlive⟩
    exact tableAfter_of_alive here move (Nat.ne_of_lt older) parentThere parentAlive
  · rcases tableAfter_alive here same there otherAlive with
      before | ⟨new, filepath, inside', rfl, rfl⟩
    · obtain ⟨k, parent, forkedBy, older, parentThere, parentAlive⟩ :=
        kept j other before otherAlive notFirst
      by_cases mover : k = i
      · subst mover
        refine ⟨k, _, forkedBy, older, moved, ?_⟩
        have goesOn : action.ends = false := by
          by_contra ends
          rw [Bool.not_eq_false] at ends
          have dead := last ends other (List.mem_of_getElem? before) forkedBy
          rw [otherAlive] at dead
          cases dead
        rw [Proc.alive, after_pc, alive', goesOn]
        rfl
      · exact ⟨k, parent, forkedBy, older,
          tableAfter_of_alive here move mover parentThere parentAlive, parentAlive⟩
    · refine ⟨i, _, rfl, new ▸ inside, moved, ?_⟩
      rw [Proc.alive, after_pc, alive']
      rfl

theorem kept_congr (kept : Kept world)
    (same : ∀ j : Nat, next.procs[j]?.map (fun proc : Proc => (proc.parent, proc.alive)) =
      world.procs[j]?.map fun proc : Proc => (proc.parent, proc.alive)) : Kept next := by
  intro j other there otherAlive notFirst
  have before := same j
  rw [there, Option.map_some, eq_comm, Option.map_eq_some_iff] at before
  obtain ⟨proc, here, equal⟩ := before
  rw [Prod.mk.injEq] at equal
  obtain ⟨k, parent, forkedBy, older, parentThere, parentAlive⟩ :=
    kept j proc here (equal.2.trans otherAlive) notFirst
  have after := same k
  rw [parentThere, Option.map_some, Option.map_eq_some_iff] at after
  obtain ⟨parent', there', equal'⟩ := after
  rw [Prod.mk.injEq] at equal'
  exact ⟨k, parent', equal.1 ▸ forkedBy, older, there', equal'.2.trans parentAlive⟩

/-- No step that leaves no child behind breaks the chains of parents, as long as the first
process is there. -/
theorem Kept.step (kept : Kept world) (move : WorldMove options tools world label next report)
    (stays : leavesChild ⟨world, label, report, next⟩ = false) (receives : next.receives = true) :
    Kept next := by
  cases move with
  | process i forks proc action pc here free move =>
      apply kept.process here move
      intro ends child member forkedBy
      by_contra alive
      rw [Bool.not_eq_false] at alive
      by_cases first : i = 0
      · subst first
        have gone := tableAfter_receives here move
        rw [ends] at gone
        rw [World.receives, World.perform, gone] at receives
        simp at receives
      · have left : leavesChild ⟨world, .process i forks, .did i action,
            world.perform options tools i proc pc action⟩ = true := by
          have some : (world.procs.any fun child => child.parent == Option.some i && child.alive) =
              true := List.any_eq_true.mpr ⟨child, member, by rw [forkedBy, alive]; simp⟩
          simp only [leavesChild, ends, some, Bool.and_true, bne_iff_ne]
          exact first
        rw [left] at stays
        cases stays
  | deliver signo cuts main pc here alive pending unblocked goesOn =>
      obtain ⟨inside, -⟩ := List.getElem?_eq_some_iff.mp here
      apply kept_congr kept
      intro j
      by_cases first : j = 0
      · subst first
        rw [List.getElem?_set_self inside, here, Option.map_some, Option.map_some, alive,
          Proc.alive, interrupted_alive goesOn alive]
      · rw [List.getElem?_set_ne (Ne.symm first)]
  | handler next report fired =>
      obtain ⟨procs, -⟩ := handlerStep_frame fired
      exact kept_congr kept fun j => by rw [procs]

/-- When no child of the first process runs, no other process does. -/
theorem Kept.alone (kept : Kept world) (childless : childRuns world.procs = false) :
    Alone world := by
  intro j proc here notFirst
  by_contra alive
  rw [Bool.not_eq_false] at alive
  let runs (j : Nat) : Prop := ∃ proc, world.procs[j]? = some proc ∧ proc.alive = true
  let parent (j : Nat) : Nat := (world.procs[j]?.bind Proc.parent).getD 0
  apply notFirst
  apply Forest.only_root runs parent _ _ j ⟨proc, here, alive⟩
  · rintro j ⟨proc, here, alive⟩ notFirst
    obtain ⟨k, other, forkedBy, older, there, otherAlive⟩ := kept j proc here alive notFirst
    have same : parent j = k := by simp [parent, here, forkedBy]
    rw [same]
    exact ⟨older, other, there, otherAlive⟩
  · rintro j ⟨proc, here, alive⟩ notFirst ofFirst
    obtain ⟨k, other, forkedBy, older, there, otherAlive⟩ := kept j proc here alive notFirst
    have same : parent j = k := by simp [parent, here, forkedBy]
    rw [same] at ofFirst
    have runsChild : childRuns world.procs = true := by
      unfold childRuns
      rw [List.any_eq_true]
      refine ⟨proc, List.mem_of_getElem? here, ?_⟩
      rw [forkedBy, ofFirst, alive]
      rfl
    rw [childless] at runsChild
    cases runsChild

theorem WorldMove.receives_before (move : WorldMove options tools world label next report)
    (receives : next.receives = true) : world.receives = true := by
  cases move with
  | process i forks proc action pc here free move =>
      have before := tableAfter_receives here move
      rw [World.receives, World.perform, before, Bool.and_eq_true] at receives
      exact receives.1
  | deliver signo cuts main pc here alive pending unblocked goesOn =>
      rw [World.receives, here, Option.any_some, alive]
  | handler next report fired =>
      obtain ⟨procs, -⟩ := handlerStep_frame fired
      rwa [World.receives, procs] at receives

/-- The statement that ends the loop has found no child running. -/
theorem ProcMove.finish_inv {procs : List Proc} {forks : Bool} {proc : Proc} {action : Action}
    {pc : Pc} (move : ProcMove options tools procs forks proc action pc)
    (finished : pc = .finished) : action = .silent ∧ childRuns procs = false := by
  cases move <;> first | exact ⟨rfl, ‹_›⟩ | cases finished

/-- When the loop has ended, only the first process is there. -/
theorem WorldMove.alone (move : WorldMove options tools world label next report)
    (kept : world.receives = true → Kept world) (before : world.loopEnded → Alone world)
    (whole : cutsWait ⟨world, label, report, next⟩ = false) (ended : next.loopEnded) :
    Alone next := by
  obtain ⟨first, there, finished⟩ := ended
  cases move with
  | process i forks proc action pc here free move =>
      obtain ⟨alive, -⟩ := move.alive
      by_cases mover : i = 0
      · subst mover
        have moved := there
        rw [World.perform, tableAfter_getElem? here, if_pos rfl] at moved
        cases moved
        rw [after_pc] at finished
        have receives : world.receives = true := by
          rw [World.receives, here, Option.any_some, Proc.alive, alive]
        obtain ⟨rfl, childless⟩ := move.finish_inv finished
        have alone := (kept receives).alone childless
        intro j other there notFirst
        have old : world.procs[j]? = some other := by
          rwa [World.perform, tableAfter_getElem? here, if_neg notFirst] at there
        exact alone j other old notFirst
      · -- another process cannot move when the loop has ended before
        exfalso
        have firstAlive : first.alive = true := by rw [Proc.alive, finished]; rfl
        rcases tableAfter_alive here (Ne.symm mover) there firstAlive with old | ⟨empty, -⟩
        · have dead := before ⟨first, old, finished⟩ i proc here mover
          rw [Proc.alive, alive] at dead
          cases dead
        · obtain ⟨inside, -⟩ := List.getElem?_eq_some_iff.mp here
          omega
  | deliver signo cuts main pc here alive pending unblocked goesOn =>
      obtain ⟨inside, -⟩ := List.getElem?_eq_some_iff.mp here
      rw [List.getElem?_set_self inside] at there
      cases there
      have notBlocked : main.pc ≠ .blocked := by
        intro blocked
        simp only [cutsWait, here, Option.any_some, blocked] at whole
        cases whole
      have same : pc = main.pc := by
        rcases interrupted_cases goesOn with ⟨-, blocked, -⟩ | ⟨-, -, same⟩ |
          ⟨-, file, filepath, rest, -, cut⟩
        · exact absurd blocked notBlocked
        · exact same
        · dsimp only at finished
          rw [cut] at finished
          cases finished
      have alone := before ⟨main, here, same.symm.trans finished⟩
      intro j other there notFirst
      rw [List.getElem?_set_ne (Ne.symm notFirst)] at there
      exact alone j other there notFirst
  | handler next report fired =>
      obtain ⟨procs, -⟩ := handlerStep_frame fired
      rw [procs] at there
      intro j other
      rw [procs]
      exact before ⟨first, there, finished⟩ j other

theorem forensic_alone {filepath : CString} {start : Start} {labels : List Label}
    {events : List ForensicEvent}
    (ran : forensic options tools filepath start labels = some (events, world))
    (steps : ∀ event ∈ events, leavesChild event = false ∧ cutsWait event = false) :
    (world.receives = true → Kept world) ∧ (world.loopEnded → Alone world) := by
  have kept := run_induction ran (fun past now =>
    (∀ event ∈ past, leavesChild event = false ∧ cutsWait event = false) →
      (now.receives = true → Kept now) ∧ (now.loopEnded → Alone now)) ?_ ?_
  · exact kept steps
  · intro _
    refine ⟨fun _ => initialWorld_kept filepath start, ?_⟩
    rintro ⟨main, here, finished⟩
    cases here
    cases start <;> cases finished
  · intro past now label report next _ _ before fired steps
    obtain ⟨kept, alone⟩ :=
      before fun event member => steps event (List.mem_append_left _ member)
    obtain ⟨stays, whole⟩ := steps _ (List.mem_append_right _ List.mem_cons_self)
    have move := step_move fired
    refine ⟨?_, move.alone kept alone whole⟩
    intro receives
    exact (kept (move.receives_before receives)).step move stays receives

/-- Nothing is left at the end of the loop when the other processes have nothing left. -/
theorem left_of_ended (ended : world.loopEnded)
    (others : ∀ (j : Nat) (proc : Proc), world.procs[j]? = some proc → j ≠ 0 → proc.work = 0) :
    world.left = 0 := by
  obtain ⟨main, here, finished⟩ := ended
  apply Pool.left_eq_zero
  intro proc member
  obtain ⟨j, there⟩ := List.mem_iff_getElem?.mp member
  by_cases first : j = 0
  · subst first
    rw [here] at there
    cases there
    rw [Proc.work, finished]
    rfl
  · exact others j proc there first

/-- Where no process exits before one that it forked, and no signal is caught in `wait`,
everything is recorded when the loop ends. -/
theorem complete_of_steps {filepath : CString} {start : Start} {labels : List Label}
    {events : List ForensicEvent}
    (ran : forensic options tools filepath start labels = some (events, world))
    (steps : ∀ event ∈ events, leavesChild event = false ∧ cutsWait event = false)
    (ended : world.loopEnded) : Complete options tools world := by
  have alone := (forensic_alone ran steps).2 ended
  apply complete_of_left
  apply left_of_ended ended
  intro j proc here notFirst
  exact work_of_dead (alone j proc here notFirst)

end Moves

end Sope.Forensic
