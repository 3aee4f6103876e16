import Sope.Forensic.Schedules

set_option autoImplicit false

/- A run of forensic ends: what the processes, the pending signals and the calls of the
handler have still to do becomes less with every step, and while a process is alive some
step can be taken. -/
namespace Sope.Forensic

open Machine Banking

/-- How many entries the directories list. -/
def Entries.size : Entries → Nat
  | .done | .failed _ => 0
  | .file _ _ rest | .other _ rest => rest.size + 1
  | .dir _ inside rest => inside.size + rest.size + 1

def Start.size : Start → Nat
  | .dir inside => inside.size
  | .file _ | .missing => 0

/-- Enough for the loop over a directory, and for all that comes of it. -/
def Entries.cost (entries : Entries) : Nat := 12 * entries.size + 6

def Stage.cost : Stage → Nat
  | .kill => 7
  | .log => 2
  | .record | .cut => 1

def Pc.cost : Pc → Nat
  | .enter _ inside => inside.cost + 5
  | .scan _ rest => rest.cost
  | .analyze stage _ _ rest => rest.cost + stage.cost
  | .waits => 5
  | .blocked => 4
  | .finished => 3
  | .exited => 2
  | .reaped => 0

def HandlerPc.cost : HandlerPc → Nat
  | .count => 3
  | .log => 2
  | .append => 1

/-- A signal that is pending is to be caught, and then it is handled. -/
def signalCost (pending : Signal → Bool) : Nat :=
  (if pending .sigusr1 then 4 else 0) + if pending .sigusr2 then 4 else 0

def tableCost (procs : List Proc) : Nat := (procs.map (·.pc.cost)).sum

def World.cost (world : World) : Nat :=
  tableCost world.procs + (world.frames.map (·.2.cost)).sum + signalCost world.pending

/-- What the child of a `fork` has to do. -/
def Action.shares : Action → Nat
  | .fork _ inside => inside.cost + 5
  | _ => 0

/-- What a signal that is sent costs. -/
def Action.posts : Action → Nat
  | .kill _ => 4
  | _ => 0

/-- What `wait` takes away with the child that it reports. -/
def Action.saves : Action → Nat
  | .reap _ => 2
  | _ => 0

section Costs

variable {options : Options} {tools : Tools} {procs : List Proc} {forks : Bool} {proc : Proc}
  {action : Action} {pc : Pc} {world next : World} {label : Label} {report : Report} {i : Nat}

@[simp] theorem tableCost_append (procs procs' : List Proc) :
    tableCost (procs ++ procs') = tableCost procs + tableCost procs' := by
  rw [tableCost, List.map_append, List.sum_append, tableCost, tableCost]

@[simp] theorem tableCost_singleton (proc : Proc) : tableCost [proc] = proc.pc.cost := by
  rw [tableCost, List.map_singleton, List.sum_singleton]

theorem tableCost_set (here : procs[i]? = some proc) (moved : Proc) :
    tableCost (procs.set i moved) + proc.pc.cost = tableCost procs + moved.pc.cost := by
  induction procs generalizing i with
  | nil => cases here
  | cons first rest ih =>
      cases i with
      | zero =>
          rw [List.getElem?_cons_zero, Option.some.injEq] at here
          subst here
          simp only [List.set_cons_zero, tableCost, List.map_cons, List.sum_cons]
          omega
      | succ i =>
          have kept := ih (by rwa [List.getElem?_cons_succ] at here)
          simp only [List.set_cons_succ, tableCost, List.map_cons, List.sum_cons] at kept ⊢
          omega

/-- What a signal that is caught changes for the first process. -/
theorem interrupted_cost {cuts : Bool} {pc' : Pc}
    (goesOn : interrupted tools world cuts pc = some pc') : pc'.cost ≤ pc.cost := by
  rcases interrupted_cases goesOn with ⟨-, rfl, rfl⟩ | ⟨-, -, rfl⟩ |
    ⟨-, file, filepath, rest, rfl, rfl⟩
  · exact Nat.le_succ 3
  · exact le_refl _
  · exact le_refl _

theorem notify_cost (options : Options) (signo : Signal) :
    (notify options signo).shares = 0 ∧ (notify options signo).posts ≤ 4 ∧
      (notify options signo).saves = 0 := by
  unfold notify
  split
  · exact ⟨rfl, le_refl 4, rfl⟩
  · exact ⟨rfl, Nat.zero_le 4, rfl⟩

theorem logged_cost (options : Options) (act : CString) :
    (logged options act).shares = 0 ∧ (logged options act).posts = 0 ∧
      (logged options act).saves = 0 := by
  unfold logged
  split <;> exact ⟨rfl, rfl, rfl⟩

/-- Every statement costs its process more than it leaves to others. -/
theorem ProcMove.cost (move : ProcMove options tools procs forks proc action pc) :
    pc.cost + action.shares + action.posts < proc.pc.cost + action.saves := by
  cases move with
  | enter filepath inside here =>
      have sends := notify_cost options .sigusr1
      simp only [here, Pc.cost]
      omega
  | kill file filepath rest here =>
      have sends := notify_cost options .sigusr2
      simp only [here, Pc.cost, Stage.cost]
      omega
  | log file filepath rest here =>
      have writes := logged_cost options ("ANALYZED ".toList ++ file.path)
      simp only [here, Pc.cost, Stage.cost]
      omega
  | reap child here zombie =>
      rcases here with here | here <;>
        simp [here, Pc.cost, Action.shares, Action.posts, Action.saves]
  | _ =>
      simp only [*, Pc.cost, Stage.cost, Entries.cost, Entries.size, Action.shares, Action.posts,
        Action.saves]
      omega

theorem tableCost_reaped {child : Nat} (zombie : zombieChild procs = some child) :
    tableCost (procs.modify child ({ · with pc := .reaped })) + 2 = tableCost procs := by
  obtain ⟨gone, there, -, exited⟩ := zombieChild_some zombie
  have kept := tableCost_set there { gone with pc := .reaped }
  rw [exited] at kept
  rw [List.modify_eq_set_getElem?, there]
  exact kept

/-- The table after a statement. -/
theorem tableCost_after (here : procs[i]? = some proc)
    (move : ProcMove options tools procs forks proc action pc) :
    tableCost (tableAfter options tools procs i proc pc action) + proc.pc.cost + action.saves =
      tableCost procs + pc.cost + action.shares := by
  have moved : tableCost (procs.set i (proc.after options tools pc action)) + proc.pc.cost =
      tableCost procs + pc.cost := by
    rw [tableCost_set here, after_pc]
  cases action with
  | fork filepath inside =>
      have new : (proc.child i filepath inside).pc.cost = inside.cost + 5 := rfl
      simp only [tableAfter, tableCost_append, tableCost_singleton, new, Action.shares,
        Action.saves]
      omega
  | reap child =>
      obtain ⟨-, zombie, -⟩ := move.reap_inv
      obtain ⟨gone, there, -, exited⟩ := zombieChild_some zombie
      have apart : child ≠ i := by
        rintro rfl
        rw [here] at there
        cases there
        have alive := move.alive.1
        rw [exited] at alive
        cases alive
      have here' : (procs.modify child ({ · with pc := .reaped }))[i]? = some proc := by
        rw [List.getElem?_modify, here, Option.map_eq_map, Option.map_some, if_neg apart]
      have moved' := tableCost_set here' (proc.after options tools pc (.reap child))
      have reaped := tableCost_reaped zombie
      rw [after_pc] at moved'
      simp only [tableAfter, Action.shares, Action.saves]
      omega
  | _ =>
      simp only [tableAfter, Action.shares, Action.saves]
      omega

theorem signalCost_update (pending : Signal → Bool) (signo : Signal) (posted : Bool) :
    signalCost (Function.update pending signo posted) + (if pending signo then 4 else 0) =
      signalCost pending + if posted then 4 else 0 := by
  cases signo with
  | sigusr1 =>
      have other : Signal.sigusr2 ≠ .sigusr1 := by simp
      simp only [signalCost, Function.update_self, Function.update_of_ne other]
      omega
  | sigusr2 =>
      have other : Signal.sigusr1 ≠ .sigusr2 := by simp
      simp only [signalCost, Function.update_self, Function.update_of_ne other]
      omega

/-- Only `kill` makes more signals pending. -/
theorem signalCost_effect (options : Options) (tools : Tools) (world : World) (i : Nat)
    (proc : Proc) (action : Action) :
    signalCost (world.effect options tools i proc action).pending ≤
      signalCost world.pending + action.posts := by
  have gone : signalCost (if i = 0 then fun _ => false else world.pending) ≤
      signalCost world.pending := by
    split
    · exact Nat.zero_le _
    · exact le_refl _
  cases action with
  | kill signo =>
      rw [effect_kill]
      dsimp only
      split
      · have posted := signalCost_update world.pending signo true
        rw [if_pos rfl] at posted
        simp only [Action.posts]
        omega
      · exact Nat.le_add_right _ _
  | record file message =>
      rw [effect_record]
      exact le_refl _
  | exit messages | crash => exact gone
  | _ => exact Nat.le_add_right _ _

theorem handlerStep_cost (fired : handlerStep options world = some (next, report)) :
    (next.frames.map (·.2.cost)).sum < (world.frames.map (·.2.cost)).sum := by
  cases handlerStep_move fired with
  | count signo outer here | logUsr1 outer here | logUsr2 outer here | append signo outer here =>
      rw [here]
      simp [HandlerPc.cost]

/-- Every step leaves less to do. -/
theorem WorldMove.cost (move : WorldMove options tools world label next report) :
    next.cost < world.cost := by
  cases move with
  | process i forks proc action pc here free move =>
      have table := tableCost_after here move
      have statement := move.cost
      have frames := (effect_frames options tools world i proc action).1
      have signals := signalCost_effect options tools world i proc action
      show tableCost (tableAfter options tools world.procs i proc pc action) +
        ((world.effect options tools i proc action).frames.map (·.2.cost)).sum +
          signalCost (world.effect options tools i proc action).pending < world.cost
      rw [frames, World.cost]
      omega
  | deliver signo cuts main pc here alive pending unblocked goesOn =>
      have table := tableCost_set here { main with pc }
      have waiting := interrupted_cost goesOn
      have caught := signalCost_update world.pending signo false
      rw [pending, if_pos rfl] at caught
      simp only [World.cost, List.map_cons, List.sum_cons, HandlerPc.cost] at *
      simp only [Bool.false_eq_true, ↓reduceIte] at caught
      omega
  | handler next report fired =>
      obtain ⟨procs, pending, -⟩ := handlerStep_frame fired
      have frames := handlerStep_cost fired
      rw [World.cost, World.cost, procs, pending]
      omega

end Costs

/-- The process is in the loop around `wait`, or behind it. -/
def Pc.inLoop : Pc → Bool
  | .waits | .blocked | .finished => true
  | _ => false

/-- Only the first process waits, and where it is blocked there is a child to wait for. -/
structure Waiting (procs : List Proc) : Prop where
  others : ∀ (j : Nat) (proc : Proc), procs[j]? = some proc → proc.alive = true → j ≠ 0 →
    proc.inMain = false ∧ proc.pc.inLoop = false
  root : ∀ main : Proc, procs[0]? = some main → main.alive = true → main.parent = none
  blocked : ∀ main : Proc, procs[0]? = some main → main.pc = .blocked →
    ∃ (k : Nat) (child : Proc), procs[k]? = some child ∧ child.parent = some 0 ∧
      child.pc ≠ .reaped

section Progress

variable {options : Options} {tools : Tools} {procs : List Proc} {forks : Bool} {proc : Proc}
  {action : Action} {pc : Pc} {world next : World} {label : Label} {report : Report} {i : Nat}

theorem initialWorld_waiting (filepath : CString) (start : Start) :
    Waiting (initialWorld filepath start).procs where
  others j proc here _ other := by
    have beyond : (initialWorld filepath start).procs[j]? = none :=
      List.getElem?_eq_none (Nat.one_le_iff_ne_zero.mpr other)
    rw [beyond] at here
    cases here
  root main here _ := by
    cases here
    rfl
  blocked main here blocked := by
    cases here
    cases start <;> cases blocked

/-- A process that does not wait does not begin to, unless `analyze_path` returns to `main`. -/
theorem ProcMove.inLoop (move : ProcMove options tools procs forks proc action pc)
    (child : proc.inMain = false) (outside : proc.pc.inLoop = false) :
    pc.inLoop = false ∧ ∀ child, action ≠ .reap child := by
  cases move with
  | return_ filepath here main =>
      rw [child] at main
      cases main
  | reap gone here zombie =>
      rcases here with here | here <;> rw [here] at outside <;> cases outside
  | block here | finish here =>
      rw [here] at outside
      cases outside
  | enter | kill | log =>
      refine ⟨rfl, fun child same => ?_⟩
      have notice : Action.isNotice (.reap child) = true := by rw [← same]; simp
      cases notice
  | _ => exact ⟨rfl, fun child same => by cases same⟩

/-- A statement never makes its own process a reaped one. -/
theorem ProcMove.not_reaped (move : ProcMove options tools procs forks proc action pc) :
    pc ≠ .reaped := by
  rintro rfl
  cases move

theorem after_inMain_of_false (child : proc.inMain = false) :
    (proc.after options tools pc action).inMain = false := by
  by_contra main
  rw [Bool.not_eq_false] at main
  rw [after_inMain main] at child
  cases child

/-- `wait` blocks where a child runs. -/
theorem ProcMove.block_inv (move : ProcMove options tools procs forks proc action .blocked) :
    action = .silent ∧ childRuns procs = true := by
  cases move with
  | block here none runs => exact ⟨rfl, runs⟩

theorem Waiting.process (waiting : Waiting procs) (here : procs[i]? = some proc)
    (move : ProcMove options tools procs forks proc action pc) :
    Waiting (tableAfter options tools procs i proc pc action) where
  others j other there alive notFirst := by
    rcases tableAfter_cases here there with ⟨rfl, rfl⟩ | ⟨-, old⟩ | ⟨-, reaped⟩ |
      ⟨-, filepath, inside, -, rfl⟩
    · obtain ⟨child, outside⟩ := waiting.others j proc here move.alive.1 notFirst
      rw [after_pc]
      exact ⟨after_inMain_of_false child, (move.inLoop child outside).1⟩
    · exact waiting.others j other old alive notFirst
    · rw [Proc.alive, reaped] at alive
      cases alive
    · exact ⟨rfl, rfl⟩
  root main there alive := by
    rcases tableAfter_cases here there with ⟨rfl, rfl⟩ | ⟨-, old⟩ | ⟨-, reaped⟩ | ⟨new, -⟩
    · rw [after_parent]
      exact waiting.root proc here move.alive.1
    · exact waiting.root main old alive
    · rw [Proc.alive, reaped] at alive
      cases alive
    · obtain ⟨inside, -⟩ := List.getElem?_eq_some_iff.mp here
      omega
  blocked main there blocked := by
    rcases tableAfter_cases here there with ⟨rfl, rfl⟩ | ⟨apart, old⟩ | ⟨-, reaped⟩ | ⟨new, -⟩
    · rw [after_pc] at blocked
      subst blocked
      obtain ⟨rfl, runs⟩ := move.block_inv
      obtain ⟨child, member, running⟩ := List.any_eq_true.mp runs
      rw [Bool.and_eq_true, beq_iff_eq] at running
      obtain ⟨k, old⟩ := List.mem_iff_getElem?.mp member
      have apart : k ≠ 0 := by
        rintro rfl
        cases here.symm.trans old
        have orphan := waiting.root proc here move.alive.1
        rw [running.1] at orphan
        cases orphan
      refine ⟨k, child, ?_, running.1, fun reaped => ?_⟩
      · rw [tableAfter_getElem? here, if_neg apart, old]
      · rw [Proc.alive, reaped] at running
        cases running.2
    · obtain ⟨k, child, childThere, forked, notReaped⟩ := waiting.blocked main old blocked
      obtain ⟨inMain, outside⟩ := waiting.others i proc here move.alive.1 (Ne.symm apart)
      by_cases own : k = i
      · subst own
        cases here.symm.trans childThere
        refine ⟨k, _, by rw [tableAfter_getElem? here, if_pos rfl], ?_, ?_⟩
        · rw [after_parent, forked]
        · rw [after_pc]
          exact move.not_reaped
      · refine ⟨k, child, ?_, forked, notReaped⟩
        obtain ⟨inside, -⟩ := List.getElem?_eq_some_iff.mp childThere
        rw [tableAfter_getElem? here, if_neg own]
        cases action with
        | fork filepath inside' =>
            dsimp only
            rw [if_neg (Nat.ne_of_lt inside), childThere]
        | reap gone => exact absurd rfl ((move.inLoop inMain outside).2 gone)
        | _ => exact childThere
    · rw [blocked] at reaped
      cases reaped
    · obtain ⟨inside, -⟩ := List.getElem?_eq_some_iff.mp here
      omega

theorem Waiting.preserved (waiting : Waiting world.procs)
    (move : WorldMove options tools world label next report) : Waiting next.procs := by
  cases move with
  | process i forks proc action pc here free move => exact waiting.process here move
  | deliver signo cuts main pc here alive pending unblocked goesOn =>
      obtain ⟨inside, -⟩ := List.getElem?_eq_some_iff.mp here
      constructor
      · intro j proc there running notFirst
        rw [List.getElem?_set_ne (Ne.symm notFirst)] at there
        exact waiting.others j proc there running notFirst
      · intro main' there _
        rw [List.getElem?_set_self inside] at there
        cases there
        exact waiting.root main here alive
      · intro main' there blocked
        rw [List.getElem?_set_self inside] at there
        cases there
        rcases interrupted_cases goesOn with ⟨-, -, rfl⟩ | ⟨-, notBlocked, rfl⟩ |
          ⟨-, file, filepath, rest, -, rfl⟩
        · cases blocked
        · exact absurd blocked notBlocked
        · cases blocked
  | handler next report fired =>
      rw [(handlerStep_frame fired).1]
      exact waiting

/-- A process that is alive can go on, unless it is blocked and there is no child to report. -/
theorem step_of_alive (options : Options) (tools : Tools) (alive : proc.alive = true)
    (free : ¬ (proc.pc = .blocked ∧ zombieChild procs = none)) :
    ∃ action pc, proc.step options tools procs true = some (action, pc) := by
  unfold Proc.step
  cases here : proc.pc with
  | blocked =>
      cases zombie : zombieChild procs with
      | none => exact absurd ⟨here, zombie⟩ free
      | some child => exact ⟨_, _, rfl⟩
  | exited | reaped =>
      rw [Proc.alive, here] at alive
      cases alive
  | _ => exact ⟨_, _, rfl⟩

/-- Where no step can be taken no handler is left, and only the first process may be alive,
blocked and without a child to report. -/
theorem Waiting.asleep (waiting : Waiting world.procs)
    (stuck : ∀ label, Forensic.step options tools world label = none) {j : Nat}
    (here : world.procs[j]? = some proc) (alive : proc.alive = true) :
    j = 0 ∧ proc.pc = .blocked ∧ proc.parent = none ∧ zombieChild world.procs = none := by
  have idle : world.frames = [] := by
    by_contra busy
    have none := stuck .handler
    obtain ⟨⟨signo, stage⟩, outer, frames⟩ := List.exists_cons_of_ne_nil busy
    rw [Forensic.step, handlerStep, frames] at none
    cases stage <;> cases none
  have asleep : proc.pc = .blocked ∧ zombieChild world.procs = none := by
    by_contra free
    obtain ⟨action, pc, fired⟩ := step_of_alive options tools alive free
    have none := stuck (.process j true)
    rw [step_of_proc true here (fun _ => idle) fired] at none
    cases none
  have first : j = 0 := by
    by_contra other
    have outside := (waiting.others j proc here alive other).2
    rw [asleep.1] at outside
    cases outside
  subst first
  exact ⟨rfl, asleep.1, waiting.root proc here alive, asleep.2⟩

/-- Where no step can be taken, all processes have ended. -/
theorem Waiting.ended (waiting : Waiting world.procs)
    (stuck : ∀ label, Forensic.step options tools world label = none) :
    ∀ proc ∈ world.procs, proc.alive = false := by
  intro main member
  obtain ⟨j, here⟩ := List.mem_iff_getElem?.mp member
  by_contra alive
  rw [Bool.not_eq_false] at alive
  obtain ⟨rfl, blocked, -, quiet⟩ := waiting.asleep stuck here alive
  obtain ⟨k, child, there, forked, notReaped⟩ := waiting.blocked main here blocked
  cases running : child.alive with
  | true =>
      obtain ⟨-, -, orphan, -⟩ := waiting.asleep stuck there running
      rw [forked] at orphan
      cases orphan
  | false =>
      -- `wait` finds the child that has exited
      have exited := (pc_of_dead running).resolve_right notReaped
      have found := List.findIdx?_eq_none_iff.mp quiet child (List.mem_of_getElem? there)
      rw [forked, exited] at found
      cases found

end Progress

/-- A run of forensic takes at most twelve steps for each entry that the directories list, and
thirteen more, whatever the order of the steps; and only when all processes have ended can
none be taken. -/
theorem forensic_terminates (options : Options) (tools : Tools) (filepath : CString)
    (start : Start) (labels : List Label) {events : List ForensicEvent} {world : World}
    (ran : forensic options tools filepath start labels = some (events, world)) :
    labels.length ≤ 12 * start.size + 13 ∧
      ((∀ label, step options tools world label = none) →
        ∀ proc ∈ world.procs, proc.alive = false) := by
  obtain ⟨waiting, bounded⟩ := run_bounded ran (fun now => Waiting now.procs) World.cost
    (initialWorld_waiting filepath start) fun now label report next _ waiting fired =>
      ⟨waiting.preserved (step_move fired), (step_move fired).cost⟩
  have most : (initialWorld filepath start).cost ≤ 12 * start.size + 13 := by
    cases start <;>
      simp [World.cost, initialWorld, startPc, Pc.cost, Entries.cost, Stage.cost, signalCost,
        Start.size, Entries.size]
  exact ⟨by omega, waiting.ended⟩

theorem calmRun_terminates :
    ∃ events world,
      forensic sampleOptions sampleTools ['t'] (.dir sampleTree) calmRun = some (events, world) ∧
      calmRun.length = 30 ∧ calmRun.length ≤ 12 * (Start.dir sampleTree).size + 13 ∧
      ((∀ label, step sampleOptions sampleTools world label = none) →
        ∀ proc ∈ world.procs, proc.alive = false) := by
  obtain ⟨events, world, ran⟩ : ∃ events world,
      forensic sampleOptions sampleTools ['t'] (.dir sampleTree) calmRun = some (events, world) :=
    ⟨_, _, rfl⟩
  exact ⟨events, world, ran, rfl,
    forensic_terminates sampleOptions sampleTools ['t'] (.dir sampleTree) calmRun ran⟩

end Sope.Forensic
