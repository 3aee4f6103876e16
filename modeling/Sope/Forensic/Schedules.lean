import Sope.Forensic.Flat

set_option autoImplicit false

/- A schedule in which the loop around `wait` ends too early: the first process goes
through its directory while its children have yet to begin, and the first signal of one
of them interrupts `wait`. -/
namespace Sope.Forensic

open Machine Banking

section Steps

variable {options : Options} {tools : Tools} {world next : World}

theorem step_of_proc (forks : Bool) {i : Nat} {proc : Proc} {action : Action} {pc : Pc}
    (here : world.procs[i]? = some proc) (free : i = 0 → world.frames = [])
    (fired : proc.step options tools world.procs forks = some (action, pc)) :
    step options tools world (.process i forks) =
      some (world.perform options tools i proc pc action, .did i action) := by
  have goesOn : ¬ (i = 0 ∧ world.frames ≠ []) := fun ⟨first, busy⟩ => busy (free first)
  simp only [step, if_neg goesOn, here, fired, Option.bind_eq_bind, Option.bind_some,
    Option.pure_def]

/-- A process goes on by itself. -/
theorem goesOn {i : Nat} {proc : Proc} {action : Action} {pc : Pc}
    (here : world.procs[i]? = some proc) (free : i = 0 → world.frames = [])
    (fired : proc.step options tools world.procs true = some (action, pc)) :
    Reaches (step options tools) world (world.perform options tools i proc pc action) ∧
      (world.perform options tools i proc pc action).procs[i]? =
        some (proc.after options tools pc action) := by
  refine ⟨.of_step (step_of_proc true here free fired), ?_⟩
  rw [World.perform, tableAfter_getElem? here, if_pos rfl]

theorem Complete.of_reaches (complete : Complete options tools world)
    (reaches : Reaches (step options tools) world next) : Complete options tools next := by
  obtain ⟨before, past, reached⟩ := reaches
  intro labels events last ran
  have all := complete (before ++ labels) (past ++ events) last
    (run_append_eq_some.mpr ⟨past, next, events, reached, ran, rfl⟩)
  rw [List.filterMap_append] at all
  exact (List.append_eq_nil_iff.mp all).2

theorem not_complete_of_record {label : Label} {i : Nat} {file : File} {message : CString}
    (fired : step options tools world label = some (next, .did i (.record file message))) :
    ¬ Complete options tools world := by
  intro complete
  have none := complete [label] _ next (run_cons_eq_some.mpr ⟨next, _, [], fired, rfl, rfl⟩)
  cases none

theorem step_enter {procs : List Proc} {forks : Bool} {proc : Proc} {filepath : CString}
    {inside : Entries} (here : proc.pc = .enter filepath inside) :
    proc.step options tools procs forks =
      some (notify options .sigusr1, .scan filepath inside) := by
  unfold Proc.step
  rw [here]

theorem step_scan {procs : List Proc} {forks : Bool} {proc : Proc} {filepath : CString}
    {rest : Entries} (here : proc.pc = .scan filepath rest) :
    proc.step options tools procs forks = some (directoryLoop proc.inMain forks filepath rest) := by
  unfold Proc.step
  rw [here]

theorem step_analyze {procs : List Proc} {forks : Bool} {proc : Proc} {stage : Stage} {file : File}
    {filepath : CString} {rest : Entries} (here : proc.pc = .analyze stage file filepath rest) :
    proc.step options tools procs forks =
      some (analyzeFile options tools file filepath rest stage) := by
  unfold Proc.step
  rw [here]

theorem step_record {procs : List Proc} {forks : Bool} {proc : Proc} {file : File}
    {filepath message : CString} {rest : Entries}
    (here : proc.pc = .analyze .record file filepath rest)
    (out : outMessage options tools file = .ok message) :
    proc.step options tools procs forks = some (.record file message, .scan filepath rest) := by
  rw [step_analyze here, analyzeFile, out]

theorem step_fork {procs : List Proc} {proc : Proc} {filepath name : CString}
    {inside rest : Entries} (here : proc.pc = .scan filepath (.dir name inside rest))
    (plain : isHidden name = false) :
    proc.step options tools procs true =
      some (.fork (entryPath filepath name) inside, .scan filepath rest) := by
  rw [step_scan here, directoryLoop, plain]
  rfl

/-- A process other than the first goes on, and nothing is recorded after that either. -/
theorem Complete.goesOn (complete : Complete options tools world) {i : Nat} {proc : Proc}
    {action : Action} {pc : Pc} (notFirst : i ≠ 0) (here : world.procs[i]? = some proc)
    (fired : proc.step options tools world.procs true = some (action, pc)) :
    Complete options tools (world.perform options tools i proc pc action) ∧
      (world.perform options tools i proc pc action).procs[i]? =
        some (proc.after options tools pc action) := by
  obtain ⟨reaches, there⟩ := Forensic.goesOn here (fun first => absurd first notFirst) fired
  exact ⟨complete.of_reaches reaches, there⟩

/-- A process that has files left records one if nobody else moves. -/
theorem not_complete_of_scan {rest : Entries} {filepath : CString} {i : Nat} {proc : Proc}
    (notFirst : i ≠ 0) (here : world.procs[i]? = some proc) (scan : proc.pc = .scan filepath rest)
    (left : rest.files filepath ≠ [])
    (messages : ∀ file ∈ rest.files filepath,
      ∃ message, outMessage options tools file = .ok message) :
    ¬ Complete options tools world := by
  induction rest generalizing world filepath i proc with
  | done | failed => exact absurd rfl left
  | file name stat rest ih =>
      intro complete
      obtain ⟨message, out⟩ := messages _ List.mem_cons_self
      obtain ⟨complete, here⟩ := complete.goesOn notFirst here (step_scan scan)
      obtain ⟨complete, here⟩ := complete.goesOn notFirst here (step_analyze after_pc)
      obtain ⟨complete, here⟩ := complete.goesOn notFirst here (step_analyze after_pc)
      have fired := step_of_proc true here (fun first => absurd first notFirst)
        (step_record after_pc out)
      exact not_complete_of_record fired complete
  | other name rest ih =>
      intro complete
      obtain ⟨complete, here⟩ := complete.goesOn notFirst here (step_scan scan)
      exact ih notFirst here after_pc left messages complete
  | dir name inside rest ihInside ihRest =>
      intro complete
      cases plain : isHidden name with
      | true =>
          rw [Entries.files, plain] at left messages
          have hidden : proc.step options tools world.procs true =
              some (.silent, .scan filepath rest) := by
            rw [step_scan scan, directoryLoop, plain]
            rfl
          obtain ⟨complete, here⟩ := complete.goesOn notFirst here hidden
          exact ihRest notFirst here after_pc left messages complete
      | false =>
          rw [Entries.files, plain] at left messages
          obtain ⟨inTable, -⟩ := List.getElem?_eq_some_iff.mp here
          obtain ⟨complete, moved⟩ := complete.goesOn notFirst here (step_fork scan plain)
          by_cases below : inside.files (entryPath filepath name) = []
          · apply ihRest notFirst moved after_pc _ _ complete
            · intro none
              exact left (List.append_eq_nil_iff.mpr ⟨below, none⟩)
            · intro file member
              exact messages file (List.mem_append_right _ member)
          · -- the new process goes on
            have new : (world.perform options tools i proc (.scan filepath rest)
                (.fork (entryPath filepath name) inside)).procs[world.procs.length]? =
                some (proc.child i (entryPath filepath name) inside) := by
              rw [World.perform, tableAfter_getElem? here, if_neg (by omega)]
              dsimp only
              rw [if_pos rfl]
            have notFirst' : world.procs.length ≠ 0 := by omega
            obtain ⟨complete, entered⟩ := complete.goesOn notFirst' new (step_enter rfl)
            apply ihInside notFirst' entered after_pc below _ complete
            intro file member
            exact messages file (List.mem_append_left _ member)

end Steps

/-- The first process is at work, no signal is on its way, and no child has begun. -/
structure Rooted (world : World) (main : Proc) : Prop where
  here : world.procs[0]? = some main
  inMain : main.inMain = true
  frames : world.frames = []
  calm : ∀ signo, world.pending signo = false
  fresh : ∀ (j : Nat) (proc : Proc), world.procs[j]? = some proc → j ≠ 0 →
    proc.parent = some 0 ∧ ∃ filepath inside, proc.pc = .enter filepath inside

/-- A process other than the first has files left. -/
def Busy (world : World) : Prop :=
  ∃ (j : Nat) (proc : Proc), j ≠ 0 ∧ world.procs[j]? = some proc ∧ proc.work ≠ 0

section First

variable {options : Options} {tools : Tools} {world : World} {main : Proc}

/-- What is on the stack after a statement of the innermost handler. -/
def framesAfter (signo : Signal) (outer : List (Signal × HandlerPc)) :
    HandlerPc → List (Signal × HandlerPc)
  | .count => (signo, .log) :: outer
  | .log =>
      match signo with
      | .sigusr1 => (signo, .append) :: outer
      | .sigusr2 => outer
  | .append => outer

theorem handler_goesOn (options : Options) (tools : Tools) {signo : Signal} {stage : HandlerPc}
    {outer : List (Signal × HandlerPc)} (frames : world.frames = (signo, stage) :: outer) :
    ∃ next, Reaches (step options tools) world next ∧ next.procs = world.procs ∧
      next.pending = world.pending ∧ next.frames = framesAfter signo outer stage := by
  have fired : ∃ next report, step options tools world .handler = some (next, report) ∧
      next.procs = world.procs ∧ next.pending = world.pending ∧
      next.frames = framesAfter signo outer stage := by
    cases stage <;> simp only [step, handlerStep, frames] <;>
      exact ⟨_, _, rfl, by cases signo <;> rfl, by cases signo <;> rfl, rfl⟩
  obtain ⟨next, report, fired, same⟩ := fired
  exact ⟨next, .of_step fired, same⟩

/-- The innermost handler runs to its end. -/
theorem handler_returns (options : Options) (tools : Tools) {signo : Signal}
    (frames : world.frames = [(signo, .count)]) :
    ∃ next, Reaches (step options tools) world next ∧ next.procs = world.procs ∧
      next.pending = world.pending ∧ next.frames = [] := by
  obtain ⟨counted, reached, procs, pending, frames⟩ :=
    handler_goesOn options tools frames
  obtain ⟨logged, reached', procs', pending', frames'⟩ :=
    handler_goesOn options tools frames
  cases signo with
  | sigusr1 =>
      obtain ⟨appended, reached'', procs'', pending'', frames''⟩ :=
        handler_goesOn options tools frames'
      exact ⟨appended, reached.trans (reached'.trans reached''),
        procs''.trans (procs'.trans procs), pending''.trans (pending'.trans pending), frames''⟩
  | sigusr2 =>
      exact ⟨logged, reached.trans reached', procs'.trans procs, pending'.trans pending, frames'⟩

/-- A pending signal is caught when no handler runs. -/
theorem step_deliver (options : Options) {signo : Signal} {cuts : Bool} {pc : Pc}
    (here : world.procs[0]? = some main) (alive : main.pc.alive = true)
    (frames : world.frames = []) (pending : world.pending signo = true)
    (goesOn : interrupted tools world cuts main.pc = some pc) :
    step options tools world (.deliver signo cuts) = some ({ world with
      procs := world.procs.set 0 { main with pc }
      frames := [(signo, .count)]
      pending := Function.update world.pending signo false }, .caught signo) := by
  have ready : (main.alive && world.pending signo && world.unblocked signo) = true := by
    rw [Proc.alive, alive, pending, World.unblocked, frames]
    rfl
  simp only [step, here, Option.bind_eq_bind, Option.bind_some, ready, if_true, goesOn, frames,
    Option.pure_def]

/-- A pending signal is caught at once, outside of `wait` and of a read. -/
theorem caught_at_once {signo : Signal} (here : world.procs[0]? = some main)
    (alive : main.pc.alive = true) (notBlocked : main.pc ≠ .blocked) (frames : world.frames = [])
    (pending : world.pending signo = true) :
    ∃ next, Reaches (step options tools) world next ∧ next.procs = world.procs ∧
      next.pending = Function.update world.pending signo false ∧ next.frames = [] := by
  have goesOn : interrupted tools world false main.pc = some main.pc := by
    unfold interrupted
    split
    · rename_i blocked
      exact absurd blocked notBlocked
    · rename_i reads
      rw [if_neg Bool.false_ne_true, reads]
    · rw [if_neg Bool.false_ne_true]
  have same : world.procs.set 0 main = world.procs := by
    obtain ⟨inside, first⟩ := List.getElem?_eq_some_iff.mp here
    rw [← first, List.set_getElem_self]
  have fired := step_deliver options here alive frames pending goesOn
  rw [same] at fired
  obtain ⟨next, reached, procs, pending', none⟩ := handler_returns options tools
    (show ({ world with
      frames := [(signo, .count)]
      pending := Function.update world.pending signo false } : World).frames = _ from rfl)
  exact ⟨next, (Reaches.of_step fired).trans reached, procs, pending', none⟩

/-- A statement without effect on the signals and on the other processes. -/
def Action.isCalm : Action → Bool
  | .silent | .log _ | .record _ _ => true
  | _ => false

theorem logged_isCalm (act : CString) : (logged options act).isCalm = true := by
  unfold logged
  split <;> rfl

/-- The first process gets to a place, and its children have still not begun. -/
def GetsTo (options : Options) (tools : Tools) (world : World) (pc : Pc) : Prop :=
  ∃ next main, Reaches (step options tools) world next ∧ Rooted next main ∧ main.pc = pc ∧
    (Busy world → Busy next)

theorem GetsTo.andThen {pc pc' : Pc} (first : GetsTo options tools world pc)
    (second : ∀ next main, Rooted next main → main.pc = pc → GetsTo options tools next pc') :
    GetsTo options tools world pc' := by
  obtain ⟨between, main, reached, rooted, here, busy⟩ := first
  obtain ⟨next, main', reached', rooted', here', busy'⟩ := second between main rooted here
  exact ⟨next, main', reached.trans reached', rooted', here', fun before => busy' (busy before)⟩

theorem busy_of_local {next : World} {moved : Proc} (busy : Busy world)
    (procs : next.procs = world.procs.set 0 moved) : Busy next := by
  obtain ⟨j, proc, notFirst, here, work⟩ := busy
  refine ⟨j, proc, notFirst, ?_, work⟩
  rw [procs, List.getElem?_set_ne (Ne.symm notFirst), here]

/-- The first process is still at work after a change to nothing but itself. -/
theorem Rooted.local_ (rooted : Rooted world main) {next : World} {moved : Proc}
    (procs : next.procs = world.procs.set 0 moved) (inMain : moved.inMain = true)
    (frames : next.frames = []) (calm : ∀ signo, next.pending signo = false) :
    Rooted next moved where
  here := by
    obtain ⟨inside, -⟩ := List.getElem?_eq_some_iff.mp rooted.here
    rw [procs, List.getElem?_set_self inside]
  inMain := inMain
  frames := frames
  calm := calm
  fresh := by
    intro j proc there notFirst
    rw [procs, List.getElem?_set_ne (Ne.symm notFirst)] at there
    exact rooted.fresh j proc there notFirst

theorem after_inMain_of_calm {action : Action} {pc : Pc} (calm : action.isCalm = true) :
    (main.after options tools pc action).inMain = main.inMain := by
  cases action with
  | record file message =>
      dsimp only [Proc.after]
      split <;> rfl
  | silent | log act => rfl
  | _ => cases calm

theorem effect_pending_of_calm {i : Nat} {action : Action} (calm : action.isCalm = true) :
    (world.effect options tools i main action).pending = world.pending := by
  cases action with
  | record file message => rw [effect_record]
  | silent | log act => rfl
  | _ => cases calm

theorem Rooted.goesOn (rooted : Rooted world main) {action : Action} {pc : Pc}
    (fired : main.step options tools world.procs true = some (action, pc))
    (calm : action.isCalm = true) : GetsTo options tools world pc := by
  obtain ⟨reached, -⟩ := Forensic.goesOn rooted.here (fun _ => rooted.frames) fired
  have procs : (world.perform options tools 0 main pc action).procs =
      world.procs.set 0 (main.after options tools pc action) :=
    tableAfter_local (by cases action <;> first | rfl | cases calm)
  refine ⟨_, main.after options tools pc action, reached, ?_, after_pc,
    fun busy => busy_of_local busy procs⟩
  apply rooted.local_ procs
  · rw [after_inMain_of_calm calm, rooted.inMain]
  · exact (effect_frames options tools world 0 main action).1.trans rooted.frames
  · intro signo
    show (world.effect options tools 0 main action).pending signo = false
    rw [effect_pending_of_calm calm, rooted.calm]

/-- A signal that the first process sends to itself is handled before it goes on. -/
theorem Rooted.notifies (rooted : Rooted world main) (given : options.oCommand.isSome = true)
    {signo : Signal} {pc : Pc}
    (fired : main.step options tools world.procs true = some (notify options signo, pc))
    (alive : main.pc.alive = true) (alive' : pc.alive = true) (notBlocked : pc ≠ .blocked) :
    GetsTo options tools world pc := by
  rw [notify, if_pos given] at fired
  obtain ⟨reached, here⟩ := Forensic.goesOn rooted.here (fun _ => rooted.frames) fired
  have receives : world.receives = true := by
    rw [World.receives, rooted.here, Option.any_some, Proc.alive, alive]
  have pending : (world.perform options tools 0 main pc (.kill signo)).pending =
      Function.update world.pending signo true := perform_kill_pending receives
  have frames := (effect_frames options tools world 0 main (.kill signo)).1.trans rooted.frames
  obtain ⟨next, reached', procs, pending', frames'⟩ := caught_at_once here alive' notBlocked frames
    (by rw [pending, Function.update_self])
  have procs' : next.procs = world.procs.set 0 (main.after options tools pc (.kill signo)) := procs
  refine ⟨next, main.after options tools pc (.kill signo), reached.trans reached', ?_, after_pc,
    fun busy => busy_of_local busy procs'⟩
  apply rooted.local_ procs' rooted.inMain frames'
  intro other
  rw [pending', pending]
  by_cases same : other = signo
  · rw [same, Function.update_self]
  · rw [Function.update_of_ne same, Function.update_of_ne same, rooted.calm]

/-- The first process analyzes one file of its directory. -/
theorem Rooted.records (given : options.oCommand.isSome = true) (rooted : Rooted world main)
    {filepath name message : CString} {stat : Stat} {rest : Entries}
    (here : main.pc = .scan filepath (.file name stat rest))
    (out : outMessage options tools ⟨entryPath filepath name, stat⟩ = .ok message) :
    GetsTo options tools world (.scan filepath rest) := by
  apply (rooted.goesOn (step_scan here) rfl).andThen
  intro found main rooted here
  apply (rooted.notifies given (step_analyze here) (by rw [here]; rfl) rfl Pc.noConfusion).andThen
  intro notified main rooted here
  apply (rooted.goesOn (step_analyze here) (logged_isCalm _)).andThen
  intro logged main rooted here
  exact rooted.goesOn (step_record here out) rfl

/-- A child that the first process forks is new and has not begun. -/
theorem Rooted.forks (rooted : Rooted world main) {filepath name : CString} {inside rest : Entries}
    (here : main.pc = .scan filepath (.dir name inside rest)) (plain : isHidden name = false) :
    ∃ next main', Reaches (step options tools) world next ∧ Rooted next main' ∧
      main'.pc = .scan filepath rest ∧
      (Busy world ∨ inside.files (entryPath filepath name) ≠ [] → Busy next) := by
  obtain ⟨inTable, -⟩ := List.getElem?_eq_some_iff.mp rooted.here
  have fired : main.step options tools world.procs true =
      some (.fork (entryPath filepath name) inside, .scan filepath rest) := step_fork here plain
  obtain ⟨reached, moved⟩ := Forensic.goesOn rooted.here (fun _ => rooted.frames) fired
  have table : ∀ j, j ≠ 0 →
      (world.perform options tools 0 main (.scan filepath rest)
        (.fork (entryPath filepath name) inside)).procs[j]? =
        if j = world.procs.length then some (main.child 0 (entryPath filepath name) inside)
        else world.procs[j]? := by
    intro j notFirst
    rw [World.perform, tableAfter_getElem? rooted.here, if_neg notFirst]
  refine ⟨_, _, reached, ⟨moved, rooted.inMain, rooted.frames, rooted.calm, ?_⟩, rfl, ?_⟩
  · intro j proc there notFirst
    rw [table j notFirst] at there
    split at there
    · cases there
      exact ⟨rfl, _, _, rfl⟩
    · exact rooted.fresh j proc there notFirst
  · rintro (⟨j, proc, notFirst, there, work⟩ | some)
    · obtain ⟨old, -⟩ := List.getElem?_eq_some_iff.mp there
      refine ⟨j, proc, notFirst, ?_, work⟩
      rw [table j notFirst, if_neg (by omega), there]
    · refine ⟨world.procs.length, main.child 0 (entryPath filepath name) inside, by omega, ?_, ?_⟩
      · rw [table _ (by omega), if_pos rfl]
      · intro none
        exact some ((Multiset.coe_eq_zero _).mp none)

/-- The first process goes through its directory. -/
theorem Rooted.scans (given : options.oCommand.isSome = true) {rest : Entries}
    {filepath : CString} (rooted : Rooted world main) (here : main.pc = .scan filepath rest)
    (readable : rest.readable = true)
    (messages : ∀ file ∈ rest.files filepath,
      ∃ message, outMessage options tools file = .ok message)
    (work : Busy world ∨ rest.nested filepath ≠ []) :
    ∃ next main', Reaches (step options tools) world next ∧ Rooted next main' ∧
      main'.pc = .waits ∧ Busy next := by
  induction rest generalizing world main with
  | done =>
      have fired : main.step options tools world.procs true = some (.silent, .waits) := by
        rw [step_scan here, directoryLoop, rooted.inMain]
        rfl
      obtain ⟨next, main', reached, rooted', pc, busy⟩ := rooted.goesOn fired rfl
      exact ⟨next, main', reached, rooted', pc, busy (work.resolve_right (fun some => some rfl))⟩
  | failed => cases readable
  | file name stat rest ih =>
      obtain ⟨message, out⟩ := messages _ List.mem_cons_self
      obtain ⟨w₁, p₁, reached₁, rooted₁, pc₁, busy₁⟩ := rooted.records given here out
      obtain ⟨next, main', reached, rooted', pc, busy⟩ := ih rooted₁ pc₁ readable
        (fun file member => messages file (List.mem_cons_of_mem _ member))
        (work.imp_left busy₁)
      exact ⟨next, main', reached₁.trans reached, rooted', pc, busy⟩
  | other name rest ih =>
      obtain ⟨w₁, p₁, reached₁, rooted₁, pc₁, busy₁⟩ := rooted.goesOn (step_scan here) rfl
      obtain ⟨next, main', reached, rooted', pc, busy⟩ :=
        ih rooted₁ pc₁ readable messages (work.imp_left busy₁)
      exact ⟨next, main', reached₁.trans reached, rooted', pc, busy⟩
  | dir name inside rest ihInside ihRest =>
      cases plain : isHidden name with
      | true =>
          rw [Entries.files, plain] at messages
          rw [Entries.nested, plain] at work
          have fired : main.step options tools world.procs true =
              some (.silent, .scan filepath rest) := by
            rw [step_scan here, directoryLoop, plain]
            rfl
          obtain ⟨w₁, p₁, reached₁, rooted₁, pc₁, busy₁⟩ := rooted.goesOn fired rfl
          obtain ⟨next, main', reached, rooted', pc, busy⟩ :=
            ihRest rooted₁ pc₁ readable messages (work.imp_left busy₁)
          exact ⟨next, main', reached₁.trans reached, rooted', pc, busy⟩
      | false =>
          rw [Entries.files, plain] at messages
          rw [Entries.nested, plain] at work
          obtain ⟨w₁, p₁, reached₁, rooted₁, pc₁, busy₁⟩ := rooted.forks here plain
          have work₁ : Busy w₁ ∨ rest.nested filepath ≠ [] := by
            by_cases below : inside.files (entryPath filepath name) = []
            · rcases work with busy | some
              · exact .inl (busy₁ (.inl busy))
              · right
                intro none
                exact some (List.append_eq_nil_iff.mpr ⟨below, none⟩)
            · exact .inl (busy₁ (.inr below))
          obtain ⟨next, main', reached, rooted', pc, busy⟩ := ihRest rooted₁ pc₁ readable
            (fun file member => messages file (List.mem_append_right _ member)) work₁
          exact ⟨next, main', reached₁.trans reached, rooted', pc, busy⟩

theorem zombieChild_none {procs : List Proc}
    (alive : ∀ (j : Nat) (proc : Proc), procs[j]? = some proc → proc.alive = true) :
    zombieChild procs = none := by
  unfold zombieChild
  rw [List.findIdx?_eq_none_iff]
  intro proc member
  obtain ⟨j, here⟩ := List.mem_iff_getElem?.mp member
  have running := alive j proc here
  unfold Proc.alive Pc.alive at running
  unfold Pc.isExited
  split
  · rename_i exited
    rw [exited] at running
    cases running
  · exact Bool.and_false _

theorem Rooted.all_alive (rooted : Rooted world main) (alive : main.pc.alive = true) (j : Nat)
    (proc : Proc) (there : world.procs[j]? = some proc) : proc.alive = true := by
  by_cases first : j = 0
  · subst first
    rw [rooted.here] at there
    cases there
    exact alive
  · obtain ⟨-, filepath, inside, here⟩ := rooted.fresh j proc there first
    rw [Proc.alive, here]
    rfl

/-- Where children run and none has exited, `wait` blocks. -/
theorem Rooted.blocks (rooted : Rooted world main) (here : main.pc = .waits) (busy : Busy world) :
    GetsTo options tools world .blocked := by
  have none := zombieChild_none (rooted.all_alive (by rw [here]; rfl))
  have runs : childRuns world.procs = true := by
    obtain ⟨j, proc, notFirst, there, -⟩ := busy
    obtain ⟨parent, filepath, inside, enter⟩ := rooted.fresh j proc there notFirst
    unfold childRuns
    rw [List.any_eq_true]
    refine ⟨proc, List.mem_of_getElem? there, ?_⟩
    rw [parent, Proc.alive, enter]
    rfl
  have fired : main.step options tools world.procs true = some (.silent, .blocked) := by
    unfold Proc.step
    rw [here]
    dsimp only [wait]
    rw [none, runs]
    rfl
  exact rooted.goesOn fired rfl

/-- A child begins, and its `SIGUSR1` is on its way to the first process. -/
theorem Rooted.child_begins (given : options.oCommand.isSome = true) (rooted : Rooted world main)
    (alive : main.pc.alive = true) {j : Nat} {proc : Proc} {filepath : CString} {inside : Entries}
    (notFirst : j ≠ 0) (there : world.procs[j]? = some proc)
    (enter : proc.pc = .enter filepath inside) :
    ∃ next child, Reaches (step options tools) world next ∧ next.procs[0]? = some main ∧
      next.procs[j]? = some child ∧ child.pc = .scan filepath inside ∧ next.frames = [] ∧
      next.pending .sigusr1 = true ∧ zombieChild next.procs = none := by
  have fired : proc.step options tools world.procs true =
      some (.kill .sigusr1, .scan filepath inside) := by
    rw [step_enter enter, notify, if_pos given]
  obtain ⟨reached, moved⟩ := Forensic.goesOn there (fun first => absurd first notFirst) fired
  have table : ∀ k, k ≠ j → (world.perform options tools j proc (.scan filepath inside)
      (.kill .sigusr1)).procs[k]? = world.procs[k]? := by
    intro k apart
    rw [World.perform, tableAfter_getElem? there, if_neg apart]
  refine ⟨_, _, reached, (table 0 (Ne.symm notFirst)).trans rooted.here, moved, after_pc,
    (effect_frames options tools world j proc (.kill .sigusr1)).1.trans rooted.frames, ?_, ?_⟩
  · have receives : world.receives = true := by
      rw [World.receives, rooted.here, Option.any_some, Proc.alive, alive]
    rw [perform_kill_pending receives, Function.update_self]
  · apply zombieChild_none
    intro k other there'
    by_cases same : k = j
    · subst same
      cases moved.symm.trans there'
      rw [Proc.alive, after_pc]
      rfl
    · rw [table k same] at there'
      exact rooted.all_alive alive k other there'

/-- The first process waits while a child that has files left has yet to begin: the
`SIGUSR1` of that child ends the loop. -/
theorem Rooted.cut_short (given : options.oCommand.isSome = true) (rooted : Rooted world main)
    (here : main.pc = .blocked) (busy : Busy world)
    (messages : ∀ file ∈ world.left, ∃ message, outMessage options tools file = .ok message) :
    ∃ next, Reaches (step options tools) world next ∧ next.loopEnded ∧
      ¬ Complete options tools next := by
  obtain ⟨j, proc, notFirst, there, work⟩ := busy
  obtain ⟨-, filepath, inside, enter⟩ := rooted.fresh j proc there notFirst
  have alive : main.pc.alive = true := by rw [here]; rfl
  have left : proc.work ≤ world.left := Pool.work_le_left (List.mem_of_getElem? there)
  rw [Proc.work, enter] at work left
  obtain ⟨begun, child, reached, first, there', scan, frames, pending, none⟩ :=
    rooted.child_begins given alive notFirst there enter
  have ends : interrupted tools begun false main.pc = some .finished := by
    rw [here, interrupted, none]
    rfl
  have caught := step_deliver options first alive frames pending ends
  obtain ⟨inTable, -⟩ := List.getElem?_eq_some_iff.mp first
  refine ⟨_, reached.trans (.of_step caught),
    ⟨{ main with pc := .finished }, List.getElem?_set_self inTable, rfl⟩, ?_⟩
  have still : (begun.procs.set 0 { main with pc := .finished })[j]? = some child := by
    rw [List.getElem?_set_ne (Ne.symm notFirst), there']
  apply not_complete_of_scan notFirst still scan
  · intro empty
    exact work (congrArg _ empty)
  · intro file member
    exact messages file (Multiset.mem_of_le left member)

end First

section Loop

variable {options : Options} {tools : Tools} {filepath : CString}

theorem left_le_of_reaches {world next : World}
    (reaches : Reaches (step options tools) world next) :
    next.left ≤ world.left := by
  obtain ⟨labels, events, ran⟩ := reaches
  apply run_invariant ran (fun now => now.left ≤ world.left) le_rfl
  intro now label report next _ le fired
  exact ((Multiset.le_add_left _ _).trans (step_move fired).left_le).trans le

theorem initialWorld_rooted (filepath : CString) (start : Start) :
    Rooted (initialWorld filepath start) ⟨none, true, startPc filepath start, []⟩ where
  here := rfl
  inMain := rfl
  frames := rfl
  calm _ := rfl
  fresh := by
    intro j proc there notFirst
    rw [initialWorld, List.getElem?_eq_none (Nat.one_le_iff_ne_zero.mpr notFirst)] at there
    cases there

/-- Where files lie below a directory that is not hidden, the loop can end before they are
recorded. -/
theorem ends_early (given : options.oCommand.isSome = true) {inside : Entries}
    (readable : inside.readable = true) (some : inside.nested filepath ≠ [])
    (messages : ∀ file ∈ inside.files filepath,
      ∃ message, outMessage options tools file = .ok message) :
    ∃ labels events world,
      forensic options tools filepath (.dir inside) labels = Option.some (events, world) ∧
      world.loopEnded ∧ ¬ Complete options tools world := by
  have rooted := initialWorld_rooted filepath (.dir inside)
  obtain ⟨w₁, p₁, reached₁, rooted₁, pc₁, -⟩ : GetsTo options tools
      (initialWorld filepath (.dir inside)) (.scan filepath inside) :=
    rooted.notifies given (step_enter rfl) rfl rfl Pc.noConfusion
  obtain ⟨w₂, p₂, reached₂, rooted₂, pc₂, busy₂⟩ :=
    rooted₁.scans given pc₁ readable messages (.inr some)
  obtain ⟨w₃, p₃, reached₃, rooted₃, pc₃, busy₃⟩ : GetsTo options tools w₂ .blocked :=
    rooted₂.blocks pc₂ busy₂
  have reached := reached₁.trans (reached₂.trans reached₃)
  have left := left_le_of_reaches reached
  rw [initialWorld_left] at left
  obtain ⟨world, reached₄, ended, incomplete⟩ := rooted₃.cut_short given pc₃ (busy₃ busy₂)
    fun file member => messages file (Multiset.mem_of_le left member)
  obtain ⟨labels, events, ran⟩ := reached.trans reached₄
  exact ⟨labels, events, world, ran, ended, incomplete⟩

/-- At the end of the loop everything is recorded, in every run in which no process but the
first exits before one that it forked, and no signal is caught in `wait`. With an output
file, and a record for each file, the start paths for which this holds of every run are
those where no file lies below a directory in the start directory, or where the loop is
not reached. -/
theorem loop_end_complete (options : Options) (tools : Tools) (filepath : CString)
    (start : Start) :
    (∀ labels events world, forensic options tools filepath start labels = some (events, world) →
      (∀ event ∈ events, leavesChild event = false ∧ cutsWait event = false) →
      world.loopEnded → Complete options tools world) ∧
    (options.oCommand.isSome = true →
      (∀ file ∈ start.files filepath, ∃ message, outMessage options tools file = .ok message) →
      ((∀ labels events world,
          forensic options tools filepath start labels = some (events, world) →
          world.loopEnded → Complete options tools world) ↔
        start.readable = false ∨ start.nested filepath = [])) := by
  refine ⟨fun labels events world ran steps ended => complete_of_steps ran steps ended, ?_⟩
  intro given messages
  constructor
  · intro always
    by_contra deep
    rw [not_or, Bool.not_eq_false] at deep
    obtain ⟨readable, some⟩ := deep
    cases start with
    | file stat | missing => exact some rfl
    | dir inside =>
        obtain ⟨labels, events, world, ran, ended, incomplete⟩ :=
          ends_early given readable some messages
        exact incomplete (always labels events world ran ended)
  · intro flat labels events world ran ended
    exact complete_of_flat flat ran ended

end Loop

/-- The child sends its first signal while the first process waits for it. -/
def earlyRun : List Label :=
  turns 0 1 ++ handling .sigusr1 ++ turns 0 2 ++ handling .sigusr2 ++ turns 0 5 ++ turns 1 1 ++
    [.deliver .sigusr1 false]

/-- The loop has ended, and the file of the child is recorded later. -/
theorem earlyRun_incomplete :
    ∃ events world,
      forensic sampleOptions sampleTools ['t'] (.dir sampleTree) earlyRun = some (events, world) ∧
      world.loopEnded ∧ ¬ Complete sampleOptions sampleTools world :=
  ⟨_, _, rfl, ⟨_, rfl, rfl⟩, fun complete => by cases complete (turns 1 4) _ _ rfl⟩

/-- The run up to the end of the loop, in which every signal is caught outside of `wait`. -/
theorem calmRun_complete :
    ∃ events world,
      forensic sampleOptions sampleTools ['t'] (.dir sampleTree) calmRun.dropLast =
        some (events, world) ∧
      world.loopEnded ∧ Complete sampleOptions sampleTools world := by
  obtain ⟨events, world, ran, ended, steps⟩ : ∃ events world,
      forensic sampleOptions sampleTools ['t'] (.dir sampleTree) calmRun.dropLast =
        some (events, world) ∧
      world.loopEnded ∧
      events.all (fun event => !leavesChild event && !cutsWait event) = true :=
    ⟨_, _, rfl, ⟨_, rfl, rfl⟩, rfl⟩
  refine ⟨events, world, ran, ended,
    (loop_end_complete sampleOptions sampleTools ['t'] (.dir sampleTree)).1 _ events world ran ?_
      ended⟩
  intro event member
  have kept := List.all_eq_true.mp steps event member
  rwa [Bool.and_eq_true, Bool.not_eq_true', Bool.not_eq_true'] at kept

end Sope.Forensic
