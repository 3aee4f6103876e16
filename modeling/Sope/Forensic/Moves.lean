import Sope.Forensic.System

set_option autoImplicit false

/- What the steps do, one constructor for each statement. -/
namespace Sope.Forensic

open Machine Banking

variable {options : Options} {tools : Tools}

/-- The statement that a process executes, by the place where it is. -/
inductive ProcMove (options : Options) (tools : Tools) (procs : List Proc) (forks : Bool)
    (proc : Proc) : Action → Pc → Prop where
  | enter (filepath : CString) (inside : Entries) (here : proc.pc = .enter filepath inside) :
      ProcMove options tools procs forks proc (notify options .sigusr1) (.scan filepath inside)
  | return_ (filepath : CString) (here : proc.pc = .scan filepath .done)
      (main : proc.inMain = true) : ProcMove options tools procs forks proc .silent .waits
  | exit (filepath : CString) (here : proc.pc = .scan filepath .done)
      (child : proc.inMain = false) : ProcMove options tools procs forks proc (.exit []) .exited
  | failed (filepath : CString) (rest : Entries)
      (here : proc.pc = .scan filepath (.failed rest)) :
      ProcMove options tools procs forks proc (.exit []) .exited
  | file (filepath name : CString) (stat : Stat) (rest : Entries)
      (here : proc.pc = .scan filepath (.file name stat rest)) :
      ProcMove options tools procs forks proc .silent
        (.analyze .kill ⟨entryPath filepath name, stat⟩ filepath rest)
  | other (filepath name : CString) (rest : Entries)
      (here : proc.pc = .scan filepath (.other name rest)) :
      ProcMove options tools procs forks proc .silent (.scan filepath rest)
  | hidden (filepath name : CString) (inside rest : Entries)
      (here : proc.pc = .scan filepath (.dir name inside rest)) (dotted : isHidden name = true) :
      ProcMove options tools procs forks proc .silent (.scan filepath rest)
  | fork (filepath name : CString) (inside rest : Entries)
      (here : proc.pc = .scan filepath (.dir name inside rest)) (plain : isHidden name = false)
      (succeeds : forks = true) :
      ProcMove options tools procs forks proc (.fork (entryPath filepath name) inside)
        (.scan filepath rest)
  | forkFails (filepath name : CString) (inside rest : Entries)
      (here : proc.pc = .scan filepath (.dir name inside rest)) (plain : isHidden name = false)
      (fails : forks = false) :
      ProcMove options tools procs forks proc .forkFails (.enter (entryPath filepath name) inside)
  | kill (file : File) (filepath : CString) (rest : Entries)
      (here : proc.pc = .analyze .kill file filepath rest) :
      ProcMove options tools procs forks proc (notify options .sigusr2)
        (.analyze .log file filepath rest)
  | log (file : File) (filepath : CString) (rest : Entries)
      (here : proc.pc = .analyze .log file filepath rest) :
      ProcMove options tools procs forks proc
        (logged options ("ANALYZED ".toList ++ file.path)) (.analyze .record file filepath rest)
  | record (file : File) (filepath message : CString) (rest : Entries)
      (here : proc.pc = .analyze .record file filepath rest)
      (out : outMessage options tools file = .ok message) :
      ProcMove options tools procs forks proc (.record file message) (.scan filepath rest)
  | stop (file : File) (filepath : CString) (rest : Entries)
      (here : proc.pc = .analyze .record file filepath rest)
      (out : outMessage options tools file = .error .exit) :
      ProcMove options tools procs forks proc (.exit []) .exited
  | crash (file : File) (filepath : CString) (rest : Entries)
      (here : proc.pc = .analyze .record file filepath rest)
      (out : outMessage options tools file = .error .undefined) :
      ProcMove options tools procs forks proc .crash .exited
  | cut (file : File) (filepath : CString) (rest : Entries)
      (here : proc.pc = .analyze .cut file filepath rest) :
      ProcMove options tools procs forks proc .crash .exited
  | reap (child : Nat) (here : proc.pc = .waits ∨ proc.pc = .blocked)
      (zombie : zombieChild procs = some child) :
      ProcMove options tools procs forks proc (.reap child) .waits
  | block (here : proc.pc = .waits) (none : zombieChild procs = none)
      (runs : childRuns procs = true) : ProcMove options tools procs forks proc .silent .blocked
  | finish (here : proc.pc = .waits) (none : zombieChild procs = none)
      (gone : childRuns procs = false) : ProcMove options tools procs forks proc .silent .finished
  | leave (here : proc.pc = .finished) :
      ProcMove options tools procs forks proc (.exit (exitMessages options)) .exited

theorem directoryLoop_move {procs : List Proc} {forks : Bool} {proc : Proc} {filepath : CString}
    {rest : Entries} (here : proc.pc = .scan filepath rest) {action : Action} {pc : Pc}
    (fired : directoryLoop proc.inMain forks filepath rest = (action, pc)) :
    ProcMove options tools procs forks proc action pc := by
  cases rest with
  | done =>
      cases main : proc.inMain with
      | true => rw [main] at fired; cases fired; exact .return_ filepath here main
      | false => rw [main] at fired; cases fired; exact .exit filepath here main
  | failed rest => cases fired; exact .failed filepath rest here
  | file name stat rest => cases fired; exact .file filepath name stat rest here
  | other name rest => cases fired; exact .other filepath name rest here
  | dir name inside rest =>
      cases dotted : isHidden name with
      | true =>
          simp only [directoryLoop, dotted, ↓reduceIte] at fired
          cases fired
          exact .hidden filepath name inside rest here dotted
      | false =>
          cases forks with
          | true =>
              simp only [directoryLoop, dotted, Bool.false_eq_true, ↓reduceIte] at fired
              cases fired
              exact .fork filepath name inside rest here dotted rfl
          | false =>
              simp only [directoryLoop, dotted, Bool.false_eq_true, ↓reduceIte] at fired
              cases fired
              exact .forkFails filepath name inside rest here dotted rfl

theorem analyzeFile_move {procs : List Proc} {forks : Bool} {proc : Proc} {stage : Stage}
    {file : File} {filepath : CString} {rest : Entries}
    (here : proc.pc = .analyze stage file filepath rest) {action : Action} {pc : Pc}
    (fired : analyzeFile options tools file filepath rest stage = (action, pc)) :
    ProcMove options tools procs forks proc action pc := by
  cases stage with
  | kill => cases fired; exact .kill file filepath rest here
  | log => cases fired; exact .log file filepath rest here
  | cut => cases fired; exact .cut file filepath rest here
  | record =>
      unfold analyzeFile at fired
      cases out : outMessage options tools file with
      | ok message =>
          rw [out] at fired
          cases fired
          exact .record file filepath message rest here out
      | error failure =>
          rw [out] at fired
          cases failure with
          | exit => cases fired; exact .stop file filepath rest here out
          | undefined => cases fired; exact .crash file filepath rest here out

theorem Proc.step_move {procs : List Proc} {forks : Bool} {proc : Proc} {action : Action} {pc : Pc}
    (fired : proc.step options tools procs forks = some (action, pc)) :
    ProcMove options tools procs forks proc action pc := by
  unfold Proc.step at fired
  cases here : proc.pc with
  | enter filepath inside => rw [here] at fired; cases fired; exact .enter filepath inside here
  | scan filepath rest =>
      rw [here] at fired
      exact directoryLoop_move here (Option.some.inj fired)
  | analyze stage file filepath rest =>
      rw [here] at fired
      exact analyzeFile_move here (Option.some.inj fired)
  | waits =>
      rw [here] at fired
      dsimp only [wait] at fired
      cases zombie : zombieChild procs with
      | some child => rw [zombie] at fired; cases fired; exact .reap child (.inl here) zombie
      | none =>
          rw [zombie] at fired
          cases runs : childRuns procs with
          | true => rw [runs] at fired; cases fired; exact .block here zombie runs
          | false => rw [runs] at fired; cases fired; exact .finish here zombie runs
  | blocked =>
      rw [here] at fired
      obtain ⟨child, zombie, same⟩ := Option.map_eq_some_iff.mp fired
      cases same
      exact .reap child (.inr here) zombie
  | finished => rw [here] at fired; cases fired; exact .leave here
  | exited => rw [here] at fired; cases fired
  | reaped => rw [here] at fired; cases fired

/-- The statements that send a signal, or write to the log, where an option asks for it. -/
def Action.isNotice : Action → Bool
  | .silent | .kill _ | .log _ => true
  | _ => false

@[simp] theorem notify_isNotice (signo : Signal) : (notify options signo).isNotice = true := by
  unfold notify
  split <;> rfl

@[simp] theorem logged_isNotice (act : CString) : (logged options act).isNotice = true := by
  unfold logged
  split <;> rfl

/-- `kill` changes what is pending. -/
theorem effect_kill (world : World) (i : Nat) (proc : Proc) (signo : Signal) :
    world.effect options tools i proc (.kill signo) = { world with
      pending := if world.receives then Function.update world.pending signo true
        else world.pending } := by
  dsimp only [World.effect]
  split <;> rfl

/-- A record goes to the output file, or to the terminal. -/
theorem effect_record (world : World) (i : Nat) (proc : Proc) (file : File) (message : CString) :
    world.effect options tools i proc (.record file message) = { world with
      outFile := if options.oCommand.isSome then world.outFile ++ [message] else world.outFile
      stdout := if options.oCommand.isNone && tools.isatty then world.stdout ++ [message]
        else world.stdout } := by
  dsimp only [World.effect]
  cases options.oCommand with
  | some name => rfl
  | none => cases tools.isatty <;> rfl

/-- Only `wait` and a read are interrupted. -/
theorem interrupted_cases {world : World} {cuts : Bool} {pc pc' : Pc}
    (goesOn : interrupted tools world cuts pc = some pc') :
    (cuts = false ∧ pc = .blocked ∧ pc' = .finished) ∨
      (cuts = false ∧ pc ≠ .blocked ∧ pc' = pc) ∨
      (cuts = true ∧ ∃ file filepath rest, pc = .analyze .record file filepath rest ∧
        pc' = .analyze .cut file filepath rest) := by
  unfold interrupted at goesOn
  split at goesOn
  · cases cuts with
    | true => cases goesOn
    | false =>
        left
        rw [Bool.false_or] at goesOn
        split at goesOn
        · cases goesOn
        · cases goesOn
          exact ⟨rfl, rfl, rfl⟩
  · rename_i file filepath rest
    cases cuts with
    | true =>
        right; right
        rw [if_pos rfl] at goesOn
        split at goesOn
        · cases goesOn
          exact ⟨rfl, file, filepath, rest, rfl, rfl⟩
        · cases goesOn
    | false =>
        right; left
        rw [if_neg Bool.false_ne_true] at goesOn
        cases goesOn
        exact ⟨rfl, Pc.noConfusion, rfl⟩
  · rename_i notBlocked notReading
    cases cuts with
    | true => cases goesOn
    | false =>
        right; left
        rw [if_neg Bool.false_ne_true] at goesOn
        cases goesOn
        exact ⟨rfl, notBlocked, rfl⟩

/-- The statements of the innermost handler. Only the one for SIGUSR1 goes on behind the
log. -/
inductive HandlerMove (options : Options) (world : World) : World → Report → Prop where
  | count (signo : Signal) (outer : List (Signal × HandlerPc))
      (here : world.frames = (signo, .count) :: outer) :
      HandlerMove options world { world.count signo with frames := (signo, .log) :: outer }
        (.handled signo .count)
  | logUsr1 (outer : List (Signal × HandlerPc)) (here : world.frames = (.sigusr1, .log) :: outer) :
      HandlerMove options world
        { world with
          frames := (.sigusr1, .append) :: outer
          logFile := world.logFile ++ if options.vCommand then [(0, signalAct .sigusr1)] else [] }
        (.handled .sigusr1 .log)
  | logUsr2 (outer : List (Signal × HandlerPc)) (here : world.frames = (.sigusr2, .log) :: outer) :
      HandlerMove options world
        { world with
          frames := outer
          logFile := world.logFile ++ if options.vCommand then [(0, signalAct .sigusr2)] else [] }
        (.handled .sigusr2 .log)
  | append (signo : Signal) (outer : List (Signal × HandlerPc))
      (here : world.frames = (signo, .append) :: outer) :
      HandlerMove options world
        { world with
          frames := outer
          outFile := world.outFile ++ if options.oCommand.isSome then [world.mess] else [] }
        (.handled signo .append)

theorem handlerStep_move {world next : World} {report : Report}
    (fired : handlerStep options world = some (next, report)) :
    HandlerMove options world next report := by
  unfold handlerStep at fired
  split at fired
  · cases fired
  · rename_i signo outer here
    cases fired
    exact .count signo outer here
  · rename_i signo outer here
    cases fired
    cases signo with
    | sigusr1 => exact .logUsr1 outer here
    | sigusr2 => exact .logUsr2 outer here
  · rename_i signo outer here
    cases fired
    exact .append signo outer here

/-- What happens in one step: a statement of a process, a signal that is caught, or a
statement of the innermost handler. -/
inductive WorldMove (options : Options) (tools : Tools) (world : World) :
    Label → World → Report → Prop where
  | process (i : Nat) (forks : Bool) (proc : Proc) (action : Action) (pc : Pc)
      (here : world.procs[i]? = some proc) (free : i = 0 → world.frames = [])
      (move : ProcMove options tools world.procs forks proc action pc) :
      WorldMove options tools world (.process i forks)
        (world.perform options tools i proc pc action) (.did i action)
  | deliver (signo : Signal) (cuts : Bool) (main : Proc) (pc : Pc)
      (here : world.procs[0]? = some main)
      (alive : main.alive = true) (pending : world.pending signo = true)
      (unblocked : world.unblocked signo = true)
      (goesOn : interrupted tools world cuts main.pc = some pc) :
      WorldMove options tools world (.deliver signo cuts)
        { world with
          procs := world.procs.set 0 { main with pc }
          frames := (signo, .count) :: world.frames
          pending := Function.update world.pending signo false } (.caught signo)
  | handler (next : World) (report : Report)
      (fired : handlerStep options world = some (next, report)) :
      WorldMove options tools world .handler next report

theorem step_move {world next : World} {label : Label} {report : Report}
    (fired : step options tools world label = some (next, report)) :
    WorldMove options tools world label next report := by
  cases label with
  | process i forks =>
      simp only [step] at fired
      split at fired
      · cases fired
      · rename_i free
        simp only [Option.bind_eq_bind, Option.bind_eq_some_iff, Option.pure_def,
          Option.some.injEq, Prod.mk.injEq, Prod.exists] at fired
        obtain ⟨proc, here, action, pc, moved, rfl, rfl⟩ := fired
        refine .process i forks proc action pc here ?_ (Proc.step_move moved)
        intro root
        by_contra busy
        exact free ⟨root, busy⟩
  | deliver signo cuts =>
      simp only [step, Option.bind_eq_bind, Option.bind_eq_some_iff] at fired
      obtain ⟨main, here, fired⟩ := fired
      split at fired
      · rename_i ready
        simp only [Bool.and_eq_true] at ready
        obtain ⟨pc, goesOn, same⟩ := Option.bind_eq_some_iff.mp fired
        cases same
        exact .deliver signo cuts main pc here ready.1.1 ready.1.2 ready.2 goesOn
      · cases fired
  | handler => exact .handler next report fired

end Sope.Forensic
