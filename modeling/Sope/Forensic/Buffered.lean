import Sope.Forensic.Analysed
import Sope.Forensic.Signals

set_option autoImplicit false

/- The report on standard output. A terminal shows each record at once; elsewhere a
process keeps its records until `exit`, and a `fork` copies what is kept. -/
namespace Sope.Forensic

open Machine Banking

section Lines

variable (out : File → Except Failure CString)

/-- The records made below a directory when every `fork` succeeds. -/
def Entries.records (filepath : CString) : Entries → List CString
  | .done | .failed _ => []
  | .file name stat rest =>
      match out ⟨entryPath filepath name, stat⟩ with
      | .ok message => message :: rest.records filepath
      | .error _ => []
  | .other _ rest => rest.records filepath
  | .dir name inside rest =>
      (if isHidden name then [] else inside.records (entryPath filepath name)) ++
        rest.records filepath

/-- The records that the process which reads the directory makes itself. -/
def Entries.own (filepath : CString) : Entries → List CString
  | .done | .failed _ => []
  | .file name stat rest =>
      match out ⟨entryPath filepath name, stat⟩ with
      | .ok message => message :: rest.own filepath
      | .error _ => []
  | .other _ rest | .dir _ _ rest => rest.own filepath

/-- That process ends with `exit`, and not with a crash. -/
def Entries.exits (filepath : CString) : Entries → Bool
  | .done | .failed _ => true
  | .file name stat rest =>
      match out ⟨entryPath filepath name, stat⟩ with
      | .ok _ => rest.exits filepath
      | .error .exit => true
      | .error .undefined => false
  | .other _ rest | .dir _ _ rest => rest.exits filepath

/-- What is flushed in the end where records are buffered, by the process that reads the
directory and has `buffer` already, and by those that it forks. -/
def Entries.flushed (filepath : CString) (buffer : List CString) : Entries → List CString
  | .done | .failed _ => buffer
  | .file name stat rest =>
      match out ⟨entryPath filepath name, stat⟩ with
      | .ok message => rest.flushed filepath (buffer ++ [message])
      | .error .exit => buffer
      | .error .undefined => []
  | .other _ rest => rest.flushed filepath buffer
  | .dir name inside rest =>
      (if isHidden name then [] else inside.flushed (entryPath filepath name) buffer) ++
        rest.flushed filepath buffer

/-- The lines that the forked processes which exit have inherited. -/
def Entries.inherited (filepath : CString) (buffer : List CString) : Entries → List CString
  | .done | .failed _ => []
  | .file name stat rest =>
      match out ⟨entryPath filepath name, stat⟩ with
      | .ok message => rest.inherited filepath (buffer ++ [message])
      | .error _ => []
  | .other _ rest => rest.inherited filepath buffer
  | .dir name inside rest =>
      (if isHidden name then []
        else (if inside.exits out (entryPath filepath name) then buffer else []) ++
          inside.inherited (entryPath filepath name) buffer) ++
        rest.inherited filepath buffer

/-- The records of the forked processes that crash. -/
def Entries.unflushed (filepath : CString) : Entries → List CString
  | .done | .failed _ => []
  | .file name stat rest =>
      match out ⟨entryPath filepath name, stat⟩ with
      | .ok _ => rest.unflushed filepath
      | .error _ => []
  | .other _ rest => rest.unflushed filepath
  | .dir name inside rest =>
      (if isHidden name then []
        else (if inside.exits out (entryPath filepath name) then []
            else inside.own out (entryPath filepath name)) ++
          inside.unflushed (entryPath filepath name)) ++
        rest.unflushed filepath

/-- The records of all processes that crash, the first one among them. -/
def Entries.lost (filepath : CString) (entries : Entries) : List CString :=
  (if entries.exits out filepath then [] else entries.own out filepath) ++
    entries.unflushed out filepath

/-- What is inherited is flushed besides the records, and what crashes lose is not. -/
theorem Entries.flushed_add (filepath : CString) (buffer : List CString) (entries : Entries) :
    (entries.flushed out filepath buffer : Multiset CString) + entries.lost out filepath =
      (entries.records out filepath : Multiset CString) +
        entries.inherited out filepath buffer +
        (if entries.exits out filepath then buffer else [] : List CString) := by
  induction entries generalizing filepath buffer with
  | done | failed => simp [Entries.flushed, Entries.lost, Entries.records, Entries.inherited,
      Entries.exits, Entries.unflushed]
  | file name stat rest ih =>
      cases made : out ⟨entryPath filepath name, stat⟩ with
      | ok message =>
          have kept := ih filepath (buffer ++ [message])
          simp only [Entries.flushed, Entries.lost, Entries.records, Entries.inherited,
            Entries.exits, Entries.unflushed, Entries.own, made] at kept ⊢
          cases ends : rest.exits out filepath with
          | true =>
              simp only [ends, ↓reduceIte, List.nil_append, ← Multiset.coe_add,
                ← Multiset.cons_coe, ← Multiset.singleton_add, Multiset.coe_nil, add_zero]
                at kept ⊢
              rw [kept]
              ac_rfl
          | false =>
              simp only [ends, Bool.false_eq_true, ↓reduceIte, ← Multiset.coe_add,
                ← Multiset.cons_coe, ← Multiset.singleton_add, Multiset.coe_nil, add_zero]
                at kept ⊢
              have more := congrArg (({message} : Multiset CString) + ·) kept
              refine Eq.trans ?_ (more.trans ?_) <;> ac_rfl
      | error failure =>
          cases failure <;> simp [Entries.flushed, Entries.lost, Entries.records,
            Entries.inherited, Entries.exits, Entries.unflushed, Entries.own, made]
  | other name rest ih => exact ih filepath buffer
  | dir name inside rest ihInside ihRest =>
      have kept := ihRest filepath buffer
      cases hidden : isHidden name with
      | true =>
          simp only [Entries.flushed, Entries.lost, Entries.records, Entries.inherited,
            Entries.exits, Entries.unflushed, Entries.own, hidden, ↓reduceIte, List.nil_append]
          exact kept
      | false =>
          have below := ihInside (entryPath filepath name) buffer
          simp only [Entries.flushed, Entries.lost, Entries.records, Entries.inherited,
            Entries.exits, Entries.unflushed, Entries.own, hidden, Bool.false_eq_true,
            ↓reduceIte, ← Multiset.coe_add] at kept below ⊢
          have both := congrArg₂ (· + ·) below kept
          cases ends : inside.exits out (entryPath filepath name) <;>
            simp only [ends, Bool.false_eq_true, ↓reduceIte, Multiset.coe_nil, zero_add,
              add_zero] at both ⊢ <;>
            refine Eq.trans ?_ (both.trans ?_) <;> ac_rfl

/-- Somewhere a subdirectory that is entered is listed behind a file; `seen` says that a
file of the same directory came before. -/
def Entries.listsFileFirst (seen : Bool) : Entries → Bool
  | .done | .failed _ => false
  | .file _ _ rest => rest.listsFileFirst true
  | .other _ rest => rest.listsFileFirst seen
  | .dir name inside rest =>
      (!isHidden name && (seen || inside.listsFileFirst false)) || rest.listsFileFirst seen

variable {out}

/-- Where every file has a record, no process crashes. -/
theorem Entries.exits_of_records {filepath : CString} {entries : Entries}
    (all : ∀ file ∈ entries.files filepath, ∃ message, out file = .ok message) :
    entries.exits out filepath = true := by
  induction entries generalizing filepath with
  | done | failed => rfl
  | file name stat rest ih =>
      obtain ⟨message, made⟩ := all _ List.mem_cons_self
      rw [Entries.exits, made]
      exact ih fun file member => all file (List.mem_cons_of_mem _ member)
  | other name rest ih => exact ih all
  | dir name inside rest ihInside ihRest =>
      exact ihRest fun file member => all file (List.mem_append_right _ member)

theorem Entries.unflushed_of_records {filepath : CString} {entries : Entries}
    (all : ∀ file ∈ entries.files filepath, ∃ message, out file = .ok message) :
    entries.unflushed out filepath = [] := by
  induction entries generalizing filepath with
  | done | failed => rfl
  | file name stat rest ih =>
      obtain ⟨message, made⟩ := all _ List.mem_cons_self
      rw [Entries.unflushed, made]
      exact ih fun file member => all file (List.mem_cons_of_mem _ member)
  | other name rest ih => exact ih all
  | dir name inside rest ihInside ihRest =>
      have later := ihRest fun file member => all file (List.mem_append_right _ member)
      cases hidden : isHidden name with
      | true => simp [Entries.unflushed, hidden, later]
      | false =>
          have within : ∀ file ∈ inside.files (entryPath filepath name),
              ∃ message, out file = .ok message := fun file member =>
            all file (List.mem_append_left _ (by simpa [hidden] using member))
          simp [Entries.unflushed, hidden, later, ihInside within, Entries.exits_of_records within]

/-- Where every file has a record, nothing is inherited exactly if no directory lists a
file before a subdirectory that is entered. -/
theorem Entries.inherited_eq_nil_iff {filepath : CString} {entries : Entries}
    (all : ∀ file ∈ entries.files filepath, ∃ message, out file = .ok message)
    (buffer : List CString) :
    entries.inherited out filepath buffer = [] ↔
      entries.listsFileFirst (!buffer.isEmpty) = false := by
  induction entries generalizing filepath buffer with
  | done | failed => simp [Entries.inherited, Entries.listsFileFirst]
  | file name stat rest ih =>
      obtain ⟨message, made⟩ := all _ List.mem_cons_self
      have later := ih (fun file member => all file (List.mem_cons_of_mem _ member))
        (buffer ++ [message])
      have more : (!(buffer ++ [message]).isEmpty) = true := by cases buffer <;> rfl
      rw [more] at later
      simpa [Entries.inherited, Entries.listsFileFirst, made] using later
  | other name rest ih => exact ih all buffer
  | dir name inside rest ihInside ihRest =>
      have later := ihRest (fun file member => all file (List.mem_append_right _ member)) buffer
      cases hidden : isHidden name with
      | true => simp [Entries.inherited, Entries.listsFileFirst, hidden, later]
      | false =>
          have within : ∀ file ∈ inside.files (entryPath filepath name),
              ∃ message, out file = .ok message := fun file member =>
            all file (List.mem_append_left _ (by simpa [hidden] using member))
          cases buffer with
          | nil =>
              have below := ihInside within []
              simpa [Entries.inherited, Entries.listsFileFirst, hidden, later] using fun _ => below
          | cons line lines =>
              simp [Entries.inherited, Entries.listsFileFirst, hidden,
                Entries.exits_of_records within]

theorem Entries.lost_of_records {filepath : CString} {entries : Entries}
    (all : ∀ file ∈ entries.files filepath, ∃ message, out file = .ok message) :
    entries.lost out filepath = [] := by
  rw [Entries.lost, Entries.exits_of_records all, Entries.unflushed_of_records all]
  rfl

end Lines

section Processes

variable (out : File → Except Failure CString)

def Pc.flushed (buffer : List CString) : Pc → List CString
  | .enter filepath inside => inside.flushed out filepath buffer
  | .scan filepath rest => rest.flushed out filepath buffer
  | .analyze _ file filepath rest =>
      match out file with
      | .ok message => rest.flushed out filepath (buffer ++ [message])
      | .error .exit => buffer
      | .error .undefined => []
  | .waits | .blocked | .finished => buffer
  | .exited | .reaped => []

/-- What a process and those that it forks are still going to flush. -/
def Proc.flushed (proc : Proc) : Multiset CString := proc.pc.flushed out proc.buffer

def flushedWork : Workload CString where
  of := Proc.flushed out
  dead proc gone := by
    rw [Proc.flushed]
    rcases pc_of_dead gone with here | here <;> rw [here] <;> rfl
  wait proc here := by
    rw [Proc.flushed, Proc.flushed, here]
    rfl
  read proc file filepath rest here := by
    rw [Proc.flushed, Proc.flushed, here]
    rfl

end Processes

/-- The records that a step writes to standard output: at once to a terminal, and else
those that the process has buffered when it exits. -/
def printedRecords (options : Options) (tools : Tools) (event : ForensicEvent) : List CString :=
  match event.output with
  | .did _ (.record _ message) =>
      if options.oCommand.isNone && tools.isatty then [message] else []
  | .did _ (.exit _) => ((mover event).map Proc.buffer).getD []
  | _ => []

/-- What main prints after its loop. -/
def farewell (event : ForensicEvent) : List CString :=
  match event.output with
  | .did _ (.exit messages) => messages
  | _ => []

section Moves

variable {options : Options} {tools : Tools} {procs : List Proc} {forks : Bool} {proc : Proc}
  {action : Action} {pc : Pc} {world next : World} {label : Label} {report : Report} {i : Nat}

/-- `sig_handler` prints nothing. -/
theorem handlerStep_stdout (fired : handlerStep options world = some (next, report)) :
    next.stdout = world.stdout := by
  cases handlerStep_move fired with
  | count signo outer here => cases signo <;> rfl
  | logUsr1 | logUsr2 | append => rfl

/-- Standard output is what the steps have printed. -/
theorem WorldMove.stdout (move : WorldMove options tools world label next report) :
    next.stdout = world.stdout ++ (printedRecords options tools ⟨world, label, report, next⟩ ++
      farewell ⟨world, label, report, next⟩) := by
  cases move with
  | process i forks proc action pc here free move =>
      cases action with
      | kill signo => simp [World.perform, effect_kill, printedRecords, farewell]
      | record file message =>
          simp only [World.perform, effect_record, printedRecords, farewell, List.append_nil]
          split <;> simp
      | _ => simp [World.perform, World.effect, printedRecords, farewell, mover, here]
  | deliver signo cuts main pc here alive pending unblocked goesOn => simp [printedRecords, farewell]
  | handler next report fired =>
      obtain ⟨-, -, signo, stage, rfl⟩ := handlerStep_frame fired
      simp [handlerStep_stdout fired, printedRecords, farewell]

theorem stdout_eq {filepath : CString} {start : Start} {labels : List Label}
    {events : List ForensicEvent}
    (ran : forensic options tools filepath start labels = some (events, world)) :
    world.stdout = events.flatMap fun event =>
      printedRecords options tools event ++ farewell event := by
  apply run_induction ran (fun past world => world.stdout = past.flatMap fun event =>
    printedRecords options tools event ++ farewell event) rfl
  intro past now label report next _ _ before fired
  rw [(step_move fired).stdout, before, List.flatMap_append, List.flatMap_singleton]

/-- The record that a statement makes. -/
def Action.made : Action → Option CString
  | .record _ message => some message
  | _ => none

theorem made_of_notice (notice : action.isNotice = true) : action.made = none := by
  cases action <;> first | rfl | cases notice

/-- What a process flushes with a statement. -/
def Proc.flushes (proc : Proc) : Action → List CString
  | .exit _ => proc.buffer
  | _ => []

theorem flushes_of_notice (notice : action.isNotice = true) : proc.flushes action = [] := by
  cases action <;> first | rfl | cases notice

/-- Only a record that is buffered, and `exit`, change what a process has buffered. -/
theorem after_buffer_of_notice (notice : action.isNotice = true) :
    (proc.after options tools pc action).buffer = proc.buffer := by
  cases action <;> first | rfl | cases notice

/-- What a statement does to what is still to be flushed, where records are buffered. -/
theorem ProcMove.flushed (toStdout : options.oCommand = none) (redirected : tools.isatty = false)
    (move : ProcMove options tools procs forks proc action pc) (forked : action ≠ .forkFails)
    (uncut : proc.pc.isCut = false) (i : Nat) :
    proc.flushed (outMessage options tools) = (proc.flushes action : Multiset CString) +
        (proc.after options tools pc action).flushed (outMessage options tools) +
        proc.childWork (flushedWork (outMessage options tools)) i action := by
  cases move with
  | enter filepath inside here | kill file filepath rest here | log file filepath rest here =>
      simp [Proc.flushed, here, Pc.flushed, flushes_of_notice, childWork_of_local,
        isLocal_of_notice, after_buffer_of_notice]
  | other filepath name rest here | return_ filepath here | exit filepath here
  | failed filepath rest here | file filepath name stat rest here =>
      simp [Proc.flushed, here, Pc.flushed, Entries.flushed, Proc.flushes, Proc.childWork,
        Proc.after]
  | hidden filepath name inside rest here dotted =>
      simp [Proc.flushed, here, Pc.flushed, Entries.flushed, Proc.flushes, Proc.childWork,
        Proc.after, dotted]
  | fork filepath name inside rest here plain succeeds =>
      simp only [Proc.flushed, here, Pc.flushed, Entries.flushed, plain, Bool.false_eq_true,
        ↓reduceIte, Proc.flushes, Proc.childWork, Proc.child, Proc.after, Multiset.coe_nil,
        zero_add, ← Multiset.coe_add]
      exact add_comm _ _
  | forkFails => exact absurd rfl forked
  | record file filepath message rest here out =>
      simp [Proc.flushed, here, Pc.flushed, Proc.flushes, Proc.childWork, Proc.after, out, toStdout,
        redirected]
  | stop file filepath rest here out | crash file filepath rest here out =>
      simp [Proc.flushed, here, Pc.flushed, Proc.flushes, Proc.childWork, Proc.after, out]
  | cut file filepath rest here =>
      rw [here] at uncut
      cases uncut
  | reap child here zombie =>
      rcases here with here | here <;>
        simp [Proc.flushed, here, Pc.flushed, Proc.flushes, Proc.childWork, Proc.after]
  | block here | finish here | leave here =>
      simp [Proc.flushed, here, Pc.flushed, Proc.flushes, Proc.childWork, Proc.after]

/-- Where records are buffered, every step is a step of the pool of lines to be flushed. -/
theorem WorldMove.flushed_pool (toStdout : options.oCommand = none)
    (redirected : tools.isatty = false) (forked : ∀ i, report ≠ .did i .forkFails)
    (uncut : world.Uncut) (move : WorldMove options tools world label next report) :
    Pool.Step (flushedWork (outMessage options tools)).of world.procs
      (printedRecords options tools ⟨world, label, report, next⟩) 0 next.procs := by
  cases move with
  | process i forks proc action pc here free move =>
      have finished : printedRecords options tools ⟨world, .process i forks, .did i action,
          world.perform options tools i proc pc action⟩ = proc.flushes action := by
        cases action <;> simp [printedRecords, mover, here, Proc.flushes, redirected]
      rw [finished]
      refine move.pool (flushedWork (outMessage options tools)) here ?_ ?_
      · rw [add_zero]
        exact move.flushed toStdout redirected (fun fails => forked i (by rw [fails]))
          (uncut proc (List.mem_of_getElem? here)) i
      · intro isShared
        cases action <;> first | exact ⟨rfl, rfl⟩ | cases isShared
  | deliver signo cuts main pc here alive pending unblocked goesOn =>
      exact (flushedWork (outMessage options tools)).caught here goesOn
  | handler next report fired =>
      obtain ⟨-, -, signo, stage, rfl⟩ := handlerStep_frame fired
      exact (flushedWork (outMessage options tools)).handled fired

/-- The record of a file, if it has one. -/
def message (options : Options) (tools : Tools) (file : File) : Option CString :=
  match outMessage options tools file with
  | .ok message => some message
  | .error _ => none

theorem Entries.records_eq (filepath : CString) (entries : Entries) :
    entries.records (outMessage options tools) filepath =
      (entries.reached (hasRecord options tools) filepath).filterMap (message options tools) := by
  induction entries generalizing filepath with
  | done | failed => rfl
  | file name stat rest ih =>
      cases made : outMessage options tools ⟨entryPath filepath name, stat⟩ with
      | ok line => simp [Entries.records, Entries.reached, hasRecord, message, made, ih]
      | error failure => simp [Entries.records, Entries.reached, hasRecord, message, made]
  | other name rest ih => exact ih filepath
  | dir name inside rest ihInside ihRest =>
      cases hidden : isHidden name <;>
        simp [Entries.records, Entries.reached, hidden, ihInside, ihRest]

/-- The file on which a process is about to crash because a read was cut short. -/
def Pc.cutFile : Pc → Option File
  | .analyze .cut file _ _ => some file
  | _ => none

def cutFile (event : ForensicEvent) : Option File :=
  (mover event).bind fun proc => proc.pc.cutFile

/-- The records that are lost when a process crashes because a read was cut short: the one of
that file, and those of the files listed behind it. -/
def cutRecords (options : Options) (tools : Tools) (event : ForensicEvent) : List CString :=
  ((cutFile event).toList ++ cutOff options tools event).filterMap (message options tools)

/-- A record is made where `analyze_file` returns, and nowhere else. -/
theorem ProcMove.made (move : ProcMove options tools procs forks proc action pc) :
    proc.pc.analysed.toList.filterMap (message options tools) =
      action.made.toList ++ proc.pc.cutFile.toList.filterMap (message options tools) := by
  cases move with
  | enter filepath inside here | kill file filepath rest here | log file filepath rest here =>
      rw [here, made_of_notice (by simp)]
      rfl
  | record file filepath line rest here out =>
      simp [here, Pc.analysed, Pc.cutFile, message, out, Action.made]
  | stop file filepath rest here out | crash file filepath rest here out =>
      simp [here, Pc.analysed, Pc.cutFile, message, out, Action.made]
  | cut file filepath rest here => simp [here, Pc.analysed, Pc.cutFile, Action.made]
  | reap child here zombie => rcases here with here | here <;> rw [here] <;> rfl
  | other _ _ _ here | return_ _ here | exit _ here | failed _ _ here | file _ _ _ _ here
  | hidden _ _ _ _ here | fork _ _ _ _ here | forkFails _ _ _ _ here | block here | finish here
  | leave here =>
      rw [here]
      rfl

/-- The record that a step makes is the one of the file that it analyses, unless a read of
it was cut short. -/
theorem WorldMove.made (move : WorldMove options tools world label next report) :
    (analysed ⟨world, label, report, next⟩).toList.filterMap (message options tools) =
      ((recorded ⟨world, label, report, next⟩).map Prod.snd).toList ++
        (cutFile ⟨world, label, report, next⟩).toList.filterMap (message options tools) := by
  cases move with
  | process i forks proc action pc here free move =>
      have same : (recorded ⟨world, .process i forks, .did i action,
          world.perform options tools i proc pc action⟩).map Prod.snd = action.made := by
        cases action <;> rfl
      rw [same]
      simpa [analysed, cutFile, mover, here] using move.made
  | deliver => rfl
  | handler next report fired =>
      obtain ⟨-, -, signo, stage, rfl⟩ := handlerStep_frame fired
      rfl

/-- Nothing is buffered in a process that has not exited. -/
def World.Unbuffered (world : World) : Prop :=
  ∀ proc ∈ world.procs, proc.alive = true → proc.buffer = []

theorem after_buffer (direct : (options.oCommand.isSome || tools.isatty) = true)
    (empty : proc.buffer = []) : (proc.after options tools pc action).buffer = [] := by
  cases action with
  | record file message =>
      rw [Proc.after, if_pos direct]
      exact empty
  | exit messages => rfl
  | _ => exact empty

/-- A terminal, and the output file, leave nothing in the buffers. -/
theorem WorldMove.unbuffered (direct : (options.oCommand.isSome || tools.isatty) = true)
    (before : world.Unbuffered) (move : WorldMove options tools world label next report) :
    next.Unbuffered := by
  cases move with
  | process i forks proc action pc here free move =>
      have empty := before proc (List.mem_of_getElem? here) move.alive.1
      intro other member alive
      obtain ⟨j, there⟩ := List.getElem?_of_mem member
      rcases tableAfter_cases here there with ⟨-, rfl⟩ | ⟨-, old⟩ | ⟨-, reaped⟩ |
        ⟨-, filepath, inside, -, rfl⟩
      · exact after_buffer direct empty
      · exact before other (List.mem_of_getElem? old) alive
      · rw [Proc.alive, reaped] at alive
        cases alive
      · exact empty
  | deliver signo cuts main pc here alive pending unblocked goesOn =>
      intro other member alive'
      rcases List.mem_or_eq_of_mem_set member with old | rfl
      · exact before other old alive'
      · exact before main (List.mem_of_getElem? here) alive
  | handler next report fired =>
      obtain ⟨procs, -⟩ := handlerStep_frame fired
      rw [World.Unbuffered, procs]
      exact before

/-- A terminal shows the record that a step makes. -/
theorem WorldMove.printed (toStdout : options.oCommand = none) (terminal : tools.isatty = true)
    (before : world.Unbuffered) (move : WorldMove options tools world label next report) :
    printedRecords options tools ⟨world, label, report, next⟩ =
      ((recorded ⟨world, label, report, next⟩).map Prod.snd).toList := by
  cases move with
  | process i forks proc action pc here free move =>
      cases action with
      | record file message => simp [printedRecords, recorded, toStdout, terminal]
      | exit messages =>
          have empty := before proc (List.mem_of_getElem? here) move.alive.1
          simp [printedRecords, recorded, mover, here, empty]
      | _ => rfl
  | deliver => rfl
  | handler next report fired =>
      obtain ⟨-, -, signo, stage, rfl⟩ := handlerStep_frame fired
      rfl

/-- Without an output file no signal is sent. -/
theorem ProcMove.not_kill (move : ProcMove options tools procs forks proc action pc)
    (toStdout : options.oCommand = none) (signo : Signal) : action ≠ .kill signo := by
  rintro same
  generalize named : Action.kill signo = action' at same
  subst same
  cases move with
  | enter | kill =>
      rw [notify, toStdout] at named
      cases named
  | log =>
      rw [logged] at named
      split at named <;> cases named
  | _ => cases named

theorem WorldMove.undisturbed (move : WorldMove options tools world label next report)
    (toStdout : options.oCommand = none) (nothing : ∀ signo, world.pending signo = false) :
    (∀ signo, next.pending signo = false) ∧ label.cuts = false := by
  cases move with
  | process i forks proc action pc here free move =>
      refine ⟨fun signo => ?_, rfl⟩
      cases action with
      | kill sent => exact absurd rfl (move.not_kill toStdout sent)
      | exit messages | crash =>
          dsimp only [World.perform, World.effect]
          split
          · rfl
          · exact nothing signo
      | record file message =>
          rw [World.perform, effect_record]
          exact nothing signo
      | _ => exact nothing signo
  | deliver signo cuts main pc here alive pending =>
      rw [nothing signo] at pending
      cases pending
  | handler next report fired =>
      rw [(handlerStep_frame fired).2.1]
      refine ⟨nothing, rfl⟩

end Moves

section Runs

variable {options : Options} {tools : Tools} {filepath : CString} {inside : Entries}
  {labels : List Label} {events : List ForensicEvent} {world : World}

/-- The records made, in the order of the run. -/
def records (events : List ForensicEvent) : List CString :=
  (events.filterMap recorded).map Prod.snd

/-- The records made, and those that a read cut short has lost, are those of the files that
are analysed or cut off. -/
theorem records_add {start : Start}
    (ran : forensic options tools filepath start labels = some (events, world)) :
    (records events ++ events.flatMap (cutRecords options tools)).Perm
      ((events.filterMap analysed ++ events.flatMap (cutOff options tools)).filterMap
        (message options tools)) := by
  have made : ∀ event ∈ events, (analysed event).toList.filterMap (message options tools) =
      ((recorded event).map Prod.snd).toList ++
        (cutFile event).toList.filterMap (message options tools) := by
    intro event member
    obtain ⟨past, future, rfl⟩ := List.append_of_mem member
    exact (step_move (run_event ran).2.1).made
  have recordsOf : records events =
      events.flatMap fun event => ((recorded event).map Prod.snd).toList := by
    rw [records, List.map_filterMap, List.filterMap_eq_flatMap_toList]
  have analysedOf : (events.filterMap analysed).filterMap (message options tools) =
      events.flatMap fun event =>
        (analysed event).toList.filterMap (message options tools) := by
    rw [List.filterMap_eq_flatMap_toList analysed, List.filterMap_flatMap]
  rw [List.filterMap_append, recordsOf, analysedOf, List.flatMap_congr made,
    List.filterMap_flatMap, ← Multiset.coe_eq_coe]
  simp only [cutRecords, List.filterMap_append, ← Multiset.coe_add, ← Multiset.coe_bind,
    Multiset.bind_add, add_assoc]

/-- When every `fork` succeeds, each file that is reached has its record made once, unless a
read cut short has lost it. -/
theorem records_of_all_succeed
    (ran : forensic options tools filepath (.dir inside) labels = some (events, world))
    (ended : ∀ proc ∈ world.procs, proc.alive = false)
    (forked : ∀ event ∈ events, ∀ i, event.output ≠ .did i .forkFails) :
    (records events ++ events.flatMap (cutRecords options tools)).Perm
      (inside.records (outMessage options tools) filepath) := by
  rw [Entries.records_eq]
  exact (records_add ran).trans
    ((analysed_of_none_remains ran ended (none_remains forked)).filterMap _)

/-- Without an output file nothing is ever pending, and no read is cut short. -/
theorem forensic_undisturbed {start : Start} (toStdout : options.oCommand = none)
    (ran : forensic options tools filepath start labels = some (events, world)) :
    (∀ signo, world.pending signo = false) ∧ ∀ event ∈ events, event.input.cuts = false := by
  refine run_induction ran (fun past world => (∀ signo, world.pending signo = false) ∧
    ∀ event ∈ past, event.input.cuts = false) ⟨fun _ => rfl, nofun⟩ ?_
  rintro past now label report next - - ⟨pending, whole⟩ fired
  obtain ⟨pending', whole'⟩ := (step_move fired).undisturbed toStdout pending
  refine ⟨pending', fun event member => ?_⟩
  rcases List.mem_append.mp member with earlier | last
  · exact whole event earlier
  · rw [List.mem_singleton.mp last]
    exact whole'

/-- Where no read is cut short no record is lost at one. -/
theorem cutRecords_of_whole {start : Start}
    (ran : forensic options tools filepath start labels = some (events, world))
    (whole : ∀ event ∈ events, event.input.cuts = false) :
    events.flatMap (cutRecords options tools) = [] := by
  refine List.flatMap_eq_nil_iff.mpr fun event member => ?_
  obtain ⟨past, future, rfl⟩ := List.append_of_mem member
  have uncut := forensic_uncut (run_event ran).1
    fun event member => whole event (List.mem_append_left _ member)
  cases moved : mover event with
  | none => simp [cutRecords, cutFile, cutOff, moved]
  | some proc =>
      have inside : proc ∈ event.before.procs := by
        unfold mover at moved
        split at moved
        · exact List.mem_of_getElem? moved
        · cases moved
      have outside := uncut proc inside
      cases here : proc.pc with
      | analyze stage file directory rest =>
          rw [here] at outside
          cases stage with
          | cut => cases outside
          | _ => simp [cutRecords, cutFile, cutOff, moved, here, Pc.cutFile, Pc.cutOff]
      | _ => simp [cutRecords, cutFile, cutOff, moved, here, Pc.cutFile, Pc.cutOff]

theorem recordLines_eq {start : Start} (given : options.oCommand.isSome = true)
    (ran : forensic options tools filepath start labels = some (events, world)) :
    world.recordLines = records events := by
  apply run_induction ran (fun past world => world.recordLines = records past) rfl
  intro past now label report next _ _ before fired
  rw [(step_move fired).recordLines given, before, records, records, List.filterMap_append,
    List.map_append]
  cases made : recorded ⟨now, label, report, next⟩ <;> simp [made]

theorem printed_of_terminal {start : Start} (toStdout : options.oCommand = none)
    (terminal : tools.isatty = true)
    (ran : forensic options tools filepath start labels = some (events, world)) :
    events.flatMap (printedRecords options tools) = records events := by
  have direct : (options.oCommand.isSome || tools.isatty) = true := by
    rw [terminal, Bool.or_true]
  have kept := run_induction ran (fun past world => world.Unbuffered ∧
    past.flatMap (printedRecords options tools) = records past) ⟨?_, rfl⟩ ?_
  · exact kept.2
  · intro proc member _
    rw [List.mem_singleton.mp member]
  · intro past now label report next _ _ before fired
    refine ⟨(step_move fired).unbuffered direct before.1, ?_⟩
    rw [List.flatMap_append, List.flatMap_singleton, before.2,
      (step_move fired).printed toStdout terminal before.1, records, records,
      List.filterMap_append, List.map_append]
    cases made : recorded ⟨now, label, report, next⟩ <;> simp [made]

/-- When all processes have ended, what was buffered has been flushed or is lost. -/
theorem printed_of_redirected (toStdout : options.oCommand = none)
    (redirected : tools.isatty = false)
    (ran : forensic options tools filepath (.dir inside) labels = some (events, world))
    (ended : ∀ proc ∈ world.procs, proc.alive = false)
    (forked : ∀ event ∈ events, ∀ i, event.output ≠ .did i .forkFails) :
    (events.flatMap (printedRecords options tools)).Perm
      (inside.flushed (outMessage options tools) filepath []) := by
  have kept := forensic_pool (flushedWork (outMessage options tools))
    (printedRecords options tools) (fun _ => []) ran
    fun event member move => move.flushed_pool toStdout redirected (forked event member) <| by
      obtain ⟨past, future, rfl⟩ := List.append_of_mem member
      have reached := (run_event ran).1
      exact forensic_uncut reached (forensic_undisturbed toStdout reached).2
  have none : events.flatMap (fun _ => ([] : List CString)) = [] :=
    List.flatMap_eq_nil_iff.mpr fun _ _ => rfl
  rw [(flushedWork _).left_eq_zero ended, none, Multiset.coe_nil, add_zero, add_zero,
    initialWorld, Pool.left_singleton] at kept
  exact Multiset.coe_eq_coe.mp kept

end Runs

/-- Away from a terminal, the two reports agree if what is inherited, and what the one with
-o has lost at reads cut short, is what crashes lose of the other. -/
theorem Entries.flushed_perm_iff (out : File → Except Failure CString) (filepath : CString)
    (entries : Entries) {written cut : List CString}
    (split : (written ++ cut).Perm (entries.records out filepath)) :
    (entries.flushed out filepath []).Perm written ↔
      (entries.inherited out filepath [] ++ cut).Perm (entries.lost out filepath) := by
  have kept := entries.flushed_add out filepath []
  rw [ite_self, Multiset.coe_nil, add_zero, ← Multiset.coe_eq_coe.mpr split, ← Multiset.coe_add]
    at kept
  rw [← Multiset.coe_eq_coe, ← Multiset.coe_eq_coe, ← Multiset.coe_add, add_comm]
  rw [add_assoc] at kept
  constructor
  · intro same
    rw [same] at kept
    exact (add_left_cancel kept).symm
  · intro same
    rw [same] at kept
    exact add_right_cancel kept

/-- The signal that the first process has sent itself is caught in its first read. -/
example : ∃ events world,
    forensic { plainOptions with oCommand := some "report".toList } sampleTools ['t']
      (.dir (.file ['a'] sampleStat .done))
      (turns 0 4 ++ .deliver .sigusr1 true :: List.replicate 3 .handler ++ turns 0 1) =
        some (events, world) ∧
    world.procs.all (fun proc => !proc.alive) = true ∧ world.recordLines = [] ∧
    (events.flatMap (cutRecords plainOptions sampleTools)).length = 1 :=
  ⟨_, _, rfl, rfl, rfl, rfl⟩

/-- Standard output is a file or a pipe. -/
def redirectedTools : Tools := { sampleTools with isatty := false }

/-- No signals are sent without an output file. -/
def quietRun : List Label := turns 0 7 ++ turns 1 6 ++ turns 0 3

end Sope.Forensic
