import Sope.Forensic.Record
import Sope.Lib.Run

set_option autoImplicit false

/- The processes of one run of forensic: the first one, in which `main` runs and which
alone is sent signals, and those that `analyze_path` forks. A process is known by its
position in the table of all processes; the first has position zero. -/
namespace Sope.Forensic

open Machine Banking

/-- The signals that the processes send. -/
inductive Signal where
  | sigusr1
  | sigusr2
  deriving DecidableEq

/-- The statements of `analyze_file`: `kill`, `log_command`, and the record. At `cut` the
read of what a tool prints has been cut short by a signal, so that `fgets` has failed. -/
inductive Stage where
  | kill
  | log
  | record
  | cut

/-- Where a process is. In `analyze_path`, `enter` is the `kill` before `opendir`, and
`scan` the loop over what `readdir` has left; `analyze_file` returns to that loop.
`waits` is a call of `wait` in `main`, `blocked` one that has found no child to report,
and `finished` the end of the loop. An exited child stays a zombie until `wait` has
reported it. -/
inductive Pc where
  | enter (filepath : CString) (inside : Entries)
  | scan (filepath : CString) (rest : Entries)
  | analyze (stage : Stage) (file : File) (filepath : CString) (rest : Entries)
  | waits
  | blocked
  | finished
  | exited
  | reaped

/-- The process has not exited. -/
def Pc.alive : Pc → Bool
  | .exited | .reaped => false
  | _ => true

def Pc.isExited : Pc → Bool
  | .exited => true
  | _ => false

/-- `inMain` says that the outermost `analyze_path` returns to `main` and is not followed
by `exit(0)`; `buffer` is what the process has printed and not flushed. -/
structure Proc where
  parent : Option Nat
  inMain : Bool
  pc : Pc
  buffer : List CString

def Proc.alive (proc : Proc) : Bool := proc.pc.alive

/-- The statements of `sig_handler`. -/
inductive HandlerPc where
  | count
  | log
  | append

/-- `frames` are the calls of `sig_handler` on the stack of the first process, the
innermost first; `pending` are the signals that wait for that process. A file is the list
of the messages written to it, and `stdout` holds what has been flushed. -/
structure World where
  procs : List Proc
  frames : List (Signal × HandlerPc)
  nDirectory : Int32
  nFiles : Int32
  pending : Signal → Bool
  outFile : List CString
  logFile : List (Nat × CString)
  stdout : List CString

/-- What moves: a process (`forks` says whether a `fork` succeeds now), a pending signal,
which is caught (`cuts` says whether it is caught in the read of what a tool prints), or the
innermost handler. -/
inductive Label where
  | process (i : Nat) (forks : Bool)
  | deliver (signo : Signal) (cuts : Bool)
  | handler

/-- A read is cut short. -/
def Label.cuts : Label → Bool
  | .deliver _ cuts => cuts
  | _ => false

/-- What a statement of a process does. -/
inductive Action where
  | silent
  | kill (signo : Signal)
  | log (act : CString)
  | record (file : File) (message : CString)
  | fork (filepath : CString) (inside : Entries)
  | forkFails
  | reap (child : Nat)
  | exit (messages : List CString)
  | crash

/-- What a step shows of itself. -/
inductive Report where
  | did (i : Nat) (action : Action)
  | caught (signo : Signal)
  | handled (signo : Signal) (stage : HandlerPc)

section Steps

variable (options : Options) (tools : Tools)

/-- `kill(options.parent_id, signo)`, if there is an output file. -/
def notify (signo : Signal) : Action := if options.oCommand.isSome then .kill signo else .silent

/-- `log_command`, if a log is asked for. -/
def logged (act : CString) : Action := if options.vCommand then .log act else .silent

def analyzeFile (file : File) (filepath : CString) (rest : Entries) : Stage → Action × Pc
  | .kill => (notify options .sigusr2, .analyze .log file filepath rest)
  | .log =>
      (logged options ("ANALYZED ".toList ++ file.path), .analyze .record file filepath rest)
  | .record =>
      match outMessage options tools file with
      | .ok message => (.record file message, .scan filepath rest)
      | .error .exit => (.exit [], .exited)
      | .error .undefined => (.crash, .exited)
  -- nothing is stored in `file_result`, or in the array for a hash
  | .cut => (.crash, .exited)

/-- One round of the loop in `analyze_path`. -/
def directoryLoop (inMain forks : Bool) (filepath : CString) : Entries → Action × Pc
  | .done => if inMain then (.silent, .waits) else (.exit [], .exited)
  | .failed _ => (.exit [], .exited)
  | .file name stat rest =>
      (.silent, .analyze .kill ⟨entryPath filepath name, stat⟩ filepath rest)
  | .other _ rest => (.silent, .scan filepath rest)
  | .dir name inside rest =>
      if isHidden name then (.silent, .scan filepath rest)
      else if forks then (.fork (entryPath filepath name) inside, .scan filepath rest)
      -- a `fork` that fails returns -1, which takes the branch of the child
      else (.forkFails, .enter (entryPath filepath name) inside)

/-- A child of the first process that `wait` has to report. -/
def zombieChild (procs : List Proc) : Option Nat :=
  procs.findIdx? fun proc => proc.parent == some 0 && proc.pc.isExited

def childRuns (procs : List Proc) : Bool :=
  procs.any fun proc => proc.parent == some 0 && proc.alive

/-- `wait(NULL)`, when it is called. -/
def wait (procs : List Proc) : Action × Pc :=
  match zombieChild procs with
  | some child => (.reap child, .waits)
  | none => (.silent, if childRuns procs then .blocked else .finished)

/-- What `main` prints after its loop. -/
def exitMessages : List CString :=
  (match options.oCommand with
    | some file => ["Data saved on file ".toList ++ file ++ ['\n']]
    | none => []) ++
  if options.vCommand then
    ["Execution records saved on file ".toList ++ options.logFilepath ++ ['\n']]
  else []

/-- The next statement of a process. -/
def Proc.step (procs : List Proc) (forks : Bool) (proc : Proc) : Option (Action × Pc) :=
  match proc.pc with
  | .enter filepath inside => some (notify options .sigusr1, .scan filepath inside)
  | .scan filepath rest => some (directoryLoop proc.inMain forks filepath rest)
  | .analyze stage file filepath rest => some (analyzeFile options tools file filepath rest stage)
  | .waits => some (wait procs)
  | .blocked => (zombieChild procs).map fun child => (.reap child, .waits)
  | .finished => some (.exit (exitMessages options), .exited)
  | .exited | .reaped => none

/-- The first process is there to receive signals. -/
def World.receives (world : World) : Bool := world.procs[0]?.any Proc.alive

/-- A process that does `action` and is at `pc` then. -/
def Proc.after (proc : Proc) (pc : Pc) : Action → Proc
  | .record _ message =>
      if options.oCommand.isSome || tools.isatty then { proc with pc }
      else { proc with pc, buffer := proc.buffer ++ [message] }
  | .forkFails => { proc with pc, inMain := false }
  | .exit _ => { proc with pc, buffer := [] }
  | _ => { proc with pc }

/-- The child of a `fork`: it has a copy of what its parent has not flushed. -/
def Proc.child (proc : Proc) (i : Nat) (filepath : CString) (inside : Entries) : Proc where
  parent := some i
  inMain := false
  pc := .enter filepath inside
  buffer := proc.buffer

/-- The table when process `i`, which is `proc`, has done `action`. -/
def tableAfter (procs : List Proc) (i : Nat) (proc : Proc) (pc : Pc) (action : Action) :
    List Proc :=
  match action with
  | .fork filepath inside =>
      procs.set i (proc.after options tools pc action) ++ [proc.child i filepath inside]
  | .reap child =>
      (procs.modify child ({ · with pc := .reaped })).set i (proc.after options tools pc action)
  | _ => procs.set i (proc.after options tools pc action)

/-- What `action` changes apart from the table of processes. -/
def World.effect (world : World) (i : Nat) (proc : Proc) : Action → World
  | .kill signo =>
      -- a signal that is pending is not queued a second time
      if world.receives then { world with pending := Function.update world.pending signo true }
      else world
  | .log act => { world with logFile := world.logFile ++ [(i, act)] }
  | .record _ message =>
      if options.oCommand.isSome then { world with outFile := world.outFile ++ [message] }
      else if tools.isatty then { world with stdout := world.stdout ++ [message] }
      else world
  | .exit messages => { world with
      pending := if i = 0 then fun _ => false else world.pending
      stdout := world.stdout ++ proc.buffer ++ messages }
  | .crash => { world with pending := if i = 0 then fun _ => false else world.pending }
  | _ => world

def World.perform (world : World) (i : Nat) (proc : Proc) (pc : Pc) (action : Action) : World :=
  { world.effect options tools i proc action with
    procs := tableAfter options tools world.procs i proc pc action }

/-- The signal is not blocked: no call of `sig_handler` for it is on the stack. -/
def World.unblocked (world : World) (signo : Signal) : Bool :=
  world.frames.all fun frame => frame.1 != signo

/-- Where a process goes on when a signal is caught. `wait` is interrupted, but does not end
before it has looked for a child to report; so is the read of what a tool prints, if the
signal is caught in it. The handlers are installed without `SA_RESTART`. -/
def interrupted (world : World) (cuts : Bool) : Pc → Option Pc
  | .blocked =>
      if cuts || (zombieChild world.procs).isSome then none else some .finished
  | .analyze .record file filepath rest =>
      if cuts then
        if world.frames.isEmpty && (tools.popen (commandLine filecmd file.path)).isSome then
          some (.analyze .cut file filepath rest)
        else none
      else some (.analyze .record file filepath rest)
  | pc => if cuts then none else some pc

def World.count (world : World) : Signal → World
  | .sigusr1 => { world with nDirectory := world.nDirectory + 1 }
  | .sigusr2 => { world with nFiles := world.nFiles + 1 }

def signalAct : Signal → CString
  | .sigusr1 => "SIGNAL SIGUSR1".toList
  | .sigusr2 => "SIGNAL SIGUSR2".toList

def newDirectory : CString := "New directory: ".toList

/-- `mess`. -/
def World.mess (world : World) : CString :=
  newDirectory ++ decimal world.nDirectory.toInt ++ '/' :: ' ' :: decimal world.nFiles.toInt ++
    " directories/files at this time.\n".toList

/-- The next statement of the innermost `sig_handler`. -/
def handlerStep (world : World) : Option (World × Report) :=
  match world.frames with
  | [] => none
  | (signo, .count) :: outer =>
      some ({ world.count signo with frames := (signo, .log) :: outer }, .handled signo .count)
  | (signo, .log) :: outer =>
      some ({ world with
        frames := match signo with
          | .sigusr1 => (signo, .append) :: outer
          | .sigusr2 => outer
        logFile := world.logFile ++ if options.vCommand then [(0, signalAct signo)] else [] },
        .handled signo .log)
  | (signo, .append) :: outer =>
      some ({ world with
        frames := outer
        outFile := world.outFile ++ if options.oCommand.isSome then [world.mess] else [] },
        .handled signo .append)

/-- One step. The statements of the first process do not go on before its handlers have
returned. -/
def step (world : World) : Label → Option (World × Report)
  | .process i forks =>
      if i = 0 ∧ world.frames ≠ [] then none
      else do
        let proc ← world.procs[i]?
        let (action, pc) ← proc.step options tools world.procs forks
        return (world.perform options tools i proc pc action, .did i action)
  | .deliver signo cuts => do
      let proc ← world.procs[0]?
      if proc.alive && world.pending signo && world.unblocked signo then do
        let pc ← interrupted tools world cuts proc.pc
        return ({ world with
          procs := world.procs.set 0 { proc with pc }
          frames := (signo, .count) :: world.frames
          pending := Function.update world.pending signo false }, .caught signo)
      else none
  | .handler => handlerStep options world

end Steps

/-- `analyze_path(filepath)`, as `main` calls it. -/
def startPc (filepath : CString) : Start → Pc
  | .file stat => .analyze .kill ⟨filepath, stat⟩ filepath .done
  | .dir inside => .enter filepath inside
  | .missing => .scan filepath (.failed .done)

/-- The call of `analyze_path` in `main`. -/
def initialWorld (filepath : CString) (start : Start) : World where
  procs := [{ parent := none, inMain := true, pc := startPc filepath start, buffer := [] }]
  frames := []
  nDirectory := 0
  nFiles := 0
  pending := fun _ => false
  outFile := []
  logFile := []
  stdout := []

abbrev ForensicEvent := Event World Label Report

/-- Any interleaving of the processes, the signals and the handlers. -/
def forensic (options : Options) (tools : Tools) (filepath : CString) (start : Start)
    (labels : List Label) : Option (List ForensicEvent × World) :=
  run (step options tools) (initialWorld filepath start) labels

end Sope.Forensic
