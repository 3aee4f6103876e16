import Sope.Forensic.Lines
import Sope.Forensic.Work

set_option autoImplicit false

/- What ends up in the output file: the records that the processes append, among the
lines of the signal handler. -/
namespace Sope.Forensic

open Machine Banking

/-- The record that a step writes, with the file that it is about. -/
def recorded (event : ForensicEvent) : Option (File × CString) :=
  match event.output with
  | .did _ (.record file message) => some (file, message)
  | _ => none

/-- The messages of the output file that do not begin like those of `sig_handler`. -/
def World.recordLines (world : World) : List CString :=
  world.outFile.filter fun line => !newDirectory.isPrefixOf line

section Steps

variable {options : Options} {tools : Tools} {world next : World} {label : Label} {report : Report}

theorem ProcMove.record_inv {procs : List Proc} {forks : Bool} {proc : Proc} {pc : Pc}
    {file : File} {message : CString}
    (move : ProcMove options tools procs forks proc (.record file message) pc) :
    outMessage options tools file = .ok message := by
  generalize same : Action.record file message = action at move
  cases move with
  | record file filepath message rest here out =>
      cases same
      exact out
  | enter | kill | log =>
      have notice : Action.isNotice (.record file message) = true := by rw [same]; simp
      cases notice
  | _ => cases same

theorem mess_newDirectory : newDirectory.isPrefixOf world.mess = true := by
  rw [List.isPrefixOf_iff_prefix, World.mess, List.append_assoc, List.append_assoc]
  exact List.prefix_append _ _

/-- A record is appended as a whole, and nothing but a record adds to the records. -/
theorem WorldMove.recordLines (given : options.oCommand.isSome = true)
    (move : WorldMove options tools world label next report) :
    next.recordLines =
      world.recordLines ++ ((recorded ⟨world, label, report, next⟩).map Prod.snd).toList := by
  cases move with
  | process i forks proc action pc here free move =>
      cases action with
      | record file message =>
          have notHandler := outMessage_not_newDirectory move.record_inv
          simp [World.recordLines, World.perform, effect_record, given, recorded, notHandler]
      | kill signo => simp [World.recordLines, World.perform, effect_kill, recorded]
      | _ => simp [World.recordLines, World.perform, World.effect, recorded]
  | deliver signo cuts main pc here alive pending unblocked goesOn =>
      simp [World.recordLines, recorded]
  | handler next report fired =>
      cases handlerStep_move fired with
      | count signo outer here =>
          cases signo <;> simp [World.recordLines, World.count, recorded]
      | logUsr1 | logUsr2 => simp [World.recordLines, recorded]
      | append => simp [World.recordLines, recorded, given, mess_newDirectory]

theorem WorldMove.recorded_message (move : WorldMove options tools world label next report)
    {entry : File × CString} (made : recorded ⟨world, label, report, next⟩ = some entry) :
    outMessage options tools entry.1 = .ok entry.2 := by
  unfold recorded at made
  split at made
  · rename_i file message did
    cases made
    dsimp only at did
    cases move with
    | process i forks proc action pc here free move =>
        cases did
        exact move.record_inv
    | deliver => cases did
    | handler next report fired =>
        obtain ⟨-, -, signo, stage, handled⟩ := handlerStep_frame fired
        rw [handled] at did
        cases did
  · cases made

theorem finished_eq (event : ForensicEvent) :
    event.output.finished = ((recorded event).map Prod.fst).toList := by
  obtain ⟨before, label, report, after⟩ := event
  cases report with
  | did i action => cases action <;> rfl
  | caught signo => rfl
  | handled signo stage => rfl

end Steps

section Run

variable {options : Options} {tools : Tools} {filepath : CString} {start : Start}

/-- The files recorded so far and those that are left are the files of the tree, and the
output file holds the records made so far. -/
structure Recorded (options : Options) (tools : Tools) (files : Multiset File)
    (past : List ForensicEvent) (world : World) : Prop where
  work : (((past.filterMap recorded).map Prod.fst : List File) : Multiset File) + world.left = files
  lines : world.recordLines = (past.filterMap recorded).map Prod.snd
  messages : ∀ entry ∈ past.filterMap recorded, outMessage options tools entry.1 = .ok entry.2

theorem startPc_files : (startPc filepath start).files = start.files filepath := by
  cases start <;> rfl

/-- All files are left when the analysis starts. -/
theorem initialWorld_left : (initialWorld filepath start).left = start.files filepath := by
  rw [World.left, initialWorld, Pool.left_singleton, Proc.work, startPc_files]

theorem initialWorld_recorded :
    Recorded options tools (start.files filepath) [] (initialWorld filepath start) where
  work := by
    rw [initialWorld_left]
    exact zero_add _
  lines := rfl
  messages := by simp

theorem Recorded.step {files : Multiset File} {past : List ForensicEvent} {world next : World}
    {label : Label} {report : Report} (before : Recorded options tools files past world)
    (given : options.oCommand.isSome = true)
    (messages : ∀ file ∈ files, ∃ message, outMessage options tools file = .ok message)
    (forked : ∀ i, report ≠ .did i .forkFails) (uncut : world.Uncut)
    (move : WorldMove options tools world label next report) :
    Recorded options tools files (past ++ [⟨world, label, report, next⟩]) next where
  work := by
    obtain ⟨lost, pool, none⟩ := move.pool
    have within : world.left ≤ files := before.work ▸ Multiset.le_add_left _ _
    have conserved := pool.conserved
    rw [none forked uncut fun file member => messages file (Multiset.mem_of_le within member),
      add_zero, finished_eq ⟨world, label, report, next⟩] at conserved
    rw [← before.work, World.left, World.left, ← conserved, List.filterMap_append, List.map_append,
      ← Multiset.coe_add, add_assoc]
    cases made : recorded ⟨world, label, report, next⟩ <;> simp [made]
  lines := by
    rw [move.recordLines given, before.lines, List.filterMap_append, List.map_append]
    cases made : recorded ⟨world, label, report, next⟩ <;> simp [made]
  messages := by
    intro entry member
    rw [List.filterMap_append, List.mem_append] at member
    rcases member with earlier | now
    · exact before.messages entry earlier
    · simp only [List.filterMap_cons, List.filterMap_nil] at now
      split at now
      · cases now
      · rename_i made
        rw [List.mem_singleton] at now
        subst now
        exact move.recorded_message made

/-- A `fork` fails only where the label says so. -/
theorem WorldMove.fork_fails {world next : World} {label : Label} {report : Report}
    (move : WorldMove options tools world label next report) {i : Nat}
    (fails : report = .did i .forkFails) : label = .process i false := by
  cases move with
  | process j forks proc action pc here free move =>
      cases fails
      generalize same : Action.forkFails = action at move
      cases move with
      | forkFails filepath name inside rest here plain fails => rw [fails]
      | enter | kill | log =>
          have notice : Action.isNotice .forkFails = true := by rw [same]; simp
          cases notice
      | _ => cases same
  | deliver => cases fails
  | handler next report fired =>
      obtain ⟨-, -, signo, stage, handled⟩ := handlerStep_frame fired
      rw [handled] at fails
      cases fails

theorem forensic_recorded (given : options.oCommand.isSome = true)
    (messages : ∀ file ∈ start.files filepath,
      ∃ message, outMessage options tools file = .ok message)
    {labels : List Label} {events : List ForensicEvent} {world : World}
    (ran : forensic options tools filepath start labels = some (events, world))
    (forked : ∀ event ∈ events, ∀ i, event.output ≠ .did i .forkFails)
    (whole : ∀ event ∈ events, event.input.cuts = false) :
    Recorded options tools (start.files filepath) events world := by
  have kept := run_induction ran (fun past world =>
    (∀ event ∈ past, ∀ i, event.output ≠ .did i .forkFails) →
      (∀ event ∈ past, event.input.cuts = false) →
      Recorded options tools (start.files filepath) past world)
    (fun _ _ => initialWorld_recorded) ?_
  · exact kept forked whole
  · intro past now label report next _ reached before fired forked whole
    have earlier := fun event member => whole event (List.mem_append_left _ member)
    apply (before (fun event member => forked event (List.mem_append_left _ member))
      earlier).step given messages
    · intro i
      exact forked _ (List.mem_append_right _ List.mem_cons_self) i
    · exact forensic_uncut reached earlier
    · exact step_move fired

/-- No `fork` is meant to fail in this step. -/
def Label.succeeds : Label → Bool
  | .process _ forks => forks
  | _ => true

theorem none_fails {labels : List Label} {events : List ForensicEvent} {world : World}
    (succeed : labels.all Label.succeeds = true)
    (ran : forensic options tools filepath start labels = some (events, world)) :
    ∀ event ∈ events, ∀ i, event.output ≠ .did i .forkFails := by
  intro event member i fails
  obtain ⟨past, future, rfl⟩ := List.append_of_mem member
  have fired := (run_event ran).2.1
  have label := (step_move fired).fork_fails fails
  have within : event.input ∈ labels := by
    rw [← run_inputs ran]
    exact List.mem_map_of_mem member
  have kept := List.all_eq_true.mp succeed _ within
  rw [label] at kept
  cases kept

/-- Only a label says that a read is cut short. -/
theorem none_cuts {labels : List Label} {events : List ForensicEvent} {world : World}
    (whole : labels.all (fun label => !label.cuts) = true)
    (ran : forensic options tools filepath start labels = some (events, world)) :
    ∀ event ∈ events, event.input.cuts = false := by
  intro event member
  have within : event.input ∈ labels := by
    rw [← run_inputs ran]
    exact List.mem_map_of_mem member
  have kept := List.all_eq_true.mp whole _ within
  rwa [Bool.not_eq_true'] at kept

theorem all_ended {world : World} (ended : world.procs.all (fun proc => !proc.alive) = true) :
    ∀ proc ∈ world.procs, proc.alive = false := by
  intro proc member
  have gone := List.all_eq_true.mp ended proc member
  rwa [Bool.not_eq_true'] at gone

/-- When all processes have ended nothing is left. -/
theorem left_eq_zero_of_ended {world : World} (ended : ∀ proc ∈ world.procs, proc.alive = false) :
    world.left = 0 := fileWork.left_eq_zero ended

/-- Every file that can be reached is recorded once, whatever the interleaving, as long as no
read is cut short: when all processes have ended, the record lines of the output file are a
permutation of the records of these files. -/
theorem forensic_records_once (options : Options) (tools : Tools)
    (given : options.oCommand.isSome = true) (documented : tools.Documented) (filepath : CString)
    (inside : Entries) (ordinary : ∀ file ∈ inside.files filepath, Ordinary file.path)
    (noEquals : ∀ file ∈ inside.files filepath, options.hashmode = 0 ∨ '=' ∉ file.path)
    (fits : ∀ file ∈ inside.files filepath, file.path.length < 257) (labels : List Label)
    {events : List ForensicEvent} {world : World}
    (ran : forensic options tools filepath (.dir inside) labels = some (events, world))
    (forked : ∀ event ∈ events, ∀ i, event.output ≠ .did i .forkFails)
    (whole : ∀ event ∈ events, event.input.cuts = false)
    (ended : ∀ proc ∈ world.procs, proc.alive = false) :
    (world.recordLines.map Except.ok).Perm
      ((inside.files filepath).map (outMessage options tools)) := by
  have messages : ∀ file ∈ ((Start.dir inside).files filepath : Multiset File),
      ∃ message, outMessage options tools file = .ok message := by
    intro file member
    have member' : file ∈ inside.files filepath := member
    obtain ⟨name, path⟩ := Entries.path_of_mem ((inside.files_sublist_held _).subset member')
    have slash : '/' ∈ file.path := by
      rw [path]
      exact List.mem_append_right _ List.mem_cons_self
    exact outMessage_ok documented (ordinary file member') (noEquals file member')
      (fits file member') slash (by decide)
  have last := forensic_recorded given messages ran forked whole
  have work := last.work
  rw [left_eq_zero_of_ended ended, add_zero] at work
  have files : ((events.filterMap recorded).map Prod.fst).Perm (inside.files filepath) :=
    Multiset.coe_eq_coe.mp work
  have same : world.recordLines.map Except.ok =
      ((events.filterMap recorded).map Prod.fst).map (outMessage options tools) := by
    rw [last.lines, List.map_map, List.map_map]
    apply List.map_congr_left
    intro entry member
    exact (last.messages entry member).symm
  rw [same]
  exact files.map _

end Run

/-- What stands between the quotes of a command line. -/
def quoted (cmd : CString) : CString := (cmd.dropWhile (· ≠ Shell.doubleQuote)).tail.dropLast

def sampleCode : CString := "d41d8cd9".toList

/-- Programs that take every file for a text and have one code for all of them. -/
def samplePopen (cmd : CString) : CString :=
  if filecmd.isPrefixOf cmd then quoted cmd ++ ':' :: ' ' :: "ASCII text".toList ++ ['\n']
  else if md5cmdmac.isPrefixOf cmd then
    "MD5 (".toList ++ quoted cmd ++ ") = ".toList ++ sampleCode ++ ['\n']
  else sampleCode ++ ' ' :: ' ' :: quoted cmd ++ ['\n']

def sampleTools : Tools where
  popen cmd := some (samplePopen cmd)
  localtime _ := ⟨119, 1, 25, 15, 17, 37⟩
  isatty := true

theorem quoted_commandLine {command : CString} (noQuote : Shell.doubleQuote ∉ command)
    (path : CString) : quoted (commandLine command path) = path := by
  have front : ∀ c ∈ command ++ [' '], decide (c ≠ Shell.doubleQuote) = true := by
    intro c member
    apply decide_eq_true
    rintro rfl
    rcases List.mem_append.mp member with inCommand | blank
    · exact noQuote inCommand
    · revert blank
      decide
  have split : commandLine command path =
      (command ++ [' ']) ++ Shell.doubleQuote :: (path ++ [Shell.doubleQuote]) := by
    simp [commandLine]
  rw [quoted, split, List.dropWhile_append_of_pos front]
  show (path ++ [Shell.doubleQuote]).dropLast = path
  exact List.dropLast_concat

theorem sampleCode_isCode : IsCode sampleCode where
  nonempty := by decide
  length := by decide
  hexadecimal c member := by
    have all : sampleCode.all (fun c => decide (c ∈ "0123456789abcdef".toList)) = true := rfl
    exact of_decide_eq_true (List.all_eq_true.mp all c member)

theorem sampleTools_documented : sampleTools.Documented where
  file path _ := by
    refine ⟨"ASCII text".toList, by decide, ?_⟩
    have begins : filecmd.isPrefixOf (commandLine filecmd path) = true := rfl
    show some (samplePopen (commandLine filecmd path)) = _
    unfold samplePopen
    rw [quoted_commandLine (by decide), if_pos begins]
  sum command known path _ := by
    refine ⟨sampleCode, sampleCode_isCode, ?_⟩
    show some (samplePopen (commandLine command path)) = _
    unfold samplePopen
    simp only [sumCommands, List.mem_cons, List.not_mem_nil, or_false] at known
    rcases known with rfl | rfl | rfl | rfl | rfl <;>
      rw [quoted_commandLine (by decide), if_neg (by exact Bool.false_ne_true),
        if_neg (by exact Bool.false_ne_true)]
  md5mac path _ := by
    refine ⟨sampleCode, sampleCode_isCode, ?_⟩
    have begins : md5cmdmac.isPrefixOf (commandLine md5cmdmac path) = true := rfl
    show some (samplePopen (commandLine md5cmdmac path)) = _
    unfold samplePopen
    rw [quoted_commandLine (by decide), if_neg (by exact Bool.false_ne_true), if_pos begins]

def sampleOptions : Options where
  hashmode := md5
  oCommand := some "report".toList
  rCommand := true
  vCommand := true
  macMode := false
  logFilepath := "log".toList

def sampleStat : Stat := ⟨0o644, 4, 0, 0⟩

/-- A file, and a directory with another one. -/
def sampleTree : Entries :=
  .file ['a'] sampleStat (.dir ['d'] (.file ['b'] sampleStat .done) .done)

def turns (i n : Nat) : List Label := List.replicate n (.process i true)

/-- A signal is caught and its handler runs to the end. -/
def handling : Signal → List Label
  | .sigusr1 => .deliver .sigusr1 false :: List.replicate 3 .handler
  | .sigusr2 => .deliver .sigusr2 false :: List.replicate 2 .handler

/-- Each signal is caught before the next one of its kind is sent. -/
def calmRun : List Label :=
  turns 0 1 ++ handling .sigusr1 ++ turns 0 2 ++ handling .sigusr2 ++ turns 0 3 ++ turns 1 1 ++
    handling .sigusr1 ++ turns 1 2 ++ handling .sigusr2 ++ turns 1 3 ++ turns 0 4

theorem sampleTree_ordinary {file : File} (member : file ∈ sampleTree.files ['t']) :
    Ordinary file.path ∧ '=' ∉ file.path ∧ file.path.length < 257 := by
  have files : sampleTree.files ['t'] =
      [⟨['t', '/', 'a'], sampleStat⟩, ⟨['t', '/', 'd', '/', 'b'], sampleStat⟩] := rfl
  rw [files] at member
  simp only [List.mem_cons, List.not_mem_nil, or_false] at member
  rcases member with rfl | rfl
  · refine ⟨⟨?_, by decide⟩, by decide, by decide⟩
    simp [Shell.Plain, Shell.isSpecial, Shell.dollar, Shell.backquote, Shell.doubleQuote,
      Shell.backslash]
  · refine ⟨⟨?_, by decide⟩, by decide, by decide⟩
    simp [Shell.Plain, Shell.isSpecial, Shell.dollar, Shell.backquote, Shell.doubleQuote,
      Shell.backslash]

theorem calmRun_records_once :
    ∃ events world,
      forensic sampleOptions sampleTools ['t'] (.dir sampleTree) calmRun = some (events, world) ∧
      world.recordLines.length = 2 ∧
      (world.recordLines.map Except.ok).Perm
        ((sampleTree.files ['t']).map (outMessage sampleOptions sampleTools)) := by
  obtain ⟨events, world, ran, two, ended⟩ : ∃ events world,
      forensic sampleOptions sampleTools ['t'] (.dir sampleTree) calmRun = some (events, world) ∧
      world.recordLines.length = 2 ∧ world.procs.all (fun proc => !proc.alive) = true :=
    ⟨_, _, rfl, rfl, rfl⟩
  have forked := none_fails (show calmRun.all Label.succeeds = true from rfl) ran
  exact ⟨events, world, ran, two, forensic_records_once sampleOptions sampleTools rfl
    sampleTools_documented ['t'] sampleTree (fun _ member => (sampleTree_ordinary member).1)
    (fun _ member => .inr (sampleTree_ordinary member).2.1)
    (fun _ member => (sampleTree_ordinary member).2.2) calmRun ran forked
    (none_cuts (show calmRun.all (fun label => !label.cuts) = true from rfl) ran)
    (all_ended ended)⟩

end Sope.Forensic
