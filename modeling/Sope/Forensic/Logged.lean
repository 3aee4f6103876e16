import Sope.Forensic.Analysed
import Sope.Forensic.Signals
import Sope.Lib.Journal

set_option autoImplicit false

/- What a run leaves in the log: a line for each file that is analysed, by the process that
analyses it, and one for each signal that is handled, by the first process. -/
namespace Sope.Forensic

open Machine Banking Journal

/-- The line that `analyze_file` logs. -/
def analysedAct (file : File) : CString := "ANALYZED ".toList ++ file.path

def isSignalAct (act : CString) : Bool := act == signalAct .sigusr1 || act == signalAct .sigusr2

/-- The lines of the log that `sig_handler` has not written. -/
def World.analysisLines (world : World) : List (Nat × CString) :=
  world.logFile.filter fun line => !isSignalAct line.2

/-- The file that is analysed in a step, with the process. -/
def analysedBy (event : ForensicEvent) : Option (Nat × File) :=
  match event.output with
  | .did i _ => (analysed event).map (i, ·)
  | _ => none

/-- The file that process `i` has logged and not yet analysed. -/
def announced (procs : List Proc) (i : Nat) : Option File := procs[i]?.bind (·.pc.analysed)

/-- A call of the handler that has counted and not yet logged. -/
def awaitsLog (signo : Signal) (frame : Signal × HandlerPc) : Bool :=
  match frame.2 with
  | .log => frame.1 == signo
  | _ => false

/-- How often a signal has been counted. -/
def counted (signo : Signal) (events : List ForensicEvent) : Nat :=
  events.countP fun event => event.output.counts signo

/-- What a statement of a process logs. -/
def Action.acts : Action → List CString
  | .log act => [act]
  | _ => []

theorem analysedAct_ne (file : File) (signo : Signal) : analysedAct file ≠ signalAct signo := by
  intro same
  have head : (analysedAct file).head? = some 'A' := rfl
  have head' : (signalAct signo).head? = some 'S' := by cases signo <;> rfl
  rw [same, head'] at head
  exact absurd head (by decide)

theorem isSignalAct_analysedAct (file : File) : isSignalAct (analysedAct file) = false := by
  simp [isSignalAct, analysedAct_ne]

theorem isSignalAct_signalAct (signo : Signal) : isSignalAct (signalAct signo) = true := by
  cases signo <;> rfl

section Moves

variable {options : Options} {tools : Tools} {procs : List Proc} {forks : Bool} {proc : Proc}
  {action : Action} {pc : Pc} {world next : World} {label : Label} {report : Report} {i : Nat}

/-- A process logs when, and what, it goes on to analyse. -/
theorem ProcMove.acts (move : ProcMove options tools procs forks proc action pc)
    (verbose : options.vCommand = true) : action.acts = pc.analysed.toList.map analysedAct := by
  cases move with
  | enter filepath inside here | kill file filepath rest here =>
      unfold notify
      split <;> rfl
  | log file filepath rest here =>
      rw [logged, if_pos verbose]
      rfl
  | _ => rfl

theorem effect_logFile (world : World) (i : Nat) (proc : Proc) (action : Action) :
    (world.effect options tools i proc action).logFile =
      world.logFile ++ action.acts.map (i, ·) := by
  cases action with
  | kill signo => simp [effect_kill, Action.acts]
  | record file message => simp [effect_record, Action.acts]
  | _ => simp [World.effect, Action.acts]

/-- What a statement adds to the log of a run with `-v`. -/
theorem ProcMove.logFile (move : ProcMove options tools procs forks proc action pc)
    (verbose : options.vCommand = true) (world : World) (i : Nat) :
    (world.perform options tools i proc pc action).logFile =
      world.logFile ++ (pc.analysed.toList.map analysedAct).map (i, ·) := by
  rw [← move.acts verbose]
  exact effect_logFile world i proc action

/-- A statement changes what its own process has announced, and no other one. -/
theorem announced_tableAfter (here : procs[i]? = some proc)
    (move : ProcMove options tools procs forks proc action pc) (j : Nat) :
    announced (tableAfter options tools procs i proc pc action) j =
      if j = i then pc.analysed else announced procs j := by
  unfold announced
  rw [tableAfter_getElem? here]
  split
  · rw [Option.bind_some, after_pc]
  · cases action with
    | fork filepath inside =>
        dsimp only
        split
        · rename_i new
          rw [new, List.getElem?_eq_none (le_refl _)]
          rfl
        · rfl
    | reap child =>
        dsimp only
        split
        · rename_i gone
          subst gone
          obtain ⟨zombie, there, -, exited⟩ := zombieChild_some move.reap_inv.2.1
          rw [there, Option.map_some, Option.bind_some, Option.bind_some, exited]
          rfl
        · rfl
    | _ => rfl

theorem announced_interrupted {cuts : Bool} {main : Proc} (here : world.procs[0]? = some main)
    (goesOn : interrupted tools world cuts main.pc = some pc) (j : Nat) :
    announced (world.procs.set 0 { main with pc }) j = announced world.procs j := by
  obtain ⟨inside, -⟩ := List.getElem?_eq_some_iff.mp here
  unfold announced
  by_cases root : j = 0
  · subst root
    rw [List.getElem?_set_self inside, here, Option.bind_some, Option.bind_some]
    rcases interrupted_cases goesOn with ⟨-, blocked, rfl⟩ | ⟨-, -, rfl⟩ |
      ⟨-, file, filepath, rest, reads, rfl⟩
    · rw [blocked]
      rfl
    · rfl
    · rw [reads]
      rfl
  · rw [List.getElem?_set_ne (Ne.symm root)]

theorem analysisLines_append {line : List (Nat × CString)}
    (logFile : next.logFile = world.logFile ++ line) :
    next.analysisLines = world.analysisLines ++ line.filter fun line => !isSignalAct line.2 := by
  rw [World.analysisLines, logFile, List.filter_append, World.analysisLines]

/-- What a statement logs is about a file. -/
theorem isSignalAct_of_mem {files : List File} {line : Nat × CString}
    (member : line ∈ (files.map analysedAct).map (i, ·)) : isSignalAct line.2 = false := by
  obtain ⟨act, ofFile, rfl⟩ := List.mem_map.mp member
  obtain ⟨file, -, rfl⟩ := List.mem_map.mp ofFile
  exact isSignalAct_analysedAct file

theorem filter_analyses (files : List File) (i : Nat) :
    ((files.map analysedAct).map (i, ·)).filter (fun line => !isSignalAct line.2) =
      (files.map analysedAct).map (i, ·) := by
  apply List.filter_eq_self.mpr
  intro line member
  rw [isSignalAct_of_mem member]
  rfl

theorem perform_frames (world : World) (i : Nat) (proc : Proc) (pc : Pc) (action : Action) :
    (world.perform options tools i proc pc action).frames = world.frames :=
  (effect_frames options tools world i proc action).1

/-- What the handler logs: at most one line, about its signal, as the first process. -/
theorem HandlerMove.logFile (move : HandlerMove options world next report) :
    ∃ lines, next.logFile = world.logFile ++ lines ∧
      ∀ line ∈ lines, line.1 = 0 ∧ isSignalAct line.2 = true := by
  have one (signo : Signal) : ∀ line ∈ (if options.vCommand then [(0, signalAct signo)] else []),
      line.1 = 0 ∧ isSignalAct line.2 = true := by
    intro line member
    split at member
    · cases List.mem_singleton.mp member
      exact ⟨rfl, isSignalAct_signalAct signo⟩
    · cases member
  cases move with
  | count signo outer here =>
      refine ⟨[], ?_, by simp⟩
      cases signo <;> exact (List.append_nil _).symm
  | logUsr1 outer here => exact ⟨_, rfl, one .sigusr1⟩
  | logUsr2 outer here => exact ⟨_, rfl, one .sigusr2⟩
  | append signo outer here => exact ⟨[], (List.append_nil _).symm, by simp⟩

/-- A process that logs a file has announced it, until it has analysed it. -/
theorem WorldMove.analysisLines (move : WorldMove options tools world label next report)
    (verbose : options.vCommand = true) (j : Nat) :
    ∃ files : List File,
      entriesOf j next.analysisLines =
        entriesOf j world.analysisLines ++ files.map analysedAct ∧
      entriesOf j (analysedBy ⟨world, label, report, next⟩).toList ++
          (announced next.procs j).toList =
        (announced world.procs j).toList ++ files := by
  cases move with
  | process i forks proc action pc here free move =>
      have written := analysisLines_append (move.logFile verbose world i)
      rw [filter_analyses] at written
      have analyses : analysedBy ⟨world, .process i forks, .did i action,
          world.perform options tools i proc pc action⟩ = proc.pc.analysed.map (i, ·) := by
        simp [analysedBy, analysed, mover, here]
      have before : announced world.procs i = proc.pc.analysed := by
        rw [announced, here, Option.bind_some]
      have after := announced_tableAfter here move j
      rw [written, entriesOf_append, analyses, Option.toList_map]
      show ∃ files, _ ∧ _ ++ (announced (tableAfter options tools world.procs i proc pc action)
        j).toList = _
      rw [after]
      by_cases own : j = i
      · subst own
        rw [if_pos rfl, before, entriesOf_own, entriesOf_own]
        exact ⟨pc.analysed.toList, rfl, rfl⟩
      · rw [if_neg own, entriesOf_other (Ne.symm own), entriesOf_other (Ne.symm own)]
        exact ⟨[], rfl, (List.append_nil _).symm⟩
  | deliver signo cuts main pc here alive pending unblocked goesOn =>
      refine ⟨[], (List.append_nil _).symm, ?_⟩
      rw [announced_interrupted here goesOn]
      exact (List.append_nil _).symm
  | handler next report fired =>
      obtain ⟨procs, -, signo, stage, rfl⟩ := handlerStep_frame fired
      have same : next.analysisLines = world.analysisLines := by
        obtain ⟨lines, logFile, signals⟩ := (handlerStep_move fired).logFile
        rw [analysisLines_append logFile, List.filter_eq_nil_iff.mpr, List.append_nil]
        intro line member
        simp [(signals line member).2]
      refine ⟨[], by rw [same]; exact (List.append_nil _).symm, ?_⟩
      rw [procs]
      exact (List.append_nil _).symm

theorem signalAct_inj {signo signo' : Signal} : signalAct signo = signalAct signo' ↔
    signo = signo' := by
  constructor
  · intro same
    have last (signo : Signal) :
        (signalAct signo).getLast? = some (if signo = .sigusr1 then '1' else '2') := by
      cases signo <;> rfl
    have chars := congrArg List.getLast? same
    rw [last, last] at chars
    cases signo <;> cases signo' <;> first | rfl | exact absurd chars (by decide)
  · rintro rfl
    rfl

/-- Every signal that is counted is logged, or its handler is about to do so. -/
theorem WorldMove.signalLines (move : WorldMove options tools world label next report)
    (verbose : options.vCommand = true) (signo : Signal) :
    next.logFile.count (0, signalAct signo) + next.frames.countP (awaitsLog signo) =
      world.logFile.count (0, signalAct signo) + world.frames.countP (awaitsLog signo) +
        (report.counts signo).toNat := by
  cases move with
  | process i forks proc action pc here free move =>
      have other : ((pc.analysed.toList.map analysedAct).map (i, ·)).count
          (0, signalAct signo) = 0 := by
        apply List.count_eq_zero.mpr
        intro member
        have analysis := isSignalAct_of_mem member
        rw [isSignalAct_signalAct] at analysis
        cases analysis
      rw [perform_frames, move.logFile verbose, List.count_append, other]
      rfl
  | deliver taken cuts main pc here alive pending unblocked goesOn =>
      rw [List.countP_cons]
      rfl
  | handler next report fired =>
      cases handlerStep_move fired with
      | count counted outer here =>
          have logFile : (world.count counted).logFile = world.logFile := by cases counted <;> rfl
          cases same : counted == signo <;>
            simp [logFile, here, awaitsLog, Report.counts, same, Nat.add_assoc]
      | logUsr1 outer here | logUsr2 outer here =>
          simp only [here, verbose, if_true, List.count_append, List.count_singleton,
            List.countP_cons, awaitsLog, Report.counts]
          cases signo <;> simp [signalAct_inj, Nat.add_right_comm, ← Nat.add_assoc]
      | append appended outer here =>
          simp [here, awaitsLog, Report.counts]

/-- `sig_handler` only runs in the first process, and that does not exit before it returns. -/
theorem WorldMove.handling (move : WorldMove options tools world label next report)
    (before : world.frames ≠ [] → world.receives = true) :
    next.frames ≠ [] → next.receives = true := by
  cases move with
  | process i forks proc action pc here free move =>
      intro busy
      rw [perform_frames] at busy
      have apart : i ≠ 0 := fun root => busy (free root)
      have receives := tableAfter_receives here move
      have there := before busy
      rw [World.receives] at there
      rw [there, beq_false_of_ne apart] at receives
      exact receives
  | deliver taken cuts main pc here alive pending unblocked goesOn =>
      intro _
      obtain ⟨inside, -⟩ := List.getElem?_eq_some_iff.mp here
      rw [World.receives, List.getElem?_set_self inside, Option.any_some]
      exact interrupted_alive goesOn alive
  | handler next report fired =>
      intro _
      rw [World.receives, (handlerStep_frame fired).1]
      refine before fun idle => ?_
      rw [handlerStep, idle] at fired
      cases fired

end Moves

/-- What the log tells of a run with `-v`: of each process the files it has analysed, in
order, and the one it is about to; and each signal that was counted, unless its handler is
about to log it. -/
structure LogKept (past : List ForensicEvent) (world : World) : Prop where
  analyses : ∀ i, entriesOf i world.analysisLines =
    (entriesOf i (past.filterMap analysedBy) ++ (announced world.procs i).toList).map analysedAct
  signals : ∀ signo, world.logFile.count (0, signalAct signo) +
    world.frames.countP (awaitsLog signo) = counted signo past
  handlers : ∀ line ∈ world.logFile, isSignalAct line.2 = true → line.1 = 0
  handling : world.frames ≠ [] → world.receives = true

section Runs

variable {options : Options} {tools : Tools} {filepath : CString} {start : Start}
  {labels : List Label} {events : List ForensicEvent} {world : World}

theorem initialWorld_logKept (filepath : CString) (start : Start) :
    LogKept [] (initialWorld filepath start) where
  analyses i := by
    cases i with
    | zero => cases start <;> rfl
    | succ i => rfl
  signals _ := rfl
  handlers _ member := by cases member
  handling busy := absurd rfl busy

theorem LogKept.step {past : List ForensicEvent} {world next : World} {label : Label}
    {report : Report} (before : LogKept past world)
    (move : WorldMove options tools world label next report) (verbose : options.vCommand = true) :
    LogKept (past ++ [⟨world, label, report, next⟩]) next where
  analyses i := by
    obtain ⟨files, lines, goesOn⟩ := move.analysisLines verbose i
    rw [lines, before.analyses i, ← List.map_append, List.append_assoc, ← goesOn,
      List.filterMap_append, entriesOf_append, List.filterMap_cons, List.filterMap_nil,
      ← List.append_assoc]
    cases analysedBy ⟨world, label, report, next⟩ <;> rfl
  signals signo := by
    rw [move.signalLines verbose, before.signals, counted, counted, List.countP_append,
      countP_single]
  handlers line member signal := by
    cases move with
    | process i forks proc action pc here free move =>
        rw [move.logFile verbose] at member
        rcases List.mem_append.mp member with old | new
        · exact before.handlers line old signal
        · rw [isSignalAct_of_mem new] at signal
          cases signal
    | deliver taken cuts main pc here alive pending unblocked goesOn =>
        exact before.handlers line member signal
    | handler next report fired =>
        obtain ⟨lines, logFile, signals⟩ := (handlerStep_move fired).logFile
        rw [logFile] at member
        rcases List.mem_append.mp member with old | new
        · exact before.handlers line old signal
        · exact (signals line new).1
  handling := move.handling before.handling

theorem forensic_logKept
    (ran : forensic options tools filepath start labels = some (events, world))
    (verbose : options.vCommand = true) : LogKept events world :=
  run_induction ran LogKept (initialWorld_logKept filepath start)
    fun _ _ _ _ _ _ _ before fired => before.step (step_move fired) verbose

theorem analysedBy_snd (event : ForensicEvent) :
    (analysedBy event).map Prod.snd = analysed event := by
  unfold analysedBy
  split
  · rw [Option.map_map]
    exact Option.map_id'
  · rename_i other
    unfold analysed mover
    split
    · rename_i i action did
      exact absurd did (other i action)
    · rfl

/-- The acts that the analyses of a run have logged. -/
theorem analyses_acts (events : List ForensicEvent) :
    ((events.filterMap analysedBy).map (Prod.map id analysedAct)).map Prod.snd =
      (events.filterMap analysed).map analysedAct := by
  rw [← funext analysedBy_snd, List.map_map, List.map_filterMap, List.map_filterMap]
  congr 1
  funext event
  cases analysedBy event <;> rfl

/-- Once all processes have ended, nothing is announced and no handler is left. -/
theorem LogKept.ended (kept : LogKept events world)
    (ended : ∀ proc ∈ world.procs, proc.alive = false) :
    world.analysisLines.Perm ((events.filterMap analysedBy).map (Prod.map id analysedAct)) ∧
      ∀ signo, world.logFile.count (0, signalAct signo) = counted signo events := by
  constructor
  · apply perm_of_entriesOf
    intro i
    have none : announced world.procs i = none := by
      unfold announced
      cases here : world.procs[i]? with
      | none => rfl
      | some proc =>
          rcases pc_of_dead (ended proc (List.mem_of_getElem? here)) with gone | gone <;>
            rw [Option.bind_some, gone] <;> rfl
    rw [entriesOf_map, kept.analyses, none, Option.toList_none, List.append_nil]
  · intro signo
    have idle : world.frames = [] := by
      by_contra busy
      have receives := kept.handling busy
      rw [World.receives, Option.any_eq_true] at receives
      obtain ⟨main, here, alive⟩ := receives
      rw [ended main (List.mem_of_getElem? here)] at alive
      cases alive
    rw [← kept.signals signo, idle]
    rfl

end Runs

/-- With `-v`, at any moment of any interleaving, the log has for each process a line for each
file that it has analysed, in that order, and for the one that it is about to analyse, and for
each signal as many lines as have been counted, apart from those that a handler is about to
write. Once all processes have ended, these are the files that are to be reached, without those
that a failed `fork` or a read cut short has lost, and both counters stand at the numbers of
their lines. A file is to be reached if no file is listed before it on which `analyze_file` ends
the process. -/
theorem execution_log (options : Options) (tools : Tools) (verbose : options.vCommand = true)
    (filepath : CString) (start : Start) (labels : List Label) {events : List ForensicEvent}
    {world : World}
    (ran : forensic options tools filepath start labels = some (events, world)) :
    LogKept events world ∧
      ((∀ proc ∈ world.procs, proc.alive = false) →
        (((world.analysisLines.map Prod.snd : List CString) : Multiset CString) +
            ((events.flatMap (leftOut options tools)).map analysedAct : List CString) =
          (((startPc filepath start).reached (hasRecord options tools)).map analysedAct :
            List CString)) ∧
        ∀ signo, world.counter signo = Int32.ofNat (world.logFile.count (0, signalAct signo))) := by
  have kept := forensic_logKept ran verbose
  refine ⟨kept, fun ended => ?_⟩
  obtain ⟨lines, signals⟩ := kept.ended ended
  constructor
  · have reached := forensic_pool (reachedWork (hasRecord options tools))
      (fun event => (analysed event).toList) (leftOut options tools) ran
      fun event _ move => move.reached_pool
    rw [(reachedWork _).left_eq_zero ended, add_zero, ← List.filterMap_eq_flatMap_toList,
      initialWorld, Pool.left_singleton] at reached
    have acts := congrArg (Multiset.map analysedAct) reached
    rw [Multiset.map_add, Multiset.map_coe, Multiset.map_coe] at acts
    rw [Multiset.coe_eq_coe.mpr (lines.map Prod.snd), analyses_acts, acts]
    rfl
  · intro signo
    rw [signals, (forensic_counted ran signo).counter]
    rfl

theorem calmRun_log :
    ∃ events world,
      forensic sampleOptions sampleTools ['t'] (.dir sampleTree) calmRun = some (events, world) ∧
      entriesOf 1 world.analysisLines = [analysedAct ⟨['t', '/', 'd', '/', 'b'], sampleStat⟩] ∧
      LogKept events world ∧
      ∀ signo, world.counter signo = Int32.ofNat (world.logFile.count (0, signalAct signo)) := by
  obtain ⟨events, world, ran, line, ended⟩ : ∃ events world,
      forensic sampleOptions sampleTools ['t'] (.dir sampleTree) calmRun = some (events, world) ∧
      entriesOf 1 world.analysisLines = [analysedAct ⟨['t', '/', 'd', '/', 'b'], sampleStat⟩] ∧
      world.procs.all (fun proc => !proc.alive) = true := ⟨_, _, rfl, rfl, rfl⟩
  obtain ⟨kept, whole⟩ :=
    execution_log sampleOptions sampleTools rfl ['t'] (.dir sampleTree) calmRun ran
  exact ⟨events, world, ran, line, kept, (whole (all_ended ended)).2⟩

end Sope.Forensic
