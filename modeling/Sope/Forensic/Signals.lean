import Sope.Forensic.Records
import Sope.Lib.Mailbox

set_option autoImplicit false

/- What the signal handler counts. For each signal the first process has a mailbox with
one place, and is there to look into it until it exits. -/
namespace Sope.Forensic

open Machine Banking Mailbox

/-- The mailbox of the first process for one signal. -/
def World.slot (world : World) (signo : Signal) : Slot :=
  if world.receives then if world.pending signo then .full else .empty else .closed

/-- What a step does to the mailbox. -/
def mailboxOp (signo : Signal) : Report → Option Op
  | .did _ (.kill sent) => if sent = signo then some .post else none
  | .did 0 (.exit _) => some .close
  | .did 0 .crash => some .close
  | .caught taken => if taken = signo then some .take else none
  | _ => none

/-- The statement ends its process. -/
def Action.ends : Action → Bool
  | .exit _ | .crash => true
  | _ => false

section Moves

variable {options : Options} {tools : Tools} {procs : List Proc} {forks : Bool} {proc : Proc}
  {action : Action} {pc : Pc} {world next : World} {i : Nat}

theorem ends_of_notice (notice : action.isNotice = true) : action.ends = false := by
  cases action <;> first | rfl | cases notice

/-- Only a process that has not exited moves, and it exits when its statement says so. -/
theorem ProcMove.alive (move : ProcMove options tools procs forks proc action pc) :
    proc.pc.alive = true ∧ pc.alive = !action.ends := by
  cases move with
  | reap child here zombie =>
      rcases here with here | here <;> simp [here, Pc.alive, Action.ends]
  | enter | kill | log => simp [*, Pc.alive, ends_of_notice]
  | _ => simp [*, Pc.alive, Action.ends]

/-- Only `wait` reaps, so a process that is reaped has exited before. -/
theorem ProcMove.reaped_not_alive {child : Nat}
    (move : ProcMove options tools procs forks proc (.reap child) pc) {gone : Proc}
    (there : procs[child]? = some gone) : gone.alive = false := by
  obtain ⟨-, zombie, -⟩ := move.reap_inv
  obtain ⟨exited, there', -, here⟩ := zombieChild_some zombie
  rw [there] at there'
  cases there'
  rw [Proc.alive, here]
  rfl

/-- The first process is there until it exits. -/
theorem tableAfter_receives (here : procs[i]? = some proc)
    (move : ProcMove options tools procs forks proc action pc) :
    (tableAfter options tools procs i proc pc action)[0]?.any Proc.alive =
      (procs[0]?.any Proc.alive && !(i == 0 && action.ends)) := by
  obtain ⟨alive, alive'⟩ := move.alive
  rw [tableAfter_getElem? here]
  by_cases first : i = 0
  · subst first
    simp [here, Proc.alive, alive, alive']
  · rw [if_neg (Ne.symm first)]
    have kept : (!(i == 0 && action.ends)) = true := by simp [first]
    rw [kept, Bool.and_true]
    obtain ⟨inside, -⟩ := List.getElem?_eq_some_iff.mp here
    cases action with
    | fork filepath inside' =>
        dsimp only
        rw [if_neg (by omega)]
    | reap child =>
        dsimp only
        split
        · rename_i root
          subst root
          cases there : procs[0]? with
          | none => rfl
          | some gone =>
              have dead := move.reaped_not_alive there
              rw [Option.map_some, Option.any_some, Option.any_some, dead]
              rfl
        · rfl
    | _ => rfl

end Moves

section Slots

variable {options : Options} {tools : Tools} {world next : World} {label : Label} {report : Report}

theorem slot_congr {signo : Signal} (receives : next.receives = world.receives)
    (pending : next.pending signo = world.pending signo) :
    next.slot signo = world.slot signo := by
  unfold World.slot
  rw [receives, pending]

theorem slot_full {signo : Signal} (receives : world.receives = true)
    (pending : world.pending signo = true) : world.slot signo = .full := by
  unfold World.slot
  rw [if_pos receives, if_pos pending]

theorem slot_empty {signo : Signal} (receives : world.receives = true)
    (none : world.pending signo = false) : world.slot signo = .empty := by
  unfold World.slot
  rw [if_pos receives, none]
  rfl

/-- A statement that sends nothing, and ends no process or another one than the first,
leaves the mailbox alone. -/
theorem perform_slot {i : Nat} {proc : Proc} {action : Action} {pc : Pc} {forks : Bool}
    (here : world.procs[i]? = some proc)
    (move : ProcMove options tools world.procs forks proc action pc) (signo : Signal)
    (stays : (i == 0 && action.ends) = false)
    (pending : (world.effect options tools i proc action).pending signo = world.pending signo) :
    (world.perform options tools i proc pc action).slot signo = world.slot signo := by
  have receives := tableAfter_receives here move
  rw [stays, Bool.not_false, Bool.and_true] at receives
  exact slot_congr receives pending

theorem perform_ends_slot {proc : Proc} {action : Action} {pc : Pc} {forks : Bool}
    (here : world.procs[0]? = some proc)
    (move : ProcMove options tools world.procs forks proc action pc) (signo : Signal)
    (ends : action.ends = true) :
    (world.perform options tools 0 proc pc action).slot signo = .closed := by
  have receives := tableAfter_receives here move
  rw [ends] at receives
  have gone : (world.perform options tools 0 proc pc action).receives = false := by
    rw [World.receives, World.perform, receives]
    simp
  unfold World.slot
  rw [gone]
  rfl

theorem perform_kill_pending {i : Nat} {proc : Proc} {sent : Signal} {pc : Pc}
    (receives : world.receives = true) :
    (world.perform options tools i proc pc (.kill sent)).pending =
      Function.update world.pending sent true := by
  dsimp only [World.perform]
  rw [effect_kill, if_pos receives]

theorem perform_kill_slot {i : Nat} {proc : Proc} {sent : Signal} {pc : Pc} {forks : Bool}
    (here : world.procs[i]? = some proc)
    (move : ProcMove options tools world.procs forks proc (.kill sent) pc) :
    Mailbox.next (world.slot sent) .post =
      some ((world.perform options tools i proc pc (.kill sent)).slot sent) := by
  have receives := tableAfter_receives here move
  have same : (world.perform options tools i proc pc (.kill sent)).receives = world.receives := by
    rw [World.receives, World.perform, receives]
    simp [Action.ends, World.receives]
  unfold World.slot
  rw [same]
  cases there : world.receives with
  | false => rfl
  | true =>
      have posted : (world.perform options tools i proc pc (.kill sent)).pending sent = true := by
        rw [perform_kill_pending there, Function.update_self]
      rw [if_pos rfl, if_pos rfl, if_pos posted]
      cases world.pending sent <;> rfl

theorem interrupted_alive {cuts : Bool} {pc pc' : Pc}
    (goesOn : interrupted tools world cuts pc = some pc') (alive : pc.alive = true) :
    pc'.alive = true := by
  rcases interrupted_cases goesOn with ⟨-, -, rfl⟩ | ⟨-, -, rfl⟩ | ⟨-, -, -, -, -, rfl⟩
  · rfl
  · exact alive
  · rfl

/-- Each step is a step of the mailbox, or leaves it alone. -/
theorem WorldMove.slot (move : WorldMove options tools world label next report) (signo : Signal) :
    match mailboxOp signo report with
    | some op => Mailbox.next (world.slot signo) op = some (next.slot signo)
    | none => next.slot signo = world.slot signo := by
  cases move with
  | process i forks proc action pc here free move =>
      cases action with
      | kill sent =>
          dsimp only [mailboxOp]
          split
          · rename_i op made
            split at made
            · cases made
              subst_vars
              exact perform_kill_slot here move
            · cases made
          · rename_i other
            split at other
            · cases other
            · rename_i apart
              apply perform_slot here move signo (by simp [Action.ends])
              rw [effect_kill]
              dsimp only
              split
              · exact Function.update_of_ne (Ne.symm apart) ..
              · rfl
      | exit messages | crash =>
          cases i with
          | zero =>
              dsimp only [mailboxOp]
              rw [perform_ends_slot here move signo rfl]
              cases world.slot signo <;> rfl
          | succ i => exact perform_slot here move signo (by simp) rfl
      | record file message =>
          apply perform_slot here move signo (by simp [Action.ends])
          rw [effect_record]
      | _ => exact perform_slot here move signo (by simp [Action.ends]) rfl
  | deliver taken cuts main pc here alive pending unblocked goesOn =>
      obtain ⟨inside, -⟩ := List.getElem?_eq_some_iff.mp here
      have before : world.receives = true := by
        rw [World.receives, here, Option.any_some, alive]
      have after : ∀ next : World, next.procs = world.procs.set 0 { main with pc } →
          next.receives = true := by
        intro next procs
        rw [World.receives, procs, List.getElem?_set_self inside, Option.any_some, Proc.alive,
          interrupted_alive goesOn alive]
      by_cases same : taken = signo
      · subst same
        simp only [mailboxOp, if_true]
        rw [slot_full before pending, slot_empty (after _ rfl) (Function.update_self ..)]
        rfl
      · simp only [mailboxOp, if_neg same]
        exact slot_congr ((after _ rfl).trans before.symm) (Function.update_of_ne (Ne.symm same) ..)
  | handler next report fired =>
      obtain ⟨procs, pending, handled, stage, rfl⟩ := handlerStep_frame fired
      exact slot_congr (by rw [World.receives, World.receives, procs]) (by rw [pending])

/-- How the mailbox of a signal sees a step. -/
def mailboxEvent (signo : Signal) (event : ForensicEvent) : Option (Event Slot Op Bool) :=
  (mailboxOp signo event.output).map fun op =>
    ⟨event.before.slot signo, op, loses (event.before.slot signo) op, event.after.slot signo⟩

/-- A run is a run of each mailbox. -/
theorem forensic_mailbox {filepath : CString} {start : Start} {labels : List Label}
    {events : List ForensicEvent}
    (ran : forensic options tools filepath start labels = some (events, world)) (signo : Signal) :
    run Mailbox.step .empty ((events.filterMap (mailboxEvent signo)).map (·.input)) =
      some (events.filterMap (mailboxEvent signo), world.slot signo) := by
  have first : (initialWorld filepath start).slot signo = .empty := by
    unfold World.slot World.receives initialWorld startPc
    cases start <;> rfl
  rw [← first]
  apply run_project (fun world => world.slot signo) (mailboxEvent signo) _ _ ran
  · intro event fired hidden
    have moved := (step_move fired).slot signo
    rw [Option.map_eq_none_iff.mp hidden] at moved
    exact moved
  · intro event event' fired seen
    obtain ⟨op, made, rfl⟩ := Option.map_eq_some_iff.mp seen
    have moved := (step_move fired).slot signo
    rw [made] at moved
    refine ⟨rfl, rfl, ?_⟩
    unfold Mailbox.step
    rw [moved]
    rfl

end Slots

def Report.sends (signo : Signal) : Report → Bool
  | .did _ (.kill sent) => sent == signo
  | _ => false

def Report.catches (signo : Signal) : Report → Bool
  | .caught taken => taken == signo
  | _ => false

/-- The handler adds one to its counter. -/
def Report.counts (signo : Signal) : Report → Bool
  | .handled counted .count => counted == signo
  | _ => false

/-- How often a signal has been sent. -/
def sent (signo : Signal) (events : List ForensicEvent) : Nat :=
  events.countP fun event => event.output.sends signo

def World.counter (world : World) : Signal → Int32
  | .sigusr1 => world.nDirectory
  | .sigusr2 => world.nFiles

/-- A call of the handler that has yet to count. -/
def awaitsCount (signo : Signal) (frame : Signal × HandlerPc) : Bool :=
  match frame.2 with
  | .count => frame.1 == signo
  | _ => false

section Counters

variable {options : Options} {tools : Tools} {world next : World} {label : Label} {report : Report}

/-- Every signal caught is counted, or its handler is about to do so. -/
structure Counted (signo : Signal) (past : List ForensicEvent) (world : World) : Prop where
  caught : past.countP (fun event => event.output.catches signo) =
    past.countP (fun event => event.output.counts signo) + world.frames.countP (awaitsCount signo)
  counter : world.counter signo =
    Int32.ofNat (past.countP fun event => event.output.counts signo)

theorem effect_frames (options : Options) (tools : Tools) (world : World) (i : Nat) (proc : Proc)
    (action : Action) :
    (world.effect options tools i proc action).frames = world.frames ∧
      ∀ signo, (world.effect options tools i proc action).counter signo = world.counter signo := by
  cases action with
  | kill sent =>
      rw [effect_kill]
      exact ⟨rfl, fun signo => by cases signo <;> rfl⟩
  | record file message =>
      rw [effect_record]
      exact ⟨rfl, fun signo => by cases signo <;> rfl⟩
  | _ => exact ⟨rfl, fun signo => by cases signo <;> rfl⟩

/-- What one step does to the calls of the handler and to the counters. -/
theorem WorldMove.counts (move : WorldMove options tools world label next report)
    (signo : Signal) :
    next.frames.countP (awaitsCount signo) + (report.counts signo).toNat =
        world.frames.countP (awaitsCount signo) + (report.catches signo).toNat ∧
      next.counter signo = world.counter signo + Int32.ofNat (report.counts signo).toNat := by
  cases move with
  | process i forks proc action pc here free move =>
      obtain ⟨frames, counters⟩ := effect_frames options tools world i proc action
      refine ⟨?_, ?_⟩
      · show (world.effect options tools i proc action).frames.countP (awaitsCount signo) = _
        rw [frames]
        rfl
      · have same : (world.perform options tools i proc pc action).counter signo =
            (world.effect options tools i proc action).counter signo := by cases signo <;> rfl
        rw [same, counters]
        exact (Int32.add_zero _).symm
  | deliver taken cuts main pc here alive pending unblocked goesOn =>
      refine ⟨?_, ?_⟩
      · rw [List.countP_cons]
        cases same : taken == signo <;> simp [awaitsCount, Report.counts, Report.catches, same]
      · cases signo <;> exact (Int32.add_zero _).symm
  | handler next report fired =>
      cases handlerStep_move fired with
      | count counted outer frames =>
          rw [frames]
          cases counted <;> cases signo <;>
            simp [awaitsCount, Report.counts, Report.catches, World.count, World.counter] <;> rfl
      | logUsr1 outer frames | logUsr2 outer frames =>
          rw [frames]
          cases signo <;> simp [awaitsCount, Report.counts, Report.catches, World.counter]
      | append handled outer frames =>
          rw [frames]
          cases signo <;> simp [awaitsCount, Report.counts, Report.catches, World.counter]

theorem countP_single (counts : ForensicEvent → Bool) (event : ForensicEvent) :
    [event].countP counts = (counts event).toNat := by
  rw [List.countP_singleton]
  cases counts event <;> rfl

theorem forensic_counted {filepath : CString} {start : Start} {labels : List Label}
    {events : List ForensicEvent}
    (ran : forensic options tools filepath start labels = some (events, world)) (signo : Signal) :
    Counted signo events world := by
  apply run_induction ran (Counted signo)
  · exact ⟨rfl, by cases signo <;> rfl⟩
  · intro past now label report next _ _ before fired
    obtain ⟨frames, counter⟩ := (step_move fired).counts signo
    have caught := before.caught
    refine ⟨?_, ?_⟩
    · rw [List.countP_append, List.countP_append, countP_single, countP_single]
      dsimp only
      omega
    · rw [counter, before.counter, List.countP_append, countP_single, Int32.ofNat_add]

theorem mailboxOp_post (signo : Signal) (report : Report) :
    ((mailboxOp signo report).map (· == .post)).getD false = report.sends signo := by
  cases report with
  | did i action =>
      cases action with
      | kill sent => by_cases same : sent = signo <;> simp [mailboxOp, Report.sends, same]
      | _ => cases i <;> rfl
  | caught taken => by_cases same : taken = signo <;> simp [mailboxOp, Report.sends, same]
  | handled counted stage => rfl

theorem mailboxOp_take (signo : Signal) (report : Report) :
    ((mailboxOp signo report).map (· == .take)).getD false = report.catches signo := by
  cases report with
  | did i action =>
      cases action with
      | kill sent => by_cases same : sent = signo <;> simp [mailboxOp, Report.catches, same]
      | _ => cases i <;> rfl
  | caught taken => by_cases same : taken = signo <;> simp [mailboxOp, Report.catches, same]
  | handled counted stage => rfl

theorem mailbox_count (signo : Signal) (op : Op) (events : List ForensicEvent) :
    (events.filterMap (mailboxEvent signo)).countP (Made op) =
      events.countP fun event => ((mailboxOp signo event.output).map (· == op)).getD false := by
  rw [List.countP_filterMap]
  congr 1
  funext event
  rw [mailboxEvent, Option.map_map]
  rfl

/-- The signal is lost: it is sent while one of its kind is pending or when the first
process has exited, or that process exits while one is pending. -/
def Loses (signo : Signal) (event : ForensicEvent) : Prop :=
  match event.output with
  | .did _ (.kill sent) =>
      sent = signo ∧ (event.before.receives = false ∨ event.before.pending signo = true)
  | .did 0 (.exit _) => event.before.pending signo = true
  | .did 0 .crash => event.before.pending signo = true
  | _ => False

theorem slot_post_loses (signo : Signal) :
    loses (world.slot signo) .post = true ↔
      world.receives = false ∨ world.pending signo = true := by
  unfold World.slot
  cases world.receives <;> cases world.pending signo <;> simp [loses]

/-- The mailbox loses a note in the steps that lose the signal. -/
theorem WorldMove.loses_iff (move : WorldMove options tools world label next report)
    (signo : Signal) :
    (∀ event ∈ mailboxEvent signo ⟨world, label, report, next⟩, event.output = false) ↔
      ¬ Loses signo ⟨world, label, report, next⟩ := by
  cases move with
  | process i forks proc action pc here free move =>
      cases action with
      | kill sent =>
          by_cases same : sent = signo
          · subst same
            simp only [mailboxEvent, mailboxOp, if_true, Option.map_some, Option.mem_some_iff,
              forall_eq', Loses, true_and]
            rw [← slot_post_loses, Bool.not_eq_true]
          · simp [mailboxEvent, mailboxOp, Loses, same]
      | exit messages | crash =>
          cases i with
          | zero =>
              have receives : world.receives = true := by
                rw [World.receives, here, Option.any_some, Proc.alive, move.alive.1]
              cases pending : world.pending signo <;>
                simp [mailboxEvent, mailboxOp, Loses, World.slot, receives, pending, loses]
          | succ i => simp [mailboxEvent, mailboxOp, Loses]
      | _ => cases i <;> simp [mailboxEvent, mailboxOp, Loses]
  | deliver taken cuts main pc here alive pending unblocked goesOn =>
      by_cases same : taken = signo
      · cases slot : world.slot signo <;> simp [mailboxEvent, mailboxOp, Loses, same, slot, loses]
      · simp [mailboxEvent, mailboxOp, Loses, same]
  | handler next report fired =>
      obtain ⟨-, -, handled, stage, rfl⟩ := handlerStep_frame fired
      simp [mailboxEvent, mailboxOp, Loses]

/-- An `int` counts up to `2^31 - 1`. -/
theorem toInt_ofNat_eq_iff {counted sent : Nat} (le : counted ≤ sent) :
    (Int32.ofNat counted).toInt = (sent : Int) ↔ counted = sent ∧ sent < 2 ^ 31 := by
  by_cases small : counted < 2 ^ 31
  · rw [Int32.toInt_ofNat_of_lt small]
    omega
  · have bound := (Int32.ofNat counted).toInt_lt
    omega

/-- For one signal: what the handler has counted, when nothing is left to catch or to
handle, is what was sent, if and only if no signal was lost. -/
theorem counter_eq_sent_iff {filepath : CString} {start : Start} {labels : List Label}
    {events : List ForensicEvent}
    (ran : forensic options tools filepath start labels = some (events, world)) (signo : Signal)
    (handled : world.frames = []) (none : world.pending signo = false) :
    (world.counter signo).toInt = sent signo events ↔
      sent signo events < 2 ^ 31 ∧ ∀ event ∈ events, ¬ Loses signo event := by
  have counted := forensic_counted ran signo
  have seen := forensic_mailbox ran signo
  have empty : held (world.slot signo) = 0 := by
    unfold World.slot
    cases world.receives <;> simp [none, held]
  have balance := run_balance seen
  have all := posted_eq_taken_iff seen rfl empty
  rw [mailbox_count, mailbox_count] at balance all
  simp only [mailboxOp_post, mailboxOp_take] at balance all
  have caught := counted.caught
  rw [handled, List.countP_nil, Nat.add_zero] at caught
  have losses : (∀ event ∈ events.filterMap (mailboxEvent signo), event.output = false) ↔
      ∀ event ∈ events, ¬ Loses signo event := by
    have each : ∀ event ∈ events, (∀ event' ∈ mailboxEvent signo event, event'.output = false) ↔
        ¬ Loses signo event := by
      intro event member
      obtain ⟨past, future, rfl⟩ := List.append_of_mem member
      exact (step_move (run_event ran).2.1).loses_iff signo
    constructor
    · intro kept event member
      apply (each event member).mp
      intro event' made
      exact kept event' (List.mem_filterMap.mpr ⟨event, member, made⟩)
    · intro kept event' member'
      obtain ⟨event, member, made⟩ := List.mem_filterMap.mp member'
      exact (each event member).mpr (kept event member) event' made
  have le : events.countP (fun event => event.output.counts signo) ≤ sent signo events := by
    rw [← caught]
    simp only [sent, held] at balance ⊢
    omega
  rw [counted.counter, toInt_ofNat_eq_iff le, ← caught, ← losses, ← all]
  exact and_comm

/-- In every state in which no signal is pending or being handled, both counters are the
numbers of signals sent, if and only if none was lost and neither counter has overflowed. -/
theorem notifications_counted_iff (options : Options) (tools : Tools) (filepath : CString)
    (start : Start) (labels : List Label) {events : List ForensicEvent}
    (ran : forensic options tools filepath start labels = some (events, world))
    (handled : world.frames = []) (none : ∀ signo, world.pending signo = false) :
    (world.nDirectory.toInt = sent .sigusr1 events ∧ world.nFiles.toInt = sent .sigusr2 events) ↔
      ∀ signo, sent signo events < 2 ^ 31 ∧ ∀ event ∈ events, ¬ Loses signo event := by
  have directories := counter_eq_sent_iff ran .sigusr1 handled (none .sigusr1)
  have files := counter_eq_sent_iff ran .sigusr2 handled (none .sigusr2)
  constructor
  · rintro ⟨directoriesCounted, filesCounted⟩ signo
    cases signo with
    | sigusr1 => exact directories.mp directoriesCounted
    | sigusr2 => exact files.mp filesCounted
  · intro kept
    exact ⟨directories.mpr (kept .sigusr1), files.mpr (kept .sigusr2)⟩

end Counters

/-- Two directories in the start directory. -/
def twinTree : Entries := .dir ['d'] .done (.dir ['e'] .done .done)

/-- Both children send `SIGUSR1` before the first process catches one. -/
def twinRun : List Label :=
  turns 0 1 ++ handling .sigusr1 ++ turns 0 2 ++ turns 1 1 ++ turns 2 1 ++ handling .sigusr1

/-- Nothing is pending or being handled, and three signals sent are counted as two. -/
theorem twinRun_miscounted :
    ∃ events world,
      forensic sampleOptions sampleTools ['t'] (.dir twinTree) twinRun = some (events, world) ∧
      world.frames = [] ∧ (∀ signo, world.pending signo = false) ∧
      sent .sigusr1 events = 3 ∧ world.nDirectory.toInt = 2 :=
  ⟨_, _, rfl, rfl, fun signo => by cases signo <;> rfl, rfl, rfl⟩

theorem calmRun_counted_iff :
    ∃ events world,
      forensic sampleOptions sampleTools ['t'] (.dir sampleTree) calmRun = some (events, world) ∧
      world.nDirectory.toInt = 2 ∧ world.nFiles.toInt = 2 ∧
      ((world.nDirectory.toInt = sent .sigusr1 events ∧
          world.nFiles.toInt = sent .sigusr2 events) ↔
        ∀ signo, sent signo events < 2 ^ 31 ∧ ∀ event ∈ events, ¬ Loses signo event) :=
  ⟨_, _, rfl, rfl, rfl, notifications_counted_iff sampleOptions sampleTools ['t'] (.dir sampleTree)
    calmRun rfl rfl fun signo => by cases signo <;> rfl⟩

end Sope.Forensic
