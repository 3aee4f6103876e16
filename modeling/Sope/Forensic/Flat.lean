import Sope.Forensic.Waiting

set_option autoImplicit false

/- Start directories from which no file is left to a child, and such that the first
process never gets to its loop around `wait`. -/
namespace Sope.Forensic

open Machine Banking

/-- The files of a directory that are left to the children of its process. -/
def Entries.nested (filepath : CString) : Entries → List File
  | .done | .failed _ => []
  | .file _ _ rest | .other _ rest => rest.nested filepath
  | .dir name inside rest =>
      (if isHidden name then [] else inside.files (entryPath filepath name)) ++
        rest.nested filepath

/-- The directory can be read to its end. -/
def Entries.readable : Entries → Bool
  | .done => true
  | .failed _ => false
  | .file _ _ rest | .other _ rest | .dir _ _ rest => rest.readable

def Start.nested (filepath : CString) : Start → List File
  | .dir inside => inside.nested filepath
  | _ => []

def Start.readable : Start → Bool
  | .file _ => true
  | .dir inside => inside.readable
  | .missing => false

theorem Entries.nested_of_files {filepath : CString} {entries : Entries}
    (none : entries.files filepath = []) : entries.nested filepath = [] := by
  induction entries with
  | done | failed => rfl
  | file name stat rest ih => cases none
  | other name rest ih => exact ih none
  | dir name inside rest ihInside ihRest =>
      obtain ⟨below, later⟩ := List.append_eq_nil_iff.mp none
      exact List.append_eq_nil_iff.mpr ⟨below, ihRest later⟩

def Pc.nested : Pc → List File
  | .enter filepath inside => inside.nested filepath
  | .scan filepath rest | .analyze _ _ filepath rest => rest.nested filepath
  | _ => []

section Moves

variable {options : Options} {tools : Tools} {procs : List Proc} {forks : Bool} {proc : Proc}
  {action : Action} {pc : Pc} {world next : World} {label : Label} {report : Report}

theorem ProcMove.nested (move : ProcMove options tools procs forks proc action pc)
    (flat : proc.pc.nested = []) : pc.nested = [] ∧ action.handed = 0 := by
  cases move with
  | enter filepath inside here | kill file filepath rest here | log file filepath rest here =>
      rw [here] at flat
      exact ⟨flat, handed_of_local (isLocal_of_notice (by simp))⟩
  | fork filepath name inside rest here plain succeeds =>
      rw [here, Pc.nested, Entries.nested, plain] at flat
      obtain ⟨below, later⟩ := List.append_eq_nil_iff.mp flat
      exact ⟨later, by rw [Action.handed]; exact congrArg _ below⟩
  | forkFails filepath name inside rest here plain fails =>
      rw [here, Pc.nested, Entries.nested, plain] at flat
      exact ⟨Entries.nested_of_files (List.append_eq_nil_iff.mp flat).1, rfl⟩
  | hidden filepath name inside rest here dotted =>
      rw [here, Pc.nested, Entries.nested] at flat
      exact ⟨(List.append_eq_nil_iff.mp flat).2, rfl⟩
  | file filepath name stat rest here | other filepath name rest here =>
      rw [here] at flat
      exact ⟨flat, rfl⟩
  | record file filepath message rest here =>
      rw [here] at flat
      exact ⟨flat, rfl⟩
  | _ => exact ⟨rfl, rfl⟩

/-- Only the first process has files to record. -/
structure Flat (world : World) : Prop where
  first : ∀ main, world.procs[0]? = some main → main.pc.nested = []
  others : ∀ (j : Nat) (proc : Proc), world.procs[j]? = some proc → j ≠ 0 → proc.work = 0

theorem interrupted_nested {cuts : Bool} {pc' : Pc}
    (goesOn : interrupted tools world cuts pc = some pc') (flat : pc.nested = []) :
    pc'.nested = [] := by
  rcases interrupted_cases goesOn with ⟨-, -, rfl⟩ | ⟨-, -, rfl⟩ | ⟨-, file, filepath, rest, rfl, rfl⟩
  · rfl
  · exact flat
  · exact flat

theorem Flat.step (flat : Flat world) (move : WorldMove options tools world label next report) :
    Flat next := by
  cases move with
  | process i forks proc action pc here free move =>
      obtain ⟨inside, -⟩ := List.getElem?_eq_some_iff.mp here
      obtain ⟨lost, split, -⟩ := move.work
      -- the process that moves hands nothing on: the first one has only files of its own,
      -- and the others have none at all
      have handed : action.handed = 0 := by
        by_cases first : i = 0
        · subst first
          exact (move.nested (flat.first proc here)).2
        · rw [flat.others i proc here first] at split
          exact Multiset.le_zero.mp (split ▸ Multiset.le_add_left _ _)
      constructor
      · intro main there
        rcases tableAfter_cases here there with ⟨same, rfl⟩ | ⟨-, old⟩ | ⟨-, reaped⟩ | ⟨new, -⟩
        · subst same
          rw [after_pc]
          exact (move.nested (flat.first proc here)).1
        · exact flat.first main old
        · rw [reaped]
          rfl
        · omega
      · intro j other there notFirst
        rcases tableAfter_cases here there with ⟨same, rfl⟩ | ⟨-, old⟩ | ⟨-, reaped⟩ |
            ⟨-, filepath, inside', rfl, rfl⟩
        · subst same
          rw [after_work]
          rw [flat.others j proc here notFirst] at split
          apply Multiset.le_zero.mp
          rw [split, add_right_comm]
          exact Multiset.le_add_left _ _
        · exact flat.others j other old notFirst
        · rw [Proc.work, reaped]
          rfl
        · exact handed
  | deliver signo cuts main pc here alive pending unblocked goesOn =>
      obtain ⟨inside, -⟩ := List.getElem?_eq_some_iff.mp here
      constructor
      · intro main' there
        rw [List.getElem?_set_self inside] at there
        cases there
        exact interrupted_nested goesOn (flat.first main here)
      · intro j other there notFirst
        rw [List.getElem?_set_ne (Ne.symm notFirst)] at there
        exact flat.others j other there notFirst
  | handler next report fired =>
      obtain ⟨procs, -⟩ := handlerStep_frame fired
      exact ⟨by rw [procs]; exact flat.first, by rw [procs]; exact flat.others⟩

/-- A process at this place does not get to the loop around `wait`. -/
def Pc.barred (inMain : Bool) : Pc → Prop
  | .enter _ rest | .scan _ rest | .analyze _ _ _ rest => inMain = true → rest.readable = false
  | .waits | .blocked | .finished => False
  | .exited | .reaped => True

theorem after_inMain (inMain : (proc.after options tools pc action).inMain = true) :
    proc.inMain = true := by
  unfold Proc.after at inMain
  split at inMain
  · split at inMain <;> exact inMain
  · cases inMain
  · exact inMain
  · exact inMain

theorem ProcMove.barred (move : ProcMove options tools procs forks proc action pc)
    (barred : proc.pc.barred proc.inMain) :
    pc.barred (proc.after options tools pc action).inMain := by
  cases move with
  | enter filepath inside here | kill file filepath rest here | log file filepath rest here =>
      rw [here] at barred
      exact fun inMain => barred (after_inMain inMain)
  | return_ filepath here main =>
      rw [here] at barred
      cases barred main
  | file filepath name stat rest here | other filepath name rest here =>
      rw [here] at barred
      exact fun inMain => barred (after_inMain inMain)
  | hidden filepath name inside rest here =>
      rw [here] at barred
      exact fun inMain => barred (after_inMain inMain)
  | fork filepath name inside rest here | record file filepath message rest here =>
      rw [here] at barred
      exact fun inMain => barred (after_inMain inMain)
  | forkFails filepath name inside rest here => exact fun inMain => (nomatch inMain)
  | exit | failed | stop | crash | cut | leave => trivial
  | reap child here =>
      rcases here with here | here <;> rw [here] at barred <;> exact barred
  | block here | finish here =>
      rw [here] at barred
      exact barred

/-- The first process never gets to the loop. -/
def Barred (world : World) : Prop :=
  ∀ main, world.procs[0]? = some main → main.pc.barred main.inMain

theorem Barred.step (barred : Barred world)
    (move : WorldMove options tools world label next report) : Barred next := by
  cases move with
  | process i forks proc action pc here free move =>
      obtain ⟨inside, -⟩ := List.getElem?_eq_some_iff.mp here
      intro main there
      rcases tableAfter_cases here there with ⟨same, rfl⟩ | ⟨-, old⟩ | ⟨-, reaped⟩ | ⟨new, -⟩
      · subst same
        rw [after_pc]
        exact move.barred (barred proc here)
      · exact barred main old
      · rw [reaped]
        trivial
      · omega
  | deliver signo cuts main pc here alive pending unblocked goesOn =>
      obtain ⟨inside, -⟩ := List.getElem?_eq_some_iff.mp here
      intro main' there
      rw [List.getElem?_set_self inside] at there
      cases there
      have before := barred main here
      rcases interrupted_cases goesOn with ⟨-, blocked, -⟩ | ⟨-, -, rfl⟩ |
        ⟨-, file, filepath, rest, reads, rfl⟩
      · rw [blocked] at before
        cases before
      · exact before
      · rw [reads] at before
        exact before
  | handler next report fired =>
      obtain ⟨procs, -⟩ := handlerStep_frame fired
      intro main there
      rw [procs] at there
      exact barred main there

end Moves

section Run

variable {options : Options} {tools : Tools} {filepath : CString} {start : Start}
  {labels : List Label} {events : List ForensicEvent} {world : World}

theorem forensic_flat (none : start.nested filepath = [])
    (ran : forensic options tools filepath start labels = some (events, world)) : Flat world := by
  apply run_invariant ran Flat
  · constructor
    · intro main there
      cases there
      cases start with
      | dir inside => exact none
      | file stat | missing => rfl
    · intro j other there notFirst
      rw [initialWorld, List.getElem?_eq_none (Nat.one_le_iff_ne_zero.mpr notFirst)] at there
      cases there
  · intro now label report next _ flat fired
    exact flat.step (step_move fired)

theorem forensic_barred (unreadable : start.readable = false)
    (ran : forensic options tools filepath start labels = some (events, world)) :
    Barred world := by
  apply run_invariant ran Barred
  · intro main there
    cases there
    cases start with
    | dir inside => exact fun _ => unreadable
    | file stat => cases unreadable
    | missing => exact fun _ => rfl
  · intro now label report next _ barred fired
    exact barred.step (step_move fired)

/-- Where all files lie in the start directory itself, they are recorded when the loop
ends; and it never does if that directory cannot be read. -/
theorem complete_of_flat (flat : start.readable = false ∨ start.nested filepath = [])
    (ran : forensic options tools filepath start labels = some (events, world))
    (ended : world.loopEnded) : Complete options tools world := by
  rcases flat with unreadable | none
  · obtain ⟨main, here, finished⟩ := ended
    have barred := forensic_barred unreadable ran main here
    rw [finished] at barred
    cases barred
  · exact complete_of_left (left_of_ended ended (forensic_flat none ran).others)

end Run

end Sope.Forensic
