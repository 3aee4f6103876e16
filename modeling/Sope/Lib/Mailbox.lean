import Sope.Lib.Run

set_option autoImplicit false

/- A mailbox with one place for notes that look all alike. A note posted while one
lies there, or after the mailbox has been closed, is lost; so is one that lies there
at closing. -/
namespace Mailbox

open Machine

inductive Slot where
  | empty
  | full
  | closed

inductive Op where
  | post
  | take
  | close
  deriving DecidableEq

def next : Slot → Op → Option Slot
  | .closed, .post => some .closed
  | _, .post => some .full
  | .full, .take => some .empty
  | _, .take => none
  | _, .close => some .closed

/-- A note is lost. -/
def loses : Slot → Op → Bool
  | .full, .post | .closed, .post | .full, .close => true
  | _, _ => false

def step (slot : Slot) (op : Op) : Option (Slot × Bool) :=
  (next slot op).map fun slot' => (slot', loses slot op)

/-- The notes in the mailbox. -/
def held : Slot → Nat
  | .full => 1
  | _ => 0

def Made (op : Op) (event : Event Slot Op Bool) : Bool := event.input == op

def Lost (event : Event Slot Op Bool) : Bool := event.output

variable {slot slot' : Slot}

/-- Every note posted is taken, lost or still there. -/
theorem step_balance {op : Op} {lost : Bool} (fired : step slot op = some (slot', lost)) :
    held slot + [Event.mk slot op lost slot'].countP (Made .post) =
      held slot' + [Event.mk slot op lost slot'].countP (Made .take) +
        [Event.mk slot op lost slot'].countP Lost := by
  cases slot <;> cases op <;> cases fired <;> rfl

theorem run_balance {ops : List Op} {events : List (Event Slot Op Bool)}
    (ran : run step slot ops = some (events, slot')) :
    held slot + events.countP (Made .post) =
      held slot' + events.countP (Made .take) + events.countP Lost := by
  apply run_induction ran (fun past now =>
    held slot + past.countP (Made .post) = held now + past.countP (Made .take) + past.countP Lost)
  · rfl
  · intro past now op lost next _ _ balance fired
    have moved := step_balance fired
    rw [List.countP_append, List.countP_append, List.countP_append]
    omega

/-- When nothing is left in a mailbox that was empty, as many notes were taken as
were posted if and only if none was lost. -/
theorem posted_eq_taken_iff {ops : List Op} {events : List (Event Slot Op Bool)}
    (ran : run step slot ops = some (events, slot')) (first : held slot = 0)
    (last : held slot' = 0) :
    events.countP (Made .take) = events.countP (Made .post) ↔
      ∀ event ∈ events, event.output = false := by
  have balance := run_balance ran
  rw [first, last] at balance
  have none : events.countP Lost = 0 ↔ ∀ event ∈ events, event.output = false := by
    rw [List.countP_eq_zero]
    simp only [Lost, Bool.not_eq_true]
  rw [← none]
  omega

end Mailbox
