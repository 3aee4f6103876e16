import Mathlib.Logic.Function.Basic
import Sope.Lib.Run

set_option autoImplicit false

/- Threads that write to one log what they do. Before a statement a thread may look at the
state and write about that, and behind the statement it writes about what was done; between
any two of these the other threads may move. Lines that are written under a lock come in the
order of the statements all the same. -/
namespace Journal

open Machine

/-- Who takes a step, what is written before a statement, and what behind it. -/
structure Reporter (σ ι ο τ line : Type) where
  thread : ι → τ
  notes : σ → τ → List line
  reports : Event σ ι ο → List line

/-- The lines that a thread has still to write, before its statement or behind the last. -/
inductive Phase (line : Type) where
  | before (left : List line)
  | after (left : List line)

def Phase.left {line : Type} : Phase line → List line
  | .before left | .after left => left

structure Logged (σ τ line : Type) where
  state : σ
  phases : τ → Phase line
  log : List line

section Steps

variable {σ ι ο τ line : Type} [DecidableEq τ]

def Logged.write (logged : Logged σ τ line) (thread : τ) (phase : Phase line) (text : line) :
    Logged σ τ line :=
  { logged with
    phases := Function.update logged.phases thread phase
    log := logged.log ++ [text] }

@[simp] theorem Logged.write_state (logged : Logged σ τ line) (thread : τ) (phase : Phase line)
    (text : line) : (logged.write thread phase text).state = logged.state := rfl

@[simp] theorem Logged.write_log (logged : Logged σ τ line) (thread : τ) (phase : Phase line)
    (text : line) : (logged.write thread phase text).log = logged.log ++ [text] := rfl

@[simp] theorem Logged.write_phases (logged : Logged σ τ line) (thread : τ) (phase : Phase line)
    (text : line) :
    (logged.write thread phase text).phases = Function.update logged.phases thread phase := rfl

/-- The statement itself. -/
def Reporter.call (reporter : Reporter σ ι ο τ line) (step : σ → ι → Option (σ × ο))
    (logged : Logged σ τ line) (input : ι) : Option (Logged σ τ line × Option ο) := do
  let (next, output) ← step logged.state input
  let left := reporter.reports ⟨logged.state, input, output, next⟩
  return ({ logged with
    state := next
    phases := Function.update logged.phases (reporter.thread input) (.after left) }, some output)

/-- One step of the thread: it writes a line, looks at the state, or does its statement. -/
def Reporter.step (reporter : Reporter σ ι ο τ line) (step : σ → ι → Option (σ × ο))
    (logged : Logged σ τ line) (input : ι) : Option (Logged σ τ line × Option ο) :=
  match logged.phases (reporter.thread input) with
  | .before (text :: left) => some (logged.write (reporter.thread input) (.before left) text, none)
  | .after (text :: left) => some (logged.write (reporter.thread input) (.after left) text, none)
  | .before [] => reporter.call step logged input
  | .after [] =>
      match reporter.notes logged.state (reporter.thread input) with
      | [] => reporter.call step logged input
      | text :: left =>
          some ({ logged with
            phases := Function.update logged.phases (reporter.thread input)
              (.before (text :: left)) }, none)

/-- All that one step can do. -/
inductive Move (reporter : Reporter σ ι ο τ line) (step : σ → ι → Option (σ × ο))
    (logged : Logged σ τ line) (input : ι) : Logged σ τ line → Option ο → Prop where
  | writeBefore (text : line) (left : List line)
      (here : logged.phases (reporter.thread input) = .before (text :: left)) :
      Move reporter step logged input
        (logged.write (reporter.thread input) (.before left) text) none
  | writeAfter (text : line) (left : List line)
      (here : logged.phases (reporter.thread input) = .after (text :: left)) :
      Move reporter step logged input (logged.write (reporter.thread input) (.after left) text)
        none
  | note (here : logged.phases (reporter.thread input) = .after []) :
      Move reporter step logged input
        { logged with
          phases := Function.update logged.phases (reporter.thread input)
            (.before (reporter.notes logged.state (reporter.thread input))) } none
  | call (ready : logged.phases (reporter.thread input) = .before [] ∨
        logged.phases (reporter.thread input) = .after [] ∧
          reporter.notes logged.state (reporter.thread input) = [])
      (next : σ) (output : ο) (fired : step logged.state input = some (next, output)) :
      Move reporter step logged input
        { logged with
          state := next
          phases := Function.update logged.phases (reporter.thread input)
            (.after (reporter.reports ⟨logged.state, input, output, next⟩)) } (some output)

variable {reporter : Reporter σ ι ο τ line} {step : σ → ι → Option (σ × ο)}
  {logged logged' : Logged σ τ line} {input : ι} {output : Option ο}

theorem call_move (ready : logged.phases (reporter.thread input) = .before [] ∨
      logged.phases (reporter.thread input) = .after [] ∧
        reporter.notes logged.state (reporter.thread input) = [])
    (fired : reporter.call step logged input = some (logged', output)) :
    Move reporter step logged input logged' output := by
  simp only [Reporter.call, Option.bind_eq_bind, Option.bind_eq_some_iff, Option.pure_def,
    Option.some.injEq, Prod.mk.injEq, Prod.exists] at fired
  obtain ⟨next, output', fired, rfl, rfl⟩ := fired
  exact .call ready next output' fired

theorem step_move (fired : reporter.step step logged input = some (logged', output)) :
    Move reporter step logged input logged' output := by
  unfold Reporter.step at fired
  cases here : logged.phases (reporter.thread input) with
  | before left =>
      cases left with
      | nil =>
          simp only [here] at fired
          exact call_move (.inl here) fired
      | cons text left =>
          simp only [here, Option.some.injEq, Prod.mk.injEq] at fired
          obtain ⟨rfl, rfl⟩ := fired
          exact .writeBefore text left here
  | after left =>
      cases left with
      | nil =>
          simp only [here] at fired
          cases noted : reporter.notes logged.state (reporter.thread input) with
          | nil =>
              simp only [noted] at fired
              exact call_move (.inr ⟨here, noted⟩) fired
          | cons text left =>
              simp only [noted, Option.some.injEq, Prod.mk.injEq] at fired
              obtain ⟨rfl, rfl⟩ := fired
              rw [← noted]
              exact .note here
      | cons text left =>
          simp only [here, Option.some.injEq, Prod.mk.injEq] at fired
          obtain ⟨rfl, rfl⟩ := fired
          exact .writeAfter text left here

/-- The statement in a step, if it was one. -/
def statement (event : Event (Logged σ τ line) ι (Option ο)) : Option (Event σ ι ο) :=
  event.output.map fun output => ⟨event.before.state, event.input, output, event.after.state⟩

/-- The statements of a run, in order. -/
def statements (events : List (Event (Logged σ τ line) ι (Option ο))) : List (Event σ ι ο) :=
  events.filterMap statement

variable {start last : Logged σ τ line} {inputs : List ι}
  {events : List (Event (Logged σ τ line) ι (Option ο))}

/-- Without the log it is a run of the machine. -/
theorem run_statements (ran : run (reporter.step step) start inputs = some (events, last)) :
    run step start.state ((statements events).map (·.input)) =
      some (statements events, last.state) := by
  refine run_project (·.state) statement ?_ ?_ ran
  · rintro ⟨before, input, output, after⟩ fired none
    dsimp only at fired ⊢
    cases step_move fired with
    | call => cases none
    | _ => rfl
  · rintro ⟨before, input, output, after⟩ event' fired seen
    dsimp only at fired ⊢
    cases step_move fired with
    | call _ next output' fired' =>
        cases seen
        exact ⟨rfl, rfl, fired'⟩
    | _ => cases seen

/-- The inputs of the statements are among those of the run. -/
theorem statements_inputs (ran : run (reporter.step step) start inputs = some (events, last)) :
    ∀ input ∈ (statements events).map (·.input), input ∈ inputs := by
  intro input member
  obtain ⟨event, seen, rfl⟩ := List.mem_map.mp member
  obtain ⟨event', member, some⟩ := List.mem_filterMap.mp seen
  obtain ⟨-, -, rfl⟩ := Option.map_eq_some_iff.mp some
  rw [← run_inputs ran]
  exact List.mem_map_of_mem member

/-- What is written about a statement under the lock. -/
def told (reporter : Reporter σ ι ο τ line) (guarded : line → Bool) (event : Event σ ι ο) :
    List line :=
  (reporter.notes event.before (reporter.thread event.input) ++ reporter.reports event).filter
    guarded

/-- The guarded lines are about what only the owner of the lock can change, and only the
owner writes them. -/
structure Guards (reporter : Reporter σ ι ο τ line) (step : σ → ι → Option (σ × ο))
    (I : σ → Prop) (guarded : line → Bool) (owner : σ → Option τ) : Prop where
  kept : ∀ event : Event σ ι ο, step event.before event.input = some (event.after, event.output) →
    I event.before → I event.after
  notes : ∀ state thread, I state → owner state ≠ some thread →
    (reporter.notes state thread).filter guarded = []
  reports : ∀ event : Event σ ι ο,
    step event.before event.input = some (event.after, event.output) → I event.before →
    owner event.after ≠ some (reporter.thread event.input) →
    (reporter.reports event).filter guarded = []
  others : ∀ event : Event σ ι ο,
    step event.before event.input = some (event.after, event.output) → I event.before →
    ∀ thread, thread ≠ reporter.thread event.input →
      (owner event.after = some thread ↔ owner event.before = some thread) ∧
      (owner event.before = some thread →
        (reporter.notes event.after thread).filter guarded =
          (reporter.notes event.before thread).filter guarded)

/-- What the log has of the statements so far. The owner may be behind with the lines of its
last statement, or ahead with those of its next. -/
structure Tells (reporter : Reporter σ ι ο τ line) (guarded : line → Bool) (owner : σ → Option τ)
    (past : List (Event σ ι ο)) (logged : Logged σ τ line) : Prop where
  silent : ∀ thread, owner logged.state ≠ some thread →
    (logged.phases thread).left.filter guarded = []
  free : owner logged.state = none →
    logged.log.filter guarded = past.flatMap (told reporter guarded)
  late : ∀ thread left, owner logged.state = some thread → logged.phases thread = .after left →
    logged.log.filter guarded ++ left.filter guarded = past.flatMap (told reporter guarded)
  early : ∀ thread left, owner logged.state = some thread → logged.phases thread = .before left →
    logged.log.filter guarded ++ left.filter guarded =
      past.flatMap (told reporter guarded) ++ (reporter.notes logged.state thread).filter guarded

section Guarded

variable {I : σ → Prop} {guarded : line → Bool} {owner : σ → Option τ}
  {past : List (Event σ ι ο)}

theorem filter_write (log left : List line) (text : line) :
    (log ++ [text]).filter guarded ++ left.filter guarded =
      log.filter guarded ++ (text :: left).filter guarded := by
  rw [List.filter_append, List.append_assoc, ← List.filter_append, List.singleton_append]

theorem filter_silent (log : List line) {left : List line} {text : line}
    (none : (text :: left).filter guarded = []) :
    (log ++ [text]).filter guarded = log.filter guarded ∧ left.filter guarded = [] := by
  rw [List.filter_eq_nil_iff] at none
  constructor
  · simp [List.filter_append, none text List.mem_cons_self]
  · exact List.filter_eq_nil_iff.mpr fun text' member => none text' (List.mem_cons_of_mem _ member)

theorem Tells.write (tells : Tells reporter guarded owner past logged) {thread : τ} {text : line}
    {left : List line} {kind : List line → Phase line} (isKind : kind = .before ∨ kind = .after)
    (here : logged.phases thread = kind (text :: left)) :
    Tells reporter guarded owner past (logged.write thread (kind left) text) := by
  have same (list : List line) : (kind list).left = list := by rcases isKind with rfl | rfl <;> rfl
  have outside (apart : owner logged.state ≠ some thread) := by
    have none := tells.silent thread apart
    rw [here, same] at none
    exact filter_silent logged.log none
  refine ⟨?_, ?_, ?_, ?_⟩
  · intro thread' apart
    by_cases moved : thread' = thread
    · subst moved
      rw [Logged.write_phases, Function.update_self, same]
      exact (outside apart).2
    · rw [Logged.write_phases, Function.update_of_ne moved]
      exact tells.silent thread' apart
  · intro free
    have apart : owner logged.state ≠ some thread := by
      rw [Logged.write_state] at free
      simp [free]
    exact (outside apart).1.trans (tells.free free)
  · intro thread' left' owns here'
    by_cases moved : thread' = thread
    · subst moved
      rw [Logged.write_phases, Function.update_self] at here'
      rcases isKind with rfl | rfl
      · cases here'
      · cases here'
        exact (filter_write ..).trans (tells.late thread' _ owns here)
    · rw [Logged.write_phases, Function.update_of_ne moved] at here'
      have apart : owner logged.state ≠ some thread := fun same =>
        moved (Option.some.inj (owns.symm.trans same))
      rw [Logged.write_log, (outside apart).1]
      exact tells.late thread' left' owns here'
  · intro thread' left' owns here'
    by_cases moved : thread' = thread
    · subst moved
      rw [Logged.write_phases, Function.update_self] at here'
      rcases isKind with rfl | rfl
      · cases here'
        exact (filter_write ..).trans (tells.early thread' _ owns here)
      · cases here'
    · rw [Logged.write_phases, Function.update_of_ne moved] at here'
      have apart : owner logged.state ≠ some thread := fun same =>
        moved (Option.some.inj (owns.symm.trans same))
      rw [Logged.write_log, (outside apart).1]
      exact tells.early thread' left' owns here'

theorem Tells.note (tells : Tells reporter guarded owner past logged)
    (guards : Guards reporter step I guarded owner) (holds : I logged.state) {thread : τ}
    (here : logged.phases thread = .after []) :
    Tells reporter guarded owner past { logged with
      phases := Function.update logged.phases thread
        (.before (reporter.notes logged.state thread)) } := by
  refine ⟨?_, tells.free, ?_, ?_⟩
  · intro thread' apart
    dsimp only at apart ⊢
    by_cases moved : thread' = thread
    · subst moved
      rw [Function.update_self]
      exact guards.notes logged.state thread' holds apart
    · rw [Function.update_of_ne moved]
      exact tells.silent thread' apart
  · intro thread' left' owns here'
    dsimp only at here'
    by_cases moved : thread' = thread
    · rw [moved, Function.update_self] at here'
      cases here'
    · rw [Function.update_of_ne moved] at here'
      exact tells.late thread' left' owns here'
  · intro thread' left' owns here'
    dsimp only at here'
    by_cases moved : thread' = thread
    · subst moved
      rw [Function.update_self] at here'
      cases here'
      have told := tells.late thread' [] owns here
      rw [List.filter_nil, List.append_nil] at told
      rw [← told]
    · rw [Function.update_of_ne moved] at here'
      exact tells.early thread' left' owns here'

omit [DecidableEq τ] in
/-- With nothing left to write, the log lacks at most what the thread notes again. -/
theorem Tells.ready (tells : Tells reporter guarded owner past logged)
    (guards : Guards reporter step I guarded owner) (holds : I logged.state) {thread : τ}
    (ready : logged.phases thread = .before [] ∨
      logged.phases thread = .after [] ∧ reporter.notes logged.state thread = [])
    (alone : ∀ thread', owner logged.state = some thread' → thread' = thread) :
    logged.log.filter guarded = past.flatMap (told reporter guarded) ++
      (reporter.notes logged.state thread).filter guarded := by
  cases owns : owner logged.state with
  | none =>
      have none := guards.notes logged.state thread holds (by simp [owns])
      rw [none, List.append_nil]
      exact tells.free owns
  | some thread' =>
      obtain rfl := alone thread' owns
      rcases ready with here | ⟨here, none⟩
      · have told := tells.early thread' [] owns here
        rwa [List.filter_nil, List.append_nil] at told
      · have told := tells.late thread' [] owns here
        rw [List.filter_nil, List.append_nil] at told
        rw [none, List.filter_nil, List.append_nil]
        exact told

theorem Tells.call (tells : Tells reporter guarded owner past logged)
    (guards : Guards reporter step I guarded owner) (holds : I logged.state)
    (ready : logged.phases (reporter.thread input) = .before [] ∨
      logged.phases (reporter.thread input) = .after [] ∧
        reporter.notes logged.state (reporter.thread input) = [])
    {next : σ} {output : ο} (fired : step logged.state input = some (next, output)) :
    Tells reporter guarded owner (past ++ [⟨logged.state, input, output, next⟩])
      { logged with
        state := next
        phases := Function.update logged.phases (reporter.thread input)
          (.after (reporter.reports ⟨logged.state, input, output, next⟩)) } := by
  have others := guards.others ⟨logged.state, input, output, next⟩ fired holds
  have reports := guards.reports ⟨logged.state, input, output, next⟩ fired holds
  dsimp only at others reports
  -- while another thread owns the lock, nothing is told
  have nothing (thread' : τ) (apart : thread' ≠ reporter.thread input)
      (owns : owner logged.state = some thread') :
      told reporter guarded ⟨logged.state, input, output, next⟩ = [] := by
    have noNotes := guards.notes logged.state (reporter.thread input) holds
      (by simp [owns, apart])
    have noReports := reports (by simp [(others thread' apart).1.mpr owns, apart])
    rw [told, List.filter_append, noNotes, noReports, List.nil_append]
  have whole (alone : ∀ thread', owner logged.state = some thread' →
      thread' = reporter.thread input) :
      logged.log.filter guarded ++
          (reporter.reports ⟨logged.state, input, output, next⟩).filter guarded =
        (past ++ [(⟨logged.state, input, output, next⟩ : Event σ ι ο)]).flatMap
          (told reporter guarded) := by
    rw [tells.ready guards holds ready alone, List.flatMap_append, List.flatMap_singleton, told,
      List.filter_append, List.append_assoc]
  refine ⟨?_, ?_, ?_, ?_⟩
  · intro thread' apart
    dsimp only at apart ⊢
    by_cases moved : thread' = reporter.thread input
    · rw [moved, Function.update_self]
      exact reports (moved ▸ apart)
    · rw [Function.update_of_ne moved]
      exact tells.silent thread' fun owns => apart ((others thread' moved).1.mpr owns)
  · intro free
    dsimp only at free
    have none := reports (by simp [free])
    have told := whole fun thread' owns => by
      by_contra apart
      rw [(others thread' apart).1.mpr owns] at free
      cases free
    rw [none, List.append_nil] at told
    exact told
  · intro thread' left' owns here'
    dsimp only at owns here'
    by_cases moved : thread' = reporter.thread input
    · rw [moved, Function.update_self] at here'
      cases here'
      refine whole fun thread'' owns' => ?_
      by_contra apart
      rw [(others thread'' apart).1.mpr owns'] at owns
      exact apart ((Option.some.inj owns).trans moved)
    · rw [Function.update_of_ne moved] at here'
      have owned := (others thread' moved).1.mp owns
      rw [List.flatMap_append, List.flatMap_singleton, nothing thread' moved owned,
        List.append_nil]
      exact tells.late thread' left' owned here'
  · intro thread' left' owns here'
    dsimp only at owns here' ⊢
    by_cases moved : thread' = reporter.thread input
    · rw [moved, Function.update_self] at here'
      cases here'
    · rw [Function.update_of_ne moved] at here'
      obtain ⟨stays, same⟩ := others thread' moved
      have owned := stays.mp owns
      rw [List.flatMap_append, List.flatMap_singleton, nothing thread' moved owned,
        List.append_nil, same owned]
      exact tells.early thread' left' owned here'

omit [DecidableEq τ] in
/-- Nothing is done yet, and nothing written. -/
theorem tells_start (idle : ∀ thread, start.phases thread = .after [])
    (none : start.log.filter guarded = []) : Tells reporter guarded owner [] start := by
  refine ⟨?_, fun _ => none, ?_, ?_⟩
  · intro thread _
    rw [idle]
    rfl
  · intro thread left _ here
    rw [idle] at here
    cases here
    rw [none]
    rfl
  · intro thread left _ here
    rw [idle] at here
    cases here

theorem Tells.moves (tells : Tells reporter guarded owner past logged)
    (guards : Guards reporter step I guarded owner) (holds : I logged.state)
    (fired : reporter.step step logged input = some (logged', output)) :
    I logged'.state ∧ Tells reporter guarded owner
      (past ++ (statement ⟨logged, input, output, logged'⟩).toList) logged' := by
  cases step_move fired with
  | writeBefore text left here =>
      refine ⟨holds, ?_⟩
      rw [statement, Option.map_none, Option.toList_none, List.append_nil]
      exact tells.write (.inl rfl) here
  | writeAfter text left here =>
      refine ⟨holds, ?_⟩
      rw [statement, Option.map_none, Option.toList_none, List.append_nil]
      exact tells.write (.inr rfl) here
  | note here =>
      refine ⟨holds, ?_⟩
      rw [statement, Option.map_none, Option.toList_none, List.append_nil]
      exact tells.note guards holds here
  | call ready next output' fired' =>
      exact ⟨guards.kept ⟨logged.state, input, output', next⟩ fired' holds,
        tells.call guards holds ready fired'⟩

/-- Along a run the log follows the statements. -/
theorem run_tells (guards : Guards reporter step I guarded owner)
    (ran : run (reporter.step step) start inputs = some (events, last)) (base : I start.state)
    (tells : Tells reporter guarded owner [] start) :
    I last.state ∧ Tells reporter guarded owner (statements events) last := by
  refine run_induction ran
    (fun past now => I now.state ∧ Tells reporter guarded owner (statements past) now)
    ⟨base, tells⟩ ?_
  intro past now input output next _ _ ⟨holds, tells⟩ fired
  have moved := tells.moves guards holds fired
  rw [statements, List.filterMap_append]
  cases seen : statement ⟨now, input, output, next⟩ with
  | none =>
      rw [seen] at moved
      rw [List.filterMap_cons_none seen]
      exact moved
  | some event =>
      rw [seen] at moved
      rw [List.filterMap_cons_some seen]
      exact moved

omit [DecidableEq τ] in
/-- The guarded lines of the log are a beginning of what there is to tell. -/
theorem Tells.log_prefix (tells : Tells reporter guarded owner past logged) :
    logged.log.filter guarded <+: past.flatMap (told reporter guarded) ++
      (owner logged.state).toList.flatMap fun thread =>
        (reporter.notes logged.state thread).filter guarded := by
  cases owns : owner logged.state with
  | none =>
      rw [tells.free owns]
      exact List.prefix_append _ _
  | some thread =>
      rw [Option.toList_some, List.flatMap_singleton]
      cases here : logged.phases thread with
      | before left =>
          rw [← tells.early thread left owns here]
          exact List.prefix_append _ _
      | after left =>
          rw [← tells.late thread left owns here, List.append_assoc]
          exact List.prefix_append _ _

end Guarded

end Steps

/-- What one writer has put into a list that has many. -/
def entriesOf {ι α : Type} [DecidableEq ι] (writer : ι) (entries : List (ι × α)) : List α :=
  (entries.filter (·.1 == writer)).map Prod.snd

section Writers

variable {ι α β : Type} [DecidableEq ι] {writer : ι}

theorem entriesOf_append (first second : List (ι × α)) :
    entriesOf writer (first ++ second) = entriesOf writer first ++ entriesOf writer second := by
  rw [entriesOf, List.filter_append, List.map_append, entriesOf, entriesOf]

theorem entriesOf_own (own : List α) : entriesOf writer (own.map (writer, ·)) = own := by
  have all : (own.map (writer, ·)).filter (·.1 == writer) = own.map (writer, ·) :=
    List.filter_eq_self.mpr fun entry member => by
      obtain ⟨a, -, rfl⟩ := List.mem_map.mp member
      exact beq_self_eq_true writer
  rw [entriesOf, all, List.map_map]
  exact List.map_id own

theorem entriesOf_other {other : ι} (apart : other ≠ writer) (own : List α) :
    entriesOf writer (own.map (other, ·)) = [] := by
  have none : (own.map (other, ·)).filter (·.1 == writer) = [] :=
    List.filter_eq_nil_iff.mpr fun entry member => by
      obtain ⟨a, -, rfl⟩ := List.mem_map.mp member
      exact fun same => apart (eq_of_beq same)
  rw [entriesOf, none, List.map_nil]

theorem entriesOf_map (f : α → β) (entries : List (ι × α)) :
    entriesOf writer (entries.map (Prod.map id f)) = (entriesOf writer entries).map f := by
  rw [entriesOf, List.filter_map, List.map_map, entriesOf, List.map_map]
  rfl

/-- Two lists to which each writer has contributed the same have the same entries. -/
theorem perm_of_entriesOf {entries entries' : List (ι × α)}
    (same : ∀ writer, entriesOf writer entries = entriesOf writer entries') :
    entries.Perm entries' := by
  classical
  have count (entries : List (ι × α)) (writer : ι) (a : α) :
      entries.count (writer, a) = (entriesOf writer entries).count a := by
    induction entries with
    | nil => rfl
    | cons entry rest ih =>
        obtain ⟨other, b⟩ := entry
        by_cases own : other = writer
        · subst own
          by_cases equal : b = a
          · subst equal
            simpa [entriesOf] using ih
          · simpa [entriesOf, equal] using ih
        · simpa [entriesOf, own] using ih
  apply List.perm_iff_count.mpr
  rintro ⟨writer, a⟩
  rw [count, count, same]

end Writers

end Journal
