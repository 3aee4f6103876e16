import Mathlib.Data.List.Basic

set_option autoImplicit false

/- Finite runs of a partial machine. The machine is any step function that either
takes one input and answers with one output, or is undefined at that input. -/
namespace Machine

variable {σ ι ο : Type}

/-- One step that was taken, with the states on both of its sides. -/
structure Event (σ ι ο : Type) where
  before : σ
  input : ι
  output : ο
  after : σ

/-- The run over a list of inputs: the steps taken, oldest first, and the last
state. It is undefined as soon as one step is. -/
def run (step : σ → ι → Option (σ × ο)) : σ → List ι → Option (List (Event σ ι ο) × σ)
  | state, [] => some ([], state)
  | state, input :: rest => do
      let (next, output) ← step state input
      let (events, last) ← run step next rest
      return (⟨state, input, output, next⟩ :: events, last)

@[simp] theorem run_nil (step : σ → ι → Option (σ × ο)) (state : σ) :
    run step state [] = some ([], state) := rfl

theorem run_cons_eq_some {step : σ → ι → Option (σ × ο)} {state last : σ} {input : ι}
    {rest : List ι} {events : List (Event σ ι ο)} :
    run step state (input :: rest) = some (events, last) ↔
      ∃ next output tail, step state input = some (next, output) ∧
        run step next rest = some (tail, last) ∧
        events = ⟨state, input, output, next⟩ :: tail := by
  constructor
  · intro ran
    simp only [run, Option.bind_eq_bind, Option.bind_eq_some_iff, Option.pure_def,
      Option.some.injEq, Prod.mk.injEq, Prod.exists] at ran
    obtain ⟨next, output, fired, tail, last', ran, rfl, rfl⟩ := ran
    exact ⟨next, output, tail, fired, ran, rfl⟩
  · rintro ⟨next, output, tail, fired, ran, rfl⟩
    simp [run, fired, ran]

/-- The inputs of a run are the inputs of its steps. -/
theorem run_inputs {step : σ → ι → Option (σ × ο)} {start last : σ} {inputs : List ι}
    {events : List (Event σ ι ο)} (ran : run step start inputs = some (events, last)) :
    events.map (·.input) = inputs := by
  induction inputs generalizing start events with
  | nil =>
      simp only [run_nil, Option.some.injEq, Prod.mk.injEq] at ran
      rw [← ran.1, List.map_nil]
  | cons input rest ih =>
      obtain ⟨next, output, tail, -, ran', rfl⟩ := run_cons_eq_some.mp ran
      rw [List.map_cons, ih ran']

/-- A run over a concatenation is a run over the front, then one over the back. -/
theorem run_append_eq_some {step : σ → ι → Option (σ × ο)} {start last : σ}
    {front back : List ι} {events : List (Event σ ι ο)} :
    run step start (front ++ back) = some (events, last) ↔
      ∃ first middle second, run step start front = some (first, middle) ∧
        run step middle back = some (second, last) ∧ events = first ++ second := by
  induction front generalizing start events with
  | nil =>
      constructor
      · intro ran
        exact ⟨[], start, events, rfl, ran, rfl⟩
      · rintro ⟨first, middle, second, ran, ran', rfl⟩
        simp only [run_nil, Option.some.injEq, Prod.mk.injEq] at ran
        obtain ⟨rfl, rfl⟩ := ran
        exact ran'
  | cons input front ih =>
      constructor
      · intro ran
        obtain ⟨next, output, tail, fired, ran', rfl⟩ := run_cons_eq_some.mp ran
        obtain ⟨first, middle, second, ran₁, ran₂, rfl⟩ := ih.mp ran'
        exact ⟨⟨start, input, output, next⟩ :: first, middle, second,
          run_cons_eq_some.mpr ⟨next, output, first, fired, ran₁, rfl⟩, ran₂, rfl⟩
      · rintro ⟨first, middle, second, ran, ran₂, rfl⟩
        obtain ⟨next, output, tail, fired, ran₁, rfl⟩ := run_cons_eq_some.mp ran
        exact run_cons_eq_some.mpr ⟨next, output, tail ++ second, fired,
          ih.mpr ⟨tail, middle, second, ran₁, ran₂, rfl⟩, rfl⟩

/-- A run that takes one more step. -/
theorem run_snoc {step : σ → ι → Option (σ × ο)} {start : σ} {past : List (Event σ ι ο)}
    (event : Event σ ι ο) (ran : run step start (past.map (·.input)) = some (past, event.before))
    (fired : step event.before event.input = some (event.after, event.output)) :
    run step start ((past ++ [event]).map (·.input)) = some (past ++ [event], event.after) := by
  rw [List.map_append]
  apply run_append_eq_some.mpr
  refine ⟨past, event.before, [event], ran, ?_, rfl⟩
  exact run_cons_eq_some.mpr ⟨event.after, event.output, [], fired, rfl, rfl⟩

/-- The induction rule for runs: what holds of the start with nothing done, and is
kept when a run that has reached a state takes one more step, holds of the whole run. -/
theorem run_induction {step : σ → ι → Option (σ × ο)} {start last : σ} {inputs : List ι}
    {events : List (Event σ ι ο)} (ran : run step start inputs = some (events, last))
    (P : List (Event σ ι ο) → σ → Prop) (base : P [] start)
    (keep : ∀ past state input output next, past.map (·.input) ++ [input] <+: inputs →
      run step start (past.map (·.input)) = some (past, state) → P past state →
      step state input = some (next, output) →
      P (past ++ [⟨state, input, output, next⟩]) next) :
    P events last := by
  suffices general : ∀ inputs' : List ι, ∀ past state events',
      past.map (·.input) ++ inputs' = inputs →
      run step start (past.map (·.input)) = some (past, state) → P past state →
      run step state inputs' = some (events', last) → P (past ++ events') last by
    simpa only [List.nil_append] using general inputs [] start events rfl rfl base ran
  intro inputs'
  induction inputs' with
  | nil =>
      intro past state events' _ _ holds ran'
      simp only [run_nil, Option.some.injEq, Prod.mk.injEq] at ran'
      obtain ⟨rfl, rfl⟩ := ran'
      simpa only [List.append_nil] using holds
  | cons input rest ih =>
      intro past state events' split reached holds ran'
      obtain ⟨next, output, tail, fired, ranTail, rfl⟩ := run_cons_eq_some.mp ran'
      have split' : past.map (·.input) ++ [input] ++ rest = inputs := by
        rw [List.append_assoc]
        exact split
      have kept := keep past state input output next ⟨rest, split'⟩ reached holds fired
      have reached' := run_snoc ⟨state, input, output, next⟩ reached fired
      simpa only [List.append_assoc, List.singleton_append] using
        ih _ next tail (by rw [List.map_append]; exact split') reached' kept ranTail

/-- An invariant of single steps is an invariant of runs. -/
theorem run_invariant {step : σ → ι → Option (σ × ο)} {start last : σ} {inputs : List ι}
    {events : List (Event σ ι ο)} (ran : run step start inputs = some (events, last))
    (I : σ → Prop) (base : I start)
    (keep : ∀ state input output next, input ∈ inputs → I state →
      step state input = some (next, output) → I next) : I last :=
  run_induction ran (fun _ state => I state) base
    (fun _ state input output next within _ holds fired =>
      keep state input output next (within.subset (by simp)) holds fired)

/-- Every step of a run was taken from a state that the steps before it reach. -/
theorem run_event {step : σ → ι → Option (σ × ο)} {start last : σ} {inputs : List ι}
    {past future : List (Event σ ι ο)} {event : Event σ ι ο}
    (ran : run step start inputs = some (past ++ event :: future, last)) :
    run step start (past.map (·.input)) = some (past, event.before) ∧
      step event.before event.input = some (event.after, event.output) ∧
      run step event.after (future.map (·.input)) = some (future, last) := by
  induction past generalizing start inputs with
  | nil =>
      cases inputs with
      | nil => simp at ran
      | cons input rest =>
          obtain ⟨next, output, tail, fired, ran', same⟩ := run_cons_eq_some.mp ran
          simp only [List.nil_append, List.cons.injEq] at same
          obtain ⟨rfl, rfl⟩ := same
          rw [run_inputs ran']
          exact ⟨rfl, fired, ran'⟩
  | cons first past ih =>
      cases inputs with
      | nil => simp at ran
      | cons input rest =>
          obtain ⟨next, output, tail, fired, ran', same⟩ := run_cons_eq_some.mp ran
          simp only [List.cons_append, List.cons.injEq] at same
          obtain ⟨rfl, rfl⟩ := same
          obtain ⟨reached, rest'⟩ := ih ran'
          exact ⟨run_cons_eq_some.mpr ⟨next, output, past, fired, reached, rfl⟩, rest'⟩

/-- A machine whose steps are defined wherever the invariant holds runs on every
list of inputs. -/
theorem run_total {step : σ → ι → Option (σ × ο)} {start : σ} {inputs : List ι}
    (I : σ → Prop) (base : I start)
    (defined : ∀ state input, input ∈ inputs → I state →
      ∃ next output, step state input = some (next, output) ∧ I next) :
    ∃ events last, run step start inputs = some (events, last) := by
  induction inputs generalizing start with
  | nil => exact ⟨[], start, rfl⟩
  | cons input rest ih =>
      obtain ⟨next, output, fired, kept⟩ := defined start input (List.mem_cons_self ..) base
      obtain ⟨events, last, ran⟩ :=
        ih kept (fun state i member => defined state i (List.mem_cons_of_mem _ member))
      exact ⟨_, last, run_cons_eq_some.mpr ⟨next, output, events, fired, ran, rfl⟩⟩

/-- A machine inside another one: when each step of the outer machine is seen as a
step of the inner one, or leaves the inner state alone, so is a whole run. -/
theorem run_project {σ' ι' ο' : Type} {step : σ → ι → Option (σ × ο)}
    {step' : σ' → ι' → Option (σ' × ο')} (part : σ → σ')
    (view : Event σ ι ο → Option (Event σ' ι' ο'))
    (hidden : ∀ event, step event.before event.input = some (event.after, event.output) →
      view event = none → part event.after = part event.before)
    (seen : ∀ event event', step event.before event.input = some (event.after, event.output) →
      view event = some event' → event'.before = part event.before ∧
        event'.after = part event.after ∧
        step' event'.before event'.input = some (event'.after, event'.output))
    {start last : σ} {inputs : List ι} {events : List (Event σ ι ο)}
    (ran : run step start inputs = some (events, last)) :
    run step' (part start) ((events.filterMap view).map (·.input)) =
      some (events.filterMap view, part last) := by
  induction inputs generalizing start events with
  | nil =>
      simp only [run_nil, Option.some.injEq, Prod.mk.injEq] at ran
      obtain ⟨rfl, rfl⟩ := ran
      rfl
  | cons input rest ih =>
      obtain ⟨next, output, tail, fired, ran', rfl⟩ := run_cons_eq_some.mp ran
      have inner := ih ran'
      cases viewed : view ⟨start, input, output, next⟩ with
      | none =>
          rw [List.filterMap_cons_none viewed]
          have same := hidden ⟨start, input, output, next⟩ fired viewed
          rwa [← same]
      | some event' =>
          obtain ⟨before, after, fired'⟩ := seen _ event' fired viewed
          rw [List.filterMap_cons_some viewed, List.map_cons]
          rw [← after] at inner
          refine run_cons_eq_some.mpr ⟨event'.after, event'.output, _, ?_, inner, ?_⟩
          · rwa [← before]
          · rw [← before]

/-- Two machines over the same inputs: when each step of the first is matched by a step
of the second with the same output, so is a whole run. -/
theorem run_simulation {σ' : Type} {step : σ → ι → Option (σ × ο)}
    {step' : σ' → ι → Option (σ' × ο)} (R : σ → σ' → Prop)
    (matched : ∀ state state' input output next, R state state' →
      step state input = some (next, output) →
      ∃ next', step' state' input = some (next', output) ∧ R next next')
    {start last : σ} {start' : σ'} {inputs : List ι} {events : List (Event σ ι ο)}
    (related : R start start') (ran : run step start inputs = some (events, last)) :
    ∃ events' last', run step' start' inputs = some (events', last') ∧ R last last' ∧
      events'.map (·.output) = events.map (·.output) := by
  induction inputs generalizing start start' events with
  | nil =>
      simp only [run_nil, Option.some.injEq, Prod.mk.injEq] at ran
      obtain ⟨rfl, rfl⟩ := ran
      exact ⟨[], start', rfl, related, rfl⟩
  | cons input rest ih =>
      obtain ⟨next, output, tail, fired, ran', rfl⟩ := run_cons_eq_some.mp ran
      obtain ⟨next', fired', related'⟩ := matched start start' input output next related fired
      obtain ⟨tail', last', ran'', ends, outputs⟩ := ih related' ran'
      refine ⟨_, last', run_cons_eq_some.mpr ⟨next', output, tail', fired', ran'', rfl⟩, ends, ?_⟩
      rw [List.map_cons, List.map_cons, outputs]

/-- Where the steps of one kind use something up and no step adds to it, a run has no more
steps of that kind than what there is. -/
theorem run_spends {step : σ → ι → Option (σ × ο)} {start last : σ} {inputs : List ι}
    {events : List (Event σ ι ο)} (ran : run step start inputs = some (events, last))
    (I : σ → Prop) (measure : σ → Nat) (spends : ι → Bool) (base : I start)
    (less : ∀ state input output next, input ∈ inputs → I state →
      step state input = some (next, output) →
      I next ∧ (spends input).toNat + measure next ≤ measure state) :
    I last ∧ (inputs.filter spends).length + measure last ≤ measure start := by
  have bounded := run_induction ran
    (fun past state => I state ∧
      ((past.map (·.input)).filter spends).length + measure state ≤ measure start)
    ⟨base, by simp⟩ ?_
  · rw [← run_inputs ran]
    exact bounded
  · intro past state input output next within _ ⟨holds, count⟩ fired
    obtain ⟨kept, used⟩ := less state input output next (within.subset (by simp)) holds fired
    refine ⟨kept, ?_⟩
    rw [List.map_append, List.filter_append, List.length_append]
    cases charged : spends input <;> simp [charged] at used ⊢ <;> omega

/-- Where every step uses something up, a run is no longer than what there is. -/
theorem run_bounded {step : σ → ι → Option (σ × ο)} {start last : σ} {inputs : List ι}
    {events : List (Event σ ι ο)} (ran : run step start inputs = some (events, last))
    (I : σ → Prop) (measure : σ → Nat) (base : I start)
    (less : ∀ state input output next, input ∈ inputs → I state →
      step state input = some (next, output) → I next ∧ measure next < measure state) :
    I last ∧ inputs.length + measure last ≤ measure start := by
  have spent := run_spends ran I measure (fun _ => true) base
    fun state input output next within holds fired => by
      obtain ⟨kept, used⟩ := less state input output next within holds fired
      exact ⟨kept, by simpa [Nat.one_add] using Nat.succ_le_of_lt used⟩
  simpa only [List.filter_true] using spent

/-- So steps of some kind can be taken until no more of that kind is possible. -/
theorem run_exhausts (step : σ → ι → Option (σ × ο)) (I : σ → Prop) (measure : σ → Nat)
    (allowed : σ → ι → Prop)
    (less : ∀ state input output next, allowed state input → I state →
      step state input = some (next, output) → I next ∧ measure next < measure state)
    {start : σ} (base : I start) :
    ∃ inputs events last, run step start inputs = some (events, last) ∧ I last ∧
      (∀ event ∈ events, allowed event.before event.input) ∧
      ∀ input, allowed last input → step last input = none := by
  induction size : measure start using Nat.strongRecOn generalizing start with
  | ind size ih =>
      by_cases stuck : ∀ input, allowed start input → step start input = none
      · exact ⟨[], [], start, rfl, base, fun _ none => absurd none List.not_mem_nil, stuck⟩
      · simp only [not_forall, exists_prop] at stuck
        obtain ⟨input, may, defined⟩ := stuck
        obtain ⟨⟨next, output⟩, fired⟩ := Option.ne_none_iff_exists'.mp defined
        obtain ⟨kept, used⟩ := less start input output next may base fired
        obtain ⟨inputs, events, last, ran, holds, were, stuck⟩ :=
          ih (measure next) (size ▸ used) kept rfl
        refine ⟨input :: inputs, _, last,
          run_cons_eq_some.mpr ⟨next, output, events, fired, ran, rfl⟩, holds, ?_, stuck⟩
        intro event member
        rcases List.mem_cons.mp member with rfl | later
        · exact may
        · exact were event later

/-- Two machines in lockstep: when from related states every input is refused by both, or
answered alike with related states after it, the same holds of whole runs. -/
theorem run_lockstep {σ' : Type} {step : σ → ι → Option (σ × ο)}
    {step' : σ' → ι → Option (σ' × ο)} (R : σ → σ' → Prop)
    (matched : ∀ state state' input, R state state' →
      Option.Rel (fun moved moved' => moved.2 = moved'.2 ∧ R moved.1 moved'.1)
        (step state input) (step' state' input))
    {start : σ} {start' : σ'} (related : R start start') (inputs : List ι) :
    Option.Rel
      (fun ran ran' => ran.1.map (·.output) = ran'.1.map (·.output) ∧ R ran.2 ran'.2)
      (run step start inputs) (run step' start' inputs) := by
  induction inputs generalizing start start' with
  | nil => exact .some ⟨rfl, related⟩
  | cons input rest ih =>
      have first := matched start start' input related
      cases fired : step start input with
      | none =>
          cases fired' : step' start' input with
          | none =>
              simp only [run, fired, fired', Option.bind_eq_bind, Option.bind_none]
              exact .none
          | some moved' =>
              rw [fired, fired'] at first
              cases first
      | some moved =>
          cases fired' : step' start' input with
          | none =>
              rw [fired, fired'] at first
              cases first
          | some moved' =>
              rw [fired, fired'] at first
              obtain ⟨next, output⟩ := moved
              obtain ⟨next', output'⟩ := moved'
              obtain ⟨rfl, related'⟩ : output = output' ∧ R next next' := by
                cases first with
                | some both => exact both
              simp only [run, fired, fired', Option.bind_eq_bind, Option.bind_some]
              have tail := ih related'
              generalize run step next rest = ran at tail ⊢
              generalize run step' next' rest = ran' at tail ⊢
              cases tail with
              | none => exact .none
              | some both => exact .some ⟨congrArg (output :: ·) both.1, both.2⟩

/-- Some run leads from one state to the other. -/
def Reaches (step : σ → ι → Option (σ × ο)) (start last : σ) : Prop :=
  ∃ inputs events, run step start inputs = some (events, last)

theorem Reaches.trans {step : σ → ι → Option (σ × ο)} {start middle last : σ}
    (first : Reaches step start middle) (second : Reaches step middle last) :
    Reaches step start last := by
  obtain ⟨inputs, events, ran⟩ := first
  obtain ⟨inputs', events', ran'⟩ := second
  exact ⟨inputs ++ inputs', events ++ events',
    run_append_eq_some.mpr ⟨events, middle, events', ran, ran', rfl⟩⟩

theorem Reaches.of_step {step : σ → ι → Option (σ × ο)} {start last : σ} {input : ι} {output : ο}
    (fired : step start input = some (last, output)) : Reaches step start last :=
  ⟨[input], [⟨start, input, output, last⟩],
    run_cons_eq_some.mpr ⟨last, output, [], fired, rfl, rfl⟩⟩

end Machine
