import Sope.Banking.Leftovers
import Sope.Server.Shutdown

set_option autoImplicit false

/- `active_threads` and the answer to a shutdown, which reports it. The count goes up
inside the mutex and down outside, so that two updates can overlap and one of them is lost;
where none do, it is the number of offices at work. -/
namespace Sope.Server

open Machine Banking Tally

/-- `MAX_BANK_OFFICES`. -/
def maxBankOffices : Nat := 99

/-- The office is between the stores of `++active_threads` and of `--active_threads`. -/
def OfficePc.counted : OfficePc → Nat
  | .waitAccount _ | .waitTarget _ | .build _ _ | .postAccount _ _ _ | .postTarget _ _ _
  | .openFifo _ _ | .unlock _ _ | .prepareShutdown _ _ | .uncountActive | .storeUncount _ => 1
  | _ => 0

/-- The value that the office has loaded and not yet stored again. -/
def OfficePc.loaded : OfficePc → Option Int
  | .storeCount _ loaded | .storeUncount loaded => some loaded
  | _ => none

/-- An office stores `active_threads` between the load and the store of another one. -/
def overlaps {n : Nat} (event : StepEvent n) : Bool :=
  match event.input with
  | .main _ => false
  | .office i _ _ => (event.before.offices i).loaded.isSome &&
      (List.finRange n).any fun j => j != i && (event.before.offices j).loaded.isSome

theorem counted_le_one (pc : OfficePc) : pc.counted ≤ 1 := by
  cases pc <;> simp only [OfficePc.counted, Nat.zero_le, le_refl]

theorem prepareShutdown_activeThreads (globals : Globals) (request : TlvRequest)
    (reply : TlvReply) : (globals.prepareShutdown request reply).activeThreads =
      globals.activeThreads := by
  unfold Globals.prepareShutdown
  split <;> rfl

theorem toNat_ofInt {value : Nat} (small : value < 2 ^ 32) :
    (UInt32.ofInt (value : Int)).toNat = value := by
  rw [UInt32.ofInt, UInt32.toNat_ofNat']
  omega

section Counted

variable {generateSha256Hash : CString → CString → CString} {n : Nat} {rand : Rand}
  {adminPassword : CString}

/-- An office that changes the count changes its own side with it, if the value that it has
loaded is still there. -/
theorem OfficeMove.counted {shared shared' : Shared n} {i : Fin n} {pc pc' : OfficePc}
    {action : Action} (move : OfficeMove generateSha256Hash shared i pc shared' pc' action)
    (current : ∀ value, pc.loaded = some value → value = shared.globals.activeThreads) :
    shared'.globals.activeThreads + (pc.counted : Int) =
      shared.globals.activeThreads + (pc'.counted : Int) := by
  cases move with
  | storeCount request loaded | storeUncount loaded =>
      have same := current loaded rfl
      simp only [OfficePc.counted]
      omega
  | prepareShutdown =>
      rw [prepareShutdown_activeThreads]
      rfl
  | _ => rfl

/-- Only a store changes the count. -/
theorem OfficeMove.activeThreads {shared shared' : Shared n} {i : Fin n} {pc pc' : OfficePc}
    {action : Action} (move : OfficeMove generateSha256Hash shared i pc shared' pc' action)
    (noStore : pc.loaded = none) :
    shared'.globals.activeThreads = shared.globals.activeThreads := by
  cases move with
  | storeCount | storeUncount => cases noStore
  | prepareShutdown => rw [prepareShutdown_activeThreads]
  | _ => rfl

/-- What an office has loaded is the count. -/
theorem OfficeMove.loaded {shared shared' : Shared n} {i : Fin n} {pc pc' : OfficePc}
    {action : Action} (move : OfficeMove generateSha256Hash shared i pc shared' pc' action)
    (value : Int) (loads : pc'.loaded = some value) : value = shared'.globals.activeThreads := by
  cases move with
  | countActive | uncountActive =>
      cases loads
      rfl
  | _ => cases loads

theorem MainMove.activeThreads {state state' : State n} {received : Option TlvRequest}
    {action : Action}
    (move : MainMove generateSha256Hash adminPassword state received state' action) :
    state'.shared.globals.activeThreads = state.shared.globals.activeThreads := by
  cases move <;> rfl

/-- `active_threads` counts the offices that are past their increment, and no office has
loaded another value. -/
structure Counted (state : State n) : Prop where
  count : state.shared.globals.activeThreads = (tally OfficePc.counted state.offices : Int)
  current : ∀ i value, (state.offices i).loaded = some value →
    value = state.shared.globals.activeThreads

theorem initialState_counted : Counted (initialState n rand) where
  count := by
    have none : tally OfficePc.counted (initialState n rand).offices = 0 :=
      tally_eq_zero fun _ => rfl
    rw [none]
    rfl
  current _ _ loads := by cases loads

theorem Counted.step {state state' : State n} {label : Label n} {action : Action}
    (counted : Counted state) (protocol : Protocol state)
    (fired : step generateSha256Hash adminPassword state label = some (state', action))
    (apart : overlaps ⟨state, label, action, state'⟩ = false) : Counted state' := by
  rcases step_move fired with ⟨received, -, move⟩ |
    ⟨i, buffer, opened, shared', pc', rfl, move, rfl⟩
  · have same := tally_congr (move.office_same protocol.spawning OfficePc.counted rfl)
    refine ⟨by rw [move.activeThreads, same, counted.count], ?_⟩
    intro i value loads
    rw [move.activeThreads]
    rcases move.office protocol.spawning i with kept | ⟨-, started⟩
    · exact counted.current i value (kept ▸ loads)
    · rw [started] at loads
      cases loads
  · have moved := move.counted (counted.current i)
    have update := tally_update OfficePc.counted state.offices i pc'
    have count := counted.count
    constructor
    · dsimp only
      omega
    · intro j value loads
      dsimp only at loads ⊢
      by_cases own : j = i
      · rw [own, Function.update_self] at loads
        exact move.loaded value loads
      · rw [Function.update_of_ne own] at loads
        have noStore : (state.offices i).loaded = none := by
          by_contra stores
          have other : (List.finRange n).any (fun j =>
              j != i && (state.offices j).loaded.isSome) = true :=
            List.any_eq_true.mpr ⟨j, List.mem_finRange j, by simp [own, loads]⟩
          have both := Bool.and_eq_false_iff.mp apart
          rw [other, Option.isSome_eq_false_iff, Option.isNone_iff_eq_none] at both
          exact stores (both.resolve_right Bool.noConfusion)
        rw [move.activeThreads noStore]
        exact counted.current j value loads

theorem execute_counted {labels : List (Label n)} {events : List (StepEvent n)} {state : State n}
    (ran : execute generateSha256Hash rand adminPassword labels = some (events, state))
    (apart : ∀ event ∈ events, overlaps event = false) : Counted state := by
  refine run_induction ran (fun past state => (∀ event ∈ past, overlaps event = false) →
    Counted state) (fun _ => initialState_counted) ?_ apart
  intro past state label action state' _ reached counted fired apart
  have before := counted fun event member => apart event (List.mem_append_left _ member)
  exact before.step (execute_protocol reached) fired
    (apart _ (List.mem_append_right _ List.mem_cons_self))

/-- Only an administrator's shutdown is accepted, and what it is told is the count. -/
theorem shutdown_info {request : TlvRequest} {bank bank' : Bank} {buffer reply : TlvReply}
    {id : Nat} {activeThreads : Int}
    (replied : buildTlvReply generateSha256Hash request bank buffer id activeThreads =
      some (bank', reply))
    (shutdown : request.type = .shutdown) (accepted : reply.value.header.retCode = .ok) :
    reply.value.info = UInt32.ofInt activeThreads := by
  have login := (buildTlvReply_outcome replied).shutdown_login shutdown accepted
  rw [info_of_shutdown shutdown login replied, if_pos rfl]

/-- In a run in which no two updates of `active_threads` overlap, the count never leaves
`0..n`, is zero once every office has returned, and an accepted shutdown is told how many
offices are at work, itself included. -/
theorem execute_active_offices (generateSha256Hash : CString → CString → CString) (rand : Rand)
    (adminPassword : CString) (offices : n ≤ maxBankOffices) (labels : List (Label n))
    {events : List (StepEvent n)} {state : State n}
    (ran : execute generateSha256Hash rand adminPassword labels = some (events, state))
    (apart : ∀ event ∈ events, overlaps event = false) :
    (0 ≤ state.shared.globals.activeThreads ∧ state.shared.globals.activeThreads ≤ n) ∧
      ((∀ i, (state.offices i).hasReturned = true) → state.shared.globals.activeThreads = 0) ∧
      ∀ past event future, events = past ++ event :: future → ∀ request reply,
        event.output = .handled request reply → request.type = .shutdown →
        reply.value.header.retCode = .ok →
        reply.value.info.toNat = tally OfficePc.counted event.before.offices ∧
          1 ≤ reply.value.info.toNat ∧ reply.value.info.toNat ≤ n := by
  refine ⟨?_, ?_, ?_⟩
  · rw [(execute_counted ran apart).count]
    have bound := tally_le_count counted_le_one state.offices
    omega
  · intro returned
    rw [(execute_counted ran apart).count]
    have none : tally OfficePc.counted state.offices = 0 := tally_eq_zero fun i => by
      have back := returned i
      cases here : state.offices i with
      | returned => rfl
      | _ =>
          rw [here] at back
          cases back
    rw [none]
    rfl
  · rintro past event future rfl request reply shown shutdown accepted
    obtain ⟨reached, fired, -⟩ := run_event ran
    have count := (execute_counted reached
      fun event member => apart event (List.mem_append_left _ member)).count
    rw [shown] at fired
    rcases step_move fired with ⟨_, -, move⟩ | ⟨i, _, _, _, _, -, move, -⟩
    · exact absurd rfl (move.not_handled request reply)
    · have inside := weight_le_tally OfficePc.counted event.before.offices i
      have bound := tally_le_count counted_le_one event.before.offices
      generalize event.before.offices i = pc at move inside
      generalize shown' : Action.handled request reply = action at move
      cases move with
      | build request' targetSem buffer bank reply' replied =>
          cases shown'
          have info := shutdown_info replied shutdown accepted
          have stored : reply.value.info.toNat = tally OfficePc.counted event.before.offices := by
            rw [info, count]
            exact toNat_ofInt (Nat.lt_of_le_of_lt (Nat.le_trans bound offices) (by decide))
          simp only [OfficePc.counted] at inside
          exact ⟨stored, by omega, by omega⟩
      | _ => cases shown'

end Counted

/-- Two offices, of which the first answers a shutdown. -/
def shutdownAnswered : List (Label 2) :=
  setUp 2 ++ arrival adminShutdown ++ officeTurns firstOffice 18

theorem shutdownAnswered_active_offices :
    ∃ events state,
      execute sessionHash sessionRand ultraTopSecret shutdownAnswered = some (events, state) ∧
      (handledRequests events).map (fun answer => (answer.1.type, answer.2.value.header.retCode,
        answer.2.value.info)) = [(.shutdown, .ok, 1)] ∧
      (0 ≤ state.shared.globals.activeThreads ∧ state.shared.globals.activeThreads ≤ (2 : Nat)) ∧
      ((∀ i, (state.offices i).hasReturned = true) → state.shared.globals.activeThreads = 0) ∧
      ∀ past event future, events = past ++ event :: future → ∀ request reply,
        event.output = .handled request reply → request.type = .shutdown →
        reply.value.header.retCode = .ok →
        reply.value.info.toNat = tally OfficePc.counted event.before.offices ∧
          1 ≤ reply.value.info.toNat ∧ reply.value.info.toNat ≤ 2 := by
  obtain ⟨events, state, ran, answers, none⟩ : ∃ events state,
      execute sessionHash sessionRand ultraTopSecret shutdownAnswered = some (events, state) ∧
      (handledRequests events).map (fun answer => (answer.1.type, answer.2.value.header.retCode,
        answer.2.value.info)) = [(.shutdown, .ok, 1)] ∧
      events.all (fun event => !overlaps event) = true := ⟨_, _, rfl, rfl, rfl⟩
  refine ⟨events, state, ran, answers, execute_active_offices sessionHash sessionRand
    ultraTopSecret (by decide) shutdownAnswered ran fun event member => ?_⟩
  have apart := List.all_eq_true.mp none event member
  rwa [Bool.not_eq_true'] at apart

/-- The second office counts itself between the load and the store of the first, and its
increment is lost. -/
example :
    (execute sessionHash sessionRand ultraTopSecret
      (setUp 2 ++ arrival balanceOf1 ++ arrival balanceOf1 ++ officeTurns firstOffice 17 ++
        officeTurns secondOffice 8 ++ officeTurns firstOffice 1)).map
      (fun out => (out.2.shared.globals.activeThreads,
        tally OfficePc.counted out.2.offices)) = some (0, 1) := by
  decide

end Sope.Server
