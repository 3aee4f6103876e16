import Mathlib.Data.List.Forall2
import Sope.Banking.Data
import Sope.Server.Queue

set_option autoImplicit false

/- Any number of offices under any interleaving do to the accounts what one call of
`build_tlv_reply` after the other does, in the order in which main pushed. -/
namespace Sope.Server

open Machine Banking

/-- The administrator's account does not exist yet. -/
def MainPc.settingUp : MainPc → Bool
  | .spawn _ | .createAdmin => true
  | _ => false

/-- A wait takes one unit of one semaphore. -/
theorem waitSem_eq_some {accounts accounts' : Accounts} {index : AccountId} :
    waitSem accounts index = some accounts' ↔
      0 < (accounts index).semaphore ∧
        accounts' = Function.update accounts index
          { accounts index with semaphore := (accounts index).semaphore - 1 } := by
  unfold waitSem
  split
  · simp_all
  · rename_i positive
    rw [Option.some.injEq]
    exact ⟨fun same => ⟨Nat.pos_of_ne_zero positive, same.symm⟩, fun taken => taken.2.symm⟩

/-- A semaphore is no data. -/
theorem sameData_semaphore (bank : Bank) (index : AccountId) (value : Nat) :
    SameData bank { bank with
      accounts := Function.update bank.accounts index
        { bank.accounts index with semaphore := value } } := by
  refine ⟨?_, ?_, rfl⟩ <;>
  · intro other
    by_cases changed : other = index
    · simp only [changed, Function.update_self]
    · simp only [Function.update_of_ne changed]

@[simp] theorem prepareShutdown_bank (globals : Globals) (request : TlvRequest)
    (reply : TlvReply) : (globals.prepareShutdown request reply).bank = globals.bank := by
  unfold Globals.prepareShutdown
  split <;> rfl

section Moves

variable {generateSha256Hash : CString → CString → CString} {n : Nat} {rand : Rand}
  {adminPassword : CString} {state state' : State n} {action : Action}

/-- Only `build_tlv_reply` touches the account data. -/
theorem OfficeMove.data {shared shared' : Shared n} {i : Fin n} {pc pc' : OfficePc}
    (move : OfficeMove generateSha256Hash shared i pc shared' pc' action) :
    (action.handles = none ∧ SameData shared.globals.bank shared'.globals.bank) ∨
      ∃ request reply buffer, action = .handled request reply ∧
        buildTlvReply generateSha256Hash request shared.globals.bank buffer (i.val + 1)
          shared.globals.activeThreads = some (shared'.globals.bank, reply) := by
  cases move with
  | build request targetSem buffer bank reply replied =>
      exact Or.inr ⟨request, reply, buffer, rfl, replied⟩
  | waitAccount request index found active accounts taken
  | waitTarget request index transfer found active accounts taken =>
      obtain ⟨-, rfl⟩ := waitSem_eq_some.mp taken
      exact Or.inl ⟨rfl, sameData_semaphore ..⟩
  | postAccount | postTarget => exact Or.inl ⟨rfl, sameData_semaphore ..⟩
  | prepareShutdown request reply =>
      refine Or.inl ⟨rfl, ?_⟩
      dsimp only
      rw [prepareShutdown_bank]
      exact SameData.refl _
  | _ => exact Or.inl ⟨rfl, SameData.refl _⟩

/-- Main touches the account data once, when it creates the administrator's. -/
theorem MainMove.data {received : Option TlvRequest}
    (move : MainMove generateSha256Hash adminPassword state received state' action) :
    (SameData state.shared.globals.bank state'.shared.globals.bank ∧
        state'.main.settingUp = state.main.settingUp) ∨
      state.main = .createAdmin ∧ state'.main.settingUp = false ∧
        ∃ filled, fillBankAccount generateSha256Hash state.shared.globals.bank
          (adminAccount adminPassword) mainThreadId =
          some (filled, state'.shared.globals.bank) := by
  cases move with
  | createAdmin here bank fills => exact Or.inr ⟨here, rfl, true, fills⟩
  | keepAdmin here bank keeps => exact Or.inr ⟨here, rfl, false, keeps⟩
  | initSem here => exact Or.inl ⟨sameData_semaphore .., by rw [here]; rfl⟩
  | _ => exact Or.inl ⟨SameData.refl _, by simp only [*, MainPc.settingUp]⟩

/-- The accounts that the requests are applied to. -/
def startBank (generateSha256Hash : CString → CString → CString) (rand : Rand)
    (adminPassword : CString) (state : State n) : Bank :=
  if state.main.settingUp then zeroBank rand
  else initialBank generateSha256Hash rand adminPassword

/-- The calls, one after the other, end with the data and the answers of the run. -/
def Replayed (generateSha256Hash : CString → CString → CString) (start : Bank)
    (calls : List Call) (bank : Bank) (replies : List TlvReply) : Prop :=
  ∃ served bank', run (serve generateSha256Hash) start calls = some (served, bank') ∧
    SameData bank bank' ∧ List.Forall₂ SameAnswer replies (served.map (·.output))

theorem Replayed.snoc {start bank bank' : Bank} {calls : List Call} {call : Call}
    {replies : List TlvReply} {reply buffer : TlvReply} {id : Nat} {activeThreads : Int}
    (replayed : Replayed generateSha256Hash start calls bank replies)
    (replied : buildTlvReply generateSha256Hash call.request bank buffer id activeThreads =
      some (bank', reply)) :
    Replayed generateSha256Hash start (calls ++ [call]) bank' (replies ++ [reply]) := by
  obtain ⟨served, bank₁, ran, same, answers⟩ := replayed
  have agree : Agree (buildTlvReply generateSha256Hash call.request bank buffer id activeThreads)
      (serve generateSha256Hash bank₁ call) := buildTlvReply_agree same
  rw [replied] at agree
  obtain ⟨bank₂, reply₂, served₂, same₂, answer⟩ := agree.of_some
  refine ⟨served ++ [⟨bank₁, call, reply₂, bank₂⟩], bank₂, ?_, same₂, ?_⟩
  · exact run_append_eq_some.mpr ⟨served, bank₁, _, ran,
      run_cons_eq_some.mpr ⟨_, _, [], served₂, rfl, rfl⟩, rfl⟩
  · rw [List.map_append]
    exact List.rel_append answers (List.Forall₂.cons answer List.Forall₂.nil)

/-- The data and the answers so far are those of handling the same requests one after
the other, whatever buffers and offices that is done with. -/
structure Refines (generateSha256Hash : CString → CString → CString) (rand : Rand)
    (adminPassword : CString) (past : List (StepEvent n)) (state : State n) : Prop where
  untouched : state.main.settingUp = true →
    SameData state.shared.globals.bank (zeroBank rand) ∧ pushedRequests past = []
  replayed : ∀ calls : List Call,
    calls.map (·.request) = (handledRequests past).map (·.1) →
    Replayed generateSha256Hash (startBank generateSha256Hash rand adminPassword state) calls
      state.shared.globals.bank ((handledRequests past).map (·.2))

theorem initialState_refines :
    Refines generateSha256Hash rand adminPassword [] (initialState n rand) := by
  refine ⟨fun _ => ⟨SameData.refl _, rfl⟩, ?_⟩
  intro calls none
  obtain rfl := List.map_eq_nil_iff.mp none
  exact ⟨[], zeroBank rand, rfl, SameData.refl _, List.Forall₂.nil⟩

/-- Nothing is handled before the administrator's account exists. -/
theorem Refines.nothing_handled {past : List (StepEvent n)}
    (refines : Refines generateSha256Hash rand adminPassword past state)
    (ordered : Ordered past state) (settingUp : state.main.settingUp = true) :
    poppedRequests past = [] ∧ handledRequests past = [] ∧ state.inHand = none := by
  have popped := ordered.popped
  rw [(refines.untouched settingUp).2, List.append_eq_nil_iff] at popped
  have handled := ordered.handled
  rw [popped.1, List.append_eq_nil_iff, List.map_eq_nil_iff] at handled
  exact ⟨popped.1, handled.1, by simpa using handled.2⟩

theorem Refines.main {past : List (StepEvent n)}
    (refines : Refines generateSha256Hash rand adminPassword past state)
    (ordered : Ordered past state) {received : Option TlvRequest} {label : Label n}
    (move : MainMove generateSha256Hash adminPassword state received state' action) :
    Refines generateSha256Hash rand adminPassword (past ++ [⟨state, label, action, state'⟩])
      state' := by
  have noHandle := Action.handles_eq_none move.not_handled
  rcases move.data with ⟨same, sameSetting⟩ | ⟨here, finished, created, fills⟩
  · refine ⟨?_, ?_⟩
    · intro settingUp
      rw [sameSetting] at settingUp
      obtain ⟨zero, nothing⟩ := refines.untouched settingUp
      refine ⟨same.symm.trans zero, ?_⟩
      rw [pushedRequests_snoc, nothing]
      rcases move.queue with ⟨-, none⟩ | ⟨request, here, -⟩
      · rw [Action.pushes_eq_none none]
        rfl
      · rw [here] at settingUp
        cases settingUp
    · rw [handledRequests_snoc, noHandle, Option.toList_none, List.append_nil, startBank,
        sameSetting]
      intro calls requests
      obtain ⟨served, last, ran, agrees, answers⟩ := refines.replayed calls requests
      exact ⟨served, last, ran, same.symm.trans agrees, answers⟩
  · have settingUp : state.main.settingUp = true := by rw [here]; rfl
    obtain ⟨-, handled, -⟩ := refines.nothing_handled ordered settingUp
    have zero := (refines.untouched settingUp).1
    obtain ⟨filled, fills', whole⟩ := @fillBankAccount_of_inactive generateSha256Hash _
      (adminAccount adminPassword) mainThreadId _ accountIndex_admin (zero.isActive adminIndex)
    cases fills'.symm.trans fills
    refine ⟨fun settingUp' => absurd (finished.symm.trans settingUp') Bool.false_ne_true, ?_⟩
    intro calls none
    rw [handledRequests_snoc, noHandle, Option.toList_none, List.append_nil, handled] at none ⊢
    obtain rfl := List.map_eq_nil_iff.mp none
    rw [startBank, finished]
    have filledData : SameData state'.shared.globals.bank _ := sameData_semaphore _ adminIndex 1
    exact ⟨[], _, rfl, (whole ▸ filledData).trans (zero.withAccount ..), List.Forall₂.nil⟩

theorem Refines.office {past : List (StepEvent n)}
    (refines : Refines generateSha256Hash rand adminPassword past state)
    (protocol : Protocol state) (ordered : Ordered past state) {shared' : Shared n} {i : Fin n}
    {pc' : OfficePc} {label : Label n}
    (move : OfficeMove generateSha256Hash state.shared i (state.offices i) shared' pc' action)
    (next : state' = { state with
      shared := shared', offices := Function.update state.offices i pc' }) :
    Refines generateSha256Hash rand adminPassword (past ++ [⟨state, label, action, state'⟩])
      state' := by
  have settingUp' : state'.main.settingUp = state.main.settingUp := by rw [next]
  have start' : startBank generateSha256Hash rand adminPassword state' =
      startBank generateSha256Hash rand adminPassword state := by rw [startBank, settingUp']; rfl
  have bank' : state'.shared.globals.bank = shared'.globals.bank := by rw [next]
  have noPush := Action.pushes_eq_none move.not_pushed
  refine ⟨?_, ?_⟩
  · intro settingUp
    rw [settingUp'] at settingUp
    obtain ⟨zero, nothing⟩ := refines.untouched settingUp
    refine ⟨?_, by rw [pushedRequests_snoc, nothing, noPush]; rfl⟩
    rcases move.data with ⟨-, same⟩ | ⟨request, reply, buffer, handled, -⟩
    · exact bank' ▸ same.symm.trans zero
    · obtain ⟨-, -, empty⟩ := refines.nothing_handled ordered settingUp
      rcases protocol.inHand_office move next with ⟨silent, -⟩ | ⟨_, popped, -⟩ |
        ⟨_, _, -, holds, -⟩
      · rw [silent] at handled; cases handled
      · rw [popped] at handled; cases handled
      · rw [empty] at holds; cases holds
  · intro calls same
    rw [handledRequests_snoc, List.map_append] at same ⊢
    rw [start', bank']
    rcases move.data with ⟨noHandle, sameData⟩ | ⟨request, reply, buffer, handled, replied⟩
    · rw [noHandle, Option.toList_none, List.map_nil, List.append_nil] at same ⊢
      obtain ⟨served, last, ran, agrees, answers⟩ := refines.replayed calls same
      exact ⟨served, last, ran, sameData.symm.trans agrees, answers⟩
    · rw [handled] at same ⊢
      obtain ⟨earlier, this, rfl, sameEarlier, sameThis⟩ := List.map_eq_append_iff.mp same
      obtain ⟨call, rfl, isRequest⟩ := List.map_eq_singleton_iff.mp sameThis
      have isRequest : call.request = request := isRequest
      exact (refines.replayed earlier sameEarlier).snoc (by rw [isRequest]; exact replied)

theorem execute_refines {labels : List (Label n)} {events : List (StepEvent n)}
    (ran : execute generateSha256Hash rand adminPassword labels = some (events, state)) :
    Refines generateSha256Hash rand adminPassword events state := by
  apply run_induction ran (Refines generateSha256Hash rand adminPassword) initialState_refines
  intro past state label action state' _ reached refines fired
  have protocol := execute_protocol reached
  have ordered := execute_ordered reached
  rcases step_move fired with ⟨received, -, move⟩ | ⟨i, buffer, opened, shared', pc', -, move, next⟩
  · exact refines.main ordered move
  · exact refines.office protocol ordered move next

/-- A call of `build_tlv_reply` for the request, by no office in particular. -/
def plainCall (request : TlvRequest) : Call where
  request
  buffer := ⟨request.type, 0, ⟨⟨0, .ok⟩, 0⟩⟩
  id := 0
  activeThreads := 0

theorem plainCall_requests (requests : List TlvRequest) :
    (requests.map plainCall).map (·.request) = requests := by
  rw [List.map_map]
  exact List.map_id requests

theorem forall₂_sameAnswer {replies replies' last : List TlvReply}
    (answers : List.Forall₂ SameAnswer replies last)
    (answers' : List.Forall₂ SameAnswer replies' last) :
    List.Forall₂ SameAnswer replies replies' := by
  induction answers generalizing replies' with
  | nil =>
      cases answers'
      exact List.Forall₂.nil
  | cons answer _ ih =>
      cases answers' with
      | cons answer' rest' => exact List.Forall₂.cons (answer.euclidean answer') (ih rest')

/-- Two replays of the same calls end alike. -/
theorem Replayed.unique {start bank bank' : Bank} {calls : List Call}
    {replies replies' : List TlvReply}
    (replayed : Replayed generateSha256Hash start calls bank replies)
    (replayed' : Replayed generateSha256Hash start calls bank' replies') :
    SameData bank bank' ∧ List.Forall₂ SameAnswer replies replies' := by
  obtain ⟨served, last, ran, same, answers⟩ := replayed
  obtain ⟨served', last', ran', same', answers'⟩ := replayed'
  rw [ran] at ran'
  cases ran'
  exact ⟨same.trans same'.symm, forall₂_sameAnswer answers answers'⟩

/-- The server refines a sequential bank: the requests handled so far are the first
ones that main pushed, and answering them one after the other gives the same accounts,
return codes and balances. So another number of offices or another schedule that has
handled the same requests gives the same, too. -/
theorem execute_refines_serve (generateSha256Hash : CString → CString → CString) (rand : Rand)
    (adminPassword : CString) (labels : List (Label n)) {events : List (StepEvent n)}
    (ran : execute generateSha256Hash rand adminPassword labels = some (events, state)) :
    (handledRequests events).map (·.1) <+: pushedRequests events ∧
      (∀ calls : List Call, calls.map (·.request) = (handledRequests events).map (·.1) →
        ∃ served bank,
          run (serve generateSha256Hash)
            (startBank generateSha256Hash rand adminPassword state) calls = some (served, bank) ∧
          SameData state.shared.globals.bank bank ∧
          List.Forall₂ SameAnswer ((handledRequests events).map (·.2))
            (served.map (·.output))) ∧
      ∀ (m : Nat) (labels' : List (Label m)) (events' : List (StepEvent m)) (state' : State m),
        execute generateSha256Hash rand adminPassword labels' = some (events', state') →
        state.main.settingUp = state'.main.settingUp →
        (handledRequests events).map (·.1) = (handledRequests events').map (·.1) →
        SameData state.shared.globals.bank state'.shared.globals.bank ∧
          List.Forall₂ SameAnswer ((handledRequests events).map (·.2))
            ((handledRequests events').map (·.2)) := by
  have ordered := execute_ordered ran
  have refines := execute_refines ran
  refine ⟨⟨state.inHand.toList ++ state.shared.requests, ?_⟩, refines.replayed, ?_⟩
  · rw [← List.append_assoc, ordered.handled, ordered.popped]
  · intro m labels' events' state' ran' setting same
    have refines' := execute_refines ran'
    have sameStart : startBank generateSha256Hash rand adminPassword state' =
        startBank generateSha256Hash rand adminPassword state := by
      rw [startBank, ← setting]
      rfl
    exact (refines.replayed _ (plainCall_requests _)).unique
      (sameStart ▸ refines'.replayed _ ((plainCall_requests _).trans same))

end Moves

/-- Two offices, one of which handles what the other has woken up for. -/
def openThenBalance : List (Label 2) :=
  setUp 2 ++ arrival (openAccount 1 25 topSecret).request ++ arrival balanceOf1 ++
    officeTurns firstOffice 2 ++ officeTurns secondOffice 18 ++ officeTurns firstOffice 9

theorem openThenBalance_refines :
    ∃ events state,
      execute sessionHash sessionRand ultraTopSecret openThenBalance = some (events, state) ∧
      (handledRequests events).map (·.1) <+: pushedRequests events ∧
      (∀ calls : List Call, calls.map (·.request) = (handledRequests events).map (·.1) →
        ∃ served bank,
          run (serve sessionHash) (startBank sessionHash sessionRand ultraTopSecret state) calls =
            some (served, bank) ∧
          SameData state.shared.globals.bank bank ∧
          List.Forall₂ SameAnswer ((handledRequests events).map (·.2))
            (served.map (·.output))) ∧
      ∀ (m : Nat) (labels' : List (Label m)) (events' : List (StepEvent m)) (state' : State m),
        execute sessionHash sessionRand ultraTopSecret labels' = some (events', state') →
        state.main.settingUp = state'.main.settingUp →
        (handledRequests events).map (·.1) = (handledRequests events').map (·.1) →
        SameData state.shared.globals.bank state'.shared.globals.bank ∧
          List.Forall₂ SameAnswer ((handledRequests events).map (·.2))
            ((handledRequests events').map (·.2)) := by
  have defined :
      (execute sessionHash sessionRand ultraTopSecret openThenBalance).isSome = true := by
    decide +kernel
  obtain ⟨⟨events, state⟩, ran⟩ := Option.isSome_iff_exists.mp defined
  exact ⟨events, state, ran,
    execute_refines_serve sessionHash sessionRand ultraTopSecret openThenBalance ran⟩

end Sope.Server
