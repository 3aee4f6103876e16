import Sope.Banking.Access
import Sope.Server.Refinement

set_option autoImplicit false

/- The account semaphores. Only the office that owns the mutex waits on them, so each
wait finds a unit unless the same office has taken it, which it does for a transfer
from an active account to itself. -/
namespace Sope.Server

open Machine Banking

section Requests

/- Where requests come from: every one that a thread or the queue holds was read. -/

def MainPc.request : MainPc → Option TlvRequest
  | .lock request | .push request | .unlock request | .post request => some request
  | _ => none

def OfficePc.request : OfficePc → Option TlvRequest
  | .pop request | .countActive request | .storeCount request _ | .waitAccount request | .waitTarget request
  | .build request _ | .postAccount request _ _ | .postTarget request _ _ | .openFifo request _
  | .unlock request _ | .prepareShutdown request _ => some request
  | _ => none

variable {generateSha256Hash : CString → CString → CString} {n : Nat} {rand : Rand}
  {adminPassword : CString} {state state' : State n} {action : Action}

/-- Every request in the process has the property. -/
structure AllRequests (P : TlvRequest → Prop) (state : State n) : Prop where
  main : ∀ request, state.main.request = some request → P request
  queue : ∀ request ∈ state.shared.requests, P request
  office : ∀ i request, (state.offices i).request = some request → P request

theorem OfficeMove.request {shared shared' : Shared n} {i : Fin n} {pc pc' : OfficePc}
    (move : OfficeMove generateSha256Hash shared i pc shared' pc' action) :
    pc'.request = none ∨ pc'.request = pc.request ∨
      ∃ request ∈ shared.requests, pc'.request = some request := by
  cases move with
  | front request first =>
      exact Or.inr (Or.inr ⟨request, List.mem_of_mem_head? first, rfl⟩)
  | pop | countActive | storeCount | waitAccount | skipAccount | waitTarget | skipTarget | build
  | postAccount | keepAccount | postTarget | keepTarget | openFifo | unlock =>
      exact Or.inr (Or.inl rfl)
  | _ => exact Or.inl rfl

theorem OfficeMove.requests_subset {shared shared' : Shared n} {i : Fin n} {pc pc' : OfficePc}
    (move : OfficeMove generateSha256Hash shared i pc shared' pc' action) :
    ∀ request ∈ shared'.requests, request ∈ shared.requests := by
  rcases move.queue with ⟨same, -⟩ | ⟨-, -, -, -, rest⟩
  · rw [same]
    exact fun _ member => member
  · rw [rest]
    exact fun _ member => List.mem_of_mem_tail member

theorem AllRequests.office_move {P : TlvRequest → Prop} (all : AllRequests P state)
    {shared' : Shared n} {i : Fin n} {pc' : OfficePc}
    (move : OfficeMove generateSha256Hash state.shared i (state.offices i) shared' pc' action) :
    AllRequests P { state with
      shared := shared', offices := Function.update state.offices i pc' } where
  main := all.main
  queue := fun request member => all.queue request (move.requests_subset request member)
  office := by
    intro j request holds
    by_cases moved : j = i
    · subst moved
      simp only [Function.update_self] at holds
      rcases move.request with none | same | ⟨request', member, some⟩
      · rw [none] at holds
        cases holds
      · exact all.office j request (same.symm.trans holds)
      · rw [some] at holds
        cases holds
        exact all.queue request member
    · simp only [Function.update_of_ne moved] at holds
      exact all.office j request holds

theorem AllRequests.main_move {P : TlvRequest → Prop} (all : AllRequests P state)
    (protocol : Protocol state) {received : Option TlvRequest}
    (read : ∀ request, state.main = .read → received = some request → P request)
    (move : MainMove generateSha256Hash adminPassword state received state' action) :
    AllRequests P state' where
  main := by
    intro request holds
    cases move with
    | receive here request' got =>
        cases holds
        exact read request here got
    | lock request' here | push request' here | unlock request' here =>
        exact all.main request (by rw [here]; exact holds)
    | _ => cases holds
  queue := by
    intro request member
    rcases move.queue with ⟨same, -⟩ | ⟨request', here, -, -, grown⟩
    · exact all.queue request (same ▸ member)
    · rw [grown, List.mem_append] at member
      rcases member with queued | last
      · exact all.queue request queued
      · rw [List.mem_singleton.mp last]
        exact all.main request' (by rw [here]; rfl)
  office := by
    intro i request holds
    rw [move.office_same protocol.spawning OfficePc.request rfl i] at holds
    exact all.office i request holds

theorem initialState_allRequests (P : TlvRequest → Prop) :
    AllRequests P (initialState n rand) :=
  ⟨fun _ none => (nomatch none), fun _ member => absurd member List.not_mem_nil,
    fun _ _ none => (nomatch none)⟩

/-- Main has not come to its loop. -/
def MainPc.beforeLoop : MainPc → Bool
  | .spawn _ | .createAdmin | .initSem => true
  | _ => false

/-- Before its loop main has read no request. -/
def NoneYet (state : State n) : Prop :=
  state.main.beforeLoop = true → AllRequests (fun _ => False) state

theorem NoneYet.main_move (noneYet : NoneYet state) (protocol : Protocol state)
    {received : Option TlvRequest}
    (move : MainMove generateSha256Hash adminPassword state received state' action) :
    NoneYet state' := by
  intro beforeLoop
  have before : state.main.beforeLoop = true := by
    cases move with
    | spawn started here | spawned started here => rw [here]; rfl
    | createAdmin here => rw [here]; rfl
    | _ => cases beforeLoop
  refine (noneYet before).main_move protocol (fun request here _ => ?_) move
  rw [here] at before
  cases before

/-- No office is inside then. -/
theorem NoneYet.outside (noneYet : NoneYet state) (protocol : Protocol state)
    (here : state.main.beforeLoop = true) (i : Fin n) : (state.offices i).inside = false := by
  have all := noneYet here
  cases at_ : state.offices i with
  | front =>
      obtain ⟨request, member⟩ := List.exists_mem_of_ne_nil _ (protocol.front at_)
      exact (all.queue request member).elim
  | notStarted | loopTest | waitMain | testClose | lock | prepareShutdown | uncountActive | storeUncount
  | returned => rfl
  | _ => exact (all.office i _ (by rw [at_]; rfl)).elim

theorem NoneYet.current_outside (noneYet : NoneYet state) (protocol : Protocol state)
    (here : state.main.beforeLoop = true) : state.current.inside = false := by
  unfold State.current
  split
  · exact noneYet.outside protocol here _
  · rfl

end Requests

/-- A transfer from an account to itself, while the account is active. -/
def SelfTransfer (accounts : Accounts) (request : TlvRequest) : Prop :=
  request.type = .transfer ∧ ∃ account,
    accountIndex request.value.header.accountId = some account ∧
    accountIndex request.value.transfer.accountId = some account ∧
    (accounts account).active = true

/-- The office pops a transfer from an active account to itself. -/
def PopsSelfTransfer {n : Nat} (event : StepEvent n) : Prop :=
  ∃ i buffer opened request, event.input = .office i buffer opened ∧
    event.before.offices i = .pop request ∧
    SelfTransfer event.before.shared.globals.bank.accounts request

/-- `acc_sem` is taken on an account that is the request's. -/
def accountHeld (request : TlvRequest) (index : AccountId) : Nat :=
  if accountIndex request.value.header.accountId = some index then 1 else 0

def targetHeld (targetSem : Option AccountId) (index : AccountId) : Nat :=
  if targetSem = some index then 1 else 0

/-- The units of an active account's semaphore that the office has taken and not given
back. -/
def OfficePc.held : OfficePc → AccountId → Nat
  | .waitTarget request, index => accountHeld request index
  | .build request targetSem, index | .postAccount request targetSem _, index =>
      accountHeld request index + targetHeld targetSem index
  | .postTarget _ targetSem _, index => targetHeld targetSem index
  | _, _ => 0

/-- `target_sem` points to the target exactly if the office has waited for it. -/
def TargetAssigned (accounts : Accounts) (request : TlvRequest)
    (targetSem : Option AccountId) : Prop :=
  (request.type ≠ .transfer → targetSem = none) ∧
    ∀ target, request.type = .transfer →
      accountIndex request.value.transfer.accountId = some target →
      targetSem = if (accounts target).active then some target else none

/-- What an office relies on between `pop` and its last `post_sem`. -/
def OfficePc.relies (accounts : Accounts) : OfficePc → Prop
  | .countActive request | .storeCount request _ | .waitAccount request | .waitTarget request =>
      ¬ SelfTransfer accounts request
  | .build request targetSem | .postAccount request targetSem _
  | .postTarget request targetSem _ => TargetAssigned accounts request targetSem
  | _ => True

/-- Every active account has its one unit, or the owner of the mutex has it. -/
structure Balanced (accounts : Accounts) (pc : OfficePc) : Prop where
  units : ∀ index, (accounts index).active = true →
    (accounts index).semaphore + pc.held index = 1
  relies : pc.relies accounts

theorem held_of_outside {pc : OfficePc} (outside : pc.inside = false) (index : AccountId) :
    pc.held index = 0 := by
  cases pc <;> first | rfl | cases outside

theorem relies_of_outside {pc : OfficePc} (outside : pc.inside = false) (accounts : Accounts) :
    pc.relies accounts := by
  cases pc <;> first | exact trivial | cases outside

/-- Outside it does not matter where the office is. -/
theorem Balanced.outside {accounts : Accounts} {pc pc' : OfficePc} (balanced : Balanced accounts pc)
    (outside : pc.inside = false) (outside' : pc'.inside = false) : Balanced accounts pc' := by
  refine ⟨?_, relies_of_outside outside' accounts⟩
  intro index active
  have units := balanced.units index active
  rw [held_of_outside outside] at units
  rw [held_of_outside outside']
  exact units

section Outcomes

variable {generateSha256Hash : CString → CString → CString} {request : TlvRequest}
  {bank bank' : Bank} {id : Nat} {reply : RepValue}

/-- Handling a request keeps the flags and the semaphores, but for those of an account
it creates, which is not the one the office has taken. -/
theorem outcome_units (outcome : Outcome generateSha256Hash request bank id bank' reply)
    (index : AccountId) :
    ((bank'.accounts index).active = (bank.accounts index).active ∧
        (bank'.accounts index).semaphore = (bank.accounts index).semaphore) ∨
      request.type = .createAccount ∧
        accountIndex request.value.header.accountId ≠ some index ∧
        (bank'.accounts index).semaphore = 1 := by
  rcases outcome.entry index with ⟨guards, -, salt, created⟩ | ⟨balance, kept⟩
  · refine Or.inr ⟨guards.create, ?_, ?_⟩
    · rw [guards.login.found]
      exact fun same => guards.notAdmin (Option.some.inj same).symm
    · rw [created]
      rfl
  · rw [kept]
    exact Or.inl ⟨rfl, rfl⟩

end Outcomes

section Balance

variable {generateSha256Hash : CString → CString → CString} {n : Nat} {rand : Rand}
  {adminPassword : CString} {shared shared' : Shared n} {i : Fin n} {pc pc' : OfficePc}
  {action : Action}

/-- A wait takes one unit and touches no flag. -/
theorem waitSem_units {accounts accounts' : Accounts} {account : AccountId}
    (taken : waitSem accounts account = some accounts') (index : AccountId) :
    (accounts' index).active = (accounts index).active ∧
      (accounts' index).semaphore + (if account = index then 1 else 0) =
        (accounts index).semaphore := by
  obtain ⟨positive, rfl⟩ := waitSem_eq_some.mp taken
  by_cases same : account = index
  · subst same
    simp only [Function.update_self, ↓reduceIte, true_and]
    omega
  · rw [Function.update_of_ne (Ne.symm same), if_neg same]
    exact ⟨rfl, rfl⟩

theorem postSem_units (accounts : Accounts) (account index : AccountId) :
    (postSem accounts account index).active = (accounts index).active ∧
      (postSem accounts account index).semaphore =
        (accounts index).semaphore + (if account = index then 1 else 0) := by
  by_cases same : account = index
  · subst same
    simp only [postSem, Function.update_self, ↓reduceIte, and_self]
  · rw [postSem, Function.update_of_ne (Ne.symm same), if_neg same]
    exact ⟨rfl, rfl⟩

theorem accountHeld_of_found {request : TlvRequest} {account : AccountId}
    (found : accountIndex request.value.header.accountId = some account) (index : AccountId) :
    accountHeld request index = if account = index then 1 else 0 := by
  simp only [accountHeld, found, Option.some.injEq]

/-- What an office relies on concerns flags only. -/
theorem SelfTransfer.congr {accounts accounts' : Accounts} {request : TlvRequest}
    (same : ∀ index, (accounts' index).active = (accounts index).active)
    (self : SelfTransfer accounts' request) : SelfTransfer accounts request := by
  obtain ⟨transfer, account, found, found', active⟩ := self
  exact ⟨transfer, account, found, found', (same account).symm.trans active⟩

theorem TargetAssigned.congr {accounts accounts' : Accounts} {request : TlvRequest}
    {targetSem : Option AccountId}
    (same : ∀ index, (accounts' index).active = (accounts index).active)
    (assigned : TargetAssigned accounts request targetSem) :
    TargetAssigned accounts' request targetSem := by
  refine ⟨assigned.1, ?_⟩
  intro target transfer found
  rw [same]
  exact assigned.2 target transfer found

theorem OfficeMove.balanced
    (move : OfficeMove generateSha256Hash shared i pc shared' pc' action)
    (balanced : Balanced shared.globals.bank.accounts pc)
    (apart : ∀ request, pc = .pop request →
      ¬ SelfTransfer shared.globals.bank.accounts request) :
    Balanced shared'.globals.bank.accounts pc' := by
  cases move with
  | pop request => exact ⟨balanced.units, apart request rfl⟩
  | countActive request | storeCount request => exact ⟨balanced.units, balanced.relies⟩
  | waitAccount request account found active accounts taken =>
      rw [Shared.withAccounts_accounts]
      have moved := waitSem_units taken
      refine ⟨?_, fun self => balanced.relies (self.congr fun index => (moved index).1)⟩
      intro index active'
      have units := balanced.units index ((moved index).1.symm.trans active')
      have taken := (moved index).2
      simp only [OfficePc.held, accountHeld_of_found found] at units ⊢
      exact taken.trans units
  | skipAccount request account found inactive =>
      refine ⟨?_, balanced.relies⟩
      intro index active
      have other := ne_of_flags inactive active
      simp only [OfficePc.held, accountHeld_of_found found, if_neg other]
      exact balanced.units index active
  | waitTarget request target transfer found active accounts taken =>
      rw [Shared.withAccounts_accounts]
      have moved := waitSem_units taken
      refine ⟨?_, fun noTransfer => absurd transfer noTransfer, ?_⟩
      · intro index active'
        have units := balanced.units index ((moved index).1.symm.trans active')
        have taken := (moved index).2
        simp only [OfficePc.held, targetHeld, Option.some.injEq] at units ⊢
        omega
      · intro target' _ found'
        cases found.symm.trans found'
        rw [if_pos ((moved target).1.trans active)]
  | skipTarget request inactive =>
      refine ⟨balanced.units, fun _ => rfl, ?_⟩
      intro target transfer found
      obtain ⟨target', found', inactive⟩ := inactive transfer
      cases found.symm.trans found'
      simp only [inactive, Bool.false_eq_true, ↓reduceIte]
  | build request targetSem buffer bank reply replied =>
      have units' := outcome_units (buildTlvReply_outcome replied)
      have assigned : TargetAssigned shared.globals.bank.accounts request targetSem :=
        balanced.relies
      refine ⟨?_, assigned.1, ?_⟩
      · intro index active
        dsimp only at active ⊢
        rcases units' index with ⟨flag, semaphore⟩ | ⟨create, other, semaphore⟩
        · rw [semaphore]
          exact balanced.units index (flag.symm.trans active)
        · have none := assigned.1 (by rw [create]; exact OpType.noConfusion)
          simp only [semaphore, OfficePc.held, accountHeld, targetHeld, if_neg other, none,
            reduceCtorEq, ↓reduceIte]
      · intro target transfer found
        rcases units' target with ⟨flag, -⟩ | ⟨create, -⟩
        · dsimp only
          rw [flag]
          exact assigned.2 target transfer found
        · rw [create] at transfer
          cases transfer
  | postAccount request targetSem reply account found active =>
      rw [Shared.withAccounts_accounts]
      have moved := postSem_units shared.globals.bank.accounts account
      refine ⟨?_, TargetAssigned.congr (fun index => (moved index).1) balanced.relies⟩
      intro index active'
      have units := balanced.units index ((moved index).1.symm.trans active')
      have given := (moved index).2
      simp only [OfficePc.held, accountHeld_of_found found] at units ⊢
      omega
  | keepAccount request targetSem reply account found inactive =>
      refine ⟨?_, balanced.relies⟩
      intro index active
      have other := ne_of_flags inactive active
      have units := balanced.units index active
      simp only [OfficePc.held, accountHeld_of_found found, if_neg other] at units ⊢
      omega
  | postTarget request target target' reply transfer found active =>
      rw [Shared.withAccounts_accounts]
      have moved := postSem_units shared.globals.bank.accounts target'
      refine ⟨?_, trivial⟩
      intro index active'
      have units := balanced.units index ((moved index).1.symm.trans active')
      have given := (moved index).2
      simp only [OfficePc.held, targetHeld, Option.some.injEq] at units ⊢
      omega
  | keepTarget request targetSem reply inactive =>
      refine ⟨?_, trivial⟩
      have assigned : TargetAssigned shared.globals.bank.accounts request targetSem :=
        balanced.relies
      have none : targetSem = none := by
        by_cases transfer : request.type = .transfer
        · obtain ⟨target, found, inactive⟩ := inactive transfer
          simpa [inactive] using assigned.2 target transfer found
        · exact assigned.1 transfer
      intro index active
      have units := balanced.units index active
      simp only [OfficePc.held, targetHeld, none, reduceCtorEq, ↓reduceIte] at units ⊢
      exact units
  | prepareShutdown request reply =>
      dsimp only
      rw [prepareShutdown_bank]
      exact ⟨balanced.units, trivial⟩
  | _ => exact ⟨balanced.units, trivial⟩

/-- Outside the mutex no office touches the accounts. -/
theorem OfficeMove.bank_outside
    (move : OfficeMove generateSha256Hash shared i pc shared' pc' action)
    (outside : pc.inside = false) : shared'.globals.bank = shared.globals.bank := by
  cases move with
  | prepareShutdown => exact prepareShutdown_bank ..
  | waitAccount | waitTarget | build | postAccount | postTarget => cases outside
  | _ => rfl

variable {state state' : State n}

/-- Main leaves the accounts alone once it is in its loop. -/
theorem MainMove.bank {received : Option TlvRequest}
    (move : MainMove generateSha256Hash adminPassword state received state' action) :
    state'.shared.globals.bank = state.shared.globals.bank ∨ state.main.beforeLoop = true := by
  cases move with
  | createAdmin here | keepAdmin here | initSem here => exact Or.inr (by rw [here]; rfl)
  | _ => exact Or.inl rfl

/-- The accounts as they are behind the `init_sem` that main may stand before. -/
def State.initialised (state : State n) : Accounts :=
  match state.main with
  | .initSem => initSem state.shared.globals.bank.accounts adminIndex 1
  | _ => state.shared.globals.bank.accounts

theorem initialised_of_ne (elsewhere : state.main ≠ .initSem) :
    state.initialised = state.shared.globals.bank.accounts := by
  unfold State.initialised
  split
  · rename_i here
    exact absurd here elsewhere
  · rfl

theorem Balanced.office (balanced : Balanced state.initialised state.current)
    (protocol : Protocol state) (noneYet : NoneYet state)
    (move : OfficeMove generateSha256Hash state.shared i (state.offices i) shared' pc' action)
    (next : state' = { state with
      shared := shared', offices := Function.update state.offices i pc' })
    (apart : ∀ request, state.offices i = .pop request →
      ¬ SelfTransfer state.shared.globals.bank.accounts request) :
    Balanced state'.initialised state'.current := by
  have bank' : state'.shared.globals.bank = shared'.globals.bank := by rw [next]
  have main' : state'.main = state.main := by rw [next]
  by_cases waits : state.main = .initSem
  · -- no office is inside, so the accounts stay as they are
    have outside := noneYet.outside protocol (by rw [waits]; rfl) i
    have same : state'.initialised = state.initialised := by
      simp only [State.initialised, main', bank', move.bank_outside outside]
    have noneYet' : NoneYet state' := next ▸ fun here => (noneYet here).office_move move
    have protocol' : Protocol state' := next ▸ protocol.office move
    rw [same]
    exact balanced.outside (noneYet.current_outside protocol (by rw [waits]; rfl))
      (noneYet'.current_outside protocol' (by rw [main', waits]; rfl))
  rw [initialised_of_ne waits] at balanced
  rw [initialised_of_ne (main' ▸ waits), bank']
  rcases protocol.current_office move next with ⟨outside, -, same⟩ | ⟨before, after⟩
  · rw [same, move.bank_outside outside]
    exact balanced
  · have here : Balanced state.shared.globals.bank.accounts (state.offices i) := by
      rcases before with same | ⟨free, outside⟩
      · exact same ▸ balanced
      · exact balanced.outside (by rw [free]; rfl) outside
    have moved := move.balanced here apart
    rcases after with same | ⟨free, outside⟩
    · exact same.symm ▸ moved
    · exact moved.outside outside (by rw [free]; rfl)

theorem held_of_no_request {pc : OfficePc} (none : pc.request = none) (accounts : Accounts) :
    (∀ index, pc.held index = 0) ∧ pc.relies accounts := by
  cases pc <;> first | exact ⟨fun _ => rfl, trivial⟩ | cases none

/-- The administrator's account starts with one unit. -/
theorem createBankAccount_units {bank bank' : Bank} {created : Bool}
    (creates : createBankAccount generateSha256Hash bank (adminAccount adminPassword)
      mainThreadId = some (created, bank'))
    (units : ∀ index, (bank.accounts index).active = true →
      (bank.accounts index).semaphore = 1) (index : AccountId)
    (active : (bank'.accounts index).active = true) : (bank'.accounts index).semaphore = 1 := by
  cases admin : bank.accounts.isActive adminIndex with
  | true =>
      rw [createBankAccount_of_active accountIndex_admin admin] at creates
      cases creates
      exact units index active
  | false =>
      rw [createBankAccount_of_inactive accountIndex_admin admin] at creates
      cases creates
      by_cases isAdmin : index = adminIndex
      · subst isAdmin
        rw [withAccount_self]
        rfl
      · rw [withAccount_of_ne _ _ _ isAdmin] at active ⊢
        exact units index active

/-- Up to the `init_sem`, main does all of `create_bank_account` at once. -/
theorem MainMove.initialised {received : Option TlvRequest}
    (move : MainMove generateSha256Hash adminPassword state received state' action) :
    state'.initialised = state.initialised ∨
      state.main = .createAdmin ∧ ∃ created bank,
        createBankAccount generateSha256Hash state.shared.globals.bank
          (adminAccount adminPassword) mainThreadId = some (created, bank) ∧
        bank.accounts = state'.initialised := by
  cases move with
  | createAdmin here bank fills =>
      have admin : accountIndex (adminAccount adminPassword).accountId = some adminIndex :=
        accountIndex_admin
      refine Or.inr ⟨here, true,
        { bank with accounts := Banking.initSem bank.accounts adminIndex 1 }, ?_, rfl⟩
      simp [createBankAccount, fills, admin]
  | keepAdmin here bank keeps =>
      refine Or.inr ⟨here, false, bank, ?_, rfl⟩
      simp [createBankAccount, keeps]
  | initSem here => exact Or.inl (by simp only [State.initialised, here]; rfl)
  | _ => exact Or.inl (by simp only [State.initialised, *])

theorem Balanced.main (balanced : Balanced state.initialised state.current)
    (protocol : Protocol state) (noneYet : NoneYet state) {received : Option TlvRequest}
    (move : MainMove generateSha256Hash adminPassword state received state' action) :
    Balanced state'.initialised state'.current := by
  rcases move.initialised with same | ⟨here, created, bank, creates, after⟩
  · have current := protocol.current_main move (Balanced state.initialised)
      (propext ⟨fun h => h.outside rfl rfl, fun h => h.outside rfl rfl⟩)
    rw [same, current]
    exact balanced
  · have all := noneYet (by rw [here]; rfl)
    have noRequest : state.current.request = none := by
      unfold State.current
      split
      · rename_i i _
        cases request : (state.offices i).request with
        | none => rfl
        | some request' => exact (all.office i request' request).elim
      · rfl
    have noRequest' : state'.current.request = none :=
      (protocol.current_main move OfficePc.request rfl).trans noRequest
    rw [initialised_of_ne (by rw [here]; exact MainPc.noConfusion)] at balanced
    obtain ⟨held, -⟩ := held_of_no_request noRequest state.shared.globals.bank.accounts
    obtain ⟨held', relies'⟩ := held_of_no_request noRequest' state'.initialised
    refine ⟨?_, relies'⟩
    intro index active
    rw [held', Nat.add_zero]
    rw [← after] at active ⊢
    refine createBankAccount_units creates ?_ index active
    intro index active
    have units := balanced.units index active
    rwa [held, Nat.add_zero] at units

theorem initialState_balanced :
    Balanced (initialState n rand).initialised (initialState n rand).current :=
  ⟨fun _ active => (nomatch active), trivial⟩

theorem execute_noneYet {labels : List (Label n)} {events : List (StepEvent n)}
    (ran : execute generateSha256Hash rand adminPassword labels = some (events, state)) :
    NoneYet state := by
  apply run_induction ran (fun _ state => NoneYet state) (fun _ => initialState_allRequests _)
  intro past state label action state' _ reached noneYet fired
  rcases step_move fired with ⟨received, -, move⟩ | ⟨i, buffer, opened, shared', pc', -, move, rfl⟩
  · exact noneYet.main_move (execute_protocol reached) move
  · exact fun beforeLoop => (noneYet beforeLoop).office_move move

/-- A property of all requests that are read is one of all requests in the process. -/
theorem execute_allRequests (P : TlvRequest → Prop) {labels : List (Label n)}
    {events : List (StepEvent n)} (read : ∀ label ∈ labels, ∀ request ∈ label.received, P request)
    (ran : execute generateSha256Hash rand adminPassword labels = some (events, state)) :
    AllRequests P state := by
  apply run_induction ran (fun _ state => AllRequests P state) (initialState_allRequests P)
  intro past state label action state' within reached all fired
  have member : label ∈ labels := within.subset (by simp)
  rcases step_move fired with ⟨received, rfl, move⟩ |
    ⟨i, buffer, opened, shared', pc', -, move, rfl⟩
  · exact all.main_move (execute_protocol reached)
      (fun request _ got => read _ member request got) move
  · exact all.office_move move

theorem execute_balanced {labels : List (Label n)} {events : List (StepEvent n)}
    (ran : execute generateSha256Hash rand adminPassword labels = some (events, state))
    (apart : ∀ event ∈ events, ¬ PopsSelfTransfer event) :
    Balanced state.initialised state.current := by
  refine run_induction ran
    (fun past state => (∀ event ∈ past, ¬ PopsSelfTransfer event) →
      Balanced state.initialised state.current)
    (fun _ => initialState_balanced) ?_ apart
  intro past state label action state' _ reached balanced fired apart
  have protocol := execute_protocol reached
  have before := balanced fun event member => apart event (List.mem_append_left _ member)
  have now := apart _ (List.mem_append_right _ (List.mem_singleton.mpr rfl))
  rcases step_move fired with ⟨received, -, move⟩ |
    ⟨i, buffer, opened, shared', pc', rfl, move, next⟩
  · exact before.main protocol (execute_noneYet reached) move
  · exact before.office protocol (execute_noneYet reached) move next
      fun request popping self => now ⟨i, buffer, opened, request, rfl, popping, self⟩

theorem NoneYet.ne_initSem (noneYet : NoneYet state) (protocol : Protocol state)
    (inside : (state.offices i).inside = true) : state.main ≠ .initSem := by
  intro here
  have outside := noneYet.outside protocol (by rw [here]; rfl) i
  rw [inside] at outside
  cases outside

/-- An office that is inside finds the accounts initialised. -/
theorem execute_balanced_inside {labels : List (Label n)} {events : List (StepEvent n)}
    (ran : execute generateSha256Hash rand adminPassword labels = some (events, state))
    (apart : ∀ event ∈ events, ¬ PopsSelfTransfer event) {i : Fin n}
    (inside : (state.offices i).inside = true) :
    Balanced state.shared.globals.bank.accounts (state.offices i) := by
  have protocol := execute_protocol ran
  have balanced := execute_balanced ran apart
  rwa [initialised_of_ne ((execute_noneYet ran).ne_initSem protocol inside),
    protocol.current_eq inside] at balanced

theorem Balanced.account_unit {accounts : Accounts} {request : TlvRequest}
    (balanced : Balanced accounts (.waitAccount request)) {account : AccountId}
    (active : (accounts account).active = true) : (accounts account).semaphore = 1 :=
  balanced.units account active

/-- The target's unit is there, since the office has taken that of another account. -/
theorem Balanced.target_unit {accounts : Accounts} {request : TlvRequest}
    (balanced : Balanced accounts (.waitTarget request)) {target : AccountId}
    (transfer : request.type = .transfer)
    (found : accountIndex request.value.transfer.accountId = some target)
    (active : (accounts target).active = true) : (accounts target).semaphore = 1 := by
  have units := balanced.units target active
  have other : accountIndex request.value.header.accountId ≠ some target :=
    fun self => balanced.relies ⟨transfer, target, self, found, active⟩
  simpa only [OfficePc.held, accountHeld, if_neg other, Nat.add_zero] using units

theorem header_found {request : TlvRequest} (inRange : request.InRange) :
    ∃ account, accountIndex request.value.header.accountId = some account :=
  ⟨_, accountIndex_of_lt inRange.header⟩

theorem target_found {request : TlvRequest} (inRange : request.InRange)
    (transfer : request.type = .transfer) :
    ∃ target, accountIndex request.value.transfer.accountId = some target :=
  ⟨_, accountIndex_of_lt (inRange.create (Or.inr (Or.inr transfer)))⟩

/-- An office that owns the mutex is never blocked. -/
theorem Balanced.progress (balanced : Balanced shared.globals.bank.accounts pc)
    (inside : pc.inside = true) (nonempty : pc = .front → shared.requests ≠ [])
    (inRange : ∀ request, pc.request = some request → request.InRange) (buffer : TlvReply)
    (opened : Bool) :
    (officeStep generateSha256Hash shared i buffer opened pc).isSome = true := by
  cases pc with
  | notStarted | loopTest | waitMain | testClose | lock | prepareShutdown | uncountActive | storeUncount
  | returned => cases inside
  | front =>
      obtain ⟨request, rest, queue⟩ := List.exists_cons_of_ne_nil (nonempty rfl)
      simp [officeStep, queue]
  | pop | countActive | storeCount | openFifo | unlock => rfl
  | waitAccount request =>
      obtain ⟨account, found⟩ := header_found (inRange request rfl)
      by_cases active : (shared.globals.bank.accounts account).active = true
      · have unit := balanced.account_unit active
        simp [officeStep, found, active, waitSem, unit]
      · simp [officeStep, found, active]
  | waitTarget request =>
      by_cases transfer : request.type = .transfer
      · obtain ⟨target, found⟩ := target_found (inRange request rfl) transfer
        by_cases active : (shared.globals.bank.accounts target).active = true
        · have unit := balanced.target_unit transfer found active
          simp [officeStep, transfer, found, active, waitSem, unit]
        · simp [officeStep, transfer, found, active]
      · simp [officeStep, transfer]
  | build request targetSem =>
      obtain ⟨bank, reply, replied⟩ := buildTlvReply_total generateSha256Hash request
        shared.globals.bank buffer (i.val + 1) shared.globals.activeThreads (inRange request rfl)
      simp [officeStep, replied]
  | postAccount request targetSem reply =>
      obtain ⟨account, found⟩ := header_found (inRange request rfl)
      by_cases active : (shared.globals.bank.accounts account).active = true <;>
        simp [officeStep, found, active]
  | postTarget request targetSem reply =>
      by_cases transfer : request.type = .transfer
      · obtain ⟨target, found⟩ := target_found (inRange request rfl) transfer
        have assigned := balanced.relies.2 target transfer found
        by_cases active : (shared.globals.bank.accounts target).active = true
        · rw [if_pos active] at assigned
          simp [officeStep, transfer, found, active, assigned]
        · simp [officeStep, transfer, found, active]
      · simp [officeStep, transfer]

/-- In every run that pops no transfer from an active account to itself: a wait on an
account semaphore finds a unit, every active account has one while the mutex is free, but for
the administrator's between its creation and `init_sem`, and the office that owns the mutex can
take its next step. -/
theorem execute_account_semaphores (generateSha256Hash : CString → CString → CString) (rand : Rand)
    (adminPassword : CString) (labels : List (Label n)) {events : List (StepEvent n)}
    (inRange : ∀ label ∈ labels, ∀ request ∈ label.received, request.InRange)
    (ran : execute generateSha256Hash rand adminPassword labels = some (events, state))
    (apart : ∀ event ∈ events, ¬ PopsSelfTransfer event) :
    (∀ i request account, state.offices i = .waitAccount request →
        accountIndex request.value.header.accountId = some account →
        (state.shared.globals.bank.accounts account).active = true →
        1 ≤ (state.shared.globals.bank.accounts account).semaphore) ∧
      (∀ i request target, state.offices i = .waitTarget request → request.type = .transfer →
        accountIndex request.value.transfer.accountId = some target →
        (state.shared.globals.bank.accounts target).active = true →
        1 ≤ (state.shared.globals.bank.accounts target).semaphore) ∧
      (state.shared.mutex = none → ∀ index,
        (state.shared.globals.bank.accounts index).active = true →
        (state.main = .initSem → index ≠ adminIndex) →
        (state.shared.globals.bank.accounts index).semaphore = 1) ∧
      ∀ i, state.shared.mutex = some (.office i) → ∀ buffer opened,
        (officeStep generateSha256Hash state.shared i buffer opened (state.offices i)).isSome := by
  have protocol := execute_protocol ran
  have all := execute_allRequests TlvRequest.InRange inRange ran
  have at_ (i : Fin n) (inside : (state.offices i).inside = true) :
      Balanced state.shared.globals.bank.accounts (state.offices i) :=
    execute_balanced_inside ran apart inside
  refine ⟨?_, ?_, ?_, ?_⟩
  · intro i request account here found active
    have balanced := at_ i (by rw [here]; rfl)
    rw [here] at balanced
    exact (balanced.account_unit active).ge
  · intro i request target here transfer found active
    have balanced := at_ i (by rw [here]; rfl)
    rw [here] at balanced
    exact (balanced.target_unit transfer found active).ge
  · intro free index active apart_
    have same : state.initialised index = state.shared.globals.bank.accounts index := by
      by_cases here : state.main = .initSem
      · simp only [State.initialised, here, initSem, Function.update_of_ne (apart_ here)]
      · rw [initialised_of_ne here]
    have units := (execute_balanced ran apart).units index (by rw [same]; exact active)
    rw [current_of_free free, same] at units
    exact units
  · intro i owner buffer opened
    have inside : (state.offices i).inside = true := (protocol.lock (.office i)).mpr owner
    refine (at_ i inside).progress inside ?_ (all.office i) buffer opened
    exact fun front => protocol.front front

/-- Where no transfer names its own account as target, none is popped. -/
theorem no_selfTransfer {labels : List (Label n)} {events : List (StepEvent n)}
    (ran : execute generateSha256Hash rand adminPassword labels = some (events, state))
    (apart : ∀ label ∈ labels, ∀ request ∈ label.received, request.type = .transfer →
      request.value.header.accountId ≠ request.value.transfer.accountId)
    (event : StepEvent n) (member : event ∈ events) : ¬ PopsSelfTransfer event := by
  rintro ⟨i, buffer, opened, request, -, popping, transfer, account, found, found', -⟩
  obtain ⟨past, future, rfl⟩ := List.append_of_mem member
  obtain ⟨reached, -, -⟩ := run_event ran
  have inputs := run_inputs ran
  have early : ∀ label ∈ past.map (·.input), label ∈ labels := by
    intro label member
    rw [← inputs, List.map_append]
    exact List.mem_append_left _ member
  have all := execute_allRequests
    (fun request => request.type = .transfer →
      request.value.header.accountId ≠ request.value.transfer.accountId)
    (fun label member => apart label (early label member)) reached
  exact all.office i request (by rw [popping]; rfl) transfer
    ((accountIndex_inj found found').mp rfl)

end Balance

/-- `user 1 top_secret 10 2 "1 5"`. -/
def selfTransfer1 : TlvRequest := (sessionCall .transfer 1 topSecret ⟨1, 5, []⟩).request

def openThenSelfTransfer : List (Label 1) :=
  setUp 1 ++ arrival (openAccount 1 25 topSecret).request ++ arrival selfTransfer1 ++
    officeTurns onlyOffice 27

/- The run is evaluated 45 steps deep. -/
set_option maxRecDepth 8000 in
/-- The office has taken the only unit of account 1 and waits for another, for ever:
it owns the mutex, and nobody else posts. -/
theorem selfTransfer1_blocks :
    ∃ events state,
      execute sessionHash sessionRand ultraTopSecret openThenSelfTransfer =
        some (events, state) ∧
      state.offices 0 = .waitTarget selfTransfer1 ∧ selfTransfer1.type = .transfer ∧
      accountIndex selfTransfer1.value.transfer.accountId = some 1 ∧
      (state.shared.globals.bank.accounts 1).active = true ∧
      (state.shared.globals.bank.accounts 1).semaphore = 0 ∧
      state.shared.mutex = some (.office 0) ∧
      ∀ buffer opened, officeStep sessionHash state.shared 0 buffer opened (state.offices 0) =
        none :=
  ⟨_, _, rfl, rfl, rfl, rfl, rfl, rfl, rfl, fun _ _ => rfl⟩

/-- `user 1 top_secret 10 2 "2 5"` and `user 2 a_secret 10 2 "1 5"`, where the first
office stands in front of the second wait of the first transfer. -/
def oppositeTransfers : List (Label 2) :=
  setUp 2 ++ arrival (openAccount 1 25 topSecret).request ++
    arrival (openAccount 2 30 aSecret).request ++
    arrival (sessionCall .transfer 1 topSecret ⟨2, 5, []⟩).request ++
    arrival (sessionCall .transfer 2 aSecret ⟨1, 5, []⟩).request ++
    officeTurns firstOffice 18 ++ officeTurns secondOffice 18 ++
    officeTurns secondOffice 3 ++ officeTurns firstOffice 9

theorem oppositeTransfers_account_semaphores :
    ∃ events state,
      execute sessionHash sessionRand ultraTopSecret oppositeTransfers = some (events, state) ∧
      (∀ i request account, state.offices i = .waitAccount request →
        accountIndex request.value.header.accountId = some account →
        (state.shared.globals.bank.accounts account).active = true →
        1 ≤ (state.shared.globals.bank.accounts account).semaphore) ∧
      (∀ i request target, state.offices i = .waitTarget request → request.type = .transfer →
        accountIndex request.value.transfer.accountId = some target →
        (state.shared.globals.bank.accounts target).active = true →
        1 ≤ (state.shared.globals.bank.accounts target).semaphore) ∧
      (state.shared.mutex = none → ∀ index,
        (state.shared.globals.bank.accounts index).active = true →
        (state.main = .initSem → index ≠ adminIndex) →
        (state.shared.globals.bank.accounts index).semaphore = 1) ∧
      ∀ i, state.shared.mutex = some (.office i) → ∀ buffer opened,
        (officeStep sessionHash state.shared i buffer opened (state.offices i)).isSome := by
  have defined :
      (execute sessionHash sessionRand ultraTopSecret oppositeTransfers).isSome = true := by
    decide +kernel
  obtain ⟨⟨events, state⟩, ran⟩ := Option.isSome_iff_exists.mp defined
  exact ⟨events, state, ran,
    execute_account_semaphores sessionHash sessionRand ultraTopSecret oppositeTransfers
      (by decide) ran (no_selfTransfer ran (by decide))⟩

end Sope.Server
