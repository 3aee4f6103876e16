import Sope.Server.System

set_option autoImplicit false

/- What one statement of a thread can do, stated once. Later results go through
these cases and do not unfold the step functions again. -/
namespace Sope.Server

open Machine Banking

section Moves

variable (generateSha256Hash : CString → CString → CString) {n : Nat}

/-- All that one statement of office `i` can do, with the tests it has passed. -/
inductive OfficeMove (shared : Shared n) (i : Fin n) :
    OfficePc → Shared n → OfficePc → Action → Prop where
  | enter (running : shared.closeThread = false) :
      OfficeMove shared i .loopTest shared .waitMain .silent
  | leave (closed : shared.closeThread = true) :
      OfficeMove shared i .loopTest shared .returned .silent
  | wake (token : shared.mainSem ≠ 0) :
      OfficeMove shared i .waitMain { shared with mainSem := shared.mainSem - 1 } .testClose
        .silent
  | proceed (running : shared.closeThread = false) :
      OfficeMove shared i .testClose shared .lock .silent
  | breakOff (closed : shared.closeThread = true) :
      OfficeMove shared i .testClose shared .returned .silent
  | lock (free : shared.mutex = none) :
      OfficeMove shared i .lock { shared with mutex := some (.office i) } .front .silent
  | front (request : TlvRequest) (first : shared.requests.head? = some request) :
      OfficeMove shared i .front shared (.pop request) .silent
  | pop (request : TlvRequest) :
      OfficeMove shared i (.pop request) { shared with requests := shared.requests.tail }
        (.countActive request) (.popped request)
  | countActive (request : TlvRequest) :
      OfficeMove shared i (.countActive request) shared
        (.storeCount request shared.globals.activeThreads) .silent
  | storeCount (request : TlvRequest) (loaded : Int) :
      OfficeMove shared i (.storeCount request loaded)
        { shared with globals := { shared.globals with activeThreads := loaded + 1 } }
        (.waitAccount request) .silent
  | waitAccount (request : TlvRequest) (account : AccountId)
      (found : accountIndex request.value.header.accountId = some account)
      (active : (shared.globals.bank.accounts account).active = true)
      (accounts : Accounts) (taken : waitSem shared.globals.bank.accounts account = some accounts) :
      OfficeMove shared i (.waitAccount request) (shared.withAccounts accounts)
        (.waitTarget request) .silent
  | skipAccount (request : TlvRequest) (account : AccountId)
      (found : accountIndex request.value.header.accountId = some account)
      (inactive : (shared.globals.bank.accounts account).active = false) :
      OfficeMove shared i (.waitAccount request) shared (.waitTarget request) .silent
  | waitTarget (request : TlvRequest) (target : AccountId) (transfer : request.type = .transfer)
      (found : accountIndex request.value.transfer.accountId = some target)
      (active : (shared.globals.bank.accounts target).active = true)
      (accounts : Accounts) (taken : waitSem shared.globals.bank.accounts target = some accounts) :
      OfficeMove shared i (.waitTarget request) (shared.withAccounts accounts)
        (.build request (some target)) .silent
  | skipTarget (request : TlvRequest)
      (inactive : request.type = .transfer →
        ∃ target, accountIndex request.value.transfer.accountId = some target ∧
          (shared.globals.bank.accounts target).active = false) :
      OfficeMove shared i (.waitTarget request) shared (.build request none) .silent
  | build (request : TlvRequest) (targetSem : Option AccountId) (buffer : TlvReply) (bank : Bank)
      (reply : TlvReply)
      (replied : buildTlvReply generateSha256Hash request shared.globals.bank buffer (i.val + 1)
        shared.globals.activeThreads = some (bank, reply)) :
      OfficeMove shared i (.build request targetSem)
        { shared with globals := { shared.globals with bank } }
        (.postAccount request targetSem reply) (.handled request reply)
  | postAccount (request : TlvRequest) (targetSem : Option AccountId) (reply : TlvReply)
      (account : AccountId) (found : accountIndex request.value.header.accountId = some account)
      (active : (shared.globals.bank.accounts account).active = true) :
      OfficeMove shared i (.postAccount request targetSem reply)
        (shared.withAccounts (postSem shared.globals.bank.accounts account))
        (.postTarget request targetSem reply) .silent
  | keepAccount (request : TlvRequest) (targetSem : Option AccountId) (reply : TlvReply)
      (account : AccountId) (found : accountIndex request.value.header.accountId = some account)
      (inactive : (shared.globals.bank.accounts account).active = false) :
      OfficeMove shared i (.postAccount request targetSem reply) shared
        (.postTarget request targetSem reply) .silent
  | postTarget (request : TlvRequest) (target target' : AccountId) (reply : TlvReply)
      (transfer : request.type = .transfer)
      (found : accountIndex request.value.transfer.accountId = some target)
      (active : (shared.globals.bank.accounts target).active = true) :
      OfficeMove shared i (.postTarget request (some target') reply)
        (shared.withAccounts (postSem shared.globals.bank.accounts target'))
        (.openFifo request reply) .silent
  | keepTarget (request : TlvRequest) (targetSem : Option AccountId) (reply : TlvReply)
      (inactive : request.type = .transfer →
        ∃ target, accountIndex request.value.transfer.accountId = some target ∧
          (shared.globals.bank.accounts target).active = false) :
      OfficeMove shared i (.postTarget request targetSem reply) shared (.openFifo request reply)
        .silent
  | openFifo (request : TlvRequest) (reply : TlvReply) (opened : Bool) :
      OfficeMove shared i (.openFifo request reply) shared
        (.unlock request (markReply opened reply)) .silent
  | unlock (request : TlvRequest) (reply : TlvReply) :
      OfficeMove shared i (.unlock request reply) { shared with mutex := none }
        (.prepareShutdown request reply) .silent
  | prepareShutdown (request : TlvRequest) (reply : TlvReply) :
      OfficeMove shared i (.prepareShutdown request reply)
        { shared with globals := shared.globals.prepareShutdown request reply } .uncountActive
        .silent
  | uncountActive :
      OfficeMove shared i .uncountActive shared (.storeUncount shared.globals.activeThreads)
        .silent
  | storeUncount (loaded : Int) :
      OfficeMove shared i (.storeUncount loaded)
        { shared with globals := { shared.globals with activeThreads := loaded - 1 } }
        .loopTest .silent

/-- All that one statement of `main` can do. -/
inductive MainMove (adminPassword : CString) (state : State n) (received : Option TlvRequest) :
    State n → Action → Prop where
  | spawn (started : Nat) (here : state.main = .spawn started) (inside : started < n) :
      MainMove adminPassword state received
        { state with
          main := .spawn (started + 1)
          offices := Function.update state.offices ⟨started, inside⟩ .loopTest } .silent
  | spawned (started : Nat) (here : state.main = .spawn started) (all : ¬ started < n) :
      MainMove adminPassword state received { state with main := .createAdmin } .silent
  | createAdmin (here : state.main = .createAdmin) (bank : Bank)
      (fills : fillBankAccount generateSha256Hash state.shared.globals.bank
        (adminAccount adminPassword) mainThreadId = some (true, bank)) :
      MainMove adminPassword state received
        { state with
          shared := { state.shared with globals := { state.shared.globals with bank } }
          main := .initSem } .silent
  | keepAdmin (here : state.main = .createAdmin) (bank : Bank)
      (keeps : fillBankAccount generateSha256Hash state.shared.globals.bank
        (adminAccount adminPassword) mainThreadId = some (false, bank)) :
      MainMove adminPassword state received
        { state with
          shared := { state.shared with globals := { state.shared.globals with bank } }
          main := .loopTest } .silent
  | initSem (here : state.main = .initSem) :
      MainMove adminPassword state received
        { state with
          shared := state.shared.withAccounts
            (initSem state.shared.globals.bank.accounts adminIndex 1)
          main := .loopTest } .silent
  | leave (here : state.main = .loopTest) (closed : state.shared.closeThread = true) :
      MainMove adminPassword state received { state with main := .finalPost 0 } .silent
  | enter (here : state.main = .loopTest) (running : state.shared.closeThread = false) :
      MainMove adminPassword state received { state with main := .testExit } .silent
  | exitSet (here : state.main = .testExit) (exit : state.shared.globals.serverExit = true) :
      MainMove adminPassword state received { state with main := .testSize } .silent
  | exitClear (here : state.main = .testExit) (exit : state.shared.globals.serverExit = false) :
      MainMove adminPassword state received { state with main := .read } .silent
  | empty (here : state.main = .testSize) (none : state.shared.requests = []) :
      MainMove adminPassword state received { state with main := .setClose } .silent
  | notEmpty (here : state.main = .testSize) (some : state.shared.requests ≠ []) :
      MainMove adminPassword state received { state with main := .read } .silent
  | setClose (here : state.main = .setClose) :
      MainMove adminPassword state received
        { state with shared := { state.shared with closeThread := true }, main := .read } .silent
  | receive (here : state.main = .read) (request : TlvRequest) (got : received = some request) :
      MainMove adminPassword state received { state with main := .lock request } .silent
  | receiveNone (here : state.main = .read) (got : received = none) :
      MainMove adminPassword state received { state with main := .loopTest } .silent
  | lock (request : TlvRequest) (here : state.main = .lock request)
      (free : state.shared.mutex = none) :
      MainMove adminPassword state received
        { state with
          shared := { state.shared with mutex := some .main }, main := .push request } .silent
  | push (request : TlvRequest) (here : state.main = .push request) :
      MainMove adminPassword state received
        { state with
          shared := { state.shared with requests := state.shared.requests ++ [request] }
          main := .unlock request } (.pushed request)
  | unlock (request : TlvRequest) (here : state.main = .unlock request) :
      MainMove adminPassword state received
        { state with
          shared := { state.shared with mutex := none }, main := .post request } .silent
  | post (request : TlvRequest) (here : state.main = .post request) :
      MainMove adminPassword state received
        { state with
          shared := { state.shared with mainSem := state.shared.mainSem + 1 }
          main := .loopTest } .silent
  | finalPost (posted : Nat) (here : state.main = .finalPost posted) (more : posted < n) :
      MainMove adminPassword state received
        { state with
          shared := { state.shared with mainSem := state.shared.mainSem + 1 }
          main := .finalPost (posted + 1) } .silent
  | posted (posted : Nat) (here : state.main = .finalPost posted) (all : ¬ posted < n) :
      MainMove adminPassword state received { state with main := .join 0 } .silent
  | join (joined : Nat) (here : state.main = .join joined) (inside : joined < n)
      (returned : (state.offices ⟨joined, inside⟩).hasReturned = true) :
      MainMove adminPassword state received { state with main := .join (joined + 1) } .silent
  | joined (joined : Nat) (here : state.main = .join joined) (all : ¬ joined < n) :
      MainMove adminPassword state received { state with main := .exited } .silent

variable {generateSha256Hash} {shared shared' : Shared n}
  {i : Fin n} {buffer : TlvReply} {opened : Bool} {pc pc' : OfficePc} {action : Action}

theorem officeStep_move
    (fired : officeStep generateSha256Hash shared i buffer opened pc =
      some (shared', pc', action)) :
    OfficeMove generateSha256Hash shared i pc shared' pc' action := by
  cases pc with
  | notStarted | returned => simp [officeStep] at fired
  | loopTest =>
      cases close : shared.closeThread <;>
        simp only [officeStep, close, Bool.false_eq_true, ↓reduceIte, Option.some.injEq,
          Prod.mk.injEq] at fired <;>
        obtain ⟨rfl, rfl, rfl⟩ := fired
      · exact .enter close
      · exact .leave close
  | waitMain =>
      by_cases token : shared.mainSem = 0
      · simp [officeStep, token] at fired
      · simp [officeStep, token] at fired
        obtain ⟨rfl, rfl, rfl⟩ := fired
        exact .wake token
  | testClose =>
      cases close : shared.closeThread <;>
        simp only [officeStep, close, Bool.false_eq_true, ↓reduceIte, Option.some.injEq,
          Prod.mk.injEq] at fired <;>
        obtain ⟨rfl, rfl, rfl⟩ := fired
      · exact .proceed close
      · exact .breakOff close
  | lock =>
      cases owner : shared.mutex with
      | some thread => simp [officeStep, owner] at fired
      | none =>
          simp [officeStep, owner] at fired
          obtain ⟨rfl, rfl, rfl⟩ := fired
          exact .lock owner
  | front =>
      cases first : shared.requests.head? with
      | none => simp [officeStep, first] at fired
      | some request =>
          simp [officeStep, first] at fired
          obtain ⟨rfl, rfl, rfl⟩ := fired
          exact .front request first
  | pop request =>
      cases fired
      exact .pop request
  | countActive request =>
      cases fired
      exact .countActive request
  | storeCount request loaded =>
      cases fired
      exact .storeCount request loaded
  | waitAccount request =>
      cases found : accountIndex request.value.header.accountId with
      | none => simp [officeStep, found] at fired
      | some account =>
          cases active : (shared.globals.bank.accounts account).active with
          | false =>
              simp [officeStep, found, active] at fired
              obtain ⟨rfl, rfl, rfl⟩ := fired
              exact .skipAccount request account found active
          | true =>
              simp [officeStep, found, active, Option.bind_eq_some_iff] at fired
              obtain ⟨accounts, taken, rfl, rfl, rfl⟩ := fired
              exact .waitAccount request account found active accounts taken
  | waitTarget request =>
      by_cases transfer : request.type = .transfer
      · cases found : accountIndex request.value.transfer.accountId with
        | none => simp [officeStep, transfer, found] at fired
        | some target =>
            cases active : (shared.globals.bank.accounts target).active with
            | false =>
                simp [officeStep, transfer, found, active] at fired
                obtain ⟨rfl, rfl, rfl⟩ := fired
                exact .skipTarget request fun _ => ⟨target, found, active⟩
            | true =>
                simp [officeStep, transfer, found, active, Option.bind_eq_some_iff] at fired
                obtain ⟨accounts, taken, rfl, rfl, rfl⟩ := fired
                exact .waitTarget request target transfer found active accounts taken
      · simp [officeStep, transfer] at fired
        obtain ⟨rfl, rfl, rfl⟩ := fired
        exact .skipTarget request fun transfer' => absurd transfer' transfer
  | build request targetSem =>
      simp only [officeStep, Option.bind_eq_bind, Option.bind_eq_some_iff, Option.pure_def,
        Option.some.injEq, Prod.mk.injEq, Prod.exists] at fired
      obtain ⟨bank, reply, replied, rfl, rfl, rfl⟩ := fired
      exact .build request targetSem buffer bank reply replied
  | postAccount request targetSem reply =>
      cases found : accountIndex request.value.header.accountId with
      | none => simp [officeStep, found] at fired
      | some account =>
          cases active : (shared.globals.bank.accounts account).active with
          | false =>
              simp [officeStep, found, active] at fired
              obtain ⟨rfl, rfl, rfl⟩ := fired
              exact .keepAccount request targetSem reply account found active
          | true =>
              simp [officeStep, found, active] at fired
              obtain ⟨rfl, rfl, rfl⟩ := fired
              exact .postAccount request targetSem reply account found active
  | postTarget request targetSem reply =>
      by_cases transfer : request.type = .transfer
      · cases found : accountIndex request.value.transfer.accountId with
        | none => simp [officeStep, transfer, found] at fired
        | some target =>
            cases active : (shared.globals.bank.accounts target).active with
            | false =>
                simp [officeStep, transfer, found, active] at fired
                obtain ⟨rfl, rfl, rfl⟩ := fired
                exact .keepTarget request targetSem reply fun _ => ⟨target, found, active⟩
            | true =>
                simp [officeStep, transfer, found, active, Option.bind_eq_some_iff] at fired
                obtain ⟨target', rfl, rfl, rfl, rfl⟩ := fired
                exact .postTarget request target target' reply transfer found active
      · simp [officeStep, transfer] at fired
        obtain ⟨rfl, rfl, rfl⟩ := fired
        exact .keepTarget request targetSem reply fun transfer' => absurd transfer' transfer
  | openFifo request reply =>
      cases fired
      exact .openFifo request reply opened
  | unlock request reply =>
      cases fired
      exact .unlock request reply
  | prepareShutdown request reply =>
      cases fired
      exact .prepareShutdown request reply
  | uncountActive =>
      cases fired
      exact .uncountActive
  | storeUncount loaded =>
      cases fired
      exact .storeUncount loaded

theorem mainStep_move {adminPassword : CString} {state state' : State n}
    {received : Option TlvRequest}
    (fired : mainStep generateSha256Hash adminPassword state received = some (state', action)) :
    MainMove generateSha256Hash adminPassword state received state' action := by
  cases here : state.main with
  | spawn started =>
      by_cases inside : started < n <;> simp [mainStep, here, inside] at fired <;>
        obtain ⟨rfl, rfl⟩ := fired
      · exact .spawn started here inside
      · exact .spawned started here inside
  | createAdmin =>
      simp only [mainStep, here, Option.bind_eq_bind, Option.bind_eq_some_iff, Option.pure_def,
        Option.some.injEq, Prod.mk.injEq, Prod.exists] at fired
      obtain ⟨filled, bank, fills, rfl, rfl⟩ := fired
      cases filled with
      | false => exact .keepAdmin here bank fills
      | true => exact .createAdmin here bank fills
  | initSem =>
      simp [mainStep, here] at fired
      obtain ⟨rfl, rfl⟩ := fired
      exact .initSem here
  | loopTest =>
      cases close : state.shared.closeThread <;> simp [mainStep, here, close] at fired <;>
        obtain ⟨rfl, rfl⟩ := fired
      · exact .enter here close
      · exact .leave here close
  | testExit =>
      cases exit : state.shared.globals.serverExit <;> simp [mainStep, here, exit] at fired <;>
        obtain ⟨rfl, rfl⟩ := fired
      · exact .exitClear here exit
      · exact .exitSet here exit
  | testSize =>
      by_cases none : state.shared.requests = [] <;> simp [mainStep, here, none] at fired <;>
        obtain ⟨rfl, rfl⟩ := fired
      · exact .empty here none
      · exact .notEmpty here none
  | setClose =>
      simp [mainStep, here] at fired
      obtain ⟨rfl, rfl⟩ := fired
      exact .setClose here
  | read =>
      cases got : received <;> simp [mainStep, here, got] at fired <;> obtain ⟨rfl, rfl⟩ := fired
      · exact .receiveNone here rfl
      · exact .receive here _ rfl
  | lock request =>
      cases owner : state.shared.mutex with
      | some thread => simp [mainStep, here, owner] at fired
      | none =>
          simp [mainStep, here, owner] at fired
          obtain ⟨rfl, rfl⟩ := fired
          exact .lock request here owner
  | push request =>
      simp [mainStep, here] at fired
      obtain ⟨rfl, rfl⟩ := fired
      exact .push request here
  | unlock request =>
      simp [mainStep, here] at fired
      obtain ⟨rfl, rfl⟩ := fired
      exact .unlock request here
  | post request =>
      simp [mainStep, here] at fired
      obtain ⟨rfl, rfl⟩ := fired
      exact .post request here
  | finalPost posted =>
      by_cases more : posted < n <;> simp [mainStep, here, more] at fired <;>
        obtain ⟨rfl, rfl⟩ := fired
      · exact .finalPost posted here more
      · exact .posted posted here more
  | join joined =>
      by_cases inside : joined < n
      · simp [mainStep, here, inside] at fired
        obtain ⟨returned, rfl, rfl⟩ := fired
        exact .join joined here inside returned
      · simp [mainStep, here, inside] at fired
        obtain ⟨rfl, rfl⟩ := fired
        exact .joined joined here inside
  | exited => simp [mainStep, here] at fired

/-- A step is a statement of main or of one office, which leaves the other offices
where they are. -/
theorem step_move {adminPassword : CString} {state state' : State n} {label : Label n}
    (fired : step generateSha256Hash adminPassword state label = some (state', action)) :
    (∃ received, label = .main received ∧
      MainMove generateSha256Hash adminPassword state received state' action) ∨
    ∃ i buffer opened shared' pc', label = .office i buffer opened ∧
      OfficeMove generateSha256Hash state.shared i (state.offices i) shared' pc' action ∧
      state' = { state with
        shared := shared', offices := Function.update state.offices i pc' } := by
  cases label with
  | main received => exact Or.inl ⟨received, rfl, mainStep_move fired⟩
  | office i buffer opened =>
      simp only [step, Option.bind_eq_bind, Option.bind_eq_some_iff, Option.pure_def,
        Option.some.injEq, Prod.mk.injEq, Prod.exists] at fired
      obtain ⟨shared', pc', action', stepped, rfl, rfl⟩ := fired
      exact Or.inr ⟨i, buffer, opened, shared', pc', rfl, officeStep_move stepped, rfl⟩

end Moves

end Sope.Server
