import Mathlib.Logic.Function.Basic
import Sope.Lib.Run
import Sope.Server.Handle

set_option autoImplicit false

/- The server as main and `n` offices that take turns, one statement at a time
(`main` and `read_request` in server.c). A step is undefined while its thread is
blocked. `open_user_fifo` and the `write` behind it are one step here; Exchange.World has
them apart, with the `SIGPIPE` that the `write` may raise. Logging, delays and the life of
the server FIFO are left out. -/
namespace Sope.Server

open Machine Banking

inductive Thread (n : Nat) where
  | main
  | office (i : Fin n)
  deriving DecidableEq

/-- The statements of `main`, from the first `pthread_create` on. -/
inductive MainPc where
  | spawn (started : Nat)
  | createAdmin
  | initSem
  | loopTest
  | testExit
  | testSize
  | setClose
  | read
  | lock (request : TlvRequest)
  | push (request : TlvRequest)
  | unlock (request : TlvRequest)
  | post (request : TlvRequest)
  | finalPost (posted : Nat)
  | join (joined : Nat)
  | exited

/-- The statements of `read_request`, with the locals that are alive there. A
`targetSem` of `none` is the pointer `target_sem` before it is assigned. `++` and `--` of
`active_threads` load its value in one step and store the new one in the next: the `--` is
made without the mutex. -/
inductive OfficePc where
  | notStarted
  | loopTest
  | waitMain
  | testClose
  | lock
  | front
  | pop (request : TlvRequest)
  | countActive (request : TlvRequest)
  | storeCount (request : TlvRequest) (loaded : Int)
  | waitAccount (request : TlvRequest)
  | waitTarget (request : TlvRequest)
  | build (request : TlvRequest) (targetSem : Option AccountId)
  | postAccount (request : TlvRequest) (targetSem : Option AccountId) (reply : TlvReply)
  | postTarget (request : TlvRequest) (targetSem : Option AccountId) (reply : TlvReply)
  | openFifo (request : TlvRequest) (reply : TlvReply)
  | unlock (request : TlvRequest) (reply : TlvReply)
  | prepareShutdown (request : TlvRequest) (reply : TlvReply)
  | uncountActive
  | storeUncount (loaded : Int)
  | returned

/-- What all threads share. `requests` is the list queue from head to back, and its
`size` the length. -/
structure Shared (n : Nat) where
  mutex : Option (Thread n)
  mainSem : Nat
  requests : List TlvRequest
  closeThread : Bool
  globals : Globals

structure State (n : Nat) where
  shared : Shared n
  main : MainPc
  offices : Fin n → OfficePc

/-- What a step shows of itself. -/
inductive Action where
  | silent
  | pushed (request : TlvRequest)
  | popped (request : TlvRequest)
  | handled (request : TlvRequest) (reply : TlvReply)

/-- Who moves, and what the step is given from outside: the request that `read`
returns if any, the contents of a fresh `reply`, and whether the user FIFO opens. While a
`read` blocks, main does not move. -/
inductive Label (n : Nat) where
  | main (received : Option TlvRequest)
  | office (i : Fin n) (buffer : TlvReply) (opened : Bool)

def Label.received {n : Nat} : Label n → Option TlvRequest
  | .main received => received
  | .office _ _ _ => none

/-- `sem_wait` on an account; undefined while the value is zero. -/
def waitSem (accounts : Accounts) (index : AccountId) : Option Accounts :=
  if (accounts index).semaphore = 0 then none
  else some (Function.update accounts index
    { accounts index with semaphore := (accounts index).semaphore - 1 })

def postSem (accounts : Accounts) (index : AccountId) : Accounts :=
  Function.update accounts index
    { accounts index with semaphore := (accounts index).semaphore + 1 }

def Shared.withAccounts {n : Nat} (shared : Shared n) (accounts : Accounts) : Shared n :=
  { shared with globals :=
      { shared.globals with bank := { shared.globals.bank with accounts } } }

@[simp] theorem Shared.withAccounts_accounts {n : Nat} (shared : Shared n) (accounts : Accounts) :
    (shared.withAccounts accounts).globals.bank.accounts = accounts := rfl

section Steps

variable (generateSha256Hash : CString → CString → CString) {n : Nat}

/-- One statement of office `i`. -/
def officeStep (shared : Shared n) (i : Fin n) (buffer : TlvReply) (opened : Bool) :
    OfficePc → Option (Shared n × OfficePc × Action)
  | .notStarted => none
  | .loopTest => some (shared, if shared.closeThread then .returned else .waitMain, .silent)
  | .waitMain =>
      if shared.mainSem = 0 then none
      else some ({ shared with mainSem := shared.mainSem - 1 }, .testClose, .silent)
  | .testClose => some (shared, if shared.closeThread then .returned else .lock, .silent)
  | .lock =>
      if shared.mutex.isSome then none
      else some ({ shared with mutex := some (.office i) }, .front, .silent)
  | .front => do
      let request ← shared.requests.head?
      return (shared, .pop request, .silent)
  | .pop request =>
      some ({ shared with requests := shared.requests.tail }, .countActive request,
        .popped request)
  | .countActive request =>
      some (shared, .storeCount request shared.globals.activeThreads, .silent)
  | .storeCount request loaded =>
      some ({ shared with globals := { shared.globals with activeThreads := loaded + 1 } },
        .waitAccount request, .silent)
  | .waitAccount request => do
      let account ← accountIndex request.value.header.accountId
      if (shared.globals.bank.accounts account).active then
        let accounts ← waitSem shared.globals.bank.accounts account
        return (shared.withAccounts accounts, .waitTarget request, .silent)
      return (shared, .waitTarget request, .silent)
  | .waitTarget request => do
      if request.type = .transfer then
        let target ← accountIndex request.value.transfer.accountId
        if (shared.globals.bank.accounts target).active then
          let accounts ← waitSem shared.globals.bank.accounts target
          return (shared.withAccounts accounts, .build request (some target), .silent)
      return (shared, .build request none, .silent)
  | .build request targetSem => do
      let (bank, reply) ← buildTlvReply generateSha256Hash request shared.globals.bank buffer
        (i.val + 1) shared.globals.activeThreads
      return ({ shared with globals := { shared.globals with bank } },
        .postAccount request targetSem reply, .handled request reply)
  | .postAccount request targetSem reply => do
      let account ← accountIndex request.value.header.accountId
      if (shared.globals.bank.accounts account).active then
        return (shared.withAccounts (postSem shared.globals.bank.accounts account),
          .postTarget request targetSem reply, .silent)
      return (shared, .postTarget request targetSem reply, .silent)
  | .postTarget request targetSem reply => do
      if request.type = .transfer then
        let target ← accountIndex request.value.transfer.accountId
        if (shared.globals.bank.accounts target).active then
          let target ← targetSem
          return (shared.withAccounts (postSem shared.globals.bank.accounts target),
            .openFifo request reply, .silent)
      return (shared, .openFifo request reply, .silent)
  | .openFifo request reply => some (shared, .unlock request (markReply opened reply), .silent)
  | .unlock request reply =>
      some ({ shared with mutex := none }, .prepareShutdown request reply, .silent)
  | .prepareShutdown request reply =>
      some ({ shared with globals := shared.globals.prepareShutdown request reply },
        .uncountActive, .silent)
  | .uncountActive => some (shared, .storeUncount shared.globals.activeThreads, .silent)
  | .storeUncount loaded =>
      some ({ shared with globals := { shared.globals with activeThreads := loaded - 1 } },
        .loopTest, .silent)
  | .returned => none

def OfficePc.hasReturned : OfficePc → Bool
  | .returned => true
  | _ => false

/-- One statement of `main`. -/
def mainStep (adminPassword : CString) (state : State n) (received : Option TlvRequest) :
    Option (State n × Action) :=
  let shared := state.shared
  match state.main with
  | .spawn started =>
      if inside : started < n then
        some ({ state with
          main := .spawn (started + 1)
          offices := Function.update state.offices ⟨started, inside⟩ .loopTest }, .silent)
      else some ({ state with main := .createAdmin }, .silent)
  | .createAdmin => do
      let (filled, bank) ← fillBankAccount generateSha256Hash shared.globals.bank
        (adminAccount adminPassword) mainThreadId
      return ({ state with
        shared := { shared with globals := { shared.globals with bank } }
        main := if filled then .initSem else .loopTest }, .silent)
  | .initSem =>
      some ({ state with
        shared := shared.withAccounts (initSem shared.globals.bank.accounts adminIndex 1)
        main := .loopTest }, .silent)
  | .loopTest =>
      some ({ state with main := if shared.closeThread then .finalPost 0 else .testExit }, .silent)
  | .testExit =>
      some ({ state with main := if shared.globals.serverExit then .testSize else .read }, .silent)
  | .testSize =>
      some ({ state with main := if shared.requests.length = 0 then .setClose else .read },
        .silent)
  | .setClose =>
      some ({ state with shared := { shared with closeThread := true }, main := .read }, .silent)
  | .read =>
      match received with
      | some request => some ({ state with main := .lock request }, .silent)
      | none => some ({ state with main := .loopTest }, .silent)
  | .lock request =>
      if shared.mutex.isSome then none
      else some ({ state with
        shared := { shared with mutex := some .main }, main := .push request }, .silent)
  | .push request =>
      some ({ state with
        shared := { shared with requests := shared.requests ++ [request] }
        main := .unlock request }, .pushed request)
  | .unlock request =>
      some ({ state with shared := { shared with mutex := none }, main := .post request }, .silent)
  | .post _ =>
      some ({ state with
        shared := { shared with mainSem := shared.mainSem + 1 }, main := .loopTest }, .silent)
  | .finalPost posted =>
      if posted < n then
        some ({ state with
          shared := { shared with mainSem := shared.mainSem + 1 }
          main := .finalPost (posted + 1) }, .silent)
      else some ({ state with main := .join 0 }, .silent)
  | .join joined =>
      if inside : joined < n then
        if (state.offices ⟨joined, inside⟩).hasReturned then
          some ({ state with main := .join (joined + 1) }, .silent)
        else none
      else some ({ state with main := .exited }, .silent)
  | .exited => none

/-- One statement of one thread. -/
def step (adminPassword : CString) (state : State n) : Label n → Option (State n × Action)
  | .main received => mainStep generateSha256Hash adminPassword state received
  | .office i buffer opened => do
      let (shared, pc, action) ←
        officeStep generateSha256Hash state.shared i buffer opened (state.offices i)
      return ({ state with shared, offices := Function.update state.offices i pc }, action)

end Steps

/-- The process when the semaphore is initialised and no office has been created. -/
def initialState (n : Nat) (rand : Rand) : State n where
  shared :=
    { mutex := none
      mainSem := 0
      requests := []
      closeThread := false
      globals :=
        { bank := zeroBank rand, activeThreads := 0, serverExit := false, shutdownDelayMs := 0 } }
  main := .spawn 0
  offices := fun _ => .notStarted

abbrev StepEvent (n : Nat) := Event (State n) (Label n) Action

/-- Any interleaving of the threads, as the list of who moves when. -/
def execute (generateSha256Hash : CString → CString → CString) {n : Nat} (rand : Rand)
    (adminPassword : CString) (labels : List (Label n)) : Option (List (StepEvent n) × State n) :=
  run (step generateSha256Hash adminPassword) (initialState n rand) labels

end Sope.Server
