import Sope.Banking.Run

set_option autoImplicit false

/- What one iteration of `read_request` (server.c) does with a popped request,
leaving the locks aside. -/
namespace Sope.Server

open Machine Banking

/-- The globals that an office reads and writes while it handles a request. -/
structure Globals where
  bank : Bank
  activeThreads : Int
  serverExit : Bool
  shutdownDelayMs : UInt32

/-- `open_user_fifo` returned -1: the reply is marked, and not written. -/
def markReply (opened : Bool) (reply : TlvReply) : TlvReply :=
  if opened then reply else reply.withRetCode .usrDown

/-- `reply.type == OP_SHUTDOWN && reply.value.header.ret_code == RC_OK`. -/
def shutsDown (reply : TlvReply) : Bool :=
  decide (reply.type = .shutdown) && decide (reply.value.header.retCode = .ok)

/-- The assignments behind that test; the `chmod` of the server FIFO has no effect
on the globals. -/
def Globals.prepareShutdown (globals : Globals) (request : TlvRequest) (reply : TlvReply) :
    Globals :=
  if shutsDown reply then
    { globals with serverExit := true, shutdownDelayMs := request.value.header.opDelayMs }
  else globals

/-- What an iteration is given: the popped request, the office's reply buffer and
id, and whether the user FIFO can be opened. -/
structure Iteration where
  request : TlvRequest
  buffer : TlvReply
  id : Nat
  opened : Bool

/-- The reply that `build_tlv_reply` made, and the one that is logged. -/
structure Handled where
  reply : TlvReply
  logged : TlvReply

section Hash

variable (generateSha256Hash : CString → CString → CString)

/-- From `++active_threads` to `--active_threads`. -/
def handleRequest (globals : Globals) (iteration : Iteration) : Option (Globals × Handled) := do
  let activeThreads := globals.activeThreads + 1
  let (bank, reply) ← buildTlvReply generateSha256Hash iteration.request globals.bank
    iteration.buffer iteration.id activeThreads
  let logged := markReply iteration.opened reply
  let globals := { globals with bank, activeThreads }.prepareShutdown iteration.request logged
  return ({ globals with activeThreads := globals.activeThreads - 1 }, ⟨reply, logged⟩)

/-- The globals when main has created the administrator's account. -/
def initialGlobals (rand : Rand) (adminPassword : CString) : Globals where
  bank := initialBank generateSha256Hash rand adminPassword
  activeThreads := 0
  serverExit := false
  shutdownDelayMs := 0

abbrev HandledEvent := Event Globals Iteration Handled

def handleAll (rand : Rand) (adminPassword : CString) (iterations : List Iteration) :
    Option (List HandledEvent × Globals) :=
  run (handleRequest generateSha256Hash) (initialGlobals generateSha256Hash rand adminPassword)
    iterations

variable {generateSha256Hash}

/-- An iteration is one answered request, and it raises `server_exit` only for an
accepted shutdown. -/
theorem handleRequest_eq_some {globals globals' : Globals} {iteration : Iteration}
    {handled : Handled}
    (ran : handleRequest generateSha256Hash globals iteration = some (globals', handled)) :
    buildTlvReply generateSha256Hash iteration.request globals.bank iteration.buffer
        iteration.id (globals.activeThreads + 1) = some (globals'.bank, handled.reply) ∧
      handled.logged = markReply iteration.opened handled.reply ∧
      globals'.serverExit = (globals.serverExit || shutsDown handled.logged) := by
  simp only [handleRequest, Option.bind_eq_bind, Option.bind_eq_some_iff, Option.pure_def,
    Option.some.injEq, Prod.mk.injEq, Prod.exists] at ran
  obtain ⟨bank, reply, replied, rfl, rfl⟩ := ran
  rw [replied]
  simp only [Globals.prepareShutdown]
  cases shutsDown (markReply iteration.opened reply) <;> simp

theorem handleRequest_total (globals : Globals) (iteration : Iteration)
    (inRange : iteration.request.InRange) :
    ∃ globals' handled,
      handleRequest generateSha256Hash globals iteration = some (globals', handled) := by
  obtain ⟨bank, reply, replied⟩ := buildTlvReply_total generateSha256Hash iteration.request
    globals.bank iteration.buffer iteration.id (globals.activeThreads + 1) inRange
  exact ⟨_, _, by simp only [handleRequest, replied]; rfl⟩

theorem handleAll_answered (generateSha256Hash : CString → CString → CString) (rand : Rand)
    (adminPassword : CString) (iterations : List Iteration)
    (inRange : ∀ iteration ∈ iterations, iteration.request.InRange) :
    ∃ events globals, handleAll generateSha256Hash rand adminPassword iterations =
      some (events, globals) := by
  apply run_total (fun _ => True) trivial
  intro globals iteration member _
  obtain ⟨globals', handled, ran⟩ := handleRequest_total globals iteration
    (inRange iteration member)
  exact ⟨globals', handled, ran, trivial⟩

theorem shutsDown_iff {reply : TlvReply} :
    shutsDown reply = true ↔ reply.type = .shutdown ∧ reply.value.header.retCode = .ok := by
  simp [shutsDown]

/-- A marked reply never shuts the server down, so an unmarked one did. -/
theorem shutsDown_markReply {opened : Bool} {reply : TlvReply} :
    shutsDown (markReply opened reply) = true ↔ opened = true ∧ shutsDown reply = true := by
  cases opened <;> simp [markReply, shutsDown_iff]

end Hash

end Sope.Server
