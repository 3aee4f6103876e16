import Sope.Banking.Client
import Sope.Exchange.Path
import Sope.Lib.Fifo
import Sope.Server.System

set_option autoImplicit false

/- The user processes (user.c) and the server, which exchange messages through FIFOs.
Requests go through the server's FIFO, where one message is read or written at once;
each reply goes through the FIFO of the process that the request names. -/
namespace Sope.Exchange

open Machine Banking Server Fifo

/-- A user process: its pid, its command line, and what its stack holds where the
union of the request will lie. -/
structure Client where
  pid : Int32
  uninit : ReqCreateAccount
  argv : Argv

def Client.request (client : Client) : Option TlvRequest :=
  userRequest client.pid client.uninit client.argv

def Client.path (client : Client) : CString := userFifoPath client.pid

/-- The statements of `main` in user.c. The path of the user FIFO is set from
`makeFifo` on, so that `exit_handler` has something to remove. -/
inductive ClientPc where
  | start
  | openServer (request : TlvRequest)
  | writeServer (request : TlvRequest)
  | makeFifo
  | removeFifo
  | openFifo
  | poll (fd : Nat)
  | exitHandler
  | exited

/-- The process has neither exited nor timed out. -/
def ClientPc.live : ClientPc → Bool
  | .exitHandler | .exited => false
  | _ => true

/-- What became of a `write` to the server FIFO: it went in, the FIFO was full, or
nobody had it open any more. -/
inductive Delivery where
  | delivered
  | full
  | noReader

/-- What a client meets: whether the server FIFO opens, what becomes of the request,
and whether the time for the reply is over. -/
structure Surroundings where
  serverOpens : Bool
  delivery : Delivery
  timeOver : Bool

/-- An office that has opened the user FIFO and not yet written the reply to it. -/
structure Writing where
  fd : Nat
  request : TlvRequest
  reply : TlvReply

/-- `serverFifo` holds the requests that main has not read, `writing` the replies that
are about to be written. The server process is `killed` by `SIGPIPE`. -/
structure World (m n : Nat) where
  server : State n
  serverFifo : List TlvRequest
  killed : Bool
  pipes : Pipes CString TlvReply
  writing : Fin n → Option Writing
  clients : Fin m → ClientPc

inductive Label (m n : Nat) where
  | main
  | office (i : Fin n) (buffer : TlvReply)
  | write (i : Fin n)
  | client (k : Fin m) (around : Surroundings)

/-- What a step shows of itself: a statement of the server, a request sent, a reply
written to a user FIFO, or one read there and logged. -/
inductive Report (n : Nat) where
  | silent
  | server (label : Server.Label n) (action : Action)
  | sent (request : TlvRequest)
  | wrote (request : TlvRequest) (reply : TlvReply)
  | logged (reply : TlvReply)

section Steps

variable {m n : Nat}

/-- One statement of a user process, except for what it sends. -/
def clientStep (client : Client) (around : Surroundings) (pipes : Pipes CString TlvReply) :
    ClientPc → Option (ClientPc × Pipes CString TlvReply × Report n)
  | .start =>
      match client.request with
      | some request => some (.openServer request, pipes, .silent)
      | none => some (.exited, pipes, .silent)
  | .openServer request =>
      -- otherwise RC_SRV_DOWN is logged
      some (if around.serverOpens then .writeServer request else .exited, pipes, .silent)
  | .writeServer request =>
      match around.delivery with
      | .delivered => some (.makeFifo, pipes, .sent request)
      | .full => some (.makeFifo, pipes, .silent)
      | .noReader => some (.exited, pipes, .silent)
  | .makeFifo =>
      match pipes.make client.path with
      | some pipes => some (.openFifo, pipes, .silent)
      | none => some (.removeFifo, pipes, .silent)
  | .removeFifo =>
      match pipes.unlink client.path with
      | some pipes => some (.makeFifo, pipes, .silent)
      | none => some (.exitHandler, pipes, .silent)
  | .openFifo =>
      match pipes.openRead client.path with
      | some (fd, pipes) => some (.poll fd, pipes, .silent)
      | none => some (.exitHandler, pipes, .silent)
  | .poll fd =>
      if around.timeOver then some (.exitHandler, pipes.closeRead fd, .silent)
      else
        match pipes.read fd with
        | some (reply, pipes) => some (.exitHandler, pipes.closeRead fd, .logged reply)
        | none => some (.poll fd, pipes, .silent)
  | .exitHandler => some (.exited, (pipes.unlink client.path).getD pipes, .silent)
  | .exited => none

/-- The request that `read` returns to main, if main is there and there is one. In front of an
empty FIFO `read` returns nothing if no process has it open for writing, and else blocks: then
main does not move until there is a request or the last writer has closed. -/
def World.received (world : World m n) : Option TlvRequest :=
  match world.server.main with
  | .read => world.serverFifo.head?
  | _ => none

def World.unread (world : World m n) : List TlvRequest :=
  match world.server.main with
  | .read => world.serverFifo.tail
  | _ => world.serverFifo

/-- `open_user_fifo`, if the office is there and it succeeds. -/
def World.opening (world : World m n) (i : Fin n) : Option Writing :=
  match world.server.offices i with
  | .openFifo request reply =>
      (world.pipes.openWrite (userFifoPath request.value.header.pid)).map
        fun fd => ⟨fd, request, reply⟩
  | _ => none

variable (generateSha256Hash : CString → CString → CString) (adminPassword : CString)
  (clients : Fin m → Client)

/-- One statement of one process or thread. -/
def worldStep (world : World m n) : Label m n → Option (World m n × Report n)
  | .main =>
      if world.killed then none
      else do
        let label := .main world.received
        let (server, action) ← step generateSha256Hash adminPassword world.server label
        return ({ world with server, serverFifo := world.unread }, .server label action)
  | .office i buffer =>
      if world.killed || (world.writing i).isSome then none
      else do
        let label := .office i buffer (world.opening i).isSome
        let (server, action) ← step generateSha256Hash adminPassword world.server label
        return ({ world with
          server, writing := Function.update world.writing i (world.opening i) },
          .server label action)
  | .write i =>
      if world.killed then none
      else do
        let written ← world.writing i
        match world.pipes.write written.fd written.reply with
        | some pipes =>
            return ({ world with pipes, writing := Function.update world.writing i none },
              .wrote written.request written.reply)
        | none => return ({ world with killed := true }, .silent)
  | .client k around => do
      let (pc, pipes, report) ← clientStep (clients k) around world.pipes (world.clients k)
      let sent :=
        match report with
        | .sent request => [request]
        | _ => []
      return ({ world with
        pipes
        serverFifo := world.serverFifo ++ sent
        clients := Function.update world.clients k pc }, report)

end Steps

/-- Before anything has run. `stale` are the user FIFOs that earlier processes left
behind; nobody has one of them open. -/
def initialWorld (m n : Nat) (rand : Rand) (stale : Pipes CString TlvReply) : World m n where
  server := initialState n rand
  serverFifo := []
  killed := false
  pipes := stale
  writing := fun _ => none
  clients := fun _ => .start

/-- No process has a FIFO open for reading. -/
def Stale (pipes : Pipes CString TlvReply) : Prop := ∀ inode, (pipes.inodes inode).readers = 0

abbrev WorldEvent (m n : Nat) := Event (World m n) (Label m n) (Report n)

/-- Any interleaving of the clients with the threads of the server. -/
def exchange (generateSha256Hash : CString → CString → CString) {m n : Nat} (rand : Rand)
    (adminPassword : CString) (clients : Fin m → Client) (stale : Pipes CString TlvReply)
    (labels : List (Label m n)) : Option (List (WorldEvent m n) × World m n) :=
  run (worldStep generateSha256Hash adminPassword clients) (initialWorld m n rand stale) labels

/-- No two user processes have the same pid. -/
def DistinctPids {m : Nat} (clients : Fin m → Client) : Prop :=
  ∀ k k', (clients k).pid = (clients k').pid → k = k'

end Sope.Exchange
