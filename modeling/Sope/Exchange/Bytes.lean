import Sope.Banking.Wire
import Sope.Exchange.Flow
import Sope.Lib.ByteFifo

set_option autoImplicit false

/- The exchange once more, as the bytes that `write` and `read` move. A `read` may return
fewer bytes than the structure has; then the rest of it stays what it was. -/
namespace Sope.Exchange.Bytes

open Machine Banking Server Fifo Wire CharArray

/-- A string of the command line. -/
structure IsCString (text : CString) : Prop where
  bytes : IsBytes text
  noNul : nul ∉ text

/-- A user process: its pid and command line, and what its stack holds where `request`
and `reply` will lie. No write of `build_tlv_request` lies outside the request. -/
structure Client where
  pid : Int32
  argv : Argv
  request : RequestBytes
  reply : List UInt8
  password : IsCString argv.password
  arguments : IsCString argv.arguments
  size : reply.length = tlvReply.width
  inside : (request.val.buildTlvRequest pid argv).isSome

/-- The same process as a party that sends and receives messages. -/
def Client.message (client : Client) : Exchange.Client :=
  ⟨client.pid, client.request.val.create.args, client.argv⟩

section Stores

theorem isBytes_write {n : Nat} {buffer buffer' : Buffer n} {index : Nat} {text : CString}
    (areBytes : IsBytes buffer.chars) (text' : IsBytes text)
    (written : buffer.write index text = some buffer') : IsBytes buffer'.chars := by
  simp only [Buffer.write, Option.dite_none_right_eq_some, Option.some.injEq] at written
  obtain ⟨-, rfl⟩ := written
  intro c member
  simp only [List.mem_append] at member
  rcases member with (front | middle) | back
  · exact areBytes c (List.mem_of_mem_take front)
  · exact text' c middle
  · exact areBytes c (List.mem_of_mem_drop back)

theorem isBytes_storePassword {field field' : PasswordField} {password : CString}
    (areBytes : IsBytes field.chars) (password' : IsBytes password)
    (stored : storePassword field password = some field') : IsBytes field'.chars := by
  obtain ⟨copied, first, second⟩ := Option.bind_eq_some_iff.mp stored
  refine isBytes_write (isBytes_write areBytes password' first) ?_ second
  intro c member
  rw [List.mem_singleton.mp member]
  decide

theorem isBytes_requestSwitch {create create' : CreateMemory} {type : OpType}
    {args : List CString} {ok : Bool} (areBytes : IsBytes create.password.chars)
    (args' : ∀ arg ∈ args, IsBytes arg)
    (switched : create.requestSwitch type args = some (ok, create')) :
    IsBytes create'.password.chars := by
  cases type with
  | createAccount =>
      rcases args with _ | ⟨accountId, _ | ⟨balance, _ | ⟨password, rest⟩⟩⟩
      · cases switched; exact areBytes
      · cases switched; exact areBytes
      · cases switched; exact areBytes
      · simp only [CreateMemory.requestSwitch, Option.bind_eq_bind, Option.bind_eq_some_iff,
          Option.pure_def, Option.some.injEq, Prod.mk.injEq] at switched
        obtain ⟨field, stored, -, rfl⟩ := switched
        exact isBytes_storePassword areBytes (args' password (by simp)) stored
  | transfer =>
      rcases args with _ | ⟨accountId, _ | ⟨amount, rest⟩⟩ <;> cases switched <;> exact areBytes
  | balance | shutdown | undefined =>
      cases switched
      exact areBytes

theorem isBytes_arguments {arguments : CString} (areBytes : IsBytes arguments) :
    ∀ word ∈ getStringArguments arguments, IsBytes word := by
  intro word member c inside
  rw [getStringArguments_eq_tokens] at member
  exact areBytes c (Words.mem_of_mem_tokens member inside)

/-- The request in memory is made of bytes before and after `build_tlv_request`. -/
theorem Client.areBytes (client : Client) {ok : Bool} {memory : RequestMemory}
    (built : client.request.val.buildTlvRequest client.pid client.argv = some (ok, memory)) :
    memory.AreBytes := by
  simp only [RequestMemory.buildTlvRequest, Option.bind_eq_bind, Option.pure_def,
    Option.bind_eq_some_iff] at built
  obtain ⟨field, stored, built⟩ := built
  have password :=
    isBytes_storePassword client.request.property.password client.password.bytes stored
  split at built
  · cases built
    exact ⟨password, client.request.property.create⟩
  · simp only [Option.bind_eq_some_iff, Prod.exists, Option.some.injEq, Prod.mk.injEq] at built
    obtain ⟨ok', create, switched, -, rfl⟩ := built
    exact ⟨password, isBytes_requestSwitch client.request.property.create
      (isBytes_arguments client.arguments.bytes) switched⟩

end Stores

/-- The request that the user program sends, if it gets that far, as its bytes. -/
def Client.sends (client : Client) : Option RequestBytes :=
  if isValidPassword client.argv.password then
    match built : client.request.val.buildTlvRequest client.pid client.argv with
    | some (true, memory) => some ⟨memory, client.areBytes built⟩
    | _ => none
  else none

theorem Client.message_path (client : Client) : client.message.path = userFifoPath client.pid := rfl

/-- On bytes and on messages the user program sends the same request. -/
theorem Client.message_request (client : Client) :
    client.message.request = client.sends.map (·.val.request) := by
  obtain ⟨⟨ok, memory⟩, built⟩ := Option.isSome_iff_exists.mp client.inside
  have read := buildTlvRequest_request client.password.noNul client.arguments.noNul built
  unfold Exchange.Client.request userRequest Client.sends
  change (if isValidPassword client.argv.password then
    Banking.buildTlvRequest client.pid client.request.val.create.args client.argv else none) = _
  rw [read]
  by_cases valid : isValidPassword client.argv.password
  · simp only [valid, ↓reduceIte]
    cases ok with
    | true =>
        simp only [↓reduceIte]
        split
        · rename_i memory' built'
          rw [built] at built'
          cases built'
          rfl
        · rename_i refused
          exact absurd built (refused memory)
    | false =>
        simp only [Bool.false_eq_true, ↓reduceIte]
        split
        · rename_i memory' built'
          rw [built] at built'
          cases built'
        · rfl
  · simp only [valid, Bool.false_eq_true, ↓reduceIte, Option.map_none]

/-- The statements of `main` in user.c. -/
inductive ClientPc where
  | start
  | openServer (request : RequestBytes)
  | writeServer (request : RequestBytes)
  | makeFifo
  | removeFifo
  | openFifo
  | poll (fd : Nat)
  | exitHandler
  | exited

def ClientPc.message : ClientPc → Exchange.ClientPc
  | .start => .start
  | .openServer request => .openServer request.val.request
  | .writeServer request => .writeServer request.val.request
  | .makeFifo => .makeFifo
  | .removeFifo => .removeFifo
  | .openFifo => .openFifo
  | .poll fd => .poll fd
  | .exitHandler => .exitHandler
  | .exited => .exited

/-- `serverFifo` holds the bytes that main has not read, `request` its variable. -/
structure World (m n : Nat) where
  server : State n
  serverFifo : List UInt8
  request : List UInt8
  killed : Bool
  pipes : Pipes CString UInt8
  writing : Fin n → Option Writing
  clients : Fin m → ClientPc

/-- What a statement of a user process leads to, with the bytes that it sends. -/
structure Turn (n : Nat) where
  pc : ClientPc
  pipes : Pipes CString UInt8
  sent : List UInt8
  report : Report n

section Steps

variable {m n : Nat}

/-- One statement of a user process. It is undefined where a reply is logged that has no
return code. -/
def clientStep (client : Client) (around : Surroundings) (pipes : Pipes CString UInt8) :
    ClientPc → Option (Turn n)
  | .start =>
      match client.sends with
      | some request => some ⟨.openServer request, pipes, [], .silent⟩
      | none => some ⟨.exited, pipes, [], .silent⟩
  | .openServer request =>
      some ⟨if around.serverOpens then .writeServer request else .exited, pipes, [], .silent⟩
  | .writeServer request =>
      match around.delivery with
      | .delivered => some ⟨.makeFifo, pipes, tlvRequest.encode request, .sent request.val.request⟩
      | .full => some ⟨.makeFifo, pipes, [], .silent⟩
      | .noReader => some ⟨.exited, pipes, [], .silent⟩
  | .makeFifo =>
      match pipes.make (userFifoPath client.pid) with
      | some pipes => some ⟨.openFifo, pipes, [], .silent⟩
      | none => some ⟨.removeFifo, pipes, [], .silent⟩
  | .removeFifo =>
      match pipes.unlink (userFifoPath client.pid) with
      | some pipes => some ⟨.makeFifo, pipes, [], .silent⟩
      | none => some ⟨.exitHandler, pipes, [], .silent⟩
  | .openFifo =>
      match pipes.openRead (userFifoPath client.pid) with
      | some (fd, pipes) => some ⟨.poll fd, pipes, [], .silent⟩
      | none => some ⟨.exitHandler, pipes, [], .silent⟩
  | .poll fd =>
      if around.timeOver then some ⟨.exitHandler, pipes.closeRead fd, [], .silent⟩
      else
        match pipes.readBytes fd tlvReply.width with
        | some (bytes, pipes) =>
            (tlvReply.decode (overwrite client.reply bytes)).map fun reply =>
              ⟨.exitHandler, pipes.closeRead fd, [], .logged reply⟩
        | none => some ⟨.poll fd, pipes, [], .silent⟩
  | .exitHandler =>
      some ⟨.exited, (pipes.unlink (userFifoPath client.pid)).getD pipes, [], .silent⟩
  | .exited => none

/-- The bytes that `read` returns to main, if main is there. -/
def World.read (world : World m n) : List UInt8 :=
  match world.server.main with
  | .read => world.serverFifo.take tlvRequest.width
  | _ => []

/-- The request that main goes on with: its variable, once anything was read into it. -/
def World.received (world : World m n) : Option TlvRequest :=
  if world.read = [] then none
  else (tlvRequest.decode (overwrite world.request world.read)).map (·.val.request)

/-- `open_user_fifo`, if the office is there and it succeeds. -/
def World.opening (world : World m n) (i : Fin n) : Option Writing :=
  match world.server.offices i with
  | .openFifo request reply =>
      (world.pipes.openWrite (userFifoPath request.value.header.pid)).map
        fun fd => ⟨fd, request, reply⟩
  | _ => none

variable (generateSha256Hash : CString → CString → CString) (adminPassword : CString)
  (clients : Fin m → Client)

/-- One statement of one process or thread. -/
def worldStep (world : World m n) : Label m n → Option (World m n × Report n)
  | .main =>
      if world.killed then none
      else do
        let label := .main world.received
        let (server, action) ← step generateSha256Hash adminPassword world.server label
        return ({ world with
          server
          serverFifo := world.serverFifo.drop world.read.length
          request := overwrite world.request world.read }, .server label action)
  | .office i buffer =>
      if world.killed || (world.writing i).isSome then none
      else do
        let label := .office i buffer (world.opening i).isSome
        let (server, action) ← step generateSha256Hash adminPassword world.server label
        return ({ world with
          server, writing := Function.update world.writing i (world.opening i) },
          .server label action)
  | .write i =>
      if world.killed then none
      else do
        let written ← world.writing i
        match world.pipes.writeBytes written.fd (tlvReply.encode written.reply) with
        | some pipes =>
            return ({ world with pipes, writing := Function.update world.writing i none },
              .wrote written.request written.reply)
        | none => return ({ world with killed := true }, .silent)
  | .client k around => do
      let turn ← clientStep (clients k) around world.pipes (world.clients k)
      return ({ world with
        pipes := turn.pipes
        serverFifo := world.serverFifo ++ turn.sent
        clients := Function.update world.clients k turn.pc }, turn.report)

end Steps

/-- Before anything has run; `request` is what main's variable holds then. Nobody has a
FIFO open that is left behind, so there is nothing in it. -/
def initialWorld (m n : Nat) (rand : Rand) (request : RequestBytes)
    (stale : Pipes CString UInt8) : World m n where
  server := initialState n rand
  serverFifo := []
  request := tlvRequest.encode request
  killed := false
  pipes := stale
  writing := fun _ => none
  clients := fun _ => .start

abbrev WorldEvent (m n : Nat) := Event (World m n) (Label m n) (Report n)

/-- Any interleaving of the clients with the threads of the server. -/
def exchange (generateSha256Hash : CString → CString → CString) {m n : Nat} (rand : Rand)
    (adminPassword : CString) (clients : Fin m → Client) (request : RequestBytes)
    (stale : Pipes CString UInt8) (labels : List (Label m n)) :
    Option (List (WorldEvent m n) × World m n) :=
  run (worldStep generateSha256Hash adminPassword clients) (initialWorld m n rand request stale)
    labels

end Sope.Exchange.Bytes
