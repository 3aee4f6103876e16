import Sope.Exchange.World

set_option autoImplicit false

/- What one statement can do to the world, case by case. -/
namespace Sope.Exchange

open Machine Banking Server Fifo

section Client

variable {n : Nat} (client : Client) (pipes : Pipes CString TlvReply)

/-- A statement of a user process that runs. -/
inductive ClientMove : ClientPc → ClientPc → Pipes CString TlvReply → Report n → Prop where
  | begin (request : TlvRequest) (built : client.request = some request) :
      ClientMove .start (.openServer request) pipes .silent
  | reject (refused : client.request = none) : ClientMove .start .exited pipes .silent
  | openServer (request : TlvRequest) :
      ClientMove (.openServer request) (.writeServer request) pipes .silent
  | serverDown (request : TlvRequest) : ClientMove (.openServer request) .exited pipes .silent
  | send (request : TlvRequest) :
      ClientMove (.writeServer request) .makeFifo pipes (.sent request)
  | sendFull (request : TlvRequest) : ClientMove (.writeServer request) .makeFifo pipes .silent
  | sendBroken (request : TlvRequest) : ClientMove (.writeServer request) .exited pipes .silent
  | make (pipes' : Pipes CString TlvReply) (made : pipes.make client.path = some pipes') :
      ClientMove .makeFifo .openFifo pipes' .silent
  | exists : ClientMove .makeFifo .removeFifo pipes .silent
  | remove (pipes' : Pipes CString TlvReply) (removed : pipes.unlink client.path = some pipes') :
      ClientMove .removeFifo .makeFifo pipes' .silent
  | absent : ClientMove .removeFifo .exitHandler pipes .silent
  | openFifo (fd : Nat) (pipes' : Pipes CString TlvReply)
      (opened : pipes.openRead client.path = some (fd, pipes')) :
      ClientMove .openFifo (.poll fd) pipes' .silent
  | openFailed : ClientMove .openFifo .exitHandler pipes .silent
  | timeOver (fd : Nat) : ClientMove (.poll fd) .exitHandler (pipes.closeRead fd) .silent
  | receive (fd : Nat) (reply : TlvReply) (pipes' : Pipes CString TlvReply)
      (received : pipes.read fd = some (reply, pipes')) :
      ClientMove (.poll fd) .exitHandler (pipes'.closeRead fd) (.logged reply)
  | wait (fd : Nat) : ClientMove (.poll fd) (.poll fd) pipes .silent
  | cleanUp (pipes' : Pipes CString TlvReply) (removed : pipes.unlink client.path = some pipes') :
      ClientMove .exitHandler .exited pipes' .silent
  | nothingLeft : ClientMove .exitHandler .exited pipes .silent

variable {client pipes}

theorem clientStep_move {around : Surroundings} {pc pc' : ClientPc}
    {pipes' : Pipes CString TlvReply} {report : Report n}
    (fired : clientStep client around pipes pc = some (pc', pipes', report)) :
    ClientMove client pipes pc pc' pipes' report := by
  cases pc with
  | start =>
      cases built : client.request with
      | some request =>
          simp only [clientStep, built, Option.some.injEq, Prod.mk.injEq] at fired
          obtain ⟨rfl, rfl, rfl⟩ := fired
          exact .begin request built
      | none =>
          simp only [clientStep, built, Option.some.injEq, Prod.mk.injEq] at fired
          obtain ⟨rfl, rfl, rfl⟩ := fired
          exact .reject built
  | openServer request =>
      cases opens : around.serverOpens <;>
        simp only [clientStep, opens, Bool.false_eq_true, ↓reduceIte, Option.some.injEq,
          Prod.mk.injEq] at fired <;>
        obtain ⟨rfl, rfl, rfl⟩ := fired
      · exact .serverDown request
      · exact .openServer request
  | writeServer request =>
      cases delivery : around.delivery <;>
        simp only [clientStep, delivery, Option.some.injEq, Prod.mk.injEq] at fired <;>
        obtain ⟨rfl, rfl, rfl⟩ := fired
      · exact .send request
      · exact .sendFull request
      · exact .sendBroken request
  | makeFifo =>
      cases made : pipes.make client.path <;>
        simp only [clientStep, made, Option.some.injEq, Prod.mk.injEq] at fired <;>
        obtain ⟨rfl, rfl, rfl⟩ := fired
      · exact .exists
      · exact .make _ made
  | removeFifo =>
      cases removed : pipes.unlink client.path <;>
        simp only [clientStep, removed, Option.some.injEq, Prod.mk.injEq] at fired <;>
        obtain ⟨rfl, rfl, rfl⟩ := fired
      · exact .absent
      · exact .remove _ removed
  | openFifo =>
      cases opened : pipes.openRead client.path <;>
        simp only [clientStep, opened, Option.some.injEq, Prod.mk.injEq] at fired <;>
        obtain ⟨rfl, rfl, rfl⟩ := fired
      · exact .openFailed
      · exact .openFifo _ _ opened
  | poll fd =>
      cases late : around.timeOver with
      | true =>
          simp only [clientStep, late, ↓reduceIte, Option.some.injEq, Prod.mk.injEq] at fired
          obtain ⟨rfl, rfl, rfl⟩ := fired
          exact .timeOver fd
      | false =>
          cases received : pipes.read fd <;>
            simp only [clientStep, late, received, Bool.false_eq_true, ↓reduceIte,
              Option.some.injEq, Prod.mk.injEq] at fired <;>
            obtain ⟨rfl, rfl, rfl⟩ := fired
          · exact .wait fd
          · exact .receive fd _ _ received
  | exitHandler =>
      cases removed : pipes.unlink client.path <;>
        simp only [clientStep, removed, Option.getD_none, Option.getD_some, Option.some.injEq,
          Prod.mk.injEq] at fired <;>
        obtain ⟨rfl, rfl, rfl⟩ := fired
      · exact .nothingLeft
      · exact .cleanUp _ removed
  | exited => simp [clientStep] at fired

end Client

section World

variable {m n : Nat} (generateSha256Hash : CString → CString → CString) (adminPassword : CString)
  (clients : Fin m → Client) (world : World m n)

/-- The requests that a report puts into the server FIFO. -/
def Report.sends : Report n → List TlvRequest
  | .sent request => [request]
  | _ => []

inductive WorldMove : World m n → Report n → Prop where
  | main (server : State n) (action : Action) (running : world.killed = false)
      (fired : step generateSha256Hash adminPassword world.server (.main world.received) =
        some (server, action)) :
      WorldMove { world with server, serverFifo := world.unread }
        (.server (.main world.received) action)
  | office (i : Fin n) (buffer : TlvReply) (server : State n) (action : Action)
      (running : world.killed = false) (idle : world.writing i = none)
      (fired : step generateSha256Hash adminPassword world.server
        (.office i buffer (world.opening i).isSome) = some (server, action)) :
      WorldMove
        { world with server, writing := Function.update world.writing i (world.opening i) }
        (.server (.office i buffer (world.opening i).isSome) action)
  | write (i : Fin n) (written : Writing) (pipes : Pipes CString TlvReply)
      (running : world.killed = false) (writing : world.writing i = some written)
      (wrote : world.pipes.write written.fd written.reply = some pipes) :
      WorldMove { world with pipes, writing := Function.update world.writing i none }
        (.wrote written.request written.reply)
  | broken (i : Fin n) (written : Writing) (writing : world.writing i = some written)
      (refused : world.pipes.write written.fd written.reply = none) :
      WorldMove { world with killed := true } .silent
  | client (k : Fin m) (pc : ClientPc) (pipes : Pipes CString TlvReply) (report : Report n)
      (move : ClientMove (clients k) world.pipes (world.clients k) pc pipes report) :
      WorldMove
        { world with
          pipes
          serverFifo := world.serverFifo ++ report.sends
          clients := Function.update world.clients k pc } report

variable {generateSha256Hash adminPassword clients world}

theorem worldStep_main {world' : World m n} {report : Report n}
    (fired : worldStep generateSha256Hash adminPassword clients world .main =
      some (world', report)) :
    ∃ server action, world.killed = false ∧
      step generateSha256Hash adminPassword world.server (.main world.received) =
        some (server, action) ∧
      world' = { world with server, serverFifo := world.unread } ∧
      report = .server (.main world.received) action := by
  by_cases killed : world.killed = true
  · rw [worldStep, if_pos killed] at fired
    cases fired
  · rw [worldStep, if_neg killed] at fired
    simp only [Option.bind_eq_bind, Option.bind_eq_some_iff, Option.pure_def,
      Option.some.injEq, Prod.mk.injEq, Prod.exists] at fired
    obtain ⟨server, action, moved, rfl, rfl⟩ := fired
    exact ⟨server, action, Bool.eq_false_iff.mpr killed, moved, rfl, rfl⟩

theorem worldStep_office {world' : World m n} {i : Fin n} {buffer : TlvReply} {report : Report n}
    (fired : worldStep generateSha256Hash adminPassword clients world (.office i buffer) =
      some (world', report)) :
    ∃ server action, world.killed = false ∧ world.writing i = none ∧
      step generateSha256Hash adminPassword world.server
        (.office i buffer (world.opening i).isSome) = some (server, action) ∧
      world' = { world with
        server, writing := Function.update world.writing i (world.opening i) } ∧
      report = .server (.office i buffer (world.opening i).isSome) action := by
  by_cases blocked : (world.killed || (world.writing i).isSome) = true
  · rw [worldStep, if_pos blocked] at fired
    cases fired
  · rw [worldStep, if_neg blocked] at fired
    simp only [Bool.or_eq_true, not_or, Bool.not_eq_true, Option.isSome_eq_false_iff,
      Option.isNone_iff_eq_none] at blocked
    simp only [Option.bind_eq_bind, Option.bind_eq_some_iff, Option.pure_def,
      Option.some.injEq, Prod.mk.injEq, Prod.exists] at fired
    obtain ⟨server, action, moved, rfl, rfl⟩ := fired
    exact ⟨server, action, blocked.1, blocked.2, moved, rfl, rfl⟩

theorem worldStep_write {world' : World m n} {i : Fin n} {report : Report n}
    (fired : worldStep generateSha256Hash adminPassword clients world (.write i) =
      some (world', report)) :
    ∃ written, world.killed = false ∧ world.writing i = some written ∧
      ((∃ pipes, world.pipes.write written.fd written.reply = some pipes ∧
        world' = { world with pipes, writing := Function.update world.writing i none } ∧
        report = .wrote written.request written.reply) ∨
      world.pipes.write written.fd written.reply = none ∧
        world' = { world with killed := true } ∧ report = .silent) := by
  by_cases killed : world.killed = true
  · rw [worldStep, if_pos killed] at fired
    cases fired
  · rw [worldStep, if_neg killed] at fired
    simp only [Option.bind_eq_bind, Option.bind_eq_some_iff, Option.pure_def] at fired
    obtain ⟨written, writing, fired⟩ := fired
    refine ⟨written, Bool.eq_false_iff.mpr killed, writing, ?_⟩
    cases wrote : world.pipes.write written.fd written.reply <;>
      simp only [wrote, Option.some.injEq, Prod.mk.injEq] at fired <;>
      obtain ⟨rfl, rfl⟩ := fired
    · exact Or.inr ⟨rfl, rfl, rfl⟩
    · exact Or.inl ⟨_, rfl, rfl, rfl⟩

theorem worldStep_client {world' : World m n} {k : Fin m} {around : Surroundings}
    {report : Report n}
    (fired : worldStep generateSha256Hash adminPassword clients world (.client k around) =
      some (world', report)) :
    ∃ pc pipes, ClientMove (clients k) world.pipes (world.clients k) pc pipes report ∧
      world' = { world with
        pipes
        serverFifo := world.serverFifo ++ report.sends
        clients := Function.update world.clients k pc } := by
  simp only [worldStep, Option.bind_eq_bind, Option.bind_eq_some_iff, Option.pure_def,
    Option.some.injEq, Prod.mk.injEq, Prod.exists] at fired
  obtain ⟨pc, pipes, report', moved, rfl, rfl⟩ := fired
  exact ⟨pc, pipes, clientStep_move moved, rfl⟩

theorem worldStep_move {world' : World m n} {label : Label m n} {report : Report n}
    (fired : worldStep generateSha256Hash adminPassword clients world label =
      some (world', report)) :
    WorldMove generateSha256Hash adminPassword clients world world' report := by
  cases label with
  | main =>
      obtain ⟨server, action, running, moved, rfl, rfl⟩ := worldStep_main fired
      exact .main server action running moved
  | office i buffer =>
      obtain ⟨server, action, running, idle, moved, rfl, rfl⟩ := worldStep_office fired
      exact .office i buffer server action running idle moved
  | write i =>
      obtain ⟨written, running, writing, ⟨pipes, wrote, rfl, rfl⟩ | ⟨refused, rfl, rfl⟩⟩ :=
        worldStep_write fired
      · exact .write i written pipes running writing wrote
      · exact .broken i written writing refused
  | client k around =>
      obtain ⟨pc, pipes, move, rfl⟩ := worldStep_client fired
      exact .client k pc pipes report move

end World

end Sope.Exchange
