import Sope.Banking.ReturnCode
import Sope.Server.Shutdown

set_option autoImplicit false

/- One iteration of `read_request`, with and without the user FIFO. The test that
prepares the shutdown reads the return code after `RC_USR_DOWN` may have replaced it. -/
namespace Sope.Server

open Machine Banking

/-- What an iteration leaves behind for the requests that follow. -/
structure SameEffect (globals globals' : Globals) : Prop where
  accounts : globals.bank.accounts = globals'.bank.accounts
  serverExit : globals.serverExit = globals'.serverExit
  shutdownDelayMs : globals.shutdownDelayMs = globals'.shutdownDelayMs

/-- The administrator, logged in, asks for a shutdown that is not prepared yet. -/
structure AsksShutdown (generateSha256Hash : CString → CString → CString) (globals : Globals)
    (request : TlvRequest) : Prop where
  shutdown : request.type = .shutdown
  login : LoggedIn generateSha256Hash globals.bank.accounts request.value.header adminIndex
  unprepared : globals.serverExit = false ∨
    globals.shutdownDelayMs ≠ request.value.header.opDelayMs

section Delivery

variable {generateSha256Hash : CString → CString → CString} {request : TlvRequest}
  {bank bank' : Bank} {buffer reply : TlvReply} {id : Nat} {activeThreads : Int}

theorem shutsDown_reply_iff
    (replied : buildTlvReply generateSha256Hash request bank buffer id activeThreads =
      some (bank', reply)) :
    shutsDown reply = true ↔ request.type = .shutdown ∧
      LoggedIn generateSha256Hash bank.accounts request.value.header adminIndex := by
  rw [shutsDown_iff, (buildTlvReply_names replied).1]
  constructor
  · rintro ⟨shutdown, accepted⟩
    exact ⟨shutdown, (buildTlvReply_outcome replied).shutdown_login shutdown accepted⟩
  · rintro ⟨shutdown, login⟩
    refine ⟨shutdown, ?_⟩
    rw [shutdown_retCode shutdown login replied, if_neg (not_not.mpr rfl)]

/-- What an iteration leaves behind, from the reply that `build_tlv_reply` makes. -/
theorem handleRequest_of_replied {globals : Globals} (opened : Bool)
    (replied : buildTlvReply generateSha256Hash request globals.bank buffer id
      (globals.activeThreads + 1) = some (bank', reply)) :
    ∃ reached, handleRequest generateSha256Hash globals ⟨request, buffer, id, opened⟩ =
        some (reached, ⟨reply, markReply opened reply⟩) ∧
      reached.bank = bank' ∧
      reached.serverExit = (globals.serverExit || shutsDown (markReply opened reply)) ∧
      reached.shutdownDelayMs =
        if shutsDown (markReply opened reply) then request.value.header.opDelayMs
        else globals.shutdownDelayMs := by
  refine ⟨_, by simp only [handleRequest, replied]; rfl, ?_⟩
  simp only [Globals.prepareShutdown]
  cases shutsDown (markReply opened reply) <;> simp

/-- Two runs of an iteration, in one of which the user FIFO cannot be opened, answer
with the same reply, of which the second run logs the code `RC_USR_DOWN`. They have the
same effect, and both raise `server_exit` for an accepted shutdown, unless the request is
a shutdown by the administrator that has not been prepared before. -/
theorem delivery_sameEffect_iff (generateSha256Hash : CString → CString → CString)
    (globals : Globals) (request : TlvRequest) (buffer : TlvReply) (id : Nat)
    {reached : Globals} {handled : Handled}
    (ran : handleRequest generateSha256Hash globals ⟨request, buffer, id, true⟩ =
      some (reached, handled)) :
    ∃ reached' handled', handleRequest generateSha256Hash globals ⟨request, buffer, id, false⟩ =
        some (reached', handled') ∧
      handled'.reply = handled.reply ∧ handled'.logged = handled.logged.withRetCode .usrDown ∧
      (SameEffect reached reached' ∧
          (request.type = .shutdown → handled.reply.value.header.retCode = .ok →
            reached.serverExit = true ∧ reached'.serverExit = true) ↔
        ¬ AsksShutdown generateSha256Hash globals request) := by
  obtain ⟨reply, logged⟩ := handled
  have replied : buildTlvReply generateSha256Hash request globals.bank buffer id
      (globals.activeThreads + 1) = some (reached.bank, reply) := (handleRequest_eq_some ran).1
  have asks := shutsDown_reply_iff replied
  obtain ⟨up, ranUp, bankUp, exitUp, delayUp⟩ := handleRequest_of_replied true replied
  obtain ⟨down, ranDown, bankDown, exitDown, delayDown⟩ := handleRequest_of_replied false replied
  cases ran.symm.trans ranUp
  refine ⟨down, _, ranDown, rfl, rfl, ?_⟩
  have accounts : reached.bank.accounts = down.bank.accounts := by rw [bankUp, bankDown]
  have unmarked : shutsDown (markReply false reply) = false := by
    rw [Bool.eq_false_iff, ne_eq, shutsDown_markReply]
    exact fun shuts => Bool.false_ne_true shuts.1
  rw [unmarked, Bool.or_false] at exitDown
  rw [unmarked, if_neg Bool.false_ne_true] at delayDown
  cases shuts : shutsDown reply with
  | false =>
      have unasked : ¬ AsksShutdown generateSha256Hash globals request := by
        intro asked
        rw [asks.mpr ⟨asked.shutdown, asked.login⟩] at shuts
        cases shuts
      have marked : shutsDown (markReply true reply) = false := shuts
      rw [marked, Bool.or_false] at exitUp
      rw [marked, if_neg Bool.false_ne_true] at delayUp
      have refused : ¬ (request.type = .shutdown ∧ reply.value.header.retCode = .ok) := by
        rw [← (buildTlvReply_names replied).1, ← shutsDown_iff, shuts]
        exact Bool.false_ne_true
      exact iff_of_true ⟨⟨accounts, exitUp.trans exitDown.symm, delayUp.trans delayDown.symm⟩,
        fun shutdown accepted => absurd ⟨shutdown, accepted⟩ refused⟩ unasked
  | true =>
      obtain ⟨shutdown, login⟩ := asks.mp shuts
      have marked : shutsDown (markReply true reply) = true := shuts
      rw [marked, Bool.or_true] at exitUp
      rw [marked, if_pos rfl] at delayUp
      constructor
      · rintro ⟨same, -⟩ ⟨-, -, exit | delay⟩
        · rw [← exitDown, ← same.serverExit, exitUp] at exit
          cases exit
        · exact delay (delayDown.symm.trans (same.shutdownDelayMs.symm.trans delayUp))
      · intro unasked
        have prepared : globals.serverExit = true ∧
            globals.shutdownDelayMs = request.value.header.opDelayMs := by
          by_contra unprepared
          refine unasked ⟨shutdown, login, ?_⟩
          rw [not_and_or] at unprepared
          rcases unprepared with exit | delay
          · exact Or.inl (Bool.eq_false_iff.mpr exit)
          · exact Or.inr delay
        have exit' : down.serverExit = true := exitDown.trans prepared.1
        refine ⟨⟨accounts, exitUp.trans exit'.symm, ?_⟩, fun _ _ => ⟨exitUp, exit'⟩⟩
        rw [delayUp, delayDown, prepared.2]

end Delivery

/-- The administrator's shutdown is accepted, and not prepared when the FIFO of the
administrator's process cannot be opened. -/
theorem adminShutdown_delivery_decides :
    ∃ reached handled reached' handled',
      handleRequest sessionHash (initialGlobals sessionHash sessionRand ultraTopSecret)
          ⟨adminShutdown, sessionBuffer, 1, true⟩ = some (reached, handled) ∧
      handleRequest sessionHash (initialGlobals sessionHash sessionRand ultraTopSecret)
          ⟨adminShutdown, sessionBuffer, 1, false⟩ = some (reached', handled') ∧
      handled'.reply.value.header.retCode = .ok ∧ reached.serverExit = true ∧
      reached'.serverExit = false ∧ ¬ SameEffect reached reached' :=
  ⟨_, _, _, _, rfl, rfl, rfl, rfl, rfl, fun same => Bool.noConfusion same.serverExit⟩

/-- The equivalence at these two runs, where both sides fail. -/
theorem adminShutdown_sameEffect_iff :
    ∃ reached handled,
      handleRequest sessionHash (initialGlobals sessionHash sessionRand ultraTopSecret)
          ⟨adminShutdown, sessionBuffer, 1, true⟩ = some (reached, handled) ∧
      ∃ reached' handled',
        handleRequest sessionHash (initialGlobals sessionHash sessionRand ultraTopSecret)
            ⟨adminShutdown, sessionBuffer, 1, false⟩ = some (reached', handled') ∧
        handled'.reply = handled.reply ∧ handled'.logged = handled.logged.withRetCode .usrDown ∧
        (SameEffect reached reached' ∧
            (adminShutdown.type = .shutdown → handled.reply.value.header.retCode = .ok →
              reached.serverExit = true ∧ reached'.serverExit = true) ↔
          ¬ AsksShutdown sessionHash (initialGlobals sessionHash sessionRand ultraTopSecret)
            adminShutdown) :=
  ⟨_, _, rfl, delivery_sameEffect_iff sessionHash _ adminShutdown sessionBuffer 1 rfl⟩

end Sope.Server
