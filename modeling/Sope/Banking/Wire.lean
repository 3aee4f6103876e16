import Sope.Banking.CommandLine
import Sope.Lib.Codec

set_option autoImplicit false

/- The messages as they lie in memory (types.h): packed structures, which `write` puts
into a FIFO and `read` takes out of it as they are. -/
namespace Sope.Banking

open Wire CharArray

/-- The value of an enumerator of `enum op_type`. -/
def OpType.code : OpType → UInt32
  | .createAccount => 0
  | .balance => 1
  | .transfer => 2
  | .shutdown => 3
  | .undefined value _ => value

@[simp] theorem OpType.ofCode_opCode (type : OpType) : OpType.ofCode type.code = type := by
  cases type with
  | undefined value outside => simp [OpType.code, OpType.ofCode, outside]
  | _ => rfl

@[simp] theorem OpType.code_ofCode (code : UInt32) : (OpType.ofCode code).code = code := by
  unfold OpType.ofCode
  split
  · rfl
  · rename_i inside
    have small : code.toNat < 4 := Nat.lt_of_not_le fun large => inside large
    split
    · rename_i same
      exact same.symm
    · split
      · rename_i same
        exact same.symm
      · split
        · rename_i same
          exact same.symm
        · rename_i zero one two
          have apart (value : UInt32) (other : code ≠ value) : code.toNat ≠ value.toNat :=
            fun same => other (UInt32.toNat_inj.mp same)
          have zero := apart 0 zero
          have one := apart 1 one
          have two := apart 2 two
          simp only [UInt32.reduceToNat] at zero one two
          apply UInt32.toNat_inj.mp
          simp only [OpType.code, UInt32.reduceToNat]
          omega

def opTypeEquiv : OpType ≃ UInt32 where
  toFun := OpType.code
  invFun := OpType.ofCode
  left_inv := OpType.ofCode_opCode
  right_inv := OpType.code_ofCode

/-- `enum op_type` is an unsigned int. -/
def opType : Codec OpType := uint32.congr opTypeEquiv

theorem opType_total : opType.Total := uint32_total.congr _

/-- The code at a position of `enum ret_code`. -/
def RetCode.ofPosition : Nat → Option RetCode
  | 0 => some .ok
  | 1 => some .srvDown
  | 2 => some .srvTimeout
  | 3 => some .usrDown
  | 4 => some .loginFail
  | 5 => some .opNallow
  | 6 => some .idInUse
  | 7 => some .idNotFound
  | 8 => some .sameId
  | 9 => some .noFunds
  | 10 => some .tooHigh
  | 11 => some .other
  | _ => none

theorem RetCode.ofPosition_eq_some {position : Nat} {code : RetCode} :
    RetCode.ofPosition position = some code ↔ code.position = position := by
  constructor
  · intro found
    unfold RetCode.ofPosition at found
    split at found <;> cases found <;> rfl
  · rintro rfl
    cases code <;> rfl

theorem RetCode.position_lt (code : RetCode) : code.position < 12 := by
  cases code <;> decide

/-- `enum ret_code`; from `__RC_MAX_NUMBER` on an int names no code. -/
def retCode : Codec RetCode :=
  uint32.restrict (fun code => UInt32.ofNat code.position)
    (fun value => RetCode.ofPosition value.toNat) fun code value => by
      have stored : (UInt32.ofNat code.position).toNat = code.position :=
        UInt32.toNat_ofNat_of_lt (Nat.lt_trans code.position_lt (by decide))
      rw [RetCode.ofPosition_eq_some, ← UInt32.toNat_inj, stored]

section Request

abbrev PasswordBytes := ByteBuffer (maxPasswordLen + 1)

/-- Every `char` of the create request is a byte. -/
abbrev CreateBytes := { create : CreateMemory // IsBytes create.password.chars }

/-- Every `char` of the request is a byte. -/
structure RequestMemory.AreBytes (memory : RequestMemory) : Prop where
  password : IsBytes memory.password.chars
  create : IsBytes memory.create.password.chars

abbrev RequestBytes := { memory : RequestMemory // memory.AreBytes }

def createEquiv : CreateBytes ≃ UInt32 × UInt32 × PasswordBytes where
  toFun := fun create =>
    (create.val.accountId, create.val.balance, ⟨create.val.password, create.property⟩)
  invFun := fun fields => ⟨⟨fields.1, fields.2.1, fields.2.2.val⟩, fields.2.2.property⟩
  left_inv := fun _ => rfl
  right_inv := fun _ => rfl

/-- `req_create_account_t`, which is also the whole of the union. -/
def reqCreateAccount : Codec CreateBytes :=
  (uint32.prod (uint32.prod (chars (maxPasswordLen + 1)))).congr createEquiv

theorem reqCreateAccount_total : reqCreateAccount.Total :=
  (uint32_total.prod (uint32_total.prod (chars_total _))).congr _

def transferEquiv : ReqTransfer ≃ UInt32 × UInt32 where
  toFun := fun transfer => (transfer.accountId, transfer.amount)
  invFun := fun fields => ⟨fields.1, fields.2⟩
  left_inv := fun _ => rfl
  right_inv := fun _ => rfl

/-- `req_transfer_t`. -/
def reqTransfer : Codec ReqTransfer := (uint32.prod uint32).congr transferEquiv

def requestEquiv :
    RequestBytes ≃ OpType × UInt32 × Int32 × UInt32 × PasswordBytes × UInt32 × CreateBytes where
  toFun := fun memory =>
    (memory.val.type, memory.val.length, memory.val.pid, memory.val.accountId,
      ⟨memory.val.password, memory.property.password⟩, memory.val.opDelayMs,
      ⟨memory.val.create, memory.property.create⟩)
  invFun := fun (type, length, pid, accountId, password, opDelayMs, create) =>
    ⟨⟨type, length, pid, accountId, password.val, opDelayMs, create.val⟩,
      password.property, create.property⟩
  left_inv := fun _ => rfl
  right_inv := fun _ => rfl

/-- `tlv_request_t`. -/
def tlvRequest : Codec RequestBytes :=
  (opType.prod (uint32.prod (int32.prod (uint32.prod ((chars (maxPasswordLen + 1)).prod
    (uint32.prod reqCreateAccount)))))).congr requestEquiv

theorem tlvRequest_total : tlvRequest.Total :=
  (opType_total.prod (uint32_total.prod (int32_total.prod (uint32_total.prod
    ((chars_total _).prod (uint32_total.prod reqCreateAccount_total)))))).congr _

@[simp] theorem tlvRequest_width : tlvRequest.width = 70 := rfl

/-- Where the members of `tlv_request_t` lie. Both members of the union lie at its start. -/
structure RequestLayout (bytes : List UInt8) (memory : RequestBytes) : Prop where
  type : opType.member 0 bytes = some memory.val.type
  length : uint32.member 4 bytes = some memory.val.length
  pid : int32.member 8 bytes = some memory.val.pid
  accountId : uint32.member 12 bytes = some memory.val.accountId
  password : (chars (maxPasswordLen + 1)).member 16 bytes =
    some ⟨memory.val.password, memory.property.password⟩
  opDelayMs : uint32.member 37 bytes = some memory.val.opDelayMs
  create : reqCreateAccount.member 41 bytes = some ⟨memory.val.create, memory.property.create⟩
  transfer : reqTransfer.member 41 bytes = some memory.val.request.value.transfer

/-- The union shows its first two words to either member. -/
theorem reqTransfer_member (create : CreateBytes) :
    reqTransfer.member 0 (reqCreateAccount.encode create) =
      some ⟨create.val.accountId, create.val.balance⟩ := by
  have split : reqCreateAccount.encode create =
      reqTransfer.encode ⟨create.val.accountId, create.val.balance⟩ ++
        (chars (maxPasswordLen + 1)).encode ⟨create.val.password, create.property⟩ :=
    (List.append_assoc ..).symm
  rw [split, reqTransfer.member_here]

theorem tlvRequest_layout (memory : RequestBytes) :
    RequestLayout (tlvRequest.encode memory) memory := by
  have behind {α : Type} (codec : Codec α) (offset : Nat) :
      codec.member (41 + offset) (tlvRequest.encode memory) =
        codec.member offset
          (reqCreateAccount.encode ⟨memory.val.create, memory.property.create⟩) := by
    rw [show 41 + offset = opType.width + (uint32.width + (int32.width + (uint32.width +
      ((chars (maxPasswordLen + 1)).width + (uint32.width + offset))))) from by
        simp only [show opType.width = 4 from rfl, show uint32.width = 4 from rfl,
          show int32.width = 4 from rfl,
          show (chars (maxPasswordLen + 1)).width = 21 from rfl]
        omega]
    exact (codec.member_behind opType ..).trans <| (codec.member_behind uint32 ..).trans <|
      (codec.member_behind int32 ..).trans <| (codec.member_behind uint32 ..).trans <|
      (codec.member_behind (chars _) ..).trans (codec.member_behind uint32 ..)
  exact {
    type := opType.member_here ..
    length := (uint32.member_behind opType 0 ..).trans (uint32.member_here ..)
    pid := (int32.member_behind opType 4 ..).trans <|
      (int32.member_behind uint32 0 ..).trans (int32.member_here ..)
    accountId := (uint32.member_behind opType 8 ..).trans <|
      (uint32.member_behind uint32 4 ..).trans <|
      (uint32.member_behind int32 0 ..).trans (uint32.member_here ..)
    password := ((chars _).member_behind opType 12 ..).trans <|
      ((chars _).member_behind uint32 8 ..).trans <|
      ((chars _).member_behind int32 4 ..).trans <|
      ((chars _).member_behind uint32 0 ..).trans ((chars _).member_here ..)
    opDelayMs := (uint32.member_behind opType 33 ..).trans <|
      (uint32.member_behind uint32 29 ..).trans <|
      (uint32.member_behind int32 25 ..).trans <|
      (uint32.member_behind uint32 21 ..).trans <|
      (uint32.member_behind (chars (maxPasswordLen + 1)) 0 ..).trans (uint32.member_here ..)
    create := (behind reqCreateAccount 0).trans (reqCreateAccount.member_last _)
    transfer := (behind reqTransfer 0).trans (reqTransfer_member _) }

/-- A request is written as 70 bytes and reads back, with every member at its offset; and
any 70 bytes are those of exactly one request. -/
theorem tlvRequest_format :
    (∀ memory : RequestBytes, (tlvRequest.encode memory).length = 70 ∧
      tlvRequest.decode (tlvRequest.encode memory) = some memory ∧
      RequestLayout (tlvRequest.encode memory) memory) ∧
    ∀ bytes : List UInt8, bytes.length = 70 →
      ∃! memory, tlvRequest.decode bytes = some memory := by
  constructor
  · intro memory
    exact ⟨tlvRequest.length_encode memory, tlvRequest.decode_encode memory,
      tlvRequest_layout memory⟩
  · intro bytes length
    obtain ⟨memory, rfl⟩ := tlvRequest_total bytes length
    refine ⟨memory, tlvRequest.decode_encode memory, fun memory' read => ?_⟩
    exact tlvRequest.encode_inj.mp (tlvRequest.decode_eq_some.mp read)

end Request

section Reply

def replyEquiv : TlvReply ≃ OpType × UInt32 × UInt32 × RetCode × UInt32 where
  toFun := fun reply =>
    (reply.type, reply.length, reply.value.header.accountId, reply.value.header.retCode,
      reply.value.info)
  invFun := fun (type, length, accountId, retCode, info) =>
    ⟨type, length, ⟨accountId, retCode⟩, info⟩
  left_inv := fun _ => rfl
  right_inv := fun _ => rfl

/-- `tlv_reply_t`. -/
def tlvReply : Codec TlvReply :=
  (opType.prod (uint32.prod (uint32.prod (retCode.prod uint32)))).congr replyEquiv

@[simp] theorem tlvReply_width : tlvReply.width = 20 := rfl

end Reply

end Sope.Banking
