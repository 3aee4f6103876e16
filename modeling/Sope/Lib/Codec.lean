import Mathlib.Algebra.Group.Nat.Defs
import Mathlib.Data.Fin.Basic
import Mathlib.Logic.Equiv.Fin.Basic
import Sope.Lib.Buffer

set_option autoImplicit false

/- Formats of a fixed width: how a value lies in memory, and how memory reads back.
Larger formats are put together from smaller ones, and their laws with them. -/
namespace Wire

/-- A value takes `width` bytes, and the bytes that can be read are exactly those that
some value is written as. -/
structure Codec (α : Type) where
  width : Nat
  encode : α → List UInt8
  decode : List UInt8 → Option α
  length_encode : ∀ value, (encode value).length = width
  decode_eq_some : ∀ {bytes value}, decode bytes = some value ↔ encode value = bytes

variable {α β : Type}

@[simp] theorem Codec.decode_encode (codec : Codec α) (value : α) :
    codec.decode (codec.encode value) = some value :=
  codec.decode_eq_some.mpr rfl

theorem Codec.encode_inj (codec : Codec α) {value value' : α} :
    codec.encode value = codec.encode value' ↔ value = value' := by
  constructor
  · intro same
    have read := codec.decode_encode value
    rw [same, codec.decode_encode] at read
    exact (Option.some.inj read).symm
  · intro same
    rw [same]

/-- Every piece of memory of the right size can be read. -/
def Codec.Total (codec : Codec α) : Prop :=
  ∀ bytes : List UInt8, bytes.length = codec.width → ∃ value, codec.encode value = bytes

/-- One byte. -/
def byte : Codec UInt8 where
  width := 1
  encode := fun value => [value]
  decode := fun bytes =>
    match bytes with
    | [value] => some value
    | _ => none
  length_encode := fun _ => rfl
  decode_eq_some := by
    intro bytes value
    rcases bytes with _ | ⟨first, _ | ⟨second, rest⟩⟩ <;> simp [eq_comm]

theorem byte_total : byte.Total := by
  intro bytes length
  obtain ⟨value, rfl⟩ := List.length_eq_one_iff.mp length
  exact ⟨value, rfl⟩

/-- One value and right behind it another one, as in a packed structure. -/
def Codec.prod (first : Codec α) (second : Codec β) : Codec (α × β) where
  width := first.width + second.width
  encode := fun value => first.encode value.1 ++ second.encode value.2
  decode := fun bytes => do
    let value ← first.decode (bytes.take first.width)
    let value' ← second.decode (bytes.drop first.width)
    return (value, value')
  length_encode := by
    intro value
    rw [List.length_append, first.length_encode, second.length_encode]
  decode_eq_some := by
    rintro bytes ⟨value, value'⟩
    simp only [Option.bind_eq_bind, Option.bind_eq_some_iff, Option.pure_def, Option.some.injEq,
      Prod.mk.injEq]
    constructor
    · rintro ⟨_, front, _, back, rfl, rfl⟩
      rw [first.decode_eq_some.mp front, second.decode_eq_some.mp back, List.take_append_drop]
    · rintro rfl
      refine ⟨value, ?_, value', ?_, rfl, rfl⟩
      · rw [List.take_left' (first.length_encode value), first.decode_encode]
      · rw [List.drop_left' (first.length_encode value), second.decode_encode]

theorem Codec.Total.prod {first : Codec α} {second : Codec β} (total : first.Total)
    (total' : second.Total) : (first.prod second).Total := by
  intro bytes length
  have length : bytes.length = first.width + second.width := length
  obtain ⟨value, front⟩ := total (bytes.take first.width) (by rw [List.length_take]; omega)
  obtain ⟨value', back⟩ := total' (bytes.drop first.width) (by rw [List.length_drop]; omega)
  refine ⟨(value, value'), ?_⟩
  calc first.encode value ++ second.encode value'
      = bytes.take first.width ++ bytes.drop first.width := by rw [front, back]
    _ = bytes := List.take_append_drop ..

/-- The same memory under another type, which need not have a value for all of it. -/
def Codec.restrict (codec : Codec β) (put : α → β) (get : β → Option α)
    (lawful : ∀ value value', get value' = some value ↔ put value = value') : Codec α where
  width := codec.width
  encode := fun value => codec.encode (put value)
  decode := fun bytes => (codec.decode bytes).bind get
  length_encode := fun value => codec.length_encode (put value)
  decode_eq_some := by
    intro bytes value
    rw [Option.bind_eq_some_iff]
    constructor
    · rintro ⟨value', read, got⟩
      rw [(lawful value value').mp got]
      exact codec.decode_eq_some.mp read
    · intro written
      exact ⟨put value, codec.decode_eq_some.mpr written, (lawful value _).mpr rfl⟩

/-- The same memory under another type with the same values. -/
def Codec.congr (codec : Codec β) (same : α ≃ β) : Codec α :=
  codec.restrict same (fun value => some (same.symm value)) fun value value' => by
    rw [Option.some.injEq]
    constructor
    · rintro rfl
      exact same.apply_symm_apply value'
    · rintro rfl
      exact same.symm_apply_apply value

theorem Codec.Total.congr {codec : Codec β} (total : codec.Total) (same : α ≃ β) :
    (codec.congr same).Total := by
  intro bytes length
  obtain ⟨value, written⟩ := total bytes length
  refine ⟨same.symm value, ?_⟩
  calc codec.encode (same (same.symm value)) = codec.encode value := by
        rw [same.apply_symm_apply]
    _ = bytes := written

section Members

variable (codec : Codec α) (first : Codec β)

/-- What a member reads that lies `offset` bytes into the memory of a structure. -/
def Codec.member (offset : Nat) (bytes : List UInt8) : Option α :=
  codec.decode ((bytes.drop offset).take codec.width)

theorem Codec.member_here (value : α) (rest : List UInt8) :
    codec.member 0 (codec.encode value ++ rest) = some value := by
  rw [Codec.member, List.drop_zero, List.take_left' (codec.length_encode value),
    codec.decode_encode]

theorem Codec.member_last (value : α) : codec.member 0 (codec.encode value) = some value := by
  simpa only [List.append_nil] using codec.member_here value []

/-- A member that lies behind another one. -/
theorem Codec.member_behind (offset : Nat) (value : β) (rest : List UInt8) :
    codec.member (first.width + offset) (first.encode value ++ rest) =
      codec.member offset rest := by
  rw [Codec.member, ← List.drop_drop, List.drop_left' (first.length_encode value), Codec.member]

end Members

section Words

def byteEquiv : Fin 256 ≃ UInt8 where
  toFun := UInt8.ofFin
  invFun := UInt8.toFin
  left_inv := fun _ => rfl
  right_inv := fun _ => rfl

/-- A number below `256 ^ n` in `n` bytes, the least significant one first. -/
def littleEndian : (n : Nat) → Codec (Fin (256 ^ n))
  | 0 =>
      { width := 0
        encode := fun _ => []
        decode := fun bytes => if bytes = [] then some 0 else none
        length_encode := fun _ => rfl
        decode_eq_some := by
          intro bytes value
          have only : value = 0 := Fin.ext (Nat.lt_one_iff.mp value.isLt)
          simp [only, eq_comm] }
  | n + 1 =>
      ((byte.congr byteEquiv).prod (littleEndian n)).congr
        (finProdFinEquiv.symm.trans (Equiv.prodComm ..))

@[simp] theorem littleEndian_width (n : Nat) : (littleEndian n).width = n := by
  induction n with
  | zero => rfl
  | succ n ih =>
      calc (littleEndian (n + 1)).width = 1 + (littleEndian n).width := rfl
        _ = n + 1 := by rw [ih, Nat.add_comm]

theorem littleEndian_total (n : Nat) : (littleEndian n).Total := by
  induction n with
  | zero =>
      intro bytes length
      exact ⟨0, (List.length_eq_zero_iff.mp length).symm⟩
  | succ n ih => exact ((byte_total.congr _).prod ih).congr _

def uint32Equiv : UInt32 ≃ Fin (256 ^ 4) where
  toFun := UInt32.toFin
  invFun := UInt32.ofFin
  left_inv := fun _ => rfl
  right_inv := fun _ => rfl

/-- `uint32_t`. -/
def uint32 : Codec UInt32 := (littleEndian 4).congr uint32Equiv

theorem uint32_total : uint32.Total := (littleEndian_total 4).congr _

def int32Equiv : Int32 ≃ UInt32 where
  toFun := Int32.toUInt32
  invFun := UInt32.toInt32
  left_inv := fun _ => rfl
  right_inv := fun _ => rfl

/-- `int32_t`, in two's complement. -/
def int32 : Codec Int32 := uint32.congr int32Equiv

theorem int32_total : int32.Total := uint32_total.congr _

end Words

section Chars

open CharArray

/-- A `char` array holds bytes. -/
def IsBytes (chars : List Char) : Prop := ∀ c ∈ chars, c.toNat < 256

theorem isBytes_of_all {chars : List Char} (all : (chars.all fun c => c.toNat < 256) = true) :
    IsBytes chars := by
  intro c member
  exact of_decide_eq_true (List.all_eq_true.mp all c member)

theorem toNat_ofUInt8 (value : UInt8) : (Char.ofUInt8 value).toNat = value.toNat :=
  UInt8.toNat_toUInt32 value

theorem toUInt8_ofUInt8 (value : UInt8) : (Char.ofUInt8 value).toUInt8 = value := by
  apply UInt8.toNat_inj.mp
  calc (Char.ofUInt8 value).toUInt8.toNat
      = (Char.ofUInt8 value).toNat % 2 ^ 8 := UInt32.toNat_toUInt8 _
    _ = value.toNat := by rw [toNat_ofUInt8, Nat.mod_eq_of_lt value.toNat_lt]

theorem ofUInt8_toUInt8 {c : Char} (small : c.toNat < 256) : Char.ofUInt8 c.toUInt8 = c := by
  apply Char.ext
  apply UInt32.toNat_inj.mp
  calc (Char.ofUInt8 c.toUInt8).toNat = c.toUInt8.toNat := toNat_ofUInt8 _
    _ = c.toNat % 2 ^ 8 := UInt32.toNat_toUInt8 _
    _ = c.toNat := Nat.mod_eq_of_lt small

theorem isBytes_map (bytes : List UInt8) : IsBytes (bytes.map Char.ofUInt8) := by
  intro c member
  obtain ⟨value, -, rfl⟩ := List.mem_map.mp member
  rw [toNat_ofUInt8]
  exact value.toNat_lt

theorem map_toUInt8_map (bytes : List UInt8) :
    (bytes.map Char.ofUInt8).map Char.toUInt8 = bytes := by
  rw [List.map_map]
  exact List.map_id'' toUInt8_ofUInt8 bytes

theorem map_ofUInt8_map {chars : List Char} (areBytes : IsBytes chars) :
    (chars.map Char.toUInt8).map Char.ofUInt8 = chars := by
  rw [List.map_map]
  exact (List.map_congr_left fun c member => ofUInt8_toUInt8 (areBytes c member)).trans
    (List.map_id chars)

/-- `char[n]`. -/
abbrev ByteBuffer (n : Nat) := { buffer : Buffer n // IsBytes buffer.chars }

def chars (n : Nat) : Codec (ByteBuffer n) where
  width := n
  encode := fun buffer => buffer.val.chars.map Char.toUInt8
  decode := fun bytes =>
    if length : bytes.length = n then
      some ⟨⟨bytes.map Char.ofUInt8, by rw [List.length_map, length]⟩, isBytes_map bytes⟩
    else none
  length_encode := fun buffer => by rw [List.length_map, buffer.val.size]
  decode_eq_some := by
    rintro bytes ⟨⟨text, size⟩, areBytes⟩
    simp only [Option.dite_none_right_eq_some, Option.some.injEq, Subtype.mk.injEq,
      Buffer.mk.injEq]
    constructor
    · rintro ⟨-, rfl⟩
      exact map_toUInt8_map bytes
    · rintro rfl
      exact ⟨by rw [List.length_map, size], map_ofUInt8_map areBytes⟩

theorem chars_total (n : Nat) : (chars n).Total := by
  intro bytes length
  exact ⟨⟨⟨bytes.map Char.ofUInt8, by rw [List.length_map]; exact length⟩, isBytes_map bytes⟩,
    map_toUInt8_map bytes⟩

end Chars

section Streams

variable (codec : Codec α)

/-- Values one behind the other, with nothing between them. -/
def Codec.stream (values : List α) : List UInt8 := values.flatMap codec.encode

@[simp] theorem Codec.stream_nil : codec.stream [] = [] := rfl

@[simp] theorem Codec.stream_cons (value : α) (values : List α) :
    codec.stream (value :: values) = codec.encode value ++ codec.stream values := rfl

theorem Codec.stream_snoc (values : List α) (value : α) :
    codec.stream (values ++ [value]) = codec.stream values ++ codec.encode value := by
  simp [Codec.stream]

theorem Codec.take_stream (value : α) (values : List α) :
    (codec.stream (value :: values)).take codec.width = codec.encode value :=
  List.take_left' (codec.length_encode value)

theorem Codec.drop_stream (value : α) (values : List α) :
    (codec.stream (value :: values)).drop codec.width = codec.stream values :=
  List.drop_left' (codec.length_encode value)

/-- Nothing is buffered exactly when no value is. -/
theorem Codec.stream_eq_nil (positive : 0 < codec.width) {values : List α} :
    codec.stream values = [] ↔ values = [] := by
  cases values with
  | nil => simp
  | cons value values =>
      have long := codec.length_encode value
      simp only [stream_cons, List.append_eq_nil_iff, List.cons_ne_nil, iff_false, not_and]
      intro empty
      rw [empty, List.length_nil] at long
      omega

end Streams

end Wire
