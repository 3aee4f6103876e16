import Sope.Banking.Arrays

set_option autoImplicit false

/- Which salts `generate_password_salt` can leave in the array of an account. -/
namespace Sope.Banking.Arrays

open CharArray

/-- The digits that `%x` prints. -/
def hexDigits : List Char :=
  ['0', '1', '2', '3', '4', '5', '6', '7', '8', '9', 'a', 'b', 'c', 'd', 'e', 'f']

structure HexText (text : CString) : Prop where
  length : text.length = saltLen
  digits : ∀ c ∈ text, c ∈ hexDigits

/-- The array holds the digits and the terminator, which is the first. -/
structure HoldsSalt (salt : Buffer (saltLen + 1)) (text : CString) : Prop where
  hex : HexText text
  chars : salt.chars = text ++ [nul]
  noNul : nul ∉ text

/-- Whatever an array held, it holds a salt in the end, of which each digit comes from one
result of `rand`. -/
def SaltsShaped : Prop :=
  ∃ digit : Nat → Char, ∀ (rand : Rand) (salt : Buffer (saltLen + 1)), ∃ salt',
    generatePasswordSalt rand salt = some salt' ∧
      HoldsSalt salt' ((List.range saltLen).map fun i => digit (rand i))

/-- The salt in the end, for some results of `rand` up to `RAND_MAX`. -/
def Produced (randMax : Nat) (salt : Buffer (saltLen + 1)) (text : CString) : Prop :=
  ∃ (rand : Rand) (salt' : Buffer (saltLen + 1)), (∀ i, rand i ≤ randMax) ∧
    generatePasswordSalt rand salt = some salt' ∧ salt'.string = text

section Salts

variable {text : CString}

theorem HoldsSalt.string {salt : Buffer (saltLen + 1)} (holds : HoldsSalt salt text) :
    salt.string = text := by
  apply string_of_take holds.noNul
  rw [holds.chars]
  exact List.take_of_length_le (List.length_append ▸ Nat.le_refl _)

theorem hexText_salt (rand : Rand) : HexText (Banking.generatePasswordSalt rand).1 where
  length := length_salt rand
  digits := by
    have printed : ∀ value < 15, Nat.digitChar value ∈ hexDigits := by decide
    exact forall_mem_salt printed rand

/-- The last write only replaces the terminator of the last digit. -/
theorem exists_holdsSalt (rand : Rand) (salt : Buffer (saltLen + 1)) :
    ∃ salt', generatePasswordSalt rand salt = some salt' ∧
      HoldsSalt salt' (Banking.generatePasswordSalt rand).1 := by
  obtain ⟨filled, digits, start⟩ := exists_saltDigits rand salt (Nat.lt_succ_self saltLen)
  have room : saltLen + [nul].length ≤ saltLen + 1 := Nat.le_refl _
  obtain ⟨salt', ended⟩ := exists_write filled room
  have whole := write_take ended
  rw [start, List.take_of_length_le (by rw [salt'.size]; rfl)] at whole
  have generated : generatePasswordSalt rand salt = some salt' := by
    rw [generatePasswordSalt, digits]
    exact ended
  exact ⟨salt', generated, hexText_salt rand, whole, nul_notMem_salt rand⟩

theorem saltsShaped : SaltsShaped :=
  ⟨fun value => Nat.digitChar (value % 15), exists_holdsSalt⟩

/-- The remainder by 15 is never the value of the last digit. -/
theorem f_notMem_salt (rand : Rand) : 'f' ∉ (Banking.generatePasswordSalt rand).1 := by
  have digits : ∀ value < 15, Nat.digitChar value ≠ 'f' := by decide
  exact fun member => forall_mem_salt (p := (· ≠ 'f')) digits rand 'f' member rfl

theorem Produced.f_notMem {randMax : Nat} {salt : Buffer (saltLen + 1)}
    (produced : Produced randMax salt text) : 'f' ∉ text := by
  obtain ⟨rand, salt', -, generated, rfl⟩ := produced
  obtain ⟨salt'', generated', holds⟩ := exists_holdsSalt rand salt
  cases generated.symm.trans generated'
  rw [holds.string]
  exact f_notMem_salt rand

/-- Results of `rand` that are the values of the digits. -/
def valuesOf (text : CString) : Rand := fun i => hexDigits.idxOf (text.getD i '0')

theorem salt_valuesOf (hex : HexText text) (noF : 'f' ∉ text) :
    (Banking.generatePasswordSalt (valuesOf text)).1 = text := by
  have digitOf : ∀ c ∈ hexDigits, c ≠ 'f' → Nat.digitChar (hexDigits.idxOf c % 15) = c := by
    simp [hexDigits]
  apply List.ext_getElem
  · rw [length_salt, hex.length]
  · intro i inside inside'
    have member : text[i] ∈ text := List.getElem_mem inside'
    have other : text[i] ≠ 'f' := fun same => noF (same ▸ member)
    have value : valuesOf text i = hexDigits.idxOf text[i] := by
      rw [valuesOf, List.getD_eq_getElem?_getD, List.getElem?_eq_getElem inside', Option.getD_some]
    simp only [Banking.generatePasswordSalt, List.getElem_map, List.getElem_range, value]
    exact digitOf _ (hex.digits _ member) other

theorem HexText.produced (hex : HexText text) (noF : 'f' ∉ text) {randMax : Nat}
    (large : 32767 ≤ randMax) (salt : Buffer (saltLen + 1)) : Produced randMax salt text := by
  obtain ⟨salt', generated, holds⟩ := exists_holdsSalt (valuesOf text) salt
  refine ⟨valuesOf text, salt', ?_, generated, ?_⟩
  · intro i
    have bound : (valuesOf text) i ≤ hexDigits.length := List.idxOf_le_length
    have small : hexDigits.length = 16 := rfl
    omega
  · rw [holds.string, salt_valuesOf hex noF]

end Salts

/-- Every salt has its shape, and all are produced but those with an `f`. -/
theorem salt_produced_iff (randMax : Nat) (large : 32767 ≤ randMax)
    (salt : Buffer (saltLen + 1)) (text : CString) (hex : HexText text) :
    (SaltsShaped ∧ Produced randMax salt text) ↔ 'f' ∉ text :=
  ⟨fun both => both.2.f_notMem, fun noF => ⟨saltsShaped, hex.produced noF large salt⟩⟩

def zeroSalt : CString := List.replicate saltLen '0'

def fSalt : CString := List.replicate saltLen 'f'

theorem hexText_replicate {c : Char} (hex : c ∈ hexDigits) :
    HexText (List.replicate saltLen c) where
  length := List.length_replicate
  digits := by
    intro d member
    rw [List.eq_of_mem_replicate member]
    exact hex

/-- The salt of 64 zeros, for the `RAND_MAX` of Linux. -/
theorem zeroSalt_produced_iff :
    32767 ≤ 2147483647 ∧ HexText zeroSalt ∧
      ((SaltsShaped ∧ Produced 2147483647 blankAccount.salt zeroSalt) ↔ 'f' ∉ zeroSalt) :=
  ⟨by decide, hexText_replicate (by decide),
    salt_produced_iff 2147483647 (by decide) blankAccount.salt zeroSalt
      (hexText_replicate (by decide))⟩

/-- No results of `rand` make a salt of 64 times the last digit. -/
theorem fSalt_not_produced :
    HexText fSalt ∧ ¬ Produced 2147483647 blankAccount.salt fSalt := by
  refine ⟨hexText_replicate (by decide), fun produced => produced.f_notMem ?_⟩
  exact List.mem_replicate.mpr ⟨by decide, rfl⟩

end Sope.Banking.Arrays
