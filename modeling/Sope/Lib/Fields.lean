import Mathlib.Data.List.TakeWhile

set_option autoImplicit false

/- Texts cut at separators, and numbers printed between separators, which need not all be
the same. -/
namespace Fields

section Cut

variable {α : Type} [DecidableEq α] {sep : α} {front back text : List α}

theorem takeWhile_of_notMem (none : sep ∉ text) : text.takeWhile (· ≠ sep) = text := by
  apply List.takeWhile_eq_self_iff.mpr
  intro c member
  apply decide_eq_true
  rintro rfl
  exact none member

theorem takeWhile_append (none : sep ∉ front) :
    (front ++ sep :: back).takeWhile (· ≠ sep) = front := by
  have kept : ∀ c ∈ front, decide (c ≠ sep) = true :=
    List.takeWhile_eq_self_iff.mp (takeWhile_of_notMem none)
  rw [List.takeWhile_append_of_pos kept]
  simp

theorem dropWhile_append (none : sep ∉ front) :
    (front ++ sep :: back).dropWhile (· ≠ sep) = sep :: back := by
  have kept : ∀ c ∈ front, decide (c ≠ sep) = true :=
    List.takeWhile_eq_self_iff.mp (takeWhile_of_notMem none)
  rw [List.dropWhile_append_of_pos kept]
  simp

theorem dropWhile_of_notMem (none : sep ∉ text) : text.dropWhile (· ≠ sep) = [] := by
  have whole := List.takeWhile_append_dropWhile (p := (· ≠ sep)) (l := text)
  rw [takeWhile_of_notMem none] at whole
  exact List.self_eq_append_right.mp whole.symm

/-- What stands before the first separator, and what behind it. -/
def cut (sep : α) (text : List α) : Option (List α × List α) :=
  match text.dropWhile (· ≠ sep) with
  | [] => none
  | _ :: back => some (text.takeWhile (· ≠ sep), back)

theorem cut_append (none : sep ∉ front) : cut sep (front ++ sep :: back) = some (front, back) := by
  rw [cut, dropWhile_append none]
  dsimp only
  rw [takeWhile_append none]

end Cut

section Front

variable {α : Type} {p : α → Bool} {front front' back back' : List α}

/-- Two texts that start with characters of one kind part where these end. -/
theorem append_inj_while (kind : ∀ c ∈ front, p c = true) (kind' : ∀ c ∈ front', p c = true)
    (ends : ∀ c ∈ back.head?, p c = false) (ends' : ∀ c ∈ back'.head?, p c = false)
    (same : front ++ back = front' ++ back') : front = front' ∧ back = back' := by
  induction front generalizing front' with
  | nil =>
      cases front' with
      | nil => exact ⟨rfl, same⟩
      | cons c front' =>
          have last := ends c (by rw [List.nil_append] at same; rw [same]; rfl)
          rw [kind' c List.mem_cons_self] at last
          cases last
  | cons c front ih =>
      cases front' with
      | nil =>
          have last := ends' c (by rw [List.nil_append] at same; rw [← same]; rfl)
          rw [kind c List.mem_cons_self] at last
          cases last
      | cons c' front' =>
          rw [List.cons_append, List.cons_append, List.cons.injEq] at same
          obtain ⟨fronts, backs⟩ := ih (fun c member => kind c (List.mem_cons_of_mem _ member))
            (fun c member => kind' c (List.mem_cons_of_mem _ member)) same.2
          exact ⟨by rw [same.1, fronts], backs⟩

end Front

section Numbers

/-- A decimal number, which is all of the text. -/
def readNat (text : List Char) : Option Nat :=
  if !text.isEmpty && text.all Char.isDigit then some (Nat.ofDigitChars 10 text 0) else none

theorem readNat_toDigits (number : Nat) : readNat (Nat.toDigits 10 number) = some number := by
  have digits : (Nat.toDigits 10 number).all Char.isDigit = true :=
    List.all_eq_true.mpr fun c member =>
      Nat.isDigit_of_mem_toDigits (by decide) (by decide) member
  have nonempty : (Nat.toDigits 10 number).isEmpty = false :=
    List.isEmpty_eq_false_iff.mpr Nat.toDigits_ne_nil
  rw [readNat, digits, nonempty, Nat.ofDigitChars_ten_toDigits]
  rfl

/-- A number, and the others behind the separators. -/
def print (number : Nat) : List (Char × Nat) → List Char
  | [] => Nat.toDigits 10 number
  | (sep, number') :: rest => Nat.toDigits 10 number ++ sep :: print number' rest

/-- The numbers between the separators. -/
def read : List Char → List Char → Option (List Nat)
  | [], text => (readNat text).map ([·])
  | sep :: seps, text => do
      let (field, rest) ← cut sep text
      let number ← readNat field
      let numbers ← read seps rest
      return number :: numbers

/-- What was printed is read back, where no separator is a digit. -/
theorem read_print (number : Nat) (fields : List (Char × Nat))
    (separate : ∀ field ∈ fields, field.1.isDigit = false) :
    read (fields.map Prod.fst) (print number fields) = some (number :: fields.map Prod.snd) := by
  induction fields generalizing number with
  | nil =>
      rw [List.map_nil, List.map_nil, read, print, readNat_toDigits]
      rfl
  | cons field rest ih =>
      obtain ⟨sep, number'⟩ := field
      have noSep : sep ∉ Nat.toDigits 10 number := by
        intro member
        have digit := Nat.isDigit_of_mem_toDigits (by decide) (by decide) member
        have noDigit := separate (sep, number') List.mem_cons_self
        rw [digit] at noDigit
        cases noDigit
      have later := ih number' fun field member => separate field (List.mem_cons_of_mem _ member)
      simp only [List.map_cons, read, print, cut_append noSep, readNat_toDigits, later,
        Option.bind_eq_bind, Option.bind_some, Option.pure_def]

end Numbers

end Fields
