import Mathlib.Data.List.TakeWhile

set_option autoImplicit false

/- Character arrays of a fixed size and the strings in them. A write past the end is
undefined, as are the string functions that make one. -/
namespace CharArray

def nul : Char := Char.ofNat 0

structure Buffer (n : Nat) where
  chars : List Char
  size : chars.length = n

variable {n : Nat}

/-- Consecutive writes from `index` on; `none` where one lies outside. -/
def Buffer.write (buffer : Buffer n) (index : Nat) (text : List Char) : Option (Buffer n) :=
  if fits : index + text.length ≤ n then
    some {
      chars := buffer.chars.take index ++ text ++ buffer.chars.drop (index + text.length)
      size := by
        simp only [List.length_append, List.length_take, List.length_drop, buffer.size]
        omega }
  else none

/-- A string and its terminator, as `sprintf` and `strcpy` write them. -/
def Buffer.copy (buffer : Buffer n) (index : Nat) (text : List Char) : Option (Buffer n) :=
  buffer.write index (text ++ [nul])

/-- The string at the start of the array. -/
def Buffer.string (buffer : Buffer n) : List Char := buffer.chars.takeWhile (· != nul)

/-- What `fgets` reads of an input: up to the first newline, which it keeps. -/
def firstLine : List Char → List Char
  | [] => []
  | c :: rest => if c = '\n' then [c] else c :: firstLine rest

/-- `fgets` with room for `size` characters; nothing is written at the end of the input. -/
def Buffer.fgets (buffer : Buffer n) (size : Nat) (input : List Char) : Option (Buffer n) :=
  match input with
  | [] => some buffer
  | _ :: _ => buffer.copy 0 ((firstLine input).take (size - 1))

/-- The first call of `strtok`: the token it returns, once its end is marked in the
array; `none` for NULL. -/
def Buffer.strtok (buffer : Buffer n) (delim : Char) : Option (Buffer n × List Char) :=
  let lead := buffer.string.takeWhile (· == delim)
  let rest := buffer.string.dropWhile (· == delim)
  let token := rest.takeWhile (· != delim)
  if token = [] then none
  else if token.length < rest.length then do
    let buffer ← buffer.write (lead.length + token.length) [nul]
    return (buffer, token)
  else some (buffer, token)

theorem write_isSome_iff {buffer : Buffer n} {index : Nat} {text : List Char} :
    (buffer.write index text).isSome ↔ index + text.length ≤ n := by
  simp [Buffer.write]

theorem copy_isSome_iff {buffer : Buffer n} {index : Nat} {text : List Char} :
    (buffer.copy index text).isSome ↔ index + text.length < n := by
  rw [Buffer.copy, write_isSome_iff, List.length_append, List.length_singleton]
  omega

theorem exists_write (buffer : Buffer n) {index : Nat} {text : List Char}
    (fits : index + text.length ≤ n) : ∃ buffer', buffer.write index text = some buffer' :=
  Option.isSome_iff_exists.mp (write_isSome_iff.mpr fits)

/-- Up to the end of what was written, the array is what it was and then the text. -/
theorem write_take {buffer buffer' : Buffer n} {index : Nat} {text : List Char}
    (written : buffer.write index text = some buffer') :
    buffer'.chars.take (index + text.length) = buffer.chars.take index ++ text := by
  simp only [Buffer.write, Option.dite_none_right_eq_some, Option.some.injEq] at written
  obtain ⟨fits, rfl⟩ := written
  have start : (buffer.chars.take index).length = index := by
    rw [List.length_take, buffer.size]
    omega
  apply List.take_left'
  rw [List.length_append, start]

theorem exists_copy (buffer : Buffer n) {index : Nat} {text : List Char}
    (fits : index + text.length < n) :
    ∃ buffer', buffer.copy index text = some buffer' ∧
      buffer'.chars.take (index + text.length + 1) = buffer.chars.take index ++ text ++ [nul] := by
  have fits' : index + (text ++ [nul]).length ≤ n := by
    rw [List.length_append, List.length_singleton]
    omega
  obtain ⟨buffer', copied⟩ := exists_write buffer fits'
  refine ⟨buffer', copied, ?_⟩
  have start := write_take copied
  rw [List.length_append, List.length_singleton, ← Nat.add_assoc] at start
  rw [start, List.append_assoc]

/-- A terminated text at the start of the array is its string. -/
theorem string_of_take {buffer : Buffer n} {text : List Char} (noNul : nul ∉ text)
    (start : buffer.chars.take (text.length + 1) = text ++ [nul]) : buffer.string = text := by
  rw [Buffer.string, ← List.take_append_drop (text.length + 1) buffer.chars, start,
    List.append_assoc, List.takeWhile_append_of_pos]
  · simp
  · intro c member
    simp only [bne_iff_ne, ne_eq]
    rintro rfl
    exact noNul member

/-- A copy to the start of the array makes the text its string. -/
theorem copy_string {buffer buffer' : Buffer n} {text : List Char} (noNul : nul ∉ text)
    (copied : buffer.copy 0 text = some buffer') : buffer'.string = text := by
  have start := write_take copied
  rw [Nat.zero_add, List.take_zero, List.nil_append, List.length_append,
    List.length_singleton] at start
  exact string_of_take noNul start

theorem fgets_of_ne_nil {buffer : Buffer n} {size : Nat} {input : List Char}
    (nonempty : input ≠ []) :
    buffer.fgets size input = buffer.copy 0 ((firstLine input).take (size - 1)) := by
  cases input with
  | nil => exact absurd rfl nonempty
  | cons => rfl

theorem firstLine_append_newline {text : List Char} (noNewline : '\n' ∉ text) :
    firstLine (text ++ ['\n']) = text ++ ['\n'] := by
  induction text with
  | nil => rfl
  | cons c rest ih =>
      rw [List.mem_cons, not_or] at noNewline
      rw [List.cons_append, firstLine, if_neg (Ne.symm noNewline.1), ih noNewline.2]

/-- Once an array holds a string, the terminator written again behind it changes nothing. -/
theorem terminate {buffer : Buffer n} {text : List Char} (noNul : nul ∉ text)
    (start : buffer.chars.take text.length = text) (fits : text.length < n) :
    ∃ buffer', buffer.write text.length [nul] = some buffer' ∧ buffer'.string = text := by
  have fits' : text.length + [nul].length ≤ n := fits
  obtain ⟨buffer', written⟩ := exists_write buffer fits'
  refine ⟨buffer', written, string_of_take noNul ?_⟩
  have taken := write_take written
  rwa [start] at taken

theorem take_string (buffer : Buffer n) :
    buffer.chars.take buffer.string.length = buffer.string :=
  (List.prefix_iff_eq_take.mp (List.takeWhile_prefix _)).symm

theorem length_string_le (buffer : Buffer n) : buffer.string.length ≤ n := by
  have inside : buffer.string.length ≤ buffer.chars.length :=
    (List.takeWhile_prefix (· != nul)).length_le
  rwa [buffer.size] at inside

/-- The first token of a string that begins with one and goes on behind a delimiter. -/
theorem strtok_token {buffer : Buffer n} {delim : Char} {token rest : List Char}
    (nonempty : token ≠ []) (noDelim : delim ∉ token)
    (holds : buffer.string = token ++ delim :: rest) :
    ∃ buffer', buffer.strtok delim = some (buffer', token) := by
  have others : ∀ c ∈ token, (c != delim) = true := by
    intro c member
    simp only [bne_iff_ne, ne_eq]
    rintro rfl
    exact noDelim member
  have start : (token ++ delim :: rest).takeWhile (· == delim) = [] ∧
      (token ++ delim :: rest).dropWhile (· == delim) = token ++ delim :: rest := by
    obtain ⟨first, more, rfl⟩ := List.exists_cons_of_ne_nil nonempty
    have different : first ≠ delim := by
      simpa using others first (List.mem_cons_self ..)
    simp [different]
  have taken : (token ++ delim :: rest).takeWhile (· != delim) = token := by
    rw [List.takeWhile_append_of_pos others]
    simp
  have inside := length_string_le buffer
  rw [holds, List.length_append, List.length_cons] at inside
  have fits : token.length + [nul].length ≤ n := by
    rw [List.length_singleton]
    omega
  obtain ⟨buffer', marked⟩ := exists_write buffer fits
  refine ⟨buffer', ?_⟩
  simp only [Buffer.strtok, holds, start, taken, nonempty, ↓reduceIte, List.length_nil,
    Nat.zero_add, List.length_append, List.length_cons, marked]
  rw [if_pos (by omega)]
  rfl

end CharArray
