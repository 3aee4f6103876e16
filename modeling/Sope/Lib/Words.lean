import Mathlib.Data.List.Basic

set_option autoImplicit false

/- Texts as words between separators: any number of separators may stand before, between
and after the words. -/
namespace Words

variable {α : Type} [DecidableEq α]

/-- The words of a text, in order. -/
def tokens (sep : α) (text : List α) : List (List α) :=
  (text.splitOn sep).filter (!·.isEmpty)

/-- Not empty, and without a separator. -/
def IsWord (sep : α) (word : List α) : Prop := word ≠ [] ∧ sep ∉ word

variable {sep : α}

@[simp] theorem tokens_nil : tokens sep [] = [] := by
  simp [tokens]

/-- A separator ends what stands before it. -/
theorem tokens_append_sep (front back : List α) :
    tokens sep (front ++ sep :: back) = tokens sep front ++ tokens sep back := by
  rw [tokens, List.splitOn_append_cons_self, List.filter_append]
  rfl

@[simp] theorem tokens_sep (text : List α) : tokens sep (sep :: text) = tokens sep text := by
  have split : tokens sep ([] ++ sep :: text) = tokens sep [] ++ tokens sep text :=
    tokens_append_sep ..
  simpa using split

theorem tokens_word {word : List α} (isWord : IsWord sep word) : tokens sep word = [word] := by
  simp [tokens, List.splitOn_eq_singleton isWord.2, isWord.1]

theorem tokens_blank (count : Nat) (text : List α) :
    tokens sep (List.replicate count sep ++ text) = tokens sep text := by
  induction count with
  | zero => rfl
  | succ count ih => rw [List.replicate_succ, List.cons_append, tokens_sep, ih]

theorem tokens_append_blank (text : List α) (count : Nat) :
    tokens sep (text ++ List.replicate count sep) = tokens sep text := by
  cases count with
  | zero => simp
  | succ count =>
      have rest : tokens sep (List.replicate count sep ++ []) = tokens sep [] := tokens_blank ..
      rw [List.append_nil, tokens_nil] at rest
      rw [List.replicate_succ, tokens_append_sep, rest, List.append_nil]

theorem mem_of_mem_splitOn {text word : List α} (member : word ∈ text.splitOn sep) {c : α}
    (inside : c ∈ word) : c ∈ text := by
  induction text generalizing word with
  | nil =>
      rw [List.splitOn_nil, List.mem_singleton] at member
      rwa [member] at inside
  | cons first rest ih =>
      rw [List.splitOn_cons_eq_if_modifyHead] at member
      obtain ⟨head, others, split⟩ := List.exists_cons_of_ne_nil (List.splitOn_ne_nil sep rest)
      have fromRest {word : List α} (member : word ∈ head :: others) (inside : c ∈ word) :
          c ∈ rest := ih (split ▸ member) inside
      split at member
      · rcases List.mem_cons.mp member with rfl | later
        · cases inside
        · exact List.mem_cons_of_mem _ (ih later inside)
      · rw [split, List.modifyHead_cons] at member
        rcases List.mem_cons.mp member with rfl | later
        · rcases List.mem_cons.mp inside with rfl | further
          · exact List.mem_cons_self ..
          · exact List.mem_cons_of_mem _ (fromRest (List.mem_cons_self ..) further)
        · exact List.mem_cons_of_mem _ (fromRest (List.mem_cons_of_mem _ later) inside)

/-- What a word is made of stands in the text. -/
theorem mem_of_mem_tokens {text word : List α} (member : word ∈ tokens sep text) {c : α}
    (inside : c ∈ word) : c ∈ text :=
  mem_of_mem_splitOn (List.mem_filter.mp member).1 inside

/-- The words with `between i + 1` separators behind the word at `i`, and none behind
the last. -/
def join (sep : α) (between : Nat → Nat) : List (List α) → List α
  | [] => []
  | [word] => word
  | word :: word' :: rest =>
      word ++ List.replicate (between 0 + 1) sep ++
        join sep (fun i => between (i + 1)) (word' :: rest)

/-- What was joined is read back, whatever the gaps. -/
theorem tokens_join {words : List (List α)} (areWords : ∀ word ∈ words, IsWord sep word)
    (between : Nat → Nat) (before after : Nat) :
    tokens sep (List.replicate before sep ++ join sep between words ++
      List.replicate after sep) = words := by
  rw [tokens_append_blank, tokens_blank]
  induction words generalizing between with
  | nil => exact tokens_nil
  | cons word rest ih =>
      have isWord := areWords word (List.mem_cons_self ..)
      cases rest with
      | nil => exact tokens_word isWord
      | cons word' rest =>
          have tail := ih (fun w member => areWords w (List.mem_cons_of_mem _ member))
            (fun i => between (i + 1))
          rw [join, List.replicate_succ, List.append_assoc, List.cons_append, tokens_append_sep,
            tokens_word isWord, tokens_blank, tail]
          rfl

/-- How many words begin in a text: places that are no separator and stand first or
behind one. `inside` says that the character before belongs to a word. -/
def starts (sep : α) : Bool → List α → Nat
  | _, [] => 0
  | inside, c :: rest =>
      if c = sep then starts sep false rest
      else (if inside then 0 else 1) + starts sep true rest

/-- The word that the text is in the middle of is the first one that splitting gives. -/
theorem starts_splitOn (inside : Bool) (text : List α) :
    starts sep inside text =
      ((if inside then (text.splitOn sep).tail else text.splitOn sep).filter
        (!·.isEmpty)).length := by
  induction text generalizing inside with
  | nil => cases inside <;> simp [starts]
  | cons c rest ih =>
      rw [List.splitOn_cons_eq_if_modifyHead]
      by_cases separator : c = sep
      · cases inside <;> simp [starts, separator, ih]
      · obtain ⟨first, others, split⟩ := List.exists_cons_of_ne_nil (List.splitOn_ne_nil sep rest)
        cases inside <;> simp [starts, separator, ih, split, Nat.add_comm]

theorem length_tokens (text : List α) : (tokens sep text).length = starts sep false text := by
  rw [starts_splitOn]
  rfl

end Words
