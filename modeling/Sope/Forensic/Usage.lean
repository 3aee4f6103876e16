import Sope.Forensic.Arguments

set_option autoImplicit false

/- The roles of the arguments. `parse_arguments` passes over what it does not know, and
`main` takes the path from a place near the end, whatever stands there. -/
namespace Sope.Forensic

open Banking Words

def Parsing.roles (parsing : Parsing) : List Role := parsing.passed.map Prod.snd

/-- The index in `argv` from which `main` takes `filepath`. -/
def pathAt (parsing : Parsing) : Nat :=
  let argc := parsing.passed.length + 1
  if parsing.options.macMode then argc - 2 else argc - 1

/-- Each argument behind the program's name is an option word, an operand or the path,
and only one of these: the one that the loop passes over is the path. -/
structure OneRole (parsing : Parsing) : Prop where
  isArgument : 1 ≤ pathAt parsing
  one : ∀ (i : Nat) (role : Role), parsing.roles[i]? = some role →
    (role = .passedOver ↔ i + 1 = pathAt parsing)

/-- What stands behind the options, and their operands, that the arguments begin with. -/
def behindOptions : List CString → List CString
  | [] => []
  | arg :: rest =>
      if arg = rWord ∨ arg = vWord then behindOptions rest
      else if arg = hWord ∨ arg = oWord then
        match rest with
        | [] => []
        | _ :: more => behindOptions more
      else arg :: rest

/-- One argument stands behind the options, and `-mac` at most behind that. -/
def OnePath (args : List CString) : Prop :=
  ∃ path, path ≠ macWord ∧ (behindOptions args = [path] ∨ behindOptions args = [path, macWord])

/-- An element stands at one place only. -/
theorem only_at_iff {α : Type} {a : α} {l : List α} {j : Nat} (inside : j < l.length) :
    (∀ (i : Nat) (x : α), l[i]? = some x → (x = a ↔ i = j)) ↔
      ∃ front back, l = front ++ a :: back ∧ front.length = j ∧ a ∉ front ∧ a ∉ back := by
  constructor
  · intro only
    have here : l[j] = a := (only j l[j] (List.getElem?_eq_getElem inside)).mpr rfl
    refine ⟨l.take j, l.drop (j + 1), ?_, ?_, ?_, ?_⟩
    · rw [← here, List.getElem_cons_drop, List.take_append_drop]
    · rw [List.length_take]
      omega
    · intro member
      obtain ⟨i, there⟩ := List.getElem?_of_mem member
      rw [List.getElem?_take] at there
      split at there
      · rename_i before
        have same := (only i a there).mp rfl
        omega
      · cases there
    · intro member
      obtain ⟨i, there⟩ := List.getElem?_of_mem member
      rw [List.getElem?_drop] at there
      have same := (only _ a there).mp rfl
      omega
  · rintro ⟨front, back, rfl, rfl, notFront, notBack⟩ i x there
    constructor
    · rintro rfl
      rcases Nat.lt_trichotomy i front.length with before | same | behind
      · rw [List.getElem?_append_left before] at there
        exact absurd (List.mem_of_getElem? there) notFront
      · exact same
      · rw [List.getElem?_append_right (Nat.le_of_lt behind),
          List.getElem?_cons, if_neg (by omega)] at there
        exact absurd (List.mem_of_getElem? there) notBack
    · rintro rfl
      rw [List.getElem?_append_right (Nat.le_refl _), Nat.sub_self, List.getElem?_cons_zero]
        at there
      exact (Option.some.inj there).symm

/-- One argument is passed over, and behind it stands `-mac` or nothing. -/
def PathLast (mac : Bool) (roles : List Role) : Prop :=
  ∃ front back, roles = front ++ .passedOver :: back ∧ .passedOver ∉ front ∧
    .passedOver ∉ back ∧ back.length = if mac then 1 else 0

theorem pathLast_iff {mac : Bool} {roles : List Role} {place : Nat}
    (count : place + (if mac then 1 else 0) = roles.length) :
    (1 ≤ place ∧ ∀ (i : Nat) (role : Role), roles[i]? = some role →
      (role = .passedOver ↔ i + 1 = place)) ↔ PathLast mac roles := by
  constructor
  · rintro ⟨positive, one⟩
    have inside : place - 1 < roles.length := by omega
    have only : ∀ (i : Nat) (role : Role), roles[i]? = some role →
        (role = .passedOver ↔ i = place - 1) := by
      intro i role there
      rw [one i role there]
      omega
    obtain ⟨front, back, rfl, length, notFront, notBack⟩ := (only_at_iff inside).mp only
    refine ⟨front, back, rfl, notFront, notBack, ?_⟩
    rw [List.length_append, List.length_cons] at count
    omega
  · rintro ⟨front, back, rfl, notFront, notBack, length⟩
    rw [List.length_append, List.length_cons] at count
    have here : front.length + 1 = place := by omega
    have inside : front.length < (front ++ Role.passedOver :: back).length := by
      rw [List.length_append, List.length_cons]
      omega
    refine ⟨by omega, fun i role there => ?_⟩
    have only := (only_at_iff inside).mpr ⟨front, back, rfl, rfl, notFront, notBack⟩ i role there
    rw [only]
    omega

theorem oneRole_iff (parsing : Parsing)
    (full : parsing.options.macMode = true → parsing.passed ≠ []) :
    OneRole parsing ↔ PathLast parsing.options.macMode parsing.roles := by
  have count : pathAt parsing + (if parsing.options.macMode then 1 else 0) =
      parsing.roles.length := by
    unfold pathAt Parsing.roles
    rw [List.length_map]
    cases mac : parsing.options.macMode with
    | false => simp
    | true =>
        have some := List.length_pos_iff.mpr (full mac)
        simp only [↓reduceIte]
        omega
  rw [← pathLast_iff count]
  exact ⟨fun ⟨positive, one⟩ => ⟨positive, one⟩, fun ⟨positive, one⟩ => ⟨positive, one⟩⟩

section Loop

variable {parsing parsing' : Parsing} {args rest : List CString} {parsed : Parsed} {mac : Bool}
  {roles : List Role}

theorem pathLast_nil : ¬ PathLast mac [] := by
  rintro ⟨front, back, split, -⟩
  cases front <;> cases split

/-- An argument that is no path may stand before. -/
theorem pathLast_cons {role : Role} (other : role ≠ .passedOver) :
    PathLast mac (role :: roles) ↔ PathLast mac roles := by
  constructor
  · rintro ⟨_ | ⟨first, front⟩, back, split, notFront, rest⟩
    · cases split
      exact absurd rfl other
    · cases split
      exact ⟨front, back, rfl, fun member => notFront (List.mem_cons_of_mem _ member), rest⟩
  · rintro ⟨front, back, rfl, notFront, rest⟩
    refine ⟨role :: front, back, rfl, ?_, rest⟩
    rw [List.mem_cons, not_or]
    exact ⟨Ne.symm other, notFront⟩

theorem pathLast_optionWord : PathLast mac (.optionWord :: roles) ↔ PathLast mac roles :=
  pathLast_cons nofun

theorem pathLast_operand : PathLast mac (.operand :: roles) ↔ PathLast mac roles :=
  pathLast_cons nofun

theorem pathLast_path :
    PathLast mac (.passedOver :: roles) ↔
      .passedOver ∉ roles ∧ roles.length = if mac then 1 else 0 := by
  constructor
  · rintro ⟨_ | ⟨first, front⟩, back, split, notFront, notBack, length⟩
    · cases split
      exact ⟨notBack, length⟩
    · cases split
      exact absurd List.mem_cons_self notFront
  · rintro ⟨notBack, length⟩
    exact ⟨[], roles, rfl, List.not_mem_nil, notBack, length⟩

/-- Where one argument is left, only `-mac` sets the mode. -/
theorem Reads.macMode_one {arg : CString} (reads : Reads parsing [arg] parsed)
    (returned : parsed = .returns parsing') (notYet : parsing.options.macMode = false) :
    parsing'.options.macMode = true ↔ arg = macWord := by
  cases reads with
  | word parsing arg rest parsed plain later =>
      cases later with
      | done =>
          cases returned
          have other : arg ≠ macWord := fun same => plain (by simp [same])
          simp [Parsing.read, notYet, other]
      | fault => cases returned
  | mac =>
      cases returned
      exact ⟨fun _ => rfl, fun _ => rfl⟩
  | fault => cases returned

/-- Behind the path nothing may stand but `-mac`. -/
theorem Reads.behind_path (reads : Reads parsing rest parsed)
    (returned : parsed = .returns parsing') (notYet : parsing.options.macMode = false) :
    (.passedOver ∉ (passes rest).map Prod.snd ∧
        ((passes rest).map Prod.snd).length = if parsing'.options.macMode then 1 else 0) ↔
      rest = [] ∨ rest = [macWord] := by
  rw [List.length_map, length_passes]
  constructor
  · rintro ⟨-, length⟩
    split at length
    · rename_i mac
      obtain ⟨arg, rfl⟩ := List.length_eq_one_iff.mp length
      rw [(reads.macMode_one returned notYet).mp mac]
      exact .inr rfl
    · exact .inl (List.eq_nil_of_length_eq_zero length)
  · rintro (rfl | rfl)
    · cases reads with
      | done =>
          cases returned
          rw [notYet]
          exact ⟨List.not_mem_nil, rfl⟩
      | fault => cases returned
    · rw [if_pos ((reads.macMode_one returned notYet).mpr rfl)]
      exact ⟨by decide, rfl⟩

theorem onePath_word {arg : CString} (word : arg = rWord ∨ arg = vWord) :
    OnePath (arg :: rest) ↔ OnePath rest := by
  have behind : behindOptions (arg :: rest) = behindOptions rest := by
    rw [behindOptions.eq_def]
    dsimp only
    rw [if_pos word]
  rw [OnePath, OnePath, behind]

theorem onePath_path {arg : CString} (other : arg ∉ optionWords) :
    OnePath (arg :: rest) ↔ rest = [] ∨ rest = [macWord] := by
  simp only [optionWords, List.mem_cons, List.not_mem_nil, or_false, not_or] at other
  obtain ⟨notR, notH, notV, notO, notMac⟩ := other
  have behind : behindOptions (arg :: rest) = arg :: rest := by
    rw [behindOptions.eq_def]
    dsimp only
    rw [if_neg (by simp [notR, notV]), if_neg (by simp [notH, notO])]
  unfold OnePath
  rw [behind]
  constructor
  · rintro ⟨path, -, same | same⟩
    · exact .inl (List.cons.inj same).2
    · exact .inr (List.cons.inj same).2
  · rintro (rfl | rfl)
    · exact ⟨arg, notMac, .inl rfl⟩
    · exact ⟨arg, notMac, .inr rfl⟩

/-- One argument is passed over, where it should be, exactly if one path stands behind the
options. -/
theorem Reads.pathLast_iff (reads : Reads parsing args parsed)
    (returned : parsed = .returns parsing') (notYet : parsing.options.macMode = false) :
    PathLast parsing'.options.macMode ((passes args).map Prod.snd) ↔ OnePath args := by
  induction reads with
  | done parsing =>
      refine iff_of_false pathLast_nil ?_
      rintro ⟨path, -, none | none⟩ <;> cases none
  | word parsing arg rest parsed plain later ih =>
      have notYet' : (parsing.options.word arg).macMode = false := by
        rw [Options.word_macMode, notYet]
      rw [passes_word plain, List.map_cons]
      dsimp only
      by_cases option : arg ∈ optionWords
      · have role : wordRole arg = .optionWord := if_pos option
        have word : arg = rWord ∨ arg = vWord := by
          simp only [optionWords, List.mem_cons, List.not_mem_nil, or_false, not_or] at option plain
          tauto
        rw [role, pathLast_optionWord, ih returned notYet']
        rw [onePath_word word]
      · have role : wordRole arg = .passedOver := if_neg option
        rw [role, pathLast_path, later.behind_path returned notYet', onePath_path option]
  | hash parsing list path rest parsed hashmode accepted later ih =>
      have roles : (passes (hWord :: list :: path :: rest)).map Prod.snd =
          .optionWord :: .operand :: (passes (path :: rest)).map Prod.snd := rfl
      rw [roles, pathLast_optionWord, pathLast_operand, ih returned notYet]
      rfl
  | output parsing file path rest parsed later ih =>
      have roles : (passes (oWord :: file :: path :: rest)).map Prod.snd =
          .optionWord :: .operand :: (passes (path :: rest)).map Prod.snd := rfl
      rw [roles, pathLast_optionWord, pathLast_operand, ih returned notYet]
      rfl
  | mac parsing =>
      have roles : (passes [macWord]).map Prod.snd = [.optionWord] := rfl
      rw [roles, pathLast_optionWord]
      refine iff_of_false pathLast_nil ?_
      rintro ⟨path, other, same | same⟩
      · exact other (List.cons.inj same).1.symm
      · exact other (List.cons.inj same).1.symm
  | fault parsing args message faulty => cases returned

end Loop

/-- Where `parse_arguments` returns, every argument has one role exactly if one path stands
behind the options. -/
theorem one_role_iff (args : List CString) (files : Finset CString) {parsing : Parsing}
    (returned : parseArguments initialOptions args files = .returns parsing) :
    OneRole parsing ↔ OnePath args := by
  obtain ⟨some, reads⟩ := reads_of_returns returned
  have passed := passed_of_returns returned
  have full : parsing.passed ≠ [] := by
    rw [passed]
    exact List.ne_nil_of_length_pos (length_passes args ▸ List.length_pos_iff.mpr some)
  rw [oneRole_iff parsing fun _ => full, Parsing.roles, passed]
  exact reads.pathLast_iff rfl rfl

/-- `forensic a b`: nothing is done about `a`. -/
theorem twoPaths_not_one_role :
    ∃ parsing, parseArguments initialOptions [['a'], ['b']] ∅ = .returns parsing ∧
      ¬ OneRole parsing := by
  refine ⟨_, rfl, fun right => ?_⟩
  have isPath := (right.one 0 .passedOver rfl).mp rfl
  cases isPath

theorem recursive_one_role_iff :
    ∃ parsing, parseArguments initialOptions [rWord, ['a']] ∅ = .returns parsing ∧
      (OneRole parsing ↔ OnePath [rWord, ['a']]) :=
  ⟨_, rfl, one_role_iff [rWord, ['a']] ∅ rfl⟩

end Sope.Forensic
