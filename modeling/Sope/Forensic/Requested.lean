import Sope.Forensic.Analysed
import Sope.Forensic.Launch

set_option autoImplicit false

/- What -r asks for and what is analysed: `r_command` is recorded and never read. -/
namespace Sope.Forensic

open Machine Banking

/-- -r is read as an option. -/
def RGiven (args : List CString) : Prop := (rWord, Role.optionWord) ∈ passes args

instance (args : List CString) : Decidable (RGiven args) := inferInstanceAs (Decidable (_ ∈ _))

/-- The files directly inside a directory. -/
def Entries.direct (filepath : CString) : Entries → List File
  | .done => []
  | .file name stat rest => ⟨entryPath filepath name, stat⟩ :: rest.direct filepath
  | .failed rest | .other _ rest | .dir _ _ rest => rest.direct filepath

/-- The files that -r asks for, or its absence. -/
def requested (recursive : Prop) [Decidable recursive] (filepath : CString) (inside : Entries) :
    List File :=
  if recursive then inside.held filepath else inside.direct filepath

/-- The name of an entry holds no separator of paths. -/
def Entries.WellNamed : Entries → Prop
  | .done => True
  | .failed rest => rest.WellNamed
  | .file name _ rest | .other name rest => '/' ∉ name ∧ rest.WellNamed
  | .dir name inside rest => '/' ∉ name ∧ inside.WellNamed ∧ rest.WellNamed

section Loop

variable {parsing parsing' : Parsing} {args : List CString} {parsed : Parsed}

theorem rGiven_word {arg : CString} (plain : arg ∉ [hWord, oWord, macWord])
    (rest : List CString) : RGiven (arg :: rest) ↔ arg = rWord ∨ RGiven rest := by
  unfold RGiven
  rw [passes_word plain, List.mem_cons, Prod.mk.injEq]
  constructor
  · rintro (⟨same, -⟩ | later)
    · exact .inl same.symm
    · exact .inr later
  · rintro (rfl | later)
    · exact .inl ⟨rfl, by decide⟩
    · exact .inr later

/-- An operand is not read as an option. -/
theorem rGiven_operand {option : CString} (other : option = hWord ∨ option = oWord)
    (operand : CString) (rest : List CString) :
    RGiven (option :: operand :: rest) ↔ RGiven rest := by
  have words : (rWord, Role.optionWord) ≠ (hWord, .optionWord) ∧
      (rWord, Role.optionWord) ≠ (oWord, .optionWord) := by decide
  rcases other with rfl | rfl
  · have split : passes (hWord :: operand :: rest) =
        (hWord, .optionWord) :: (cutList operand, .operand) :: passes rest := rfl
    simp [RGiven, split, words.1]
  · have split : passes (oWord :: operand :: rest) =
        (oWord, .optionWord) :: (operand, .operand) :: passes rest := rfl
    simp [RGiven, split, words.2]

/-- The loop records -r wherever it reads it. -/
theorem Reads.rCommand (reads : Reads parsing args parsed) (returned : parsed = .returns parsing') :
    parsing'.options.rCommand = true ↔ parsing.options.rCommand = true ∨ RGiven args := by
  induction reads with
  | done parsing =>
      cases returned
      simp [RGiven, Forensic.passes]
  | word parsing arg rest parsed plain later ih =>
      rw [ih returned, rGiven_word plain]
      unfold Options.word Parsing.read
      split
      · simp_all
      · split <;> simp_all
  | hash parsing list path rest parsed hashmode accepted later ih =>
      rw [ih returned, rGiven_operand (.inl rfl)]
      rfl
  | output parsing file path rest parsed later ih =>
      rw [ih returned, rGiven_operand (.inr rfl)]
      rfl
  | mac parsing =>
      cases returned
      have none : ¬ RGiven [macWord] := by decide
      simp [none, Parsing.read]
  | fault parsing args message faulty => cases returned

end Loop

theorem launch_rCommand {startup : Startup} {argv0 : CString} {args : List CString}
    {files remaining : Finset CString} {options : Options} {filepath log : CString}
    (launched : launch startup argv0 args files = .analyzes options filepath remaining log) :
    options.rCommand = true ↔ RGiven args := by
  unfold launch at launched
  split at launched
  · cases launched
  · rename_i parsing accepted
    have recorded : parsing.options.rCommand = true ↔ RGiven args := by
      have loop := (reads_of_returns accepted).2.rCommand rfl
      simpa [initialOptions] using loop
    dsimp only at launched
    split at launched
    · split at launched
      · cases launched
      · split at launched
        · cases launched
          exact recorded
        · cases launched
    · cases launched
      exact recorded

section Trees

variable (returns : File → Bool)

/-- The files directly inside that are reached. -/
def Entries.directReached (filepath : CString) : Entries → List File
  | .done | .failed _ => []
  | .file name stat rest =>
      ⟨entryPath filepath name, stat⟩ ::
        if returns ⟨entryPath filepath name, stat⟩ then rest.directReached filepath else []
  | .other _ rest | .dir _ _ rest => rest.directReached filepath

/-- The files below the subdirectories that are reached. -/
def Entries.deepReached (filepath : CString) : Entries → List File
  | .done | .failed _ => []
  | .file name stat rest =>
      if returns ⟨entryPath filepath name, stat⟩ then rest.deepReached filepath else []
  | .other _ rest => rest.deepReached filepath
  | .dir name inside rest =>
      (if isHidden name then [] else inside.reached returns (entryPath filepath name)) ++
        rest.deepReached filepath

/-- In the directories that are entered, no file is held, there or below, behind a call of
`opendir` or `stat` that fails or behind a file on which `analyze_file` does not return. -/
def Entries.NoneBehind (filepath : CString) : Entries → Prop
  | .done => True
  | .failed rest => rest.held filepath = []
  | .file name stat rest =>
      (returns ⟨entryPath filepath name, stat⟩ = true ∨ rest.held filepath = []) ∧
        rest.NoneBehind filepath
  | .other _ rest => rest.NoneBehind filepath
  | .dir name inside rest =>
      (isHidden name = true ∨ inside.NoneBehind (entryPath filepath name)) ∧
        rest.NoneBehind filepath

/-- No file directly inside the directory is listed behind such a call or such a file. -/
def Entries.NoneDirectBehind (filepath : CString) : Entries → Prop
  | .done => True
  | .failed rest => rest.direct filepath = []
  | .file name stat rest =>
      (returns ⟨entryPath filepath name, stat⟩ = true ∨ rest.direct filepath = []) ∧
        rest.NoneDirectBehind filepath
  | .other _ rest | .dir _ _ rest => rest.NoneDirectBehind filepath

theorem Entries.reached_sublist (entries : Entries) (filepath : CString) :
    (entries.reached returns filepath).Sublist (entries.held filepath) := by
  induction entries generalizing filepath with
  | done => exact .refl _
  | failed rest => exact List.nil_sublist _
  | file name stat rest ih =>
      rw [Entries.reached, Entries.held]
      apply List.Sublist.cons_cons
      split
      · exact ih filepath
      · exact List.nil_sublist _
  | other name rest ih => exact ih filepath
  | dir name inside rest ihInside ihRest =>
      rw [Entries.reached, Entries.held]
      refine List.Sublist.append ?_ (ihRest filepath)
      split
      · exact .refl _
      · exact ihInside _

theorem Entries.directReached_sublist (entries : Entries) (filepath : CString) :
    (entries.directReached returns filepath).Sublist (entries.direct filepath) := by
  induction entries with
  | done => exact .refl _
  | failed rest => exact List.nil_sublist _
  | file name stat rest ih =>
      rw [Entries.directReached, Entries.direct]
      apply List.Sublist.cons_cons
      split
      · exact ih
      · exact List.nil_sublist _
  | other name rest ih => exact ih
  | dir name inside rest _ ih => exact ih

variable {returns} {filepath : CString}

/-- Two parts of which none is longer than it should be. -/
theorem append_eq_iff_of_sublist {α : Type} {front front' back back' : List α}
    (shorter : front.Sublist front') (shorter' : back.Sublist back') :
    front ++ back = front' ++ back' ↔ front = front' ∧ back = back' := by
  constructor
  · intro same
    have lengths := congrArg List.length same
    rw [List.length_append, List.length_append] at lengths
    have less := shorter.length_le
    have less' := shorter'.length_le
    exact List.append_inj same (by omega)
  · rintro ⟨rfl, rfl⟩
    rfl

/-- All files are reached exactly if none is held behind what ends its process. -/
theorem Entries.reached_eq_held_iff (entries : Entries) (filepath : CString) :
    entries.reached returns filepath = entries.held filepath ↔
      entries.NoneBehind returns filepath := by
  induction entries generalizing filepath with
  | done => exact iff_of_true rfl trivial
  | failed rest => exact eq_comm
  | file name stat rest ih =>
      rw [Entries.reached, Entries.held, Entries.NoneBehind, List.cons_inj_right]
      by_cases back : returns ⟨entryPath filepath name, stat⟩ = true
      · rw [if_pos back, ih]
        exact ⟨fun none => ⟨.inl back, none⟩, fun both => both.2⟩
      · rw [if_neg back]
        constructor
        · intro nothing
          refine ⟨.inr nothing.symm, (ih filepath).mp ?_⟩
          have shorter := rest.reached_sublist returns filepath
          rw [← nothing] at shorter ⊢
          exact List.eq_nil_of_sublist_nil shorter
        · rintro ⟨here | nothing, -⟩
          · exact absurd here back
          · exact nothing.symm
  | other name rest ih => exact ih filepath
  | dir name inside rest ihInside ihRest =>
      rw [Entries.reached, Entries.held, Entries.NoneBehind,
        append_eq_iff_of_sublist _ (rest.reached_sublist returns filepath), ihRest]
      · cases hidden : isHidden name with
        | true => simp
        | false => simp [ihInside]
      · split
        · exact .refl _
        · exact inside.reached_sublist returns _

/-- The files directly inside are reached exactly if none of them is listed behind what
ends the process. -/
theorem Entries.directReached_eq_iff (entries : Entries) (filepath : CString) :
    entries.directReached returns filepath = entries.direct filepath ↔
      entries.NoneDirectBehind returns filepath := by
  induction entries with
  | done => exact iff_of_true rfl trivial
  | failed rest => exact eq_comm
  | file name stat rest ih =>
      rw [Entries.directReached, Entries.direct, Entries.NoneDirectBehind, List.cons_inj_right]
      by_cases back : returns ⟨entryPath filepath name, stat⟩ = true
      · rw [if_pos back, ih]
        exact ⟨fun none => ⟨.inl back, none⟩, fun both => both.2⟩
      · rw [if_neg back]
        constructor
        · intro nothing
          refine ⟨.inr nothing.symm, ih.mp ?_⟩
          have shorter := rest.directReached_sublist returns filepath
          rw [← nothing] at shorter ⊢
          exact List.eq_nil_of_sublist_nil shorter
        · rintro ⟨here | nothing, -⟩
          · exact absurd here back
          · exact nothing.symm
  | other name rest ih => exact ih
  | dir name inside rest _ ih => exact ih

/-- What is reached lies directly inside or below. -/
theorem Entries.reached_split (entries : Entries) (filepath : CString) :
    (entries.reached returns filepath : Multiset File) =
      entries.directReached returns filepath + entries.deepReached returns filepath := by
  induction entries with
  | done | failed => rfl
  | file name stat rest ih =>
      rw [Entries.reached, Entries.directReached, Entries.deepReached, ← Multiset.cons_coe,
        ← Multiset.cons_coe, Multiset.cons_add]
      congr 1
      split
      · exact ih
      · rfl
  | other name rest ih => exact ih
  | dir name inside rest _ ih =>
      rw [Entries.reached, Entries.directReached, Entries.deepReached, ← Multiset.coe_add, ih,
        ← Multiset.coe_add, add_left_comm]

theorem Entries.name_of_mem_direct {entries : Entries} (named : entries.WellNamed) {file : File}
    (member : file ∈ entries.direct filepath) :
    ∃ name, '/' ∉ name ∧ file.path = entryPath filepath name := by
  induction entries with
  | done => cases member
  | failed rest ih => exact ih named member
  | file name stat rest ih =>
      rcases List.mem_cons.mp member with rfl | later
      · exact ⟨name, named.1, rfl⟩
      · exact ih named.2 later
  | other name rest ih => exact ih named.2 member
  | dir name inside rest _ ih => exact ih named.2.2 member

theorem Entries.path_of_mem_deepReached {entries : Entries} {file : File}
    (member : file ∈ entries.deepReached returns filepath) :
    ∃ directory name, file.path = entryPath (entryPath filepath directory) name := by
  induction entries with
  | done | failed => cases member
  | file name stat rest ih =>
      rw [Entries.deepReached] at member
      split at member
      · exact ih member
      · cases member
  | other name rest ih => exact ih member
  | dir name inside rest _ ih =>
      rcases List.mem_append.mp member with below | later
      · split at below
        · cases below
        · have held := (inside.reached_sublist returns _).subset below
          exact ⟨name, Entries.path_of_mem held⟩
      · exact ih later

/-- No file lies both directly inside and below. -/
theorem Entries.disjoint {entries : Entries} (named : entries.WellNamed) {file : File}
    (direct : file ∈ entries.direct filepath) : file ∉ entries.deepReached returns filepath := by
  intro deep
  obtain ⟨name, noSlash, path⟩ := Entries.name_of_mem_direct named direct
  obtain ⟨directory, name', path'⟩ := Entries.path_of_mem_deepReached deep
  rw [path] at path'
  have split : entryPath (entryPath filepath directory) name' =
      entryPath filepath (directory ++ '/' :: name') := by
    simp [entryPath]
  rw [split] at path'
  have same : name = directory ++ '/' :: name' := by simpa [entryPath] using path'
  apply noSlash
  rw [same]
  exact List.mem_append_right _ List.mem_cons_self

end Trees

/-- A run analyses what the command line asks for: the files of the whole tree with -r,
and without it those directly inside the directory. -/
structure AsRequested (options : Options) (args : List CString) (filepath : CString)
    (inside : Entries) (events : List ForensicEvent) : Prop where
  recorded : options.rCommand = true ↔ RGiven args
  analyses : (events.filterMap analysed).Perm (requested (RGiven args) filepath inside)

/-- With -r no file is held behind what ends its process, and none is lost. Without it none
directly inside is listed behind such an entry, and what is reached below is lost. -/
def Fulfilled (recursive : Prop) [Decidable recursive] (returns : File → Bool)
    (filepath : CString) (inside : Entries) (lost : List File) : Prop :=
  if recursive then inside.NoneBehind returns filepath ∧ lost = []
  else
    inside.NoneDirectBehind returns filepath ∧
      lost.Perm (inside.deepReached returns filepath)

section Requests

variable {returns : File → Bool} {filepath : CString} {inside : Entries} {found lost : List File}

/-- The whole tree is found exactly if all of it is reached and nothing is lost. -/
theorem found_all_iff (split : (found : Multiset File) + lost = inside.reached returns filepath) :
    found.Perm (inside.held filepath) ↔ inside.NoneBehind returns filepath ∧ lost = [] := by
  rw [← Entries.reached_eq_held_iff]
  constructor
  · intro all
    have shorter := inside.reached_sublist returns filepath
    have count := congrArg Multiset.card split
    rw [Multiset.card_add, Multiset.coe_card, Multiset.coe_card, Multiset.coe_card,
      all.length_eq] at count
    have less := shorter.length_le
    exact ⟨shorter.eq_of_length (by omega), List.eq_nil_of_length_eq_zero (by omega)⟩
  · rintro ⟨all, rfl⟩
    rwa [Multiset.coe_nil, add_zero, Multiset.coe_eq_coe, all] at split

/-- The files directly inside are found, and no others, exactly if all of them are reached
and those below are lost. -/
theorem found_direct_iff (named : inside.WellNamed)
    (split : (found : Multiset File) + lost = inside.reached returns filepath) :
    found.Perm (inside.direct filepath) ↔
      inside.NoneDirectBehind returns filepath ∧
        lost.Perm (inside.deepReached returns filepath) := by
  rw [← Entries.directReached_eq_iff]
  rw [Entries.reached_split] at split
  constructor
  · intro direct
    rw [Multiset.coe_eq_coe.mpr direct] at split
    -- a file directly inside is none of those below
    have covered : (inside.direct filepath : Multiset File) ≤
        inside.directReached returns filepath := by
      rw [Multiset.le_iff_count]
      intro file
      by_cases member : file ∈ inside.direct filepath
      · have none : Multiset.count file (inside.deepReached returns filepath) = 0 :=
          Multiset.count_eq_zero_of_notMem (Entries.disjoint named member)
        have counts := congrArg (Multiset.count file) split
        rw [Multiset.count_add, Multiset.count_add, none, add_zero] at counts
        exact counts ▸ Nat.le_add_right _ _
      · rw [Multiset.count_eq_zero_of_notMem member]
        exact Nat.zero_le _
    have all := (inside.directReached_sublist returns filepath).eq_of_length_le
      (Multiset.card_le_card covered)
    rw [all] at split
    exact ⟨all, Multiset.coe_eq_coe.mp (add_left_cancel split)⟩
  · rintro ⟨all, below⟩
    rw [Multiset.coe_eq_coe.mpr below, all] at split
    exact Multiset.coe_eq_coe.mp (add_right_cancel split)

theorem requested_iff (recursive : Prop) [Decidable recursive] (named : inside.WellNamed)
    (split : (found : Multiset File) + lost = inside.reached returns filepath) :
    found.Perm (requested recursive filepath inside) ↔
      Fulfilled recursive returns filepath inside lost := by
  unfold requested Fulfilled
  split
  · exact found_all_iff split
  · exact found_direct_iff named split

end Requests

section Runs

variable {tools : Tools} {inside : Entries} {labels : List Label} {events : List ForensicEvent}
  {world : World}

/-- When all processes have ended, the run has analysed what its command line asks for
exactly if the tree and the files that failed forks and reads cut short leave out fulfil the
condition for it. -/
theorem analyses_requested_iff (startup : Startup) (argv0 : CString) (args : List CString)
    (files : Finset CString) {options : Options} {filepath log : CString}
    {remainingFiles : Finset CString}
    (launched : launch startup argv0 args files =
      .analyzes options filepath remainingFiles log)
    (named : inside.WellNamed)
    (ran : forensic options tools filepath (.dir inside) labels = some (events, world))
    (ended : ∀ proc ∈ world.procs, proc.alive = false) :
    AsRequested options args filepath inside events ↔
      Fulfilled (RGiven args) (hasRecord options tools) filepath inside
        (events.flatMap (leftOut options tools)) := by
  have split := forensic_analysed_or_lost ran ended
  have recorded := launch_rCommand launched
  rw [← requested_iff (RGiven args) named split]
  exact ⟨fun right => right.analyses, fun analyses => ⟨recorded, analyses⟩⟩

end Runs

/-- A directory with a subdirectory, in which the only file lies. -/
def nestedTree : Entries := .dir ['d'] (.file ['b'] sampleStat .done) .done

def nestedRun : List Label := turns 0 3 ++ turns 1 6 ++ turns 0 3

/-- `forensic t` analyses the file in the subdirectory, though -r is not given. -/
theorem nestedRun_not_requested :
    ∃ events world,
      launch sampleStartup ['f'] [['t']] ∅ = .analyzes initialOptions ['t'] ∅ [] ∧
      forensic initialOptions sampleTools ['t'] (.dir nestedTree) nestedRun =
        some (events, world) ∧
      (∀ proc ∈ world.procs, proc.alive = false) ∧
      ¬ AsRequested initialOptions [['t']] ['t'] nestedTree events := by
  obtain ⟨events, world, ran, ended, files⟩ : ∃ events world,
      forensic initialOptions sampleTools ['t'] (.dir nestedTree) nestedRun =
        some (events, world) ∧
      world.procs.all (fun proc => !proc.alive) = true ∧
      events.filterMap analysed = [⟨['t', '/', 'd', '/', 'b'], sampleStat⟩] :=
    ⟨_, _, rfl, rfl, rfl⟩
  refine ⟨events, world, rfl, ran, all_ended ended, fun right => ?_⟩
  have count := right.analyses.length_eq
  rw [files] at count
  exact absurd count (by decide)

theorem nestedRun_requested_iff :
    ∃ events world,
      forensic initialOptions sampleTools ['t'] (.dir nestedTree) nestedRun =
        some (events, world) ∧
      (AsRequested initialOptions [['t']] ['t'] nestedTree events ↔
        Fulfilled (RGiven [['t']]) (hasRecord initialOptions sampleTools) ['t'] nestedTree
          (events.flatMap (leftOut initialOptions sampleTools))) := by
  obtain ⟨events, world, ran, ended⟩ : ∃ events world,
      forensic initialOptions sampleTools ['t'] (.dir nestedTree) nestedRun =
        some (events, world) ∧
      world.procs.all (fun proc => !proc.alive) = true := ⟨_, _, rfl, rfl⟩
  have launched : launch sampleStartup ['f'] [['t']] ∅ = .analyzes initialOptions ['t'] ∅ [] := rfl
  have named : nestedTree.WellNamed := ⟨by decide, ⟨by decide, trivial⟩, trivial⟩
  exact ⟨events, world, ran, analyses_requested_iff sampleStartup ['f'] [['t']] ∅ launched named
    ran (all_ended ended)⟩

end Sope.Forensic
