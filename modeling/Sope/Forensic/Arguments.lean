import Mathlib.Data.Finset.Basic
import Sope.Forensic.Record
import Sope.Lib.Words

set_option autoImplicit false

/- How forensic reads its command line (`parse_arguments`). The loop writes to `argv`,
where `strtok` cuts up a list of hash functions, and removes the file that -o names. -/
namespace Sope.Forensic

open Banking Words

def rWord : CString := "-r".toList
def hWord : CString := "-h".toList
def vWord : CString := "-v".toList
def oWord : CString := "-o".toList
def macWord : CString := "-mac".toList

def optionWords : List CString := [rWord, hWord, vWord, oWord, macWord]

def usage : CString :=
  "forensic [-r] [-h [md5[,sha1[,sha256]]] [-o <outfile>] [-v] <file|dir>\n".toList

def invalidParameter : CString :=
  "Invalid parameter for hash function: [md5,sha1,sha256]\n".toList

/-- The bit of a hash function, if the name is the name of one. -/
def hashBit (name : CString) : UInt8 :=
  (if name = "md5".toList then md5 else 0) ||| (if name = "sha1".toList then sha1 else 0) |||
    (if name = "sha256".toList then sha256 else 0)

/-- `checkHashMode`: what it returns are the bits that it has been given and has added to. -/
def checkHashMode (hashMode : CString) (hashOption : UInt8) : Bool × UInt8 :=
  let hashOption := hashOption ||| hashBit hashMode
  (hashOption != 0, hashOption)

/-- The loop over the names of a list; `none` where a name is refused. -/
def hashNames (hashmode : UInt8) : List CString → Option UInt8
  | [] => some hashmode
  | name :: rest =>
      let (valid, hashmode) := checkHashMode name hashmode
      if valid then hashNames hashmode rest else none

/-- What `strtok` leaves of a list when it has gone through it: the first name, with the
commas before it. -/
def cutList (list : CString) : CString :=
  list.takeWhile (· = ',') ++ (list.dropWhile (· = ',')).takeWhile (· ≠ ',')

/-- What the loop takes an argument for. -/
inductive Role where
  | optionWord
  | operand
  | passedOver
  deriving DecidableEq

/-- `passed` are the arguments that the loop has dealt with, as they stand in `argv` now,
and `files` are the files that `remove` can delete. -/
structure Parsing where
  options : Options
  passed : List (CString × Role)
  files : Finset CString

def Parsing.read (parsing : Parsing) (options : Options) (args : List (CString × Role)) :
    Parsing :=
  { parsing with options, passed := parsing.passed ++ args }

def Parsing.remove (parsing : Parsing) (file : CString) : Parsing :=
  { parsing with files := parsing.files.erase file }

inductive Parsed where
  | returns (parsing : Parsing)
  | exits (message : CString) (parsing : Parsing)

/-- The loop, from `argv[i]` on. That `i < argc - 2` says that two arguments or more
follow, and `i == argc - 1` that none does. -/
def parseLoop (parsing : Parsing) : List CString → Parsed
  | [] => .returns parsing
  | arg :: rest =>
      if arg = rWord then
        parseLoop (parsing.read { parsing.options with rCommand := true } [(arg, .optionWord)]) rest
      else if arg = hWord then
        match rest with
        | list :: path :: more =>
            match hashNames parsing.options.hashmode (tokens ',' list) with
            | some hashmode =>
                parseLoop (parsing.read { parsing.options with hashmode }
                  [(arg, .optionWord), (cutList list, .operand)]) (path :: more)
            | none => .exits invalidParameter parsing
        | _ => .exits usage parsing
      else if arg = vWord then
        parseLoop (parsing.read { parsing.options with vCommand := true } [(arg, .optionWord)]) rest
      else if arg = oWord then
        match rest with
        | file :: path :: more =>
            parseLoop ((parsing.read { parsing.options with oCommand := some file }
              [(arg, .optionWord), (file, .operand)]).remove file) (path :: more)
        | _ => .exits usage parsing
      else if arg = macWord then
        match rest with
        | [] =>
            .returns (parsing.read { parsing.options with macMode := true } [(arg, .optionWord)])
        | _ => .exits usage parsing
      else parseLoop (parsing.read parsing.options [(arg, .passedOver)]) rest

/-- `parse_arguments`, on the arguments behind the name of the program. -/
def parseArguments (options : Options) (args : List CString) (files : Finset CString) : Parsed :=
  let parsing : Parsing := { options, passed := [], files }
  if args = [] then .exits usage parsing else parseLoop parsing args

/-- The options as `main` sets them before it parses. -/
def initialOptions : Options where
  hashmode := 0
  oCommand := none
  rCommand := false
  vCommand := false
  macMode := false
  logFilepath := []

/-- What an argument without an operand does to the options. -/
def Options.word (options : Options) (arg : CString) : Options :=
  if arg = rWord then { options with rCommand := true }
  else if arg = vWord then { options with vCommand := true }
  else options

@[simp] theorem Options.word_hashmode (options : Options) (arg : CString) :
    (options.word arg).hashmode = options.hashmode := by
  unfold Options.word
  split
  · rfl
  · split <;> rfl

@[simp] theorem Options.word_macMode (options : Options) (arg : CString) :
    (options.word arg).macMode = options.macMode := by
  unfold Options.word
  split
  · rfl
  · split <;> rfl

def wordRole (arg : CString) : Role := if arg ∈ optionWords then .optionWord else .passedOver

/-- The arguments begin with one at which the loop exits. -/
inductive Faulty (hashmode : UInt8) : List CString → CString → Prop where
  | hashShort (rest : List CString) (short : rest.length < 2) :
      Faulty hashmode (hWord :: rest) usage
  | hashInvalid (list path : CString) (rest : List CString)
      (refused : hashNames hashmode (tokens ',' list) = none) :
      Faulty hashmode (hWord :: list :: path :: rest) invalidParameter
  | outputShort (rest : List CString) (short : rest.length < 2) :
      Faulty hashmode (oWord :: rest) usage
  | macEarly (rest : List CString) (more : rest ≠ []) : Faulty hashmode (macWord :: rest) usage

/-- What the loop does, one constructor for each round. -/
inductive Reads : Parsing → List CString → Parsed → Prop where
  | done (parsing : Parsing) : Reads parsing [] (.returns parsing)
  | word (parsing : Parsing) (arg : CString) (rest : List CString) (parsed : Parsed)
      (plain : arg ∉ [hWord, oWord, macWord])
      (later : Reads (parsing.read (parsing.options.word arg) [(arg, wordRole arg)]) rest parsed) :
      Reads parsing (arg :: rest) parsed
  | hash (parsing : Parsing) (list path : CString) (rest : List CString) (parsed : Parsed)
      (hashmode : UInt8)
      (accepted : hashNames parsing.options.hashmode (tokens ',' list) = some hashmode)
      (later : Reads (parsing.read { parsing.options with hashmode }
        [(hWord, .optionWord), (cutList list, .operand)]) (path :: rest) parsed) :
      Reads parsing (hWord :: list :: path :: rest) parsed
  | output (parsing : Parsing) (file path : CString) (rest : List CString) (parsed : Parsed)
      (later : Reads ((parsing.read { parsing.options with oCommand := some file }
        [(oWord, .optionWord), (file, .operand)]).remove file) (path :: rest) parsed) :
      Reads parsing (oWord :: file :: path :: rest) parsed
  | mac (parsing : Parsing) :
      Reads parsing [macWord] (.returns
        (parsing.read { parsing.options with macMode := true } [(macWord, .optionWord)]))
  | fault (parsing : Parsing) (args : List CString) (message : CString)
      (faulty : Faulty parsing.options.hashmode args message) :
      Reads parsing args (.exits message parsing)

theorem short_of_no_pair {rest : List CString}
    (noPair : ∀ (first second : CString) (more : List CString),
      rest = first :: second :: more → False) :
    rest.length < 2 := by
  rcases rest with _ | ⟨first, _ | ⟨second, more⟩⟩
  · exact Nat.two_pos
  · exact Nat.one_lt_two
  · exact (noPair first second more rfl).elim

theorem parseLoop_reads (parsing : Parsing) (args : List CString) :
    Reads parsing args (parseLoop parsing args) := by
  fun_induction parseLoop parsing args with
  | case1 parsing => exact .done parsing
  | case2 parsing rest ih => exact .word parsing rWord rest _ (by decide) ih
  | case3 parsing list path more hashmode accepted _ ih =>
      exact .hash parsing list path more _ hashmode accepted ih
  | case4 parsing list path more refused =>
      exact .fault parsing _ _ (.hashInvalid list path more refused)
  | case5 parsing rest noPair =>
      exact .fault parsing _ _ (.hashShort rest (short_of_no_pair noPair))
  | case6 parsing rest _ _ ih => exact .word parsing vWord rest _ (by decide) ih
  | case7 parsing file path more _ _ _ ih => exact .output parsing file path more _ ih
  | case8 parsing rest noPair =>
      exact .fault parsing _ _ (.outputShort rest (short_of_no_pair noPair))
  | case9 parsing => exact .mac parsing
  | case10 parsing rest more => exact .fault parsing _ _ (.macEarly rest more)
  | case11 parsing arg rest notR notH notV notO notMac ih =>
      have plain : arg ∉ [hWord, oWord, macWord] := by simp [notH, notO, notMac]
      refine .word parsing arg rest _ plain ?_
      have role : wordRole arg = .passedOver := by
        simp [wordRole, optionWords, notR, notH, notV, notO, notMac]
      have options : parsing.options.word arg = parsing.options := by
        simp [Options.word, notR, notV]
      rw [role, options]
      exact ih

section Lists

variable {hashmode : UInt8} {list name : CString}

/-- The bits of all names of a list. -/
def listBits : List CString → UInt8
  | [] => 0
  | name :: rest => hashBit name ||| listBits rest

def hashFunctions : List CString := ["md5".toList, "sha1".toList, "sha256".toList]

/-- The names between the commas are names of hash functions, and there is one. -/
def ValidList (list : CString) : Prop :=
  tokens ',' list ≠ [] ∧ ∀ name ∈ tokens ',' list, name ∈ hashFunctions

instance (list : CString) : Decidable (ValidList list) := inferInstanceAs (Decidable (_ ∧ _))

theorem hashBit_eq_zero : hashBit name = 0 ↔ name ∉ hashFunctions := by
  have bit {bits : UInt8} (some : bits ≠ 0) (word : CString) :
      (if name = word then bits else 0) = 0 ↔ name ≠ word := by
    split <;> simp_all
  rw [hashBit, UInt8.or_eq_zero_iff, UInt8.or_eq_zero_iff, bit (by decide), bit (by decide),
    bit (by decide), hashFunctions]
  simp only [List.mem_cons, List.not_mem_nil, or_false, not_or, and_assoc, ne_eq]

/-- Once a bit is set no name is refused any more. -/
theorem hashNames_of_ne_zero (set : hashmode ≠ 0) (names : List CString) :
    hashNames hashmode names = some (hashmode ||| listBits names) := by
  induction names generalizing hashmode with
  | nil => simp [hashNames, listBits]
  | cons name rest ih =>
      have set' : hashmode ||| hashBit name ≠ 0 := by
        intro zero
        exact set (UInt8.or_eq_zero_iff.mp zero).1
      simp only [hashNames, checkHashMode, bne_iff_ne, ne_eq, set', not_false_eq_true, ↓reduceIte]
      rw [ih set', listBits, UInt8.or_assoc]

/-- As long as none is set the first name decides. -/
theorem hashNames_zero (name : CString) (rest : List CString) :
    hashNames 0 (name :: rest) =
      if name ∈ hashFunctions then some (listBits (name :: rest)) else none := by
  simp only [hashNames, checkHashMode, bne_iff_ne, UInt8.zero_or]
  by_cases known : name ∈ hashFunctions
  · have set : hashBit name ≠ 0 := fun zero => hashBit_eq_zero.mp zero known
    rw [if_pos set, if_pos known, hashNames_of_ne_zero set, listBits]
  · have zero : ¬ hashBit name ≠ 0 := not_not.mpr (hashBit_eq_zero.mpr known)
    rw [if_neg zero, if_neg known]

/-- The first name is none, and no list before it has set a bit. -/
def FirstRefused (hashmode : UInt8) (list : CString) : Prop :=
  hashmode = 0 ∧ ∃ name rest, tokens ',' list = name :: rest ∧ name ∉ hashFunctions

/-- A list is refused exactly at its first name. -/
theorem hashNames_tokens (hashmode : UInt8) (list : CString) :
    (FirstRefused hashmode list ∧ hashNames hashmode (tokens ',' list) = none) ∨
      (¬ FirstRefused hashmode list ∧ hashNames hashmode (tokens ',' list) =
        some (hashmode ||| listBits (tokens ',' list))) := by
  by_cases set : hashmode = 0
  · subst set
    cases names : tokens ',' list with
    | nil =>
        right
        refine ⟨?_, by simp [hashNames, listBits]⟩
        rintro ⟨-, name, rest, split, -⟩
        rw [names] at split
        cases split
    | cons name rest =>
        rw [hashNames_zero]
        by_cases known : name ∈ hashFunctions
        · right
          rw [if_pos known, UInt8.zero_or]
          refine ⟨?_, rfl⟩
          rintro ⟨-, name', rest', split, unknown⟩
          rw [names] at split
          cases split
          exact unknown known
        · left
          rw [if_neg known]
          exact ⟨⟨rfl, name, rest, names, known⟩, rfl⟩
  · right
    exact ⟨fun refused => set refused.1, hashNames_of_ne_zero set _⟩

theorem FirstRefused.not_valid (refused : FirstRefused hashmode list) : ¬ ValidList list := by
  rintro ⟨-, known⟩
  obtain ⟨-, name, rest, names, unknown⟩ := refused
  rw [names] at known
  exact unknown (known name List.mem_cons_self)

end Lists

/-- What the loop has dealt with stays dealt with. -/
theorem Reads.passed {parsing parsing' : Parsing} {args : List CString} {parsed : Parsed}
    (reads : Reads parsing args parsed)
    (ended : parsed = .returns parsing' ∨ ∃ message, parsed = .exits message parsing') :
    parsing.passed <+: parsing'.passed := by
  induction reads with
  | done parsing =>
      rcases ended with same | ⟨message, same⟩ <;> cases same
      exact List.prefix_rfl
  | word parsing arg rest parsed plain later ih => exact (List.prefix_append _ _).trans (ih ended)
  | hash parsing list path rest parsed hashmode accepted later ih =>
      exact (List.prefix_append _ _).trans (ih ended)
  | output parsing file path rest parsed later ih =>
      exact (List.prefix_append _ _).trans (ih ended)
  | mac parsing =>
      rcases ended with same | ⟨message, same⟩ <;> cases same
      exact List.prefix_append _ _
  | fault parsing args message faulty =>
      rcases ended with same | ⟨message, same⟩ <;> cases same
      exact List.prefix_rfl

/-- How the arguments stand in `argv` behind the loop, and what it takes them for. -/
def passes : List CString → List (CString × Role)
  | [] => []
  | arg :: rest =>
      if arg = hWord then
        match rest with
        | [] => [(arg, .optionWord)]
        | list :: more => (arg, .optionWord) :: (cutList list, .operand) :: passes more
      else if arg = oWord then
        match rest with
        | [] => [(arg, .optionWord)]
        | file :: more => (arg, .optionWord) :: (file, .operand) :: passes more
      else (arg, wordRole arg) :: passes rest

theorem length_passes (args : List CString) : (passes args).length = args.length := by
  fun_induction passes args with
  | case1 => rfl
  | case2 | case4 => rfl
  | case3 list more ih => exact congrArg (· + 2) ih
  | case5 arg file more ih => exact congrArg (· + 2) ih
  | case6 arg rest notH notO ih => exact congrArg (· + 1) ih

theorem passes_word {arg : CString} (plain : arg ∉ [hWord, oWord, macWord])
    (rest : List CString) : passes (arg :: rest) = (arg, wordRole arg) :: passes rest := by
  have notH : arg ≠ hWord := fun same => plain (by simp [same])
  have notO : arg ≠ oWord := fun same => plain (by simp [same])
  rw [passes.eq_def]
  dsimp only
  rw [if_neg notH, if_neg notO]

/-- A loop that comes to its end has dealt with all arguments. -/
theorem Reads.passed_eq {parsing parsing' : Parsing} {args : List CString} {parsed : Parsed}
    (reads : Reads parsing args parsed) (returned : parsed = .returns parsing') :
    parsing'.passed = parsing.passed ++ passes args := by
  induction reads with
  | done parsing =>
      cases returned
      exact (List.append_nil _).symm
  | word parsing arg rest parsed plain later ih =>
      rw [ih returned, passes_word plain, Parsing.read, List.append_assoc,
        List.singleton_append]
  | hash parsing list path rest parsed hashmode accepted later ih =>
      rw [ih returned, Parsing.read, List.append_assoc]
      rfl
  | output parsing file path rest parsed later ih =>
      rw [ih returned, Parsing.remove, Parsing.read, List.append_assoc]
      rfl
  | mac parsing =>
      cases returned
      rfl
  | fault parsing args message faulty => cases returned

theorem reads_of_returns {options : Options} {args : List CString} {files : Finset CString}
    {parsing : Parsing} (returned : parseArguments options args files = .returns parsing) :
    args ≠ [] ∧ Reads { options, passed := [], files } args (.returns parsing) := by
  unfold parseArguments at returned
  split at returned
  · cases returned
  · rename_i some
    rw [← returned]
    exact ⟨some, parseLoop_reads _ args⟩

theorem passed_of_returns {options : Options} {args : List CString} {files : Finset CString}
    {parsing : Parsing} (returned : parseArguments options args files = .returns parsing) :
    parsing.passed = passes args :=
  (reads_of_returns returned).2.passed_eq rfl

theorem parseLoop_hash (parsing : Parsing) (list path : CString) (rest : List CString) :
    parseLoop parsing (hWord :: list :: path :: rest) =
      match hashNames parsing.options.hashmode (tokens ',' list) with
      | some hashmode =>
          parseLoop (parsing.read { parsing.options with hashmode }
            [(hWord, .optionWord), (cutList list, .operand)]) (path :: rest)
      | none => .exits invalidParameter parsing := by
  rw [parseLoop, if_neg (by decide), if_pos rfl]

/-- A list of hash functions is read as it should be: a valid one adds its bits and the loop
goes on behind it, any other one ends the program with the message for it. -/
structure ListRight (parsing : Parsing) (list path : CString) (rest : List CString) : Prop where
  valid : ValidList list → parseLoop parsing (hWord :: list :: path :: rest) =
    parseLoop (parsing.read
      { parsing.options with
        hashmode := parsing.options.hashmode ||| listBits (tokens ',' list) }
      [(hWord, .optionWord), (cutList list, .operand)]) (path :: rest)
  invalid : ¬ ValidList list →
    parseLoop parsing (hWord :: list :: path :: rest) = .exits invalidParameter parsing

/-- A list is read as it should be exactly if it is valid, or its first name is refused. -/
theorem list_right_iff (parsing : Parsing) (list path : CString) (rest : List CString) :
    ListRight parsing list path rest ↔
      ValidList list ∨ FirstRefused parsing.options.hashmode list := by
  have loop := parseLoop_hash parsing list path rest
  rcases hashNames_tokens parsing.options.hashmode list with ⟨refused, none⟩ | ⟨accepted, some⟩
  · rw [none] at loop
    exact ⟨fun _ => .inr refused, fun _ =>
      ⟨fun valid => absurd valid refused.not_valid, fun _ => loop⟩⟩
  · rw [some] at loop
    constructor
    · intro right
      left
      by_contra invalid
      have exits := right.invalid invalid
      rw [loop] at exits
      -- the loop has gone on, so it does not end where the list stands
      have further := (parseLoop_reads _ _).passed (.inr ⟨_, exits⟩)
      have longer := further.length_le
      simp only [Parsing.read, List.length_append, List.length_cons] at longer
      omega
    · rintro (valid | refused)
      · exact ⟨fun _ => loop, fun invalid => absurd valid invalid⟩
      · exact absurd refused accepted

def md5AndFoo : CString := ['m', 'd', '5', ',', 'f', 'o', 'o']

/-- `-h md5,foo` is accepted. -/
theorem md5AndFoo_not_right :
    ∃ parsing, parseArguments initialOptions [hWord, md5AndFoo, ['t']] ∅ = .returns parsing ∧
      ¬ ListRight { options := initialOptions, passed := [], files := ∅ } md5AndFoo ['t'] [] := by
  refine ⟨_, rfl, ?_⟩
  intro right
  have exits := right.invalid (by decide)
  have returns : ∃ parsing', parseLoop { options := initialOptions, passed := [], files := ∅ }
      [hWord, md5AndFoo, ['t']] = .returns parsing' := ⟨_, rfl⟩
  obtain ⟨parsing', returns⟩ := returns
  rw [returns] at exits
  cases exits

section Files

/-- Read from the left, and before anything is refused, an -o names a file that exists. -/
inductive Deletes (files : Finset CString) : UInt8 → List CString → Prop where
  | here (hashmode : UInt8) (file path : CString) (rest : List CString) (present : file ∈ files) :
      Deletes files hashmode (oWord :: file :: path :: rest)
  | output (hashmode : UInt8) (file path : CString) (rest : List CString)
      (later : Deletes files hashmode (path :: rest)) :
      Deletes files hashmode (oWord :: file :: path :: rest)
  | hash (hashmode hashmode' : UInt8) (list path : CString) (rest : List CString)
      (accepted : hashNames hashmode (tokens ',' list) = some hashmode')
      (later : Deletes files hashmode' (path :: rest)) :
      Deletes files hashmode (hWord :: list :: path :: rest)
  | word (hashmode : UInt8) (arg : CString) (rest : List CString)
      (plain : arg ∉ [hWord, oWord, macWord]) (later : Deletes files hashmode rest) :
      Deletes files hashmode (arg :: rest)

variable {files : Finset CString} {hashmode hashmode' : UInt8} {list file path arg : CString}
  {rest args : List CString}

theorem deletes_word (plain : arg ∉ [hWord, oWord, macWord]) :
    Deletes files hashmode (arg :: rest) ↔ Deletes files hashmode rest := by
  constructor
  · intro deletes
    cases deletes with
    | here | output | hash => exact absurd plain (by decide)
    | word _ _ _ _ later => exact later
  · exact .word hashmode arg rest plain

theorem deletes_hash (accepted : hashNames hashmode (tokens ',' list) = some hashmode') :
    Deletes files hashmode (hWord :: list :: path :: rest) ↔
      Deletes files hashmode' (path :: rest) := by
  constructor
  · intro deletes
    cases deletes with
    | hash _ _ _ _ _ accepted' later =>
        rw [accepted] at accepted'
        cases accepted'
        exact later
    | word _ _ _ plain => exact absurd plain (by decide)
  · exact .hash hashmode hashmode' list path rest accepted

theorem deletes_output :
    Deletes files hashmode (oWord :: file :: path :: rest) ↔
      file ∈ files ∨ Deletes files hashmode (path :: rest) := by
  constructor
  · intro deletes
    cases deletes with
    | here _ _ _ _ present => exact .inl present
    | output _ _ _ _ later => exact .inr later
    | word _ _ _ plain => exact absurd plain (by decide)
  · rintro (present | later)
    · exact .here hashmode file path rest present
    · exact .output hashmode file path rest later

theorem Faulty.not_deletes {message : CString} (faulty : Faulty hashmode args message) :
    ¬ Deletes files hashmode args := by
  intro deletes
  cases faulty with
  | hashShort rest short =>
      cases deletes with
      | hash => exact absurd short (by simp)
      | word _ _ _ plain => exact absurd plain (by decide)
  | hashInvalid list path rest refused =>
      cases deletes with
      | hash _ _ _ _ _ accepted =>
          rw [refused] at accepted
          cases accepted
      | word _ _ _ plain => exact absurd plain (by decide)
  | outputShort rest short =>
      cases deletes with
      | here | output => exact absurd short (by simp)
      | word _ _ _ plain => exact absurd plain (by decide)
  | macEarly rest more =>
      cases deletes with
      | word _ _ _ plain => exact absurd plain (by decide)

/-- Files only go. -/
theorem Reads.files_subset {parsing parsing' : Parsing} {parsed : Parsed}
    (reads : Reads parsing args parsed) {message : CString}
    (exits : parsed = .exits message parsing') : parsing'.files ⊆ parsing.files := by
  induction reads with
  | done | mac => cases exits
  | word parsing arg rest parsed plain later ih => exact ih exits
  | hash parsing list path rest parsed hashmode accepted later ih => exact ih exits
  | output parsing file path rest parsed later ih =>
      exact (ih exits).trans (Finset.erase_subset _ _)
  | fault parsing args message faulty =>
      cases exits
      exact Finset.Subset.refl _

/-- The files are kept as long as no -o names one of them. -/
theorem Reads.keeps_files_iff {parsing parsing' : Parsing} {parsed : Parsed}
    (reads : Reads parsing args parsed) {message : CString}
    (exits : parsed = .exits message parsing') :
    parsing'.files = parsing.files ↔
      ¬ Deletes parsing.files parsing.options.hashmode args := by
  induction reads with
  | done | mac => cases exits
  | word parsing arg rest parsed plain later ih =>
      rw [deletes_word plain]
      have kept := ih exits
      simp only [Parsing.read, Options.word_hashmode] at kept
      exact kept
  | hash parsing list path rest parsed hashmode accepted later ih =>
      rw [deletes_hash accepted]
      exact ih exits
  | output parsing file path rest parsed later ih =>
      rw [deletes_output]
      have fewer := later.files_subset exits
      simp only [Parsing.remove, Parsing.read] at ih fewer
      by_cases present : file ∈ parsing.files
      · refine ⟨fun same => ?_, fun none => absurd (.inl present) none⟩
        rw [same] at fewer
        exact absurd (fewer present) (Finset.notMem_erase file _)
      · rw [Finset.erase_eq_of_notMem present] at ih
        rw [ih exits]
        simp [present]
  | fault parsing args message faulty =>
      cases exits
      exact ⟨fun _ => faulty.not_deletes, fun _ => rfl⟩

/-- A command line that is refused has removed no file exactly if, up to where it is
refused, no -o names a file that exists. -/
theorem refused_keeps_files_iff (args : List CString) (files : Finset CString)
    {message : CString} {parsing : Parsing}
    (exits : parseArguments initialOptions args files = .exits message parsing) :
    parsing.files = files ↔ ¬ Deletes files 0 args := by
  unfold parseArguments at exits
  split at exits
  · rename_i none
    cases exits
    refine ⟨fun _ deletes => ?_, fun _ => rfl⟩
    rw [none] at deletes
    cases deletes
  · exact (parseLoop_reads _ _).keeps_files_iff exits

end Files

def report : CString := ['r']

/-- `forensic -o r -h` with a report from before: the message is the usage, and the
report is gone. -/
theorem lateError_removes :
    ∃ parsing, parseArguments initialOptions [oWord, report, hWord, ['t']] {report} =
        .exits usage parsing ∧ parsing.files ≠ {report} := by
  refine ⟨_, rfl, ?_⟩
  decide

/-- The same line where there is a file, but not the one that -o names. -/
theorem lateError_keeps_files_iff :
    ∃ parsing, parseArguments initialOptions [oWord, report, hWord, ['t']] {['t']} =
        .exits usage parsing ∧
      (parsing.files = {['t']} ↔ ¬ Deletes {['t']} 0 [oWord, report, hWord, ['t']]) :=
  ⟨_, rfl, refused_keeps_files_iff [oWord, report, hWord, ['t']] {['t']} rfl⟩

end Sope.Forensic
