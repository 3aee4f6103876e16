import Sope.Forensic.Usage
import Sope.Forensic.Instants
import Sope.Lib.Fields

set_option autoImplicit false

/- `main` up to the call of `analyze_path`, and the line about the command in the log. -/
namespace Sope.Forensic

open Banking

/-- What surrounds the start of a run: the value of `LOGFILENAME`, the two readings of the
clock, and the pid. -/
structure Startup where
  logfilename : Option CString
  startTime : Timeval
  timeNow : Timeval
  pid : Nat

/-- Where `main` is when it calls `analyze_path`, or where it has ended. `files` are those
from before that remain, and `log` is the text of the log file. -/
inductive Launched where
  | exits (message : CString) (files : Finset CString)
  | undefined
  | analyzes (options : Options) (filepath : CString) (files : Finset CString) (log : CString)

def noLogfilename : CString :=
  "-v: Can not generate log, environment variable \"LOGFILENAME\" does not exist.\n".toList

/-- The words, each followed by a space. -/
def spaced (words : List CString) : CString := words.flatMap (· ++ [' '])

/-- `log_msg`. -/
def commandMessage (argv : List CString) : CString := "COMMAND ".toList ++ spaced argv

/-- The size of `log_msg`. -/
def logMsgSize : Nat := 255

/-- `argv` behind `parse_arguments`. -/
def Parsing.argv (parsing : Parsing) (argv0 : CString) : List CString :=
  argv0 :: parsing.passed.map Prod.fst

def launch (startup : Startup) (argv0 : CString) (args : List CString) (files : Finset CString) :
    Launched :=
  match parseArguments initialOptions args files with
  | .exits message parsing => .exits message parsing.files
  | .returns parsing =>
      let argv := parsing.argv argv0
      let filepath := argv[pathAt parsing]?.getD []
      if parsing.options.vCommand then
        match startup.logfilename with
        | none => .exits noLogfilename parsing.files
        | some logFilepath =>
            let logMsg := commandMessage argv
            if logMsg.length < logMsgSize then
              .analyzes { parsing.options with logFilepath } filepath
                (parsing.files.erase logFilepath)
                (logOut startup.startTime startup.timeNow startup.pid logMsg)
            else .undefined
      else .analyzes parsing.options filepath parsing.files []

/-- The lists that -h is given, from the left. -/
def hashLists : List CString → List CString
  | [] => []
  | arg :: rest =>
      if arg = hWord then
        match rest with
        | [] => []
        | list :: more => list :: hashLists more
      else if arg = oWord then
        match rest with
        | [] => []
        | _ :: more => hashLists more
      else hashLists rest

section Cut

variable {list : CString}

/-- A list is cut at the first comma behind its first name. -/
def IsCut (list : CString) : Prop := ',' ∈ list.dropWhile (· = ',')

instance (list : CString) : Decidable (IsCut list) := inferInstanceAs (Decidable (_ ∈ _))

theorem cutList_isPrefix (list : CString) : cutList list <+: list := by
  obtain ⟨back, split⟩ := List.takeWhile_prefix (l := list.dropWhile (· = ',')) (· ≠ ',')
  refine ⟨back, ?_⟩
  rw [cutList, List.append_assoc, split, List.takeWhile_append_dropWhile]

theorem cutList_of_not_isCut (whole : ¬ IsCut list) : cutList list = list := by
  rw [cutList, Fields.takeWhile_of_notMem whole, List.takeWhile_append_dropWhile]

/-- The commas behind the first name are gone. -/
theorem count_cutList_lt (cut : IsCut list) : (cutList list).count ',' < list.count ',' := by
  have name : ((list.dropWhile (· = ',')).takeWhile (· ≠ ',')).count ',' = 0 := by
    apply List.count_eq_zero_of_not_mem
    intro member
    have kept := List.mem_takeWhile_imp member
    rw [decide_eq_true_iff] at kept
    exact kept rfl
  have behind : 0 < (list.dropWhile (· = ',')).count ',' := List.count_pos_iff.mpr cut
  have whole : list.count ',' =
      (list.takeWhile (· = ',')).count ',' + (list.dropWhile (· = ',')).count ',' := by
    rw [← List.count_append, List.takeWhile_append_dropWhile]
  rw [cutList, List.count_append, name, whole]
  omega

end Cut

section Passes

variable {args : List CString}

@[simp] theorem spaced_cons (word : CString) (words : List CString) :
    spaced (word :: words) = word ++ ' ' :: spaced words := by
  simp [spaced]

theorem spaced_cons_sublist {word word' : CString} {words words' : List CString}
    (first : word.Sublist word') (rest : (spaced words).Sublist (spaced words')) :
    (spaced (word :: words)).Sublist (spaced (word' :: words')) := by
  rw [spaced_cons, spaced_cons]
  exact first.append (rest.cons_cons ' ')

/-- The loop makes the arguments no longer. -/
theorem spaced_passes_sublist (args : List CString) :
    (spaced ((passes args).map Prod.fst)).Sublist (spaced args) := by
  fun_induction passes args with
  | case1 | case2 | case4 => exact List.Sublist.refl _
  | case3 list more ih =>
      exact spaced_cons_sublist (.refl _) (spaced_cons_sublist (cutList_isPrefix list).sublist ih)
  | case5 file more notH ih =>
      exact spaced_cons_sublist (.refl _) (spaced_cons_sublist (.refl _) ih)
  | case6 arg rest notH notO ih => exact spaced_cons_sublist (.refl _) ih

theorem hashLists_word {arg : CString} (notH : arg ≠ hWord) (notO : arg ≠ oWord)
    (rest : List CString) : hashLists (arg :: rest) = hashLists rest := by
  rw [hashLists.eq_def]
  dsimp only
  rw [if_neg notH, if_neg notO]

/-- The arguments are what they were where no list is cut. -/
theorem passes_of_not_isCut (whole : ∀ list ∈ hashLists args, ¬ IsCut list) :
    (passes args).map Prod.fst = args := by
  fun_induction passes args with
  | case1 | case2 | case4 => rfl
  | case3 list more ih =>
      rw [List.map_cons, List.map_cons,
        ih fun list' member => whole list' (List.mem_cons_of_mem _ member),
        cutList_of_not_isCut (whole list List.mem_cons_self)]
  | case5 file more notH ih => rw [List.map_cons, List.map_cons, ih whole]
  | case6 arg rest notH notO ih =>
      rw [hashLists_word notH notO] at whole
      rw [List.map_cons, ih whole]

/-- Where one is cut, there are fewer commas. -/
theorem count_passes_lt {list : CString} (member : list ∈ hashLists args) (cut : IsCut list) :
    (spaced ((passes args).map Prod.fst)).count ',' < (spaced args).count ',' := by
  fun_induction passes args with
  | case1 | case2 | case4 => cases member
  | case3 list' more ih =>
      simp only [List.map_cons, spaced_cons, List.count_append, List.count_cons]
      have fewer := ((cutList_isPrefix list').sublist).count_le ','
      have fewer' := (spaced_passes_sublist more).count_le ','
      rcases List.mem_cons.mp member with rfl | later
      · have here := count_cutList_lt cut
        omega
      · have there := ih later
        omega
  | case5 file more notH ih =>
      have there := ih member
      simp only [List.map_cons, spaced_cons, List.count_append, List.count_cons]
      omega
  | case6 arg rest notH notO ih =>
      rw [hashLists_word notH notO] at member
      have there := ih member
      simp only [List.map_cons, spaced_cons, List.count_append, List.count_cons]
      omega

end Passes

/-- The log holds the arguments in order, unchanged, each followed by a space. -/
def Records (argv : List CString) : Launched → Prop
  | .analyzes _ _ _ log => spaced argv <:+: log
  | .exits .. | .undefined => False

section Log

variable {startup : Startup} {argv0 : CString} {args : List CString} {files : Finset CString}
  {parsing : Parsing}

/-- No comma stands before the arguments in the line. -/
theorem logOut_command (startTime timeNow : Timeval) (pid : Nat) (argv : List CString) :
    ∃ front, ',' ∉ front ∧
      logOut startTime timeNow pid (commandMessage argv) = front ++ spaced argv ++ ['\n'] := by
  refine ⟨"inst:".toList ++ decimal (inst startTime timeNow) ++ ".00".toList ++
    " - pid: ".toList ++ decimal pid ++ " - act: ".toList ++ "COMMAND ".toList, ?_, ?_⟩
  · have noInst : ',' ∉ decimal (inst startTime timeNow) :=
      not_mem_decimal (by decide) (by decide) _
    have noPid : ',' ∉ decimal pid := not_mem_decimal (by decide) (by decide) _
    simp [noInst, noPid]
  · unfold logOut commandMessage
    rw [← List.append_assoc _ _ (spaced argv)]

/-- The line about a command that fits its buffer is written. -/
theorem launch_analyzes (accepted : parseArguments initialOptions args files = .returns parsing)
    (v : parsing.options.vCommand = true) {logFilepath : CString}
    (named : startup.logfilename = some logFilepath)
    (fits : (commandMessage (argv0 :: args)).length < logMsgSize) :
    ∃ options filepath remaining, launch startup argv0 args files =
      .analyzes options filepath remaining
        (logOut startup.startTime startup.timeNow startup.pid
          (commandMessage (argv0 :: (passes args).map Prod.fst))) := by
  have passed := passed_of_returns accepted
  have shorter : (commandMessage (argv0 :: (passes args).map Prod.fst)).length < logMsgSize := by
    have fewer := spaced_cons_sublist (.refl argv0) (spaced_passes_sublist args)
    exact ((List.Sublist.refl _).append fewer).length_le.trans_lt fits
  unfold launch
  rw [accepted]
  simp only [v, named, Parsing.argv, passed, shorter, ↓reduceIte]
  exact ⟨_, _, _, rfl⟩

/-- The log records the command as it was given exactly if no list of hash functions has a
comma behind its first name. -/
theorem command_recorded_iff (startup : Startup) (argv0 : CString) (args : List CString)
    (files : Finset CString) {parsing : Parsing} {logFilepath : CString}
    (accepted : parseArguments initialOptions args files = .returns parsing)
    (v : parsing.options.vCommand = true) (named : startup.logfilename = some logFilepath)
    (fits : (commandMessage (argv0 :: args)).length < logMsgSize) :
    Records (argv0 :: args) (launch startup argv0 args files) ↔
      ∀ list ∈ hashLists args, ¬ IsCut list := by
  obtain ⟨options, filepath, remaining, launched⟩ := launch_analyzes accepted v named fits
  obtain ⟨front, noComma, line⟩ := logOut_command startup.startTime startup.timeNow startup.pid
    (argv0 :: (passes args).map Prod.fst)
  rw [launched, line]
  constructor
  · intro records list member cut
    -- the line has fewer commas than the arguments
    have commas := records.sublist.count_le ','
    have fewer := count_passes_lt member cut
    have none : front.count ',' = 0 := List.count_eq_zero_of_not_mem noComma
    rw [List.count_append, List.count_append, none, spaced_cons, spaced_cons, List.count_append,
      List.count_append, List.count_cons, List.count_cons] at commas
    have newline : ['\n'].count ',' = 0 := by decide
    omega
  · intro whole
    rw [passes_of_not_isCut whole]
    exact ⟨front, ['\n'], rfl⟩

end Log

def sampleStartup : Startup where
  logfilename := some ['l']
  startTime := lateStart
  timeNow := lateStart
  pid := 7

def twoNames : CString := ['m', 'd', '5', ',', 's', 'h', 'a', '1']

/-- `forensic -v -h md5,sha1 t`: the log says `-h md5`. -/
theorem twoNames_not_recorded :
    ∃ parsing, parseArguments initialOptions [vWord, hWord, twoNames, ['t']] ∅ =
        .returns parsing ∧ parsing.options.vCommand = true ∧
      (commandMessage [['f'], vWord, hWord, twoNames, ['t']]).length < logMsgSize ∧
      ¬ Records [['f'], vWord, hWord, twoNames, ['t']]
        (launch sampleStartup ['f'] [vWord, hWord, twoNames, ['t']] ∅) := by
  refine ⟨_, rfl, rfl, by decide, fun records => ?_⟩
  have commas := List.Sublist.count_le ',' (List.IsInfix.sublist records)
  exact absurd commas (by decide)

def oneName : CString := ['m', 'd', '5']

theorem oneName_recorded_iff :
    Records [['f'], vWord, hWord, oneName, ['t']]
        (launch sampleStartup ['f'] [vWord, hWord, oneName, ['t']] ∅) ↔
      ∀ list ∈ hashLists [vWord, hWord, oneName, ['t']], ¬ IsCut list :=
  command_recorded_iff sampleStartup ['f'] [vWord, hWord, oneName, ['t']] ∅ rfl rfl rfl
    (by decide)

end Sope.Forensic
