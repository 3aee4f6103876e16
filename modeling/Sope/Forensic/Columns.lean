import Sope.Forensic.Digests

set_option autoImplicit false

/- The columns of a record that are made from the line that `file` prints, the path and the
type, and what it takes for the whole record to be one line. -/
namespace Sope.Forensic

open Banking

section Cells

variable {path description : CString}

/-- The line that `file` prints. -/
def fileLine (path description : CString) : CString := path ++ ':' :: ' ' :: description ++ ['\n']

/-- The type that belongs to a description: what stands before its first comma. -/
def typeOf (description : CString) : CString := description.takeWhile (· ≠ ',')

/-- The line is cut at a comma as soon as it has one, be it in the path. -/
theorem nameAndType_fileLine (nonempty : path ≠ []) (noColon : ':' ∉ path)
    (oneLine : '\n' ∉ description) :
    nameAndType (fileLine path description) =
      some (path, if ',' ∈ path ∨ ',' ∈ description then typeOf (description ++ ['\n'])
        else description) := by
  have token : strtok [':'] (fileLine path description) =
      some (path, ' ' :: (description ++ ['\n'])) := by
    rw [fileLine, List.append_assoc]
    exact strtok_append nonempty noColon
  have comma : ',' ∈ fileLine path description ↔ ',' ∈ path ∨ ',' ∈ description := by
    simp [fileLine]
  unfold nameAndType
  rw [token]
  simp only [Option.bind_eq_bind, Option.bind_some, comma]
  split
  · rw [strtok_cons (by decide)]
    rfl
  · rw [strtok_cons (by decide), Fields.takeWhile_append oneLine]
    rfl

theorem nameAndType_ne_nil {fileResult name type : CString}
    (cells : nameAndType fileResult = some (name, type)) : name ≠ [] := by
  obtain ⟨⟨name', rest⟩, token, cells⟩ := Option.bind_eq_some_iff.mp cells
  obtain ⟨⟨type', later⟩, -, same⟩ := Option.bind_eq_some_iff.mp cells
  cases same
  exact strtok_ne_nil token

/-- The name and the type of a line are the path and the type that its description begins
with. -/
theorem cells_iff (oneLine : '\n' ∉ description) :
    nameAndType (fileLine path description) = some (path, typeOf description) ↔
      path ≠ [] ∧ ':' ∉ path ∧ (',' ∈ path → ',' ∈ description) := by
  constructor
  · intro cells
    have noColon := nameAndType_name cells
    have nonempty := nameAndType_ne_nil cells
    refine ⟨nonempty, noColon, fun inPath => ?_⟩
    by_contra notIn
    rw [nameAndType_fileLine nonempty noColon oneLine, if_pos (.inl inPath)] at cells
    have types := (Prod.mk.inj (Option.some.inj cells)).2
    -- without a comma behind it the newline is part of the type
    have newline : ',' ∉ description ++ ['\n'] := by simp [notIn]
    rw [typeOf, typeOf, Fields.takeWhile_of_notMem newline, Fields.takeWhile_of_notMem notIn]
      at types
    simp at types
  · rintro ⟨nonempty, noColon, comma⟩
    rw [nameAndType_fileLine nonempty noColon oneLine]
    congr 2
    split
    · rename_i some
      have inDescription : ',' ∈ description := some.elim comma id
      obtain ⟨front, back, split, none⟩ := List.eq_append_cons_of_mem inDescription
      rw [split, typeOf, typeOf, List.append_assoc, List.cons_append,
        Fields.takeWhile_append none, Fields.takeWhile_append none]
    · rename_i none
      exact (Fields.takeWhile_of_notMem (fun member => none (.inr member))).symm

end Cells

section FirstColumns

variable {options : Options} {tools : Tools} {file : File} {path description message : CString}

/-- The path ends with its first sign `=`. -/
def EndsAtSign (path : CString) : Prop := ∃ front, '=' ∉ front ∧ path = front ++ ['=']

/-- No hash column has a newline, and none is missing: with a sign `=` in the path, `sha256` is
not asked for, since its column is the whole line then; and where the path ends with the sign
no program is asked that prints the path last. -/
def HashesInLine (options : Options) (path : CString) : Prop :=
  '=' ∈ path → options.hashmode &&& sha256 = 0 ∧
    (EndsAtSign path → options.hashmode &&& sha1 = 0 ∧
      (options.hashmode &&& md5 ≠ 0 → options.macMode = true))

/-- The name and the type are recovered, and the record is a single line that begins with
them. -/
structure FirstColumns (options : Options) (path description : CString) : Prop where
  cells : nameAndType (fileLine path description) = some (path, typeOf description)
  record : ∀ (tools : Tools) (file : File) (digests : Digests), file.path = path →
    tools.popen (commandLine filecmd path) = some (fileLine path description) →
    Prints options tools path digests →
    ∃ line, outMessage options tools file = .ok (line ++ ['\n']) ∧ '\n' ∉ line ∧
      path ++ ',' :: typeOf description ++ [','] <+: line

/-- The size of `file_result`. -/
def fileResultSize : Nat := 260

theorem executeSystemCommand_fileLine (noNewline : '\n' ∉ path) (oneLine : '\n' ∉ description)
    (fits : (fileLine path description).length < fileResultSize)
    (printed : tools.popen (commandLine filecmd path) = some (fileLine path description)) :
    executeSystemCommand tools filecmd path = .ok (some (fileLine path description)) := by
  have noNewlines : '\n' ∉ path ++ ':' :: ' ' :: description := by simp [noNewline, oneLine]
  have short : (path ++ ':' :: ' ' :: description).length + 1 < maxline := by
    rw [fileLine, List.length_append, List.length_singleton] at fits
    exact fits.trans (by decide)
  unfold executeSystemCommand
  rw [printed, fileLine]
  dsimp only
  rw [fgets_short noNewlines short]

theorem newline_notMem_convert (org : Int) : '\n' ∉ convertTimespecToString tools org := by
  have number := not_mem_decimal (c := '\n') (by decide) (by decide)
  simp [convertTimespecToString, number]

theorem newline_notMem_filePerm (statdata : Stat) : '\n' ∉ filePerm statdata := by
  unfold filePerm
  split <;> split <;> split <;> decide

/-- The record up to the hashes. -/
def firstCells (tools : Tools) (file : File) (description : CString) : CString :=
  file.path ++ ',' :: typeOf description ++ ',' :: decimal file.stat.stSize ++
    ',' :: filePerm file.stat ++ ',' :: convertTimespecToString tools file.stat.stCtime ++
    ',' :: convertTimespecToString tools file.stat.stMtime

theorem firstCells_prefix :
    file.path ++ ',' :: typeOf description ++ [','] <+: firstCells tools file description := by
  refine ⟨decimal file.stat.stSize ++ ',' :: filePerm file.stat ++
    ',' :: convertTimespecToString tools file.stat.stCtime ++
    ',' :: convertTimespecToString tools file.stat.stMtime, ?_⟩
  simp only [firstCells, List.append_assoc, List.cons_append, List.nil_append]

theorem newline_notMem_firstCells (noNewline : '\n' ∉ file.path) (oneLine : '\n' ∉ description) :
    '\n' ∉ firstCells tools file description := by
  have type : '\n' ∉ typeOf description :=
    fun member => oneLine ((List.takeWhile_prefix _).subset member)
  have size : '\n' ∉ decimal file.stat.stSize := not_mem_decimal (by decide) (by decide) _
  simp [firstCells, noNewline, type, size, newline_notMem_convert, newline_notMem_filePerm]

/-- Where the first cells are right, the record is them and the hashes. -/
theorem outMessage_of_cells (noNewline : '\n' ∉ file.path) (oneLine : '\n' ∉ description)
    (fits : (fileLine file.path description).length < fileResultSize)
    (cells : nameAndType (fileLine file.path description) = some (file.path, typeOf description))
    (printed : tools.popen (commandLine filecmd file.path) =
      some (fileLine file.path description)) :
    outMessage options tools file =
      (getAllHashModes options tools file.path (firstCells tools file description) >>=
        fun message => .ok (message ++ ['\n'])) := by
  unfold outMessage
  rw [executeSystemCommand_fileLine noNewline oneLine fits printed]
  simp only [bind, Except.bind, Option.getD_some, cells]
  rfl

theorem path_short (fits : (fileLine path description).length < fileResultSize) :
    path.length < 257 := by
  simp only [fileLine, fileResultSize, List.length_append, List.length_cons,
    List.length_nil] at fits
  omega

end FirstColumns

section Hashes

variable {options : Options} {tools : Tools} {path result front back : CString}
  {digests : Digests} {size : Nat}

/-- What is read behind a sign in the path is one line, if anything stands there. -/
theorem strip_sumLine_oneLine (code : Digest size) (noEquals : '=' ∉ front)
    (noNewline : '\n' ∉ front ++ '=' :: back) (nonempty : back ≠ []) :
    ∃ codes, stripHashCodeFromResult (sumLine code.text (front ++ '=' :: back)) = .ok codes ∧
      '\n' ∉ codes.1 := by
  rcases strip_sumLine_sign code noEquals noNewline with ⟨none, -⟩ | ⟨c, rest, rfl, read⟩
  · exact absurd none nonempty
  · exact ⟨_, read, fun member => noNewline (by simp [member])⟩

/-- The cell of a selected function whose code is one line. -/
theorem Cell.oneLine {asked : Prop} [Decidable asked]
    {hash : Except Failure (CString × CString)} {column : CString × CString → CString}
    (right : asked → ∃ codes, hash = .ok codes ∧ '\n' ∉ column codes) :
    ∃ text, Cell asked hash column text ∧ '\n' ∉ text := by
  by_cases selected : asked
  · obtain ⟨codes, ok, none⟩ := right selected
    exact ⟨_, .given codes selected ok, by simp [none]⟩
  · exact ⟨[], .absent selected, List.not_mem_nil⟩

/-- Under the condition all hash columns are there, and in one line. -/
theorem HashesInLine.columns (inLine : HashesInLine options path)
    (prints : Prints options tools path digests) (noNewline : '\n' ∉ path)
    (fits : path.length < 257) :
    ∃ hashes, getAllHashModes options tools path result = .ok (result ++ hashes) ∧
      '\n' ∉ hashes := by
  by_cases sign : '=' ∈ path
  swap
  · exact ⟨_, prints.read_plain noNewline fits sign,
      hashColumns_not_mem (by decide) (by decide)⟩
  obtain ⟨noSha256, ends⟩ := inLine sign
  obtain ⟨front, back, rfl, noEquals⟩ := List.eq_append_cons_of_mem sign
  have last (none : back = []) : EndsAtSign (front ++ '=' :: back) :=
    ⟨front, noEquals, by rw [none]⟩
  obtain ⟨md5Text, md5Cell, md5Line⟩ : ∃ text, Cell (options.hashmode &&& md5 ≠ 0)
      (hashOf tools (if options.macMode then md5cmdmac else md5cmd) (front ++ '=' :: back))
      Prod.fst text ∧ '\n' ∉ text := by
    refine Cell.oneLine fun asked => ?_
    rw [prints.md5Hash noNewline fits]
    split
    · obtain ⟨column, -, oneLine, read⟩ :=
        strip_md5MacLine_sign digests.md5 noEquals noNewline
      exact ⟨_, read, oneLine⟩
    · rename_i linux
      exact strip_sumLine_oneLine digests.md5 noEquals noNewline
        fun none => linux ((ends (last none)).2 asked)
  obtain ⟨sha1Text, sha1Cell, sha1Line⟩ : ∃ text, Cell (options.hashmode &&& sha1 ≠ 0)
      (hashOf tools (if options.macMode then sha1cmdmac else sha1cmd) (front ++ '=' :: back))
      Prod.fst text ∧ '\n' ∉ text := by
    refine Cell.oneLine fun asked => ?_
    rw [prints.sha1Hash noNewline fits]
    exact strip_sumLine_oneLine digests.sha1 noEquals noNewline
      fun none => asked (ends (last none)).1
  refine ⟨md5Text ++ sha1Text, getAllHashModes_iff.mpr ⟨md5Text, sha1Text, [], md5Cell, sha1Cell,
    .absent (not_not_intro noSha256), ?_⟩, by simp [md5Line, sha1Line]⟩
  rw [List.append_nil, List.append_assoc]

/-- If the hash columns are there and have no newline, the condition holds. -/
theorem hashesInLine_of_columns (prints : Prints options tools path digests)
    (noNewline : '\n' ∉ path) (fits : path.length < 257) {hashes : CString}
    (out : getAllHashModes options tools path result = .ok (result ++ hashes))
    (oneLine : '\n' ∉ hashes) : HashesInLine options path := by
  intro sign
  obtain ⟨front, back, rfl, noEquals⟩ := List.eq_append_cons_of_mem sign
  obtain ⟨md5Text, sha1Text, sha256Text, md5Cell, sha1Cell, sha256Cell, same⟩ :=
    getAllHashModes_iff.mp out
  rw [prints.md5Hash noNewline fits] at md5Cell
  rw [prints.sha1Hash noNewline fits] at sha1Cell
  rw [prints.sha256Hash noNewline fits] at sha256Cell
  have texts : hashes = md5Text ++ sha1Text ++ sha256Text := by
    rw [List.append_assoc, List.append_assoc] at same
    rw [List.append_cancel_left same, List.append_assoc]
  have noSha256 : options.hashmode &&& sha256 = 0 := by
    by_contra asked
    obtain ⟨c, rest, -, rfl⟩ := sha256Cell.of_sign noEquals noNewline asked
    apply oneLine
    rw [texts]
    simp [sumLine]
  refine ⟨noSha256, ?_⟩
  rintro ⟨front', noEquals', ends⟩
  -- nothing stands behind the first sign
  have last : back = [] := by
    have behind := congrArg (List.dropWhile (· ≠ '=')) ends
    rw [Fields.dropWhile_append noEquals, Fields.dropWhile_append noEquals'] at behind
    exact (List.cons.inj behind).2
  refine ⟨?_, ?_⟩
  · by_contra asked
    obtain ⟨c, rest, some, -⟩ := sha1Cell.of_sign noEquals noNewline asked
    rw [last] at some
    cases some
  · intro asked
    by_contra linux
    rw [if_neg linux] at md5Cell
    obtain ⟨c, rest, some, -⟩ := md5Cell.of_sign noEquals noNewline asked
    rw [last] at some
    cases some

end Hashes

section Line

variable {options : Options} {path description : CString}

/-- What programs print for one path: a line of `file`, and zeros as digests. -/
def printedLine (options : Options) (path description cmd : CString) : CString :=
  if cmd = commandLine filecmd path then fileLine path description
  else if cmd = commandLine (if options.macMode then md5cmdmac else md5cmd) path then
    if options.macMode then md5MacLine zeroDigests.md5.text path
    else sumLine zeroDigests.md5.text path
  else if cmd = commandLine (if options.macMode then sha1cmdmac else sha1cmd) path then
    sumLine zeroDigests.sha1.text path
  else sumLine zeroDigests.sha256.text path

def lineTools (options : Options) (path description : CString) : Tools where
  popen cmd := some (printedLine options path description cmd)
  localtime _ := ⟨70, 0, 1, 0, 0, 0⟩
  isatty := true

/-- The command lines for one path tell the commands. -/
theorem commandLine_inj {command command' : CString} :
    commandLine command path = commandLine command' path ↔ command = command' := by
  simp [commandLine]

theorem lineTools_prints (options : Options) (path description : CString) :
    Prints options (lineTools options path description) path zeroDigests := by
  have noFile {command : CString} (other : command ≠ filecmd) :
      commandLine command path ≠ commandLine filecmd path := mt commandLine_inj.mp other
  have noMd5 {command : CString}
      (other : command ≠ if options.macMode then md5cmdmac else md5cmd) :
      commandLine command path ≠
        commandLine (if options.macMode then md5cmdmac else md5cmd) path :=
    mt commandLine_inj.mp other
  have noSha1 {command : CString}
      (other : command ≠ if options.macMode then sha1cmdmac else sha1cmd) :
      commandLine command path ≠
        commandLine (if options.macMode then sha1cmdmac else sha1cmd) path :=
    mt commandLine_inj.mp other
  constructor <;> refine congrArg some ?_ <;> unfold printedLine
  · rw [if_neg (noFile (by split <;> decide)), if_pos rfl]
  · rw [if_neg (noFile (by split <;> decide)), if_neg (noMd5 (by split <;> decide)), if_pos rfl]
  · rw [if_neg (noFile (by split <;> decide)), if_neg (noMd5 (by split <;> decide)),
      if_neg (noSha1 (by split <;> decide))]

theorem lineTools_file (options : Options) (path description : CString) :
    (lineTools options path description).popen (commandLine filecmd path) =
      some (fileLine path description) :=
  congrArg some (if_pos rfl)

/-- The name and the type columns are right and the record is a single line exactly if the
path is not empty and has no colon, no comma either where the description has none, and no
sign `=` that gets into a hash column. -/
theorem first_columns_iff (options : Options) (path description : CString)
    (noNewline : '\n' ∉ path) (oneLine : '\n' ∉ description)
    (fits : (fileLine path description).length < fileResultSize) :
    FirstColumns options path description ↔
      path ≠ [] ∧ ':' ∉ path ∧ (',' ∈ path → ',' ∈ description) ∧ HashesInLine options path := by
  constructor
  · intro right
    obtain ⟨nonempty, noColon, comma⟩ := (cells_iff oneLine).mp right.cells
    refine ⟨nonempty, noColon, comma, ?_⟩
    have prints := lineTools_prints options path description
    have printed := lineTools_file options path description
    obtain ⟨line, out, whole, -⟩ := right.record _ ⟨path, ⟨0, 0, 0, 0⟩⟩ zeroDigests rfl printed
      prints
    rw [outMessage_of_cells noNewline oneLine fits right.cells printed] at out
    obtain ⟨message, hashed, same⟩ := bind_ok out
    obtain rfl := List.append_cancel_right (Except.ok.inj same)
    obtain ⟨hashes, rfl⟩ := getAllHashModes_extends hashed
    exact hashesInLine_of_columns prints noNewline (path_short fits) hashed
      fun member => whole (List.mem_append_right _ member)
  · rintro ⟨nonempty, noColon, comma, inLine⟩
    have cells := (cells_iff oneLine).mpr ⟨nonempty, noColon, comma⟩
    refine ⟨cells, ?_⟩
    rintro tools file digests rfl printed prints
    obtain ⟨hashes, hashed, noNewlines⟩ := inLine.columns prints noNewline (path_short fits)
    refine ⟨firstCells tools file description ++ hashes, ?_, ?_, ?_⟩
    · rw [outMessage_of_cells noNewline oneLine fits cells printed, hashed]
      rfl
    · rw [List.mem_append, not_or]
      exact ⟨newline_notMem_firstCells noNewline oneLine, noNewlines⟩
    · exact firstCells_prefix.trans (List.prefix_append _ _)

end Line

/-- A path with a comma, and a description without one: the newline is in the type. -/
theorem commaPath_not_first_columns : ¬ FirstColumns md5Options ['a', ',', 'b'] ['x'] := by
  intro right
  have cells := right.cells
  revert cells
  decide

theorem plainPath_first_columns_iff :
    FirstColumns md5Options ['a'] ['x'] ↔
      ['a'] ≠ [] ∧ ':' ∉ ['a'] ∧ (',' ∈ ['a'] → ',' ∈ ['x']) ∧ HashesInLine md5Options ['a'] :=
  first_columns_iff md5Options ['a'] ['x'] (by decide) (by decide) (by decide)

end Sope.Forensic
