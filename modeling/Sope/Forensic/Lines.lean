import Sope.Forensic.System
import Sope.Lib.Fields

set_option autoImplicit false

/- When a record is made, and what tells it from a line of the signal handler. -/
namespace Sope.Forensic

open Banking

/-- No character of the path is special to the shell in the quotes, and none ends a line. -/
structure Ordinary (path : CString) : Prop where
  plain : Shell.Plain path
  noNewline : '\n' ∉ path

/-- Up to 64 hexadecimal digits. -/
structure IsCode (code : CString) : Prop where
  nonempty : code ≠ []
  length : code.length ≤ 64
  hexadecimal : ∀ c ∈ code, c ∈ "0123456789abcdef".toList

/-- The programs that print the code, two blanks and the path. -/
def sumCommands : List CString := [md5cmd, sha1cmd, sha256cmd, sha1cmdmac, sha256cmdmac]

/-- What the programs print about a file, as their manuals say. -/
structure Tools.Documented (tools : Tools) : Prop where
  file : ∀ path, Ordinary path → ∃ description : CString, '\n' ∉ description ∧
    tools.popen (commandLine filecmd path) = some (path ++ ':' :: ' ' :: description ++ ['\n'])
  sum : ∀ command ∈ sumCommands, ∀ path, Ordinary path → ∃ code, IsCode code ∧
    tools.popen (commandLine command path) = some (code ++ ' ' :: ' ' :: path ++ ['\n'])
  md5mac : ∀ path, Ordinary path → ∃ code, IsCode code ∧
    tools.popen (commandLine md5cmdmac path) =
      some ("MD5 (".toList ++ path ++ ") = ".toList ++ code ++ ['\n'])

section Text

variable {path code more : CString}

theorem IsCode.not_mem (isCode : IsCode code) {c : Char}
    (other : c ∉ "0123456789abcdef".toList) : c ∉ code :=
  fun member => other (isCode.hexadecimal c member)

/-- A line that ends in a newline is read up to there, or up to the size of the array. -/
theorem fgets_line {line : CString} (oneLine : '\n' ∉ line) :
    fgets (line ++ ['\n']) = some ((line ++ ['\n']).take (maxline - 1)) := by
  have whole : (line ++ ['\n']).takeWhile (· ≠ '\n') ++
      ((line ++ ['\n']).dropWhile (· ≠ '\n')).take 1 = line ++ ['\n'] := by
    rw [Fields.takeWhile_append oneLine, Fields.dropWhile_append oneLine]
    rfl
  unfold fgets
  split
  · rename_i empty
    exact absurd empty (List.append_ne_nil_of_right_ne_nil line (List.cons_ne_nil _ _))
  · rw [whole]

/-- A token goes up to the next delimiter. -/
theorem strtok_cons {c first : Char} {text : CString} (other : first ≠ c) :
    strtok [c] (first :: text) =
      some (first :: text.takeWhile (· ≠ c), (text.dropWhile (· ≠ c)).tail) := by
  simp [strtok, other]

theorem strtok_append {c : Char} {front back : CString} (nonempty : front ≠ []) (none : c ∉ front) :
    strtok [c] (front ++ c :: back) = some (front, back) := by
  obtain ⟨first, rest, rfl⟩ := List.exists_cons_of_ne_nil nonempty
  rw [List.mem_cons, not_or] at none
  rw [List.cons_append, strtok_cons (Ne.symm none.1), Fields.takeWhile_append none.2,
    Fields.dropWhile_append none.2, List.tail_cons]

theorem strtok_ne_nil {delimiters text token rest : CString}
    (found : strtok delimiters text = some (token, rest)) : token ≠ [] := by
  unfold strtok at found
  split at found
  · cases found
  · rename_i c more remains
    cases found
    have kept : c ∉ delimiters := by
      have stopped := List.head?_dropWhile_not (· ∈ delimiters) text
      rw [remains] at stopped
      simpa using stopped
    simp [kept]

/-- There is a token wherever there is a character that is no delimiter. -/
theorem strtok_isSome {delimiters text : CString} {c : Char} (member : c ∈ text)
    (other : c ∉ delimiters) : ∃ token rest, strtok delimiters text = some (token, rest) := by
  have remains : text.dropWhile (· ∈ delimiters) ≠ [] := by
    intro none
    have all := List.dropWhile_eq_nil_iff.mp none c member
    exact other (of_decide_eq_true all)
  obtain ⟨first, rest, split⟩ := List.exists_cons_of_ne_nil remains
  unfold strtok
  rw [split]
  exact ⟨_, _, rfl⟩

/-- A token holds no delimiter. -/
theorem strtok_token {delimiters text token rest : CString}
    (found : strtok delimiters text = some (token, rest)) {c : Char} (member : c ∈ delimiters) :
    c ∉ token := by
  unfold strtok at found
  split at found
  · cases found
  · cases found
    intro inside
    have kept := List.mem_takeWhile_imp inside
    rw [decide_eq_true_iff] at kept
    exact kept member

/-- What follows the delimiter that ends the first token still holds what follows a
later delimiter. -/
theorem mem_after_delimiter (before : CString) {c : Char} (member : c ∈ more) :
    c ∈ ((before ++ ':' :: more).dropWhile (· ∉ [':'])).tail := by
  induction before with
  | nil => exact member
  | cons first rest ih =>
      rw [List.cons_append, List.dropWhile_cons]
      split
      · exact ih
      · exact List.mem_append_right rest (List.mem_cons_of_mem _ member)

/-- The line of `file` has a name and a type, unless the path is made of colons only. -/
theorem nameAndType_isSome (more : CString) {c : Char} (member : c ∈ path) (named : c ≠ ':') :
    ∃ name type, nameAndType (path ++ ':' :: ' ' :: more) = some (name, type) := by
  have noDelimiter : c ∉ [':'] := by
    rw [List.mem_singleton]
    exact named
  -- the first token begins inside the path
  have remains : path.dropWhile (· ∈ [':']) ≠ [] := by
    intro none
    exact noDelimiter (of_decide_eq_true (List.dropWhile_eq_nil_iff.mp none c member))
  obtain ⟨first, later, cut⟩ := List.exists_cons_of_ne_nil remains
  have begins : (path ++ ':' :: ' ' :: more).dropWhile (· ∈ [':']) =
      first :: (later ++ ':' :: ' ' :: more) := by
    rw [List.dropWhile_append, cut]
    rfl
  have blank : ' ' ∈ ((first :: (later ++ ':' :: ' ' :: more)).dropWhile (· ∉ [':'])).tail :=
    mem_after_delimiter (first :: later) List.mem_cons_self
  have token : ∃ name, strtok [':'] (path ++ ':' :: ' ' :: more) =
      some (name, ((first :: (later ++ ':' :: ' ' :: more)).dropWhile (· ∉ [':'])).tail) := by
    unfold strtok
    rw [begins]
    exact ⟨_, rfl⟩
  obtain ⟨name, token⟩ := token
  have blankKept : ' ' ∉ if ',' ∈ path ++ ':' :: ' ' :: more then [','] else ['\n'] := by
    split <;> decide
  obtain ⟨type, rest, token'⟩ := strtok_isSome blank blankKept
  exact ⟨name, type.tail, by simp only [nameAndType, token, token', Option.bind_eq_bind,
    Option.bind_some, Option.pure_def]⟩

/-- A line with a sign `=` is read from the second character behind it on. -/
theorem strip_equals {front back : CString} {c : Char} (noEquals : '=' ∉ front)
    (noNewline : '\n' ∉ back) :
    stripHashCodeFromResult (front ++ '=' :: c :: (back ++ ['\n'])) =
      .ok (back, front ++ '=' :: c :: (back ++ ['\n'])) := by
  have newline : '\n' ∈ back ++ ['\n'] := List.mem_append_right _ List.mem_cons_self
  unfold stripHashCodeFromResult
  rw [Fields.dropWhile_append noEquals]
  dsimp only
  rw [if_pos newline, Fields.takeWhile_append noNewline]

/-- Another line is read up to its first blank, where it is cut. -/
theorem strip_blank {digest back : CString} (nonempty : digest ≠ []) (noBlank : ' ' ∉ digest)
    (noEquals : '=' ∉ digest ++ ' ' :: back) :
    stripHashCodeFromResult (digest ++ ' ' :: back) = .ok (digest, digest) := by
  have start : (digest ++ ' ' :: back).takeWhile (· = ' ') = [] := by
    obtain ⟨first, rest, rfl⟩ := List.exists_cons_of_ne_nil nonempty
    have other : first ≠ ' ' := fun same => noBlank (same ▸ List.mem_cons_self)
    simp [other]
  unfold stripHashCodeFromResult
  rw [Fields.dropWhile_of_notMem noEquals]
  dsimp only
  rw [strtok_append nonempty noBlank]
  dsimp only
  rw [start, List.nil_append]

theorem strip_sum (isCode : IsCode code) (noEquals : '=' ∉ path) :
    ∃ hash, stripHashCodeFromResult (code ++ ' ' :: ' ' :: path ++ ['\n']) = .ok hash := by
  have codeNot : '=' ∉ code := isCode.not_mem (by decide)
  have noSign : '=' ∉ code ++ ' ' :: (' ' :: path ++ ['\n']) := by simp [codeNot, noEquals]
  rw [List.append_assoc]
  exact ⟨_, strip_blank isCode.nonempty (isCode.not_mem (by decide)) noSign⟩

theorem strip_md5mac (isCode : IsCode code) (noEquals : '=' ∉ path) :
    ∃ hash, stripHashCodeFromResult
      ("MD5 (".toList ++ path ++ ") = ".toList ++ code ++ ['\n']) = .ok hash := by
  have split : "MD5 (".toList ++ path ++ ") = ".toList ++ code ++ ['\n'] =
      ("MD5 (".toList ++ path ++ ") ".toList) ++ '=' :: ' ' :: (code ++ ['\n']) := by
    simp
  have noSign : '=' ∉ "MD5 (".toList ++ path ++ ") ".toList := by simp [noEquals]
  rw [split]
  exact ⟨_, strip_equals noSign (isCode.not_mem (by decide))⟩

end Text

section Hashes

variable {options : Options} {tools : Tools} {path : CString}

/-- A short line is read as it is. -/
theorem fgets_short {line : CString} (oneLine : '\n' ∉ line) (short : line.length + 1 < maxline) :
    fgets (line ++ ['\n']) = some (line ++ ['\n']) := by
  rw [fgets_line oneLine, List.take_of_length_le]
  rw [List.length_append, List.length_singleton]
  unfold maxline at short ⊢
  omega

/-- The code is stripped from the line that a hash program prints. -/
theorem hashOf_eq_strip {command line : CString}
    (printed : tools.popen (commandLine command path) = some (line ++ ['\n']))
    (oneLine : '\n' ∉ line) (short : line.length + 1 < maxline) :
    hashOf tools command path = stripHashCodeFromResult (line ++ ['\n']) := by
  unfold hashOf executeSystemCommand
  rw [printed]
  dsimp only
  rw [fgets_short oneLine short]
  rfl

theorem hashOf_line {command line : CString} {hash : CString × CString}
    (printed : tools.popen (commandLine command path) = some (line ++ ['\n']))
    (oneLine : '\n' ∉ line) (short : line.length + 1 < maxline)
    (striped : stripHashCodeFromResult (line ++ ['\n']) = .ok hash) :
    hashOf tools command path = .ok hash := by
  rw [hashOf_eq_strip printed oneLine short, striped]

theorem hashOf_sum {command : CString} {code : CString} (isCode : IsCode code)
    (ordinary : Ordinary path) (noEquals : '=' ∉ path) (fits : path.length < 257)
    (printed : tools.popen (commandLine command path) =
      some (code ++ ' ' :: ' ' :: path ++ ['\n'])) :
    ∃ hash, hashOf tools command path = .ok hash := by
  have oneLine : '\n' ∉ code ++ ' ' :: ' ' :: path := by
    have codeNot : '\n' ∉ code := isCode.not_mem (by decide)
    simp [codeNot, ordinary.noNewline]
  have short : (code ++ ' ' :: ' ' :: path).length + 1 < maxline := by
    have := isCode.length
    simp only [List.length_append, List.length_cons, maxline]
    omega
  obtain ⟨hash, striped⟩ := strip_sum isCode noEquals
  exact ⟨hash, hashOf_line printed oneLine short striped⟩

theorem hashOf_md5mac {code : CString} (isCode : IsCode code)
    (ordinary : Ordinary path) (noEquals : '=' ∉ path) (fits : path.length < 257)
    (printed : tools.popen (commandLine md5cmdmac path) =
      some ("MD5 (".toList ++ path ++ ") = ".toList ++ code ++ ['\n'])) :
    ∃ hash, hashOf tools md5cmdmac path = .ok hash := by
  have oneLine : '\n' ∉ "MD5 (".toList ++ path ++ ") = ".toList ++ code := by
    have codeNot : '\n' ∉ code := isCode.not_mem (by decide)
    simp [codeNot, ordinary.noNewline]
  have short : ("MD5 (".toList ++ path ++ ") = ".toList ++ code).length + 1 < maxline := by
    have := isCode.length
    simp [maxline]
    omega
  obtain ⟨hash, striped⟩ := strip_md5mac isCode noEquals
  exact ⟨hash, hashOf_line printed oneLine short striped⟩

/-- Every hash program leaves a code in its array. -/
theorem Tools.Documented.hashOf (documented : tools.Documented) (ordinary : Ordinary path)
    (noEquals : '=' ∉ path) (fits : path.length < 257) {command : CString}
    (known : command ∈ sumCommands ∨ command = md5cmdmac) :
    ∃ hash, hashOf tools command path = .ok hash := by
  rcases known with sum | rfl
  · obtain ⟨code, isCode, printed⟩ := documented.sum command sum path ordinary
    exact hashOf_sum isCode ordinary noEquals fits printed
  · obtain ⟨code, isCode, printed⟩ := documented.md5mac path ordinary
    exact hashOf_md5mac isCode ordinary noEquals fits printed

/-- Without -h no hash program runs, and the path may hold any sign. -/
theorem getAllHashModes_ok (options : Options) (documented : tools.Documented)
    (ordinary : Ordinary path) (noEquals : options.hashmode = 0 ∨ '=' ∉ path)
    (fits : path.length < 257) (result : CString) :
    ∃ message, getAllHashModes options tools path result = .ok message := by
  rcases noEquals with none | noEquals
  · unfold getAllHashModes
    rw [none]
    exact ⟨result, rfl⟩
  obtain ⟨hash, md5Hash⟩ : ∃ hash, Forensic.hashOf tools
      (if options.macMode then md5cmdmac else md5cmd) path = .ok hash := by
    apply documented.hashOf ordinary noEquals fits
    split
    · exact .inr rfl
    · exact .inl (by simp [sumCommands])
  obtain ⟨hash', sha1Hash⟩ : ∃ hash, Forensic.hashOf tools
      (if options.macMode then sha1cmdmac else sha1cmd) path = .ok hash := by
    apply documented.hashOf ordinary noEquals fits
    split <;> exact .inl (by simp [sumCommands])
  obtain ⟨hash'', sha256Hash⟩ : ∃ hash, Forensic.hashOf tools
      (if options.macMode then sha256cmdmac else sha256cmd) path = .ok hash := by
    apply documented.hashOf ordinary noEquals fits
    split <;> exact .inl (by simp [sumCommands])
  unfold getAllHashModes
  rw [md5Hash, sha1Hash, sha256Hash]
  split <;> split <;> split <;> exact ⟨_, rfl⟩

theorem bind_ok {α β : Type} {first : Except Failure α} {next : α → Except Failure β} {result : β}
    (out : (first >>= next) = .ok result) : ∃ a, first = .ok a ∧ next a = .ok result := by
  cases first with
  | error failure => cases out
  | ok a => exact ⟨a, rfl, out⟩

/-- One hash program appends to the record, if it is asked for. -/
theorem hash_extends {asked : Prop} [Decidable asked] {hash : Except Failure (CString × CString)}
    {column : CString × CString → CString} {result message : CString}
    (out : (if asked then hash >>= fun hash => pure (result ++ ',' :: column hash)
      else pure result) = .ok message) : result <+: message := by
  split at out
  · obtain ⟨hash, -, out⟩ := bind_ok out
    cases out
    exact List.prefix_append _ _
  · cases out
    exact List.prefix_rfl

/-- The hashes come after what the record has already. -/
theorem getAllHashModes_extends {result message : CString}
    (out : getAllHashModes options tools path result = .ok message) : result <+: message := by
  obtain ⟨withMd5, out₁, out⟩ := bind_ok out
  obtain ⟨withSha1, out₂, out₃⟩ := bind_ok out
  exact (hash_extends out₁).trans ((hash_extends out₂).trans (hash_extends out₃))

end Hashes

section Message

variable {options : Options} {tools : Tools} {file : File} {message : CString}

/-- Every file that the programs print about as documented has a record. -/
theorem outMessage_ok (documented : tools.Documented) (ordinary : Ordinary file.path)
    (noEquals : options.hashmode = 0 ∨ '=' ∉ file.path)
    (fits : file.path.length < 257) {c : Char} (member : c ∈ file.path) (named : c ≠ ':') :
    ∃ message, outMessage options tools file = .ok message := by
  obtain ⟨description, oneLine, printed⟩ := documented.file file.path ordinary
  have line : fgets (file.path ++ ':' :: ' ' :: description ++ ['\n']) =
      some ((file.path ++ ':' :: ' ' :: description ++ ['\n']).take (maxline - 1)) := by
    apply fgets_line
    simp [ordinary.noNewline, oneLine]
  -- the path and the two characters after it are shorter than the array
  obtain ⟨more, cut⟩ : ∃ more,
      (file.path ++ ':' :: ' ' :: description ++ ['\n']).take (maxline - 1) =
        file.path ++ ':' :: ' ' :: more := by
    refine ⟨(description ++ ['\n']).take (maxline - 1 - file.path.length - 2), ?_⟩
    have left : maxline - 1 - file.path.length = maxline - 1 - file.path.length - 2 + 1 + 1 := by
      unfold maxline
      omega
    rw [List.append_assoc, List.take_append, List.take_of_length_le (by unfold maxline; omega),
      left]
    rfl
  obtain ⟨name, type, cells⟩ := nameAndType_isSome more member named
  have read : executeSystemCommand tools filecmd file.path =
      .ok (some (file.path ++ ':' :: ' ' :: more)) := by
    unfold executeSystemCommand
    rw [printed]
    dsimp only
    rw [line, cut]
  have cells' : nameAndType ((some (file.path ++ ':' :: ' ' :: more)).getD []) =
      some (name, type) := cells
  unfold outMessage
  rw [read]
  dsimp only [bind, Except.bind]
  rw [cells']
  dsimp only
  obtain ⟨hashed, out⟩ := getAllHashModes_ok options documented ordinary noEquals fits
    (name ++ ',' :: type ++ ',' :: decimal file.stat.stSize ++ ',' :: filePerm file.stat ++
      ',' :: convertTimespecToString tools file.stat.stCtime ++
      ',' :: convertTimespecToString tools file.stat.stMtime)
  rw [out]
  exact ⟨_, rfl⟩

theorem nameAndType_name {fileResult name type : CString}
    (cells : nameAndType fileResult = some (name, type)) : ':' ∉ name := by
  obtain ⟨⟨name', rest⟩, token, cells⟩ := Option.bind_eq_some_iff.mp cells
  obtain ⟨⟨type', later⟩, -, same⟩ := Option.bind_eq_some_iff.mp cells
  cases same
  exact strtok_token token List.mem_cons_self

/-- A record begins with a name without a colon, and a comma. -/
theorem outMessage_shape (out : outMessage options tools file = .ok message) :
    ∃ name rest, message = name ++ ',' :: rest ∧ ':' ∉ name := by
  obtain ⟨fileResult, -, out⟩ := bind_ok out
  cases cells : nameAndType (fileResult.getD []) with
  | none => rw [cells] at out; cases out
  | some nameType =>
      obtain ⟨name, type⟩ := nameType
      rw [cells] at out
      obtain ⟨hashed, appended, same⟩ := bind_ok out
      cases same
      obtain ⟨hashes, rfl⟩ := getAllHashModes_extends appended
      simp only [List.append_assoc, List.cons_append]
      exact ⟨name, _, rfl, nameAndType_name cells⟩

/-- A record is no line of the signal handler: those have a colon before any comma. -/
theorem outMessage_not_newDirectory (out : outMessage options tools file = .ok message) :
    newDirectory.isPrefixOf message = false := by
  obtain ⟨name, rest, rfl, noColon⟩ := outMessage_shape out
  by_contra begins
  rw [Bool.not_eq_false, List.isPrefixOf_iff_prefix] at begins
  have colon : ':' ∈ newDirectory := by decide
  have noComma : ',' ∉ newDirectory := by decide
  rcases List.prefix_or_prefix_of_prefix begins (List.prefix_append name _) with inside | beyond
  · exact noColon (inside.subset colon)
  · obtain ⟨tail, split⟩ := beyond
    rw [← split, List.prefix_append_right_inj] at begins
    cases tail with
    | nil =>
        rw [List.append_nil] at split
        exact noColon (split ▸ colon)
    | cons first later =>
        have comma := (List.cons_prefix_cons.mp begins).1
        apply noComma
        rw [← split, comma]
        exact List.mem_append_right name List.mem_cons_self

end Message

end Sope.Forensic
