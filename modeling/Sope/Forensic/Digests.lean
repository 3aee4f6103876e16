import Sope.Forensic.Records

set_option autoImplicit false

/- The hash columns of a record. The line of a hash program is told from the other kind by
a sign `=`, which the path may hold as well. -/
namespace Sope.Forensic

open Banking

/-- As many hexadecimal digits as a hash function gives. -/
structure Digest (size : Nat) where
  text : CString
  length : text.length = size
  hexadecimal : ∀ c ∈ text, c ∈ "0123456789abcdefABCDEF".toList

structure Digests where
  md5 : Digest 32
  sha1 : Digest 40
  sha256 : Digest 64

/-- What the hash programs print on Linux, and `shasum` on macOS. -/
def sumLine (digest path : CString) : CString := digest ++ ' ' :: ' ' :: path ++ ['\n']

/-- What `md5` prints on macOS. -/
def md5MacLine (digest path : CString) : CString :=
  ['M', 'D', '5', ' ', '('] ++ path ++ [')', ' ', '=', ' '] ++ digest ++ ['\n']

/-- The programs print the digests of a path. -/
structure Prints (options : Options) (tools : Tools) (path : CString) (digests : Digests) :
    Prop where
  md5 : tools.popen (commandLine (if options.macMode then md5cmdmac else md5cmd) path) =
    some (if options.macMode then md5MacLine digests.md5.text path
      else sumLine digests.md5.text path)
  sha1 : tools.popen (commandLine (if options.macMode then sha1cmdmac else sha1cmd) path) =
    some (sumLine digests.sha1.text path)
  sha256 : tools.popen (commandLine (if options.macMode then sha256cmdmac else sha256cmd) path) =
    some (sumLine digests.sha256.text path)

/-- The columns of the selected functions. -/
def hashColumns (options : Options) (digests : Digests) : CString :=
  (if options.hashmode &&& md5 ≠ 0 then ',' :: digests.md5.text else []) ++
    (if options.hashmode &&& sha1 ≠ 0 then ',' :: digests.sha1.text else []) ++
    if options.hashmode &&& sha256 ≠ 0 then ',' :: digests.sha256.text else []

/-- The digest stands behind the first sign `=` of the path and one more character. -/
def DigestBehind (path digest : CString) : Prop :=
  ∃ front c, '=' ∉ front ∧ path = front ++ '=' :: c :: digest

/-- When the columns are right. -/
inductive HashesRead (options : Options) (path : CString) (digests : Digests) : Prop where
  | plain (noEquals : '=' ∉ path)
  | none (noMd5 : options.hashmode &&& md5 = 0) (noSha1 : options.hashmode &&& sha1 = 0)
      (noSha256 : options.hashmode &&& sha256 = 0)
  | md5 (asked : options.hashmode &&& md5 ≠ 0) (noSha1 : options.hashmode &&& sha1 = 0)
      (noSha256 : options.hashmode &&& sha256 = 0) (linux : options.macMode = false)
      (behind : DigestBehind path digests.md5.text)
  | sha1 (noMd5 : options.hashmode &&& Forensic.md5 = 0) (asked : options.hashmode &&& sha1 ≠ 0)
      (noSha256 : options.hashmode &&& sha256 = 0) (behind : DigestBehind path digests.sha1.text)

section Strip

variable {front back path : CString} {c : Char}

theorem Digest.not_mem {size : Nat} (digest : Digest size)
    (other : c ∉ "0123456789abcdefABCDEF".toList) : c ∉ digest.text :=
  fun member => other (digest.hexadecimal c member)

/-- The scan for the newline leaves the array if the sign stands directly before it. -/
theorem strip_equals_last (noEquals : '=' ∉ front) :
    stripHashCodeFromResult (front ++ ['=', '\n']) = .error .undefined := by
  unfold stripHashCodeFromResult
  rw [Fields.dropWhile_append noEquals]
  rfl

variable {size : Nat} (code : Digest size)

theorem Digest.ne_nil (positive : 0 < size) : code.text ≠ [] :=
  List.ne_nil_of_length_pos (positive.trans_eq code.length.symm)

theorem strip_sumLine (positive : 0 < size) (noEquals : '=' ∉ path) :
    stripHashCodeFromResult (sumLine code.text path) = .ok (code.text, code.text) := by
  have split : sumLine code.text path = code.text ++ ' ' :: (' ' :: path ++ ['\n']) := by
    simp [sumLine]
  have noSign : '=' ∉ code.text ++ ' ' :: (' ' :: path ++ ['\n']) := by
    simp [code.not_mem (c := '=') (by decide), noEquals]
  rw [split]
  exact strip_blank (code.ne_nil positive) (code.not_mem (by decide)) noSign

/-- What stands behind the sign in the path is read, one character later. -/
theorem strip_sumLine_sign (noEquals : '=' ∉ front) (noNewline : '\n' ∉ front ++ '=' :: back) :
    (back = [] ∧ stripHashCodeFromResult (sumLine code.text (front ++ '=' :: back)) =
        .error .undefined) ∨
      ∃ c rest, back = c :: rest ∧
        stripHashCodeFromResult (sumLine code.text (front ++ '=' :: back)) =
          .ok (rest, sumLine code.text (front ++ '=' :: back)) := by
  have noSign : '=' ∉ code.text ++ ' ' :: ' ' :: front := by
    simp [code.not_mem (c := '=') (by decide), noEquals]
  cases back with
  | nil =>
      have split : sumLine code.text (front ++ ['=']) =
          (code.text ++ ' ' :: ' ' :: front) ++ ['=', '\n'] := by
        simp [sumLine]
      rw [split]
      exact .inl ⟨rfl, strip_equals_last noSign⟩
  | cons c rest =>
      have split : sumLine code.text (front ++ '=' :: c :: rest) =
          (code.text ++ ' ' :: ' ' :: front) ++ '=' :: c :: (rest ++ ['\n']) := by
        simp [sumLine]
      have noNewline' : '\n' ∉ rest := fun member => noNewline (by simp [member])
      rw [split]
      exact .inr ⟨c, rest, rfl, strip_equals noSign noNewline'⟩

theorem strip_md5MacLine (noEquals : '=' ∉ path) :
    stripHashCodeFromResult (md5MacLine code.text path) =
      .ok (code.text, md5MacLine code.text path) := by
  have split : md5MacLine code.text path =
      (['M', 'D', '5', ' ', '('] ++ path ++ [')', ' ']) ++ '=' :: ' ' :: (code.text ++ ['\n']) := by
    simp [md5MacLine]
  have noSign : '=' ∉ ['M', 'D', '5', ' ', '('] ++ path ++ [')', ' '] := by simp [noEquals]
  rw [split]
  exact strip_equals noSign (code.not_mem (by decide))

/-- With a sign in the path, blanks are read as well. -/
theorem strip_md5MacLine_sign (noEquals : '=' ∉ front) (noNewline : '\n' ∉ front ++ '=' :: back) :
    ∃ column, ' ' ∈ column ∧ '\n' ∉ column ∧
      stripHashCodeFromResult (md5MacLine code.text (front ++ '=' :: back)) =
        .ok (column, md5MacLine code.text (front ++ '=' :: back)) := by
  have noSign : '=' ∉ ['M', 'D', '5', ' ', '('] ++ front := by simp [noEquals]
  have noNewline' : '\n' ∉ code.text := code.not_mem (by decide)
  cases back with
  | nil =>
      have split : md5MacLine code.text (front ++ ['=']) =
          (['M', 'D', '5', ' ', '('] ++ front) ++
            '=' :: ')' :: (([' ', '=', ' '] ++ code.text) ++ ['\n']) := by
        simp [md5MacLine]
      rw [split]
      exact ⟨[' ', '=', ' '] ++ code.text, by simp, by simp [noNewline'],
        strip_equals noSign (by simp [noNewline'])⟩
  | cons c rest =>
      have split : md5MacLine code.text (front ++ '=' :: c :: rest) =
          (['M', 'D', '5', ' ', '('] ++ front) ++
            '=' :: c :: ((rest ++ [')', ' ', '=', ' '] ++ code.text) ++ ['\n']) := by
        simp [md5MacLine]
      have noNewline'' : '\n' ∉ rest := fun member => noNewline (by simp [member])
      rw [split]
      exact ⟨rest ++ [')', ' ', '=', ' '] ++ code.text, by simp,
        by simp [noNewline', noNewline''],
        strip_equals noSign (by simp [noNewline', noNewline''])⟩

end Strip

section Cells

variable {options : Options} {tools : Tools} {path result message : CString}

/-- The text that one hash function adds to the record, if it is asked for. -/
inductive Cell (asked : Prop) (hash : Except Failure (CString × CString))
    (column : CString × CString → CString) : CString → Prop where
  | given (code : CString × CString) (selected : asked) (ok : hash = .ok code) :
      Cell asked hash column (',' :: column code)
  | absent (notSelected : ¬ asked) : Cell asked hash column []

theorem cell_iff {asked : Prop} [Decidable asked] {hash : Except Failure (CString × CString)}
    {column : CString × CString → CString} :
    (if asked then hash >>= fun hash => pure (result ++ ',' :: column hash)
        else pure result : Except Failure CString) = .ok message ↔
      ∃ text, Cell asked hash column text ∧ message = result ++ text := by
  constructor
  · intro out
    split at out
    · rename_i selected
      obtain ⟨code, ok, out⟩ := bind_ok out
      cases out
      exact ⟨_, .given code selected ok, rfl⟩
    · rename_i notSelected
      cases out
      exact ⟨[], .absent notSelected, (List.append_nil _).symm⟩
  · rintro ⟨text, cell, rfl⟩
    cases cell with
    | given code selected ok =>
        rw [if_pos selected, ok]
        rfl
    | absent notSelected =>
        rw [if_neg notSelected, List.append_nil]
        rfl

/-- `getAllHashModes` appends the three cells. -/
theorem getAllHashModes_iff :
    getAllHashModes options tools path result = .ok message ↔
      ∃ md5Text sha1Text sha256Text,
        Cell (options.hashmode &&& md5 ≠ 0)
          (hashOf tools (if options.macMode then md5cmdmac else md5cmd) path) Prod.fst md5Text ∧
        Cell (options.hashmode &&& sha1 ≠ 0)
          (hashOf tools (if options.macMode then sha1cmdmac else sha1cmd) path) Prod.fst sha1Text ∧
        Cell (options.hashmode &&& sha256 ≠ 0)
          (hashOf tools (if options.macMode then sha256cmdmac else sha256cmd) path) Prod.snd
          sha256Text ∧
        message = result ++ md5Text ++ sha1Text ++ sha256Text := by
  constructor
  · intro out
    obtain ⟨withMd5, out₁, out⟩ := bind_ok out
    obtain ⟨withSha1, out₂, out₃⟩ := bind_ok out
    obtain ⟨md5Text, md5Cell, rfl⟩ := cell_iff.mp out₁
    obtain ⟨sha1Text, sha1Cell, rfl⟩ := cell_iff.mp out₂
    obtain ⟨sha256Text, sha256Cell, rfl⟩ := cell_iff.mp out₃
    exact ⟨md5Text, sha1Text, sha256Text, md5Cell, sha1Cell, sha256Cell, rfl⟩
  · rintro ⟨md5Text, sha1Text, sha256Text, md5Cell, sha1Cell, sha256Cell, rfl⟩
    have out₁ := cell_iff.mpr ⟨md5Text, md5Cell, Eq.refl (result ++ md5Text)⟩
    have out₂ := cell_iff.mpr ⟨sha1Text, sha1Cell, Eq.refl (result ++ md5Text ++ sha1Text)⟩
    have out₃ := cell_iff.mpr
      ⟨sha256Text, sha256Cell, Eq.refl (result ++ md5Text ++ sha1Text ++ sha256Text)⟩
    unfold getAllHashModes
    rw [out₁]
    dsimp only [bind, Except.bind] at out₂ out₃ ⊢
    rw [out₂]
    exact out₃

/-- A cell whose code is known. -/
theorem Cell.of_ok {asked : Prop} [Decidable asked] {hash : Except Failure (CString × CString)}
    {column : CString × CString → CString} {code : CString}
    (right : asked → ∃ codes, hash = .ok codes ∧ column codes = code) :
    Cell asked hash column (if asked then ',' :: code else []) := by
  split
  · rename_i selected
    obtain ⟨codes, ok, rfl⟩ := right selected
    exact .given codes selected ok
  · rename_i notSelected
    exact .absent notSelected

end Cells

section Read

variable {options : Options} {tools : Tools} {path result : CString} {digests : Digests}
  {command : CString} {size : Nat}

theorem hashOf_sumLine (code : Digest size) (small : size ≤ 64) (noNewline : '\n' ∉ path)
    (fits : path.length < 257)
    (printed : tools.popen (commandLine command path) = some (sumLine code.text path)) :
    hashOf tools command path = stripHashCodeFromResult (sumLine code.text path) := by
  refine hashOf_eq_strip printed ?_ ?_
  · simp [code.not_mem (c := '\n') (by decide), noNewline]
  · have length := code.length
    rw [List.length_append, List.length_cons, List.length_cons]
    unfold maxline
    omega

theorem hashOf_md5MacLine (code : Digest size) (small : size ≤ 64) (noNewline : '\n' ∉ path)
    (fits : path.length < 257)
    (printed : tools.popen (commandLine command path) = some (md5MacLine code.text path)) :
    hashOf tools command path = stripHashCodeFromResult (md5MacLine code.text path) := by
  refine hashOf_eq_strip printed ?_ ?_
  · simp [code.not_mem (c := '\n') (by decide), noNewline]
  · have length := code.length
    simp only [List.length_append, List.length_cons, List.length_nil]
    unfold maxline
    omega

/-- The columns are right if each of the selected functions leaves its digest. -/
theorem getAllHashModes_of_right
    (md5Right : options.hashmode &&& md5 ≠ 0 → ∃ codes,
      hashOf tools (if options.macMode then md5cmdmac else md5cmd) path = .ok codes ∧
        codes.1 = digests.md5.text)
    (sha1Right : options.hashmode &&& sha1 ≠ 0 → ∃ codes,
      hashOf tools (if options.macMode then sha1cmdmac else sha1cmd) path = .ok codes ∧
        codes.1 = digests.sha1.text)
    (sha256Right : options.hashmode &&& sha256 ≠ 0 → ∃ codes,
      hashOf tools (if options.macMode then sha256cmdmac else sha256cmd) path = .ok codes ∧
        codes.2 = digests.sha256.text) :
    getAllHashModes options tools path result = .ok (result ++ hashColumns options digests) :=
  getAllHashModes_iff.mpr ⟨_, _, _, .of_ok md5Right, .of_ok sha1Right, .of_ok sha256Right, by
    simp only [hashColumns, List.append_assoc]⟩

theorem Prints.md5Hash (prints : Prints options tools path digests) (noNewline : '\n' ∉ path)
    (fits : path.length < 257) :
    hashOf tools (if options.macMode then md5cmdmac else md5cmd) path =
      stripHashCodeFromResult (if options.macMode then md5MacLine digests.md5.text path
        else sumLine digests.md5.text path) := by
  have printed := prints.md5
  by_cases mac : options.macMode = true
  · rw [if_pos mac, if_pos mac] at printed ⊢
    exact hashOf_md5MacLine digests.md5 (by decide) noNewline fits printed
  · rw [if_neg mac, if_neg mac] at printed ⊢
    exact hashOf_sumLine digests.md5 (by decide) noNewline fits printed

theorem Prints.sha1Hash (prints : Prints options tools path digests) (noNewline : '\n' ∉ path)
    (fits : path.length < 257) :
    hashOf tools (if options.macMode then sha1cmdmac else sha1cmd) path =
      stripHashCodeFromResult (sumLine digests.sha1.text path) :=
  hashOf_sumLine digests.sha1 (by decide) noNewline fits prints.sha1

theorem Prints.sha256Hash (prints : Prints options tools path digests) (noNewline : '\n' ∉ path)
    (fits : path.length < 257) :
    hashOf tools (if options.macMode then sha256cmdmac else sha256cmd) path =
      stripHashCodeFromResult (sumLine digests.sha256.text path) :=
  hashOf_sumLine digests.sha256 (by decide) noNewline fits prints.sha256

/-- Where the path has no sign `=` the columns are right. -/
theorem Prints.read_plain (prints : Prints options tools path digests) (noNewline : '\n' ∉ path)
    (fits : path.length < 257) (noEquals : '=' ∉ path) :
    getAllHashModes options tools path result = .ok (result ++ hashColumns options digests) := by
  apply getAllHashModes_of_right
  · intro _
    rw [prints.md5Hash noNewline fits]
    split
    · exact ⟨_, strip_md5MacLine digests.md5 noEquals, rfl⟩
    · exact ⟨_, strip_sumLine digests.md5 (by decide) noEquals, rfl⟩
  · intro _
    rw [prints.sha1Hash noNewline fits]
    exact ⟨_, strip_sumLine digests.sha1 (by decide) noEquals, rfl⟩
  · intro _
    rw [prints.sha256Hash noNewline fits]
    exact ⟨_, strip_sumLine digests.sha256 (by decide) noEquals, rfl⟩

/-- A digest that stands in the path is what is read, whatever digest is printed. -/
theorem strip_of_digestBehind (code : Digest size) (noNewline : '\n' ∉ path) {text : CString}
    (behind : DigestBehind path text) :
    ∃ codes, stripHashCodeFromResult (sumLine code.text path) = .ok codes ∧ codes.1 = text := by
  obtain ⟨front, c, noEquals, rfl⟩ := behind
  rcases strip_sumLine_sign code noEquals noNewline with ⟨none, -⟩ | ⟨c', rest, split, read⟩
  · cases none
  · cases split
    exact ⟨_, read, rfl⟩

/-- The columns are right where the condition holds. -/
theorem HashesRead.columns (condition : HashesRead options path digests)
    (prints : Prints options tools path digests) (noNewline : '\n' ∉ path)
    (fits : path.length < 257) :
    getAllHashModes options tools path result = .ok (result ++ hashColumns options digests) := by
  cases condition with
  | plain noEquals => exact prints.read_plain noNewline fits noEquals
  | none noMd5 noSha1 noSha256 =>
      exact getAllHashModes_of_right (absurd noMd5) (absurd noSha1) (absurd noSha256)
  | md5 asked noSha1 noSha256 linux behind =>
      refine getAllHashModes_of_right (fun _ => ?_) (absurd noSha1) (absurd noSha256)
      rw [prints.md5Hash noNewline fits, linux]
      exact strip_of_digestBehind digests.md5 noNewline behind
  | sha1 noMd5 asked noSha256 behind =>
      refine getAllHashModes_of_right (absurd noMd5) (fun _ => ?_) (absurd noSha256)
      rw [prints.sha1Hash noNewline fits]
      exact strip_of_digestBehind digests.sha1 noNewline behind

end Read

section Sign

variable {options : Options} {tools : Tools} {front back result : CString} {digests : Digests}
  {size : Nat} {column : CString × CString → CString} {text : CString} {asked : Prop}

/-- Neither a comma nor a digit. -/
theorem hashColumns_not_mem {c : Char} (noDigit : c ∉ "0123456789abcdefABCDEF".toList)
    (noComma : c ≠ ',') : c ∉ hashColumns options digests := by
  have none := digests.md5.not_mem noDigit
  have none' := digests.sha1.not_mem noDigit
  have none'' := digests.sha256.not_mem noDigit
  unfold hashColumns
  split <;> split <;> split <;> simp [none, none', none'', noComma]

/-- What a line with a sign leaves as the cell of a path. -/
theorem Cell.of_sign {code : Digest size} (noEquals : '=' ∉ front)
    (noNewline : '\n' ∉ front ++ '=' :: back)
    (cell : Cell asked (stripHashCodeFromResult (sumLine code.text (front ++ '=' :: back))) column
      text) (selected : asked) :
    ∃ c rest, back = c :: rest ∧
      text = ',' :: column (rest, sumLine code.text (front ++ '=' :: back)) := by
  cases cell with
  | given codes _ ok =>
      rcases strip_sumLine_sign code noEquals noNewline with ⟨-, wrong⟩ | ⟨c, rest, split, read⟩
      · rw [wrong] at ok
        cases ok
      · rw [read] at ok
        cases ok
        exact ⟨c, rest, split, rfl⟩
  | absent notSelected => exact absurd selected notSelected

/-- The cell of `md5` on macOS holds a blank then. -/
theorem Cell.blank_of_sign {code : Digest size} (noEquals : '=' ∉ front)
    (noNewline : '\n' ∉ front ++ '=' :: back)
    (cell : Cell asked (stripHashCodeFromResult (md5MacLine code.text (front ++ '=' :: back)))
      Prod.fst text) (selected : asked) : ' ' ∈ text := by
  cases cell with
  | given codes _ ok =>
      obtain ⟨column, blank, -, read⟩ := strip_md5MacLine_sign code noEquals noNewline
      rw [read] at ok
      cases ok
      exact List.mem_cons_of_mem _ blank
  | absent notSelected => exact absurd selected notSelected

theorem Cell.eq_nil {hash : Except Failure (CString × CString)} (cell : Cell asked hash column text)
    (notSelected : ¬ asked) : text = [] := by
  cases cell with
  | given codes selected ok => exact absurd selected notSelected
  | absent => rfl

/-- One text twice is no pair of columns of different lengths. -/
theorem same_columns_ne {rest digest digest' : CString} (noComma : ',' ∉ digest)
    (noComma' : ',' ∉ digest') (lengths : digest.length ≠ digest'.length) :
    rest ++ ',' :: rest ≠ digest ++ ',' :: digest' := by
  intro same
  have commas := congrArg (List.count ',') same
  simp only [List.count_append, List.count_cons_self, List.count_eq_zero_of_not_mem noComma,
    List.count_eq_zero_of_not_mem noComma'] at commas
  have none : ',' ∉ rest := List.count_eq_zero.mp (by omega)
  have first := congrArg (List.takeWhile (· ≠ ',')) same
  rw [Fields.takeWhile_append none, Fields.takeWhile_append noComma] at first
  rw [first] at same
  have second := (List.cons.inj (List.append_cancel_left same)).2
  exact lengths (congrArg List.length second)

/-- Where a path with a sign `=` has the right columns, the condition holds. -/
theorem hashesRead_of_columns (prints : Prints options tools (front ++ '=' :: back) digests)
    (noEquals : '=' ∉ front) (noNewline : '\n' ∉ front ++ '=' :: back)
    (fits : (front ++ '=' :: back).length < 257)
    (out : getAllHashModes options tools (front ++ '=' :: back) result =
      .ok (result ++ hashColumns options digests)) :
    HashesRead options (front ++ '=' :: back) digests := by
  obtain ⟨md5Text, sha1Text, sha256Text, md5Cell, sha1Cell, sha256Cell, same⟩ :=
    getAllHashModes_iff.mp out
  rw [prints.md5Hash noNewline fits] at md5Cell
  rw [prints.sha1Hash noNewline fits] at sha1Cell
  rw [prints.sha256Hash noNewline fits] at sha256Cell
  have texts : hashColumns options digests = md5Text ++ sha1Text ++ sha256Text := by
    rw [List.append_assoc, List.append_assoc] at same
    rw [List.append_cancel_left same, List.append_assoc]
  -- what is appended for sha256 is the line, with its newline
  have noSha256 : options.hashmode &&& sha256 = 0 := by
    by_contra asked
    obtain ⟨c, rest, -, rfl⟩ := sha256Cell.of_sign noEquals noNewline asked
    have newline : '\n' ∈ hashColumns options digests := by
      rw [texts]
      simp [sumLine]
    exact hashColumns_not_mem (by decide) (by decide) newline
  obtain rfl := sha256Cell.eq_nil (not_not_intro noSha256)
  have linux : options.hashmode &&& md5 ≠ 0 → options.macMode = false := by
    intro asked
    by_contra mac
    rw [Bool.not_eq_false] at mac
    rw [if_pos mac] at md5Cell
    have blank : ' ' ∈ hashColumns options digests := by
      rw [texts]
      simp [md5Cell.blank_of_sign noEquals noNewline asked]
    exact hashColumns_not_mem (by decide) (by decide) blank
  by_cases noMd5 : options.hashmode &&& md5 = 0
  · obtain rfl := md5Cell.eq_nil (not_not_intro noMd5)
    by_cases noSha1 : options.hashmode &&& sha1 = 0
    · exact .none noMd5 noSha1 noSha256
    · obtain ⟨c, rest, rfl, rfl⟩ := sha1Cell.of_sign noEquals noNewline noSha1
      have column : rest = digests.sha1.text := by
        simpa [hashColumns, noMd5, noSha1, noSha256] using texts.symm
      exact .sha1 noMd5 noSha1 noSha256 ⟨front, c, noEquals, column ▸ rfl⟩
  · rw [linux noMd5] at md5Cell
    obtain ⟨c, rest, rfl, rfl⟩ := md5Cell.of_sign noEquals noNewline noMd5
    by_cases noSha1 : options.hashmode &&& sha1 = 0
    · obtain rfl := sha1Cell.eq_nil (not_not_intro noSha1)
      have column : rest = digests.md5.text := by
        simpa [hashColumns, noMd5, noSha1, noSha256] using texts.symm
      exact .md5 noMd5 noSha1 noSha256 (linux noMd5) ⟨front, c, noEquals, column ▸ rfl⟩
    · obtain ⟨c', rest', split, rfl⟩ := sha1Cell.of_sign noEquals noNewline noSha1
      cases split
      have columns : rest ++ ',' :: rest = digests.md5.text ++ ',' :: digests.sha1.text := by
        simpa [hashColumns, noMd5, noSha1, noSha256] using texts.symm
      have lengths : digests.md5.text.length ≠ digests.sha1.text.length := by
        rw [digests.md5.length, digests.sha1.length]
        decide
      exact absurd columns (same_columns_ne (digests.md5.not_mem (by decide))
        (digests.sha1.not_mem (by decide)) lengths)

end Sign

/-- The hash columns are the digests exactly if no function is selected, the path has no
sign `=`, or the only digest that is asked for stands in the path itself. -/
theorem hash_columns_iff (options : Options) (tools : Tools) (path result : CString)
    (digests : Digests) (noNewline : '\n' ∉ path) (fits : path.length < 257)
    (prints : Prints options tools path digests) :
    getAllHashModes options tools path result = .ok (result ++ hashColumns options digests) ↔
      HashesRead options path digests := by
  constructor
  · intro out
    by_cases sign : '=' ∈ path
    · obtain ⟨front, back, rfl, noEquals⟩ := List.eq_append_cons_of_mem sign
      exact hashesRead_of_columns prints noEquals noNewline fits out
    · exact .plain sign
  · intro condition
    exact condition.columns prints noNewline fits

def zeroDigest (size : Nat) : Digest size where
  text := List.replicate size '0'
  length := List.length_replicate
  hexadecimal c member := by
    rw [List.eq_of_mem_replicate member]
    decide

def zeroDigests : Digests := ⟨zeroDigest 32, zeroDigest 40, zeroDigest 64⟩

/-- Programs that print zeros for every path. -/
def zeroTools : Tools where
  popen cmd := some (sumLine (List.replicate (if md5cmd.isPrefixOf cmd then 32
    else if sha1cmd.isPrefixOf cmd then 40 else 64) '0') (quoted cmd))
  localtime _ := ⟨70, 0, 1, 0, 0, 0⟩
  isatty := true

def md5Options : Options where
  hashmode := md5
  oCommand := none
  rCommand := false
  vCommand := false
  macMode := false
  logFilepath := []

/-- `md5sum` on a path with a sign `=`: the column is empty. -/
theorem signPath_column :
    Prints md5Options zeroTools ['a', '=', 'b'] zeroDigests ∧
      getAllHashModes md5Options zeroTools ['a', '=', 'b'] [] = .ok [','] ∧
      hashColumns md5Options zeroDigests ≠ [','] :=
  ⟨⟨rfl, rfl, rfl⟩, rfl, by decide⟩

theorem signPath_columns_iff :
    getAllHashModes md5Options zeroTools ['a', '=', 'b'] [] =
        .ok ([] ++ hashColumns md5Options zeroDigests) ↔
      HashesRead md5Options ['a', '=', 'b'] zeroDigests :=
  hash_columns_iff md5Options zeroTools ['a', '=', 'b'] [] zeroDigests (by decide) (by decide)
    ⟨rfl, rfl, rfl⟩

end Sope.Forensic
