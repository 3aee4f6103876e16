import Sope.Forensic.Columns
import Sope.Lib.Buffer

set_option autoImplicit false

/- `executeSystemCommand` and the arrays that it writes to: its own and those of its four
callers, which are not told to it. -/
namespace Sope.Forensic

open Banking CharArray

/-- `char cmd[260]`. -/
def cmdSize : Nat := 260

/-- `md5Hash`, `sha1Hash` and `sha256Hash`. -/
def hashSize : Nat := 64

/-- `executeSystemCommand` with its arrays; `none` where a byte is written outside. -/
def Arrays.executeSystemCommand {n : Nat} (tools : Tools) (command arguments : CString)
    (cmd : Buffer cmdSize) (result : Buffer n) : Option (Except Failure (Buffer n)) := do
  let _ ← cmd.copy 0 (commandLine command arguments)
  match tools.popen (commandLine command arguments) with
  | none => return .error .exit
  | some printed =>
      let result ← result.fgets maxline printed
      return .ok result

/-- The calls of `executeSystemCommand`, in `analyze_file` and in `getAllHashModes`. -/
inductive Caller where
  | file
  | md5
  | sha1
  | sha256

def Caller.command (macMode : Bool) : Caller → CString
  | .file => filecmd
  | .md5 => if macMode then md5cmdmac else md5cmd
  | .sha1 => if macMode then sha1cmdmac else sha1cmd
  | .sha256 => if macMode then sha256cmdmac else sha256cmd

/-- The size of the array that a caller hands over. -/
def Caller.size : Caller → Nat
  | .file => fileResultSize
  | .md5 | .sha1 | .sha256 => hashSize

section Call

variable {n : Nat} {tools : Tools} {command arguments printed : CString} {cmd : Buffer cmdSize}
  {result result' : Buffer n}

theorem firstLine_eq (printed : CString) :
    firstLine printed =
      printed.takeWhile (· ≠ '\n') ++ (printed.dropWhile (· ≠ '\n')).take 1 := by
  induction printed with
  | nil => rfl
  | cons c rest ih =>
      rw [firstLine]
      split
      · rename_i newline
        simp [newline]
      · rename_i other
        simp [other, ih]

theorem length_commandLine (command arguments : CString) :
    (commandLine command arguments).length = command.length + arguments.length + 3 := by
  simp only [commandLine, List.length_append, List.length_cons, List.length_nil]
  omega

theorem fgets_isSome_iff :
    (result.fgets maxline printed).isSome ↔
      printed = [] ∨ min (maxline - 1) (firstLine printed).length < n := by
  cases printed with
  | nil => simp [Buffer.fgets]
  | cons c rest =>
      rw [fgets_of_ne_nil (List.cons_ne_nil c rest), copy_isSome_iff, List.length_take,
        Nat.zero_add]
      simp

/-- Where nothing is written outside, the array holds what is read, or what it held before
if nothing is printed. -/
theorem Arrays.executeSystemCommand_string (noNul : ∀ printed,
      tools.popen (commandLine command arguments) = some printed → nul ∉ printed)
    (ran : Arrays.executeSystemCommand tools command arguments cmd result = some (.ok result')) :
    ∃ text, Forensic.executeSystemCommand tools command arguments = .ok text ∧
      result'.string = text.getD result.string := by
  obtain ⟨cmd', -, ran⟩ := Option.bind_eq_some_iff.mp ran
  cases popen : tools.popen (commandLine command arguments) with
  | none =>
      rw [popen] at ran
      cases ran
  | some printed =>
      rw [popen] at ran
      obtain ⟨read, stored, same⟩ := Option.bind_eq_some_iff.mp ran
      cases same
      refine ⟨fgets printed, by rw [Forensic.executeSystemCommand, popen], ?_⟩
      cases printed with
      | nil =>
          cases stored
          rfl
      | cons c rest =>
          have noNul' : nul ∉ (firstLine (c :: rest)).take (maxline - 1) := by
            intro member
            have inLine := List.mem_of_mem_take member
            rw [firstLine_eq] at inLine
            apply noNul _ popen
            rcases List.mem_append.mp inLine with front | back
            · exact (List.takeWhile_prefix _).subset front
            · exact (List.dropWhile_suffix _).subset (List.mem_of_mem_take back)
          rw [copy_string noNul' stored, firstLine_eq]
          rfl

/-- The writes are inside exactly if the command line fits its array and the line that is
read fits the array of the caller. -/
theorem Arrays.executeSystemCommand_isSome_iff :
    (Arrays.executeSystemCommand tools command arguments cmd result).isSome ↔
      command.length + arguments.length + 3 < cmdSize ∧
        ∀ printed, tools.popen (commandLine command arguments) = some printed →
          printed = [] ∨ min (maxline - 1) (firstLine printed).length < n := by
  have fits : (cmd.copy 0 (commandLine command arguments)).isSome ↔
      command.length + arguments.length + 3 < cmdSize := by
    rw [copy_isSome_iff, length_commandLine, Nat.zero_add]
  rw [← fits]
  unfold Arrays.executeSystemCommand
  cases copied : cmd.copy 0 (commandLine command arguments) with
  | none => simp
  | some cmd' =>
      cases popen : tools.popen (commandLine command arguments) with
      | none => simp
      | some printed =>
          have read : (result.fgets maxline printed).isSome ↔
              printed = [] ∨ min (maxline - 1) (firstLine printed).length < n := fgets_isSome_iff
          cases stored : result.fgets maxline printed with
          | none => simpa [stored] using read
          | some read' => simpa [stored] using read

end Call

section Callers

variable {tools : Tools} {macMode : Bool} {caller : Caller} {path : CString}
  {cmd : Buffer cmdSize} {result : Buffer caller.size}

theorem Caller.size_le (caller : Caller) : caller.size ≤ maxline - 1 := by
  cases caller <;> decide

/-- What a caller hands over is enough for a line exactly if the line is shorter. -/
theorem Caller.fits_iff (caller : Caller) (printed : CString) :
    (printed = [] ∨ min (maxline - 1) (firstLine printed).length < caller.size) ↔
      (firstLine printed).length < caller.size := by
  have small := caller.size_le
  have positive : 0 < caller.size := by cases caller <;> decide
  constructor
  · rintro (rfl | fits)
    · exact positive
    · omega
  · intro fits
    exact .inr (by omega)

variable {size : Nat}

theorem length_firstLine_sumLine (code : Digest size) (noNewline : '\n' ∉ path) :
    (firstLine (sumLine code.text path)).length = size + path.length + 3 := by
  have oneLine : '\n' ∉ code.text ++ ' ' :: ' ' :: path := by
    simp [code.not_mem (c := '\n') (by decide), noNewline]
  have length := code.length
  rw [sumLine, firstLine_append_newline oneLine]
  simp only [List.length_append, List.length_cons, List.length_nil]
  omega

/-- The line of `sha256sum` fits for no path: the digest alone is as long as the array. -/
theorem sha256_outside (code : Digest 64) (noNewline : '\n' ∉ path)
    (printed : tools.popen (commandLine (Caller.command macMode .sha256) path) =
      some (sumLine code.text path)) (result : Buffer (Caller.size .sha256)) :
    Arrays.executeSystemCommand tools (Caller.command macMode .sha256) path cmd result = none := by
  rw [← Option.not_isSome_iff_eq_none, Arrays.executeSystemCommand_isSome_iff]
  rintro ⟨-, inside⟩
  have fits := (Caller.fits_iff .sha256 _).mp (inside _ printed)
  rw [length_firstLine_sumLine code noNewline] at fits
  simp only [Caller.size, hashSize] at fits
  omega

end Callers

/-- A call writes inside its arrays exactly if the command, the path and the three
characters around it are shorter than `cmd`, and the first line that the program prints is
shorter than the array of the caller. -/
theorem call_inside_iff (tools : Tools) (macMode : Bool) (caller : Caller) (path : CString)
    (cmd : Buffer cmdSize) (result : Buffer caller.size) :
    (Arrays.executeSystemCommand tools (caller.command macMode) path cmd result).isSome ↔
      (caller.command macMode).length + path.length + 3 < cmdSize ∧
        ∀ printed, tools.popen (commandLine (caller.command macMode) path) = some printed →
          (firstLine printed).length < caller.size := by
  rw [Arrays.executeSystemCommand_isSome_iff]
  simp only [caller.fits_iff]

def blankBuffer (n : Nat) : Buffer n := ⟨List.replicate n nul, List.length_replicate⟩

/-- `sha256sum` on the path `a`. -/
theorem sha256sum_a_outside :
    ['a'].length < 257 ∧
      zeroTools.popen (commandLine (Caller.command false .sha256) ['a']) =
        some (sumLine (zeroDigest 64).text ['a']) ∧
      Arrays.executeSystemCommand zeroTools (Caller.command false .sha256) ['a']
        (blankBuffer cmdSize) (blankBuffer (Caller.size .sha256)) = none :=
  ⟨by decide, rfl, sha256_outside (zeroDigest 64) (by decide) rfl _⟩

end Sope.Forensic
