import Sope.Forensic.ToolBuffers
import Sope.Lib.ShellTokens

set_option autoImplicit false

/- What the shell makes of the command lines of `executeSystemCommand`. -/
namespace Sope.Forensic

open Banking CharArray

/-- The program that a caller runs and the arguments before the path. -/
def Caller.words (macMode : Bool) : Caller → List CString
  | .file => [['f', 'i', 'l', 'e']]
  | .md5 => if macMode then [['m', 'd', '5']] else [['m', 'd', '5', 's', 'u', 'm']]
  | .sha1 =>
      if macMode then [['s', 'h', 'a', 's', 'u', 'm'], ['-', 'a'], ['1']]
      else [['s', 'h', 'a', '1', 's', 'u', 'm']]
  | .sha256 =>
      if macMode then [['s', 'h', 'a', 's', 'u', 'm'], ['-', 'a'], ['2', '5', '6']]
      else [['s', 'h', 'a', '2', '5', '6', 's', 'u', 'm']]

theorem Caller.command_eq (macMode : Bool) (caller : Caller) :
    caller.command macMode = (caller.words macMode).flatMap (· ++ [' ']) := by
  cases macMode <;> cases caller <;> rfl

theorem Caller.words_bare (macMode : Bool) (caller : Caller) :
    ∀ word ∈ caller.words macMode, Shell.Bare word := by
  have nonempty : ∀ word ∈ caller.words macMode, word ≠ [] := by
    cases macMode <;> cases caller <;> decide
  have bare : ((caller.words macMode).all fun word => word.all Shell.isBare) = true := by
    cases macMode <;> cases caller <;> rfl
  intro word member
  exact ⟨nonempty word member, List.all_eq_true.mp (List.all_eq_true.mp bare word member)⟩

theorem commandLine_eq (macMode : Bool) (caller : Caller) (path : CString) :
    commandLine (caller.command macMode) path =
      (caller.words macMode).flatMap (· ++ [' ']) ++
        ' ' :: Shell.doubleQuote :: (path ++ [Shell.doubleQuote]) := by
  rw [commandLine, caller.command_eq]
  simp

/-- The command line is one simple command, with the path as its last argument, exactly if
every character of the path stands for itself between double quotes. -/
theorem commandLine_one_command_iff (lone macMode : Bool) (caller : Caller) (path : CString) :
    Shell.tokens lone (commandLine (caller.command macMode) path) =
        some ((caller.words macMode ++ [path]).map Shell.Token.word) ↔
      Shell.Verbatim lone path := by
  rw [commandLine_eq, List.map_append]
  exact Shell.tokens_quoted_iff (caller.words_bare macMode) path

/-- `";reboot;"`. -/
def rebootPath : CString :=
  [Shell.doubleQuote, ';', 'r', 'e', 'b', 'o', 'o', 't', ';', Shell.doubleQuote]

/-- The name of the file becomes a command. -/
theorem reboot_commands :
    rebootPath ≠ [] ∧ nul ∉ rebootPath ∧
      Shell.tokens true (commandLine (Caller.command false .file) rebootPath) =
        some [.word ['f', 'i', 'l', 'e'], .word [], .operator ';',
          .word ['r', 'e', 'b', 'o', 'o', 't'], .operator ';', .word []] ∧
      Shell.tokens true (commandLine (Caller.command false .file) rebootPath) ≠
        some [.word ['f', 'i', 'l', 'e'], .word rebootPath] := by
  decide

end Sope.Forensic
