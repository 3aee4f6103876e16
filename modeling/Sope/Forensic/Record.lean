import Sope.Forensic.Types
import Sope.Lib.Shell

set_option autoImplicit false

/- The record of one file (`analyze_file` and the functions of forensic_aux.c). Arrays
are as long as what is written to them. -/
namespace Sope.Forensic

open Banking

/-- `struct tm`, as far as it is printed. -/
structure Tm where
  tmYear : Int
  tmMon : Int
  tmMday : Int
  tmHour : Int
  tmMin : Int
  tmSec : Int

/-- What surrounds a process: all that a command line prints, if `popen` can start it,
`localtime_r`, and whether standard output is a terminal. -/
structure Tools where
  popen : CString → Option CString
  localtime : Int → Tm
  isatty : Bool

/-- How a process can end inside `analyze_file`: with `exit(1)`, or through a null
pointer, an indeterminate array or a read past the end of one. -/
inductive Failure where
  | exit
  | undefined
  deriving DecidableEq

/-- `printf` with `%d`. -/
def decimal (value : Int) : CString :=
  if value < 0 then '-' :: Nat.toDigits 10 value.natAbs else Nat.toDigits 10 value.natAbs

theorem not_mem_decimal {c : Char} (noDigit : c.isDigit = false) (noMinus : c ≠ '-')
    (value : Int) : c ∉ decimal value := by
  have notDigit (n : Nat) : c ∉ Nat.toDigits 10 n := by
    intro member
    have digit := Nat.isDigit_of_mem_toDigits (by decide) (by decide) member
    rw [noDigit] at digit
    cases digit
  unfold decimal
  split
  · rw [List.mem_cons, not_or]
    exact ⟨noMinus, notDigit _⟩
  · exact notDigit _

/-- `strtok`: the token and what a later call with `NULL` goes on with. -/
def strtok (delimiters text : CString) : Option (CString × CString) :=
  match text.dropWhile (· ∈ delimiters) with
  | [] => none
  | c :: rest =>
      some ((c :: rest).takeWhile (· ∉ delimiters), ((c :: rest).dropWhile (· ∉ delimiters)).tail)

def maxline : Nat := 512

/-- `fgets` for `MAXLINE` bytes: up to the first newline, with it. Nothing is stored
when there is nothing to read. -/
def fgets (printed : CString) : Option CString :=
  match printed with
  | [] => none
  | _ =>
      some ((printed.takeWhile (· ≠ '\n') ++ (printed.dropWhile (· ≠ '\n')).take 1).take
        (maxline - 1))

/-- `cmd`: the arguments stand between double quotes. -/
def commandLine (command arguments : CString) : CString :=
  command ++ [' ', Shell.doubleQuote] ++ arguments ++ [Shell.doubleQuote]

/-- What is left in `result`, if anything is. -/
def executeSystemCommand (tools : Tools) (command arguments : CString) :
    Except Failure (Option CString) :=
  match tools.popen (commandLine command arguments) with
  | none => .error .exit
  | some printed => .ok (fgets printed)

/-- The stripped code, and what the call leaves in `hashCodeResult`. -/
def stripHashCodeFromResult (hashCodeResult : CString) : Except Failure (CString × CString) :=
  match hashCodeResult.dropWhile (· ≠ '=') with
  | [] =>
      match strtok [' '] hashCodeResult with
      | none => .error .undefined
      | some (token, _) => .ok (token, hashCodeResult.takeWhile (· = ' ') ++ token)
  | _ :: [] => .error .undefined
  | _ :: _ :: stripedHash =>
      -- the scan for the newline goes past the array if there is none
      if '\n' ∈ stripedHash then .ok (stripedHash.takeWhile (· ≠ '\n'), hashCodeResult)
      else .error .undefined

/-- The code of one hash program, stripped and as it is left in the array. -/
def hashOf (tools : Tools) (command fileChar : CString) : Except Failure (CString × CString) := do
  match ← executeSystemCommand tools command fileChar with
  | none => .error .undefined
  | some hash => stripHashCodeFromResult hash

def filecmd : CString := "file ".toList
def md5cmd : CString := "md5sum ".toList
def sha1cmd : CString := "sha1sum ".toList
def sha256cmd : CString := "sha256sum ".toList
def md5cmdmac : CString := "md5 ".toList
def sha1cmdmac : CString := "shasum -a 1 ".toList
def sha256cmdmac : CString := "shasum -a 256 ".toList

def getAllHashModes (options : Options) (tools : Tools) (fileChar result : CString) :
    Except Failure CString := do
  let result ← (if options.hashmode &&& md5 ≠ 0 then do
      let hash ← hashOf tools (if options.macMode then md5cmdmac else md5cmd) fileChar
      pure (result ++ ',' :: hash.1)
    else pure result)
  let result ← (if options.hashmode &&& sha1 ≠ 0 then do
      let hash ← hashOf tools (if options.macMode then sha1cmdmac else sha1cmd) fileChar
      pure (result ++ ',' :: hash.1)
    else pure result)
  if options.hashmode &&& sha256 ≠ 0 then do
    let hash ← hashOf tools (if options.macMode then sha256cmdmac else sha256cmd) fileChar
    -- `sha256Hash` is appended here, not `stripedHash`
    pure (result ++ ',' :: hash.2)
  else pure result

def convertTimespecToString (tools : Tools) (org : Int) : CString :=
  let tst := tools.localtime org
  decimal (1900 + tst.tmYear) ++ '-' :: decimal tst.tmMon ++ '-' :: decimal tst.tmMday ++
    'T' :: decimal tst.tmHour ++ ':' :: decimal tst.tmMin ++ ':' :: decimal tst.tmSec

def sIrusr : UInt32 := 0o400
def sIwusr : UInt32 := 0o200
def sIxusr : UInt32 := 0o100

/-- `file_perm`. -/
def filePerm (statdata : Stat) : CString :=
  (if statdata.stMode &&& sIrusr ≠ 0 then ['r'] else []) ++
    (if statdata.stMode &&& sIwusr ≠ 0 then ['w'] else []) ++
    (if statdata.stMode &&& sIxusr ≠ 0 then ['x'] else [])

/-- `file_name` and `file_type`: the type is cut at a comma if the line has one
anywhere, and its first character is skipped. -/
def nameAndType (fileResult : CString) : Option (CString × CString) := do
  let (fileName, rest) ← strtok [':'] fileResult
  let (fileType, _) ← strtok (if ',' ∈ fileResult then [','] else ['\n']) rest
  return (fileName, fileType.tail)

/-- `out_message` of `analyze_file`. -/
def outMessage (options : Options) (tools : Tools) (file : File) : Except Failure CString := do
  let fileResult ← executeSystemCommand tools filecmd file.path
  match nameAndType (fileResult.getD []) with
  | none => .error .undefined
  | some (fileName, fileType) =>
      let modTime := convertTimespecToString tools file.stat.stMtime
      let accTime := convertTimespecToString tools file.stat.stCtime
      let message := fileName ++ ',' :: fileType ++ ',' :: decimal file.stat.stSize ++
        ',' :: filePerm file.stat ++ ',' :: accTime ++ ',' :: modTime
      let message ← getAllHashModes options tools file.path message
      return message ++ ['\n']

end Sope.Forensic
