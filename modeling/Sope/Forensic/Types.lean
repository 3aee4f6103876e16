import Sope.Banking.Types
import Mathlib.Data.Multiset.Basic

set_option autoImplicit false

/- What forensic works on: its options and the directory tree below the start path. -/
namespace Sope.Forensic

open Banking

/-- `Options`, without the pid of the first process and the start time. -/
structure Options where
  hashmode : UInt8
  oCommand : Option CString
  rCommand : Bool
  vCommand : Bool
  macMode : Bool
  logFilepath : CString

/-- The bits of `hashmode`. -/
def md5 : UInt8 := 1
def sha1 : UInt8 := 2
def sha256 : UInt8 := 4

/-- The fields of `struct stat` that end up in a record. -/
structure Stat where
  stMode : UInt32
  stSize : Int
  stMtime : Int
  stCtime : Int
  deriving DecidableEq

/-- A path that `analyze_file` is called with, and what `stat` says of it. -/
structure File where
  path : CString
  stat : Stat
  deriving DecidableEq

/-- What `readdir` has still to return for a directory, in its order, without `.` and
`..`. An `other` entry is neither a regular file nor a directory. At `failed` the next
call fails: `opendir`, or `stat` on the next entry; `rest` is what the directory holds
behind it. -/
inductive Entries where
  | done
  | failed (rest : Entries)
  | file (name : CString) (stat : Stat) (rest : Entries)
  | other (name : CString) (rest : Entries)
  | dir (name : CString) (inside rest : Entries)

/-- The start path: no directory, a directory, or a path that `stat` fails on. -/
inductive Start where
  | file (stat : Stat)
  | dir (inside : Entries)
  | missing

/-- `temp_filename`. -/
def entryPath (filepath name : CString) : CString := filepath ++ '/' :: name

/-- `dir->d_name[0] != '.'` is what the directory loop asks for before it forks. -/
def isHidden (name : CString) : Bool := name.head? == some '.'

/-- The files below a directory that are reached without entering a hidden one. What is
listed behind a call that fails is not reached. -/
def Entries.files (filepath : CString) : Entries → List File
  | .done | .failed _ => []
  | .file name stat rest => ⟨entryPath filepath name, stat⟩ :: rest.files filepath
  | .other _ rest => rest.files filepath
  | .dir name inside rest =>
      (if isHidden name then [] else inside.files (entryPath filepath name)) ++
        rest.files filepath

def Start.files (filepath : CString) : Start → List File
  | .file stat => [⟨filepath, stat⟩]
  | .dir inside => inside.files filepath
  | .missing => []

/-- All files below a directory outside of the hidden ones, reached or not. -/
def Entries.held (filepath : CString) : Entries → List File
  | .done => []
  | .failed rest | .other _ rest => rest.held filepath
  | .file name stat rest => ⟨entryPath filepath name, stat⟩ :: rest.held filepath
  | .dir name inside rest =>
      (if isHidden name then [] else inside.held (entryPath filepath name)) ++
        rest.held filepath

theorem Entries.files_sublist_held (entries : Entries) (filepath : CString) :
    (entries.files filepath).Sublist (entries.held filepath) := by
  induction entries generalizing filepath with
  | done => exact .refl _
  | failed rest => exact List.nil_sublist _
  | file name stat rest ih => exact (ih filepath).cons_cons _
  | other name rest ih => exact ih filepath
  | dir name inside rest ihInside ihRest =>
      refine List.Sublist.append ?_ (ihRest filepath)
      split
      · exact .refl _
      · exact ihInside _

/-- Every file of a directory has a path that goes on after the path of the directory. -/
theorem Entries.path_of_mem {filepath : CString} {entries : Entries} {file : File}
    (member : file ∈ entries.held filepath) : ∃ name, file.path = entryPath filepath name := by
  induction entries generalizing filepath with
  | done => cases member
  | failed rest ih => exact ih member
  | file name stat rest ih =>
      rcases List.mem_cons.mp member with rfl | later
      · exact ⟨name, rfl⟩
      · exact ih later
  | other name rest ih => exact ih member
  | dir name inside rest ihInside ihRest =>
      rcases List.mem_append.mp member with below | later
      · split at below
        · cases below
        · obtain ⟨name', path⟩ := ihInside below
          refine ⟨name ++ '/' :: name', ?_⟩
          rw [path, entryPath, entryPath, entryPath, List.append_assoc, List.cons_append]
      · exact ihRest later

end Sope.Forensic
