import Mathlib.Logic.Function.Basic
import Mathlib.Data.List.Basic

set_option autoImplicit false

/- Named pipes: a directory of paths, each naming an inode, and the inodes with the
messages that they hold. Unlinking a path leaves its inode to those who have it open.
Only readers are counted, since all writers here open without blocking. -/
namespace Fifo

structure Pipe (α : Type) where
  readers : Nat
  contents : List α

structure Pipes (π α : Type) where
  entries : π → Option Nat
  inodes : Nat → Pipe α
  next : Nat
  bounded : ∀ path inode, entries path = some inode → inode < next
  oneName : ∀ path path' inode, entries path = some inode → entries path' = some inode →
    path = path'

variable {π α : Type}

/-- The inode was given out, and no other path names it. -/
def Pipes.OnlyAt (pipes : Pipes π α) (inode : Nat) (path : π) : Prop :=
  inode < pipes.next ∧ ∀ path', pipes.entries path' = some inode → path' = path

theorem Pipes.onlyAt_of_entry {pipes : Pipes π α} {path : π} {inode : Nat}
    (entry : pipes.entries path = some inode) : pipes.OnlyAt inode path :=
  ⟨pipes.bounded path inode entry, fun path' entry' => pipes.oneName path' path inode entry' entry⟩

def Pipes.withPipe (pipes : Pipes π α) (inode : Nat) (pipe : Pipe α) : Pipes π α :=
  { pipes with inodes := Function.update pipes.inodes inode pipe }

@[simp] theorem Pipes.withPipe_entries (pipes : Pipes π α) (inode : Nat) (pipe : Pipe α) :
    (pipes.withPipe inode pipe).entries = pipes.entries := rfl

@[simp] theorem Pipes.withPipe_self (pipes : Pipes π α) (inode : Nat) (pipe : Pipe α) :
    (pipes.withPipe inode pipe).inodes inode = pipe := Function.update_self ..

theorem Pipes.withPipe_of_ne (pipes : Pipes π α) {inode other : Nat} (pipe : Pipe α)
    (different : other ≠ inode) : (pipes.withPipe inode pipe).inodes other = pipes.inodes other :=
  Function.update_of_ne different ..

theorem Pipes.OnlyAt.withPipe {pipes : Pipes π α} {inode : Nat} {path : π}
    (only : pipes.OnlyAt inode path) (other : Nat) (pipe : Pipe α) :
    (pipes.withPipe other pipe).OnlyAt inode path := only

section Directory

variable [DecidableEq π]

theorem Pipes.bounded_make (pipes : Pipes π α) (path : π) (path' : π) (inode : Nat)
    (entry : Function.update pipes.entries path (some pipes.next) path' = some inode) :
    inode < pipes.next + 1 := by
  by_cases same : path' = path
  · rw [same, Function.update_self] at entry
    rw [← Option.some.inj entry]
    exact Nat.lt_succ_self _
  · rw [Function.update_of_ne same] at entry
    exact Nat.lt_succ_of_lt (pipes.bounded path' inode entry)

theorem Pipes.oneName_make (pipes : Pipes π α) (path : π) (path' path'' : π) (inode : Nat)
    (entry' : Function.update pipes.entries path (some pipes.next) path' = some inode)
    (entry'' : Function.update pipes.entries path (some pipes.next) path'' = some inode) :
    path' = path'' := by
  have fresh (other : π) (entry : pipes.entries other = some pipes.next) : False :=
    Nat.lt_irrefl _ (pipes.bounded other pipes.next entry)
  by_cases same' : path' = path
  · by_cases same'' : path'' = path
    · rw [same', same'']
    · rw [same', Function.update_self, Option.some.injEq] at entry'
      rw [Function.update_of_ne same'', ← entry'] at entry''
      exact (fresh path'' entry'').elim
  · by_cases same'' : path'' = path
    · rw [same'', Function.update_self, Option.some.injEq] at entry''
      rw [Function.update_of_ne same', ← entry''] at entry'
      exact (fresh path' entry').elim
    · rw [Function.update_of_ne same'] at entry'
      rw [Function.update_of_ne same''] at entry''
      exact pipes.oneName path' path'' inode entry' entry''

/-- An entry that is left after a path was unlinked was there before. -/
theorem Pipes.entry_unlink {pipes : Pipes π α} {path path' : π} {inode : Nat}
    (entry : Function.update pipes.entries path none path' = some inode) :
    pipes.entries path' = some inode := by
  by_cases same : path' = path
  · rw [same, Function.update_self] at entry
    cases entry
  · rwa [Function.update_of_ne same] at entry

/-- `mkfifo`; undefined when the path exists. -/
def Pipes.make (pipes : Pipes π α) (path : π) : Option (Pipes π α) :=
  if (pipes.entries path).isSome then none
  else some
    { entries := Function.update pipes.entries path (some pipes.next)
      inodes := Function.update pipes.inodes pipes.next ⟨0, []⟩
      next := pipes.next + 1
      bounded := pipes.bounded_make path
      oneName := pipes.oneName_make path }

/-- `unlink`; undefined when the path does not exist. -/
def Pipes.unlink (pipes : Pipes π α) (path : π) : Option (Pipes π α) :=
  if (pipes.entries path).isSome then some
    { pipes with
      entries := Function.update pipes.entries path none
      bounded := fun path' inode entry => pipes.bounded path' inode (entry_unlink entry)
      oneName := fun path' path'' inode entry entry' =>
        pipes.oneName path' path'' inode (entry_unlink entry) (entry_unlink entry') }
  else none

variable {pipes pipes' : Pipes π α} {path : π}

theorem Pipes.make_spec (made : pipes.make path = some pipes') :
    pipes.entries path = none ∧
      pipes'.entries = Function.update pipes.entries path (some pipes.next) ∧
      pipes'.inodes = Function.update pipes.inodes pipes.next ⟨0, []⟩ ∧
      pipes'.next = pipes.next + 1 := by
  unfold Pipes.make at made
  split at made
  · cases made
  · rename_i free
    cases made
    exact ⟨Option.not_isSome_iff_eq_none.mp free, rfl, rfl, rfl⟩

theorem Pipes.unlink_spec (unlinked : pipes.unlink path = some pipes') :
    pipes'.entries = Function.update pipes.entries path none ∧ pipes'.inodes = pipes.inodes ∧
      pipes'.next = pipes.next := by
  unfold Pipes.unlink at unlinked
  split at unlinked
  · cases unlinked
    exact ⟨rfl, rfl, rfl⟩
  · cases unlinked

theorem Pipes.OnlyAt.make {inode : Nat} {path' : π} (only : pipes.OnlyAt inode path')
    (made : pipes.make path = some pipes') : pipes'.OnlyAt inode path' := by
  obtain ⟨-, entries, -, next⟩ := Pipes.make_spec made
  refine ⟨next ▸ Nat.lt_succ_of_lt only.1, fun path'' entry => ?_⟩
  rw [entries] at entry
  by_cases same : path'' = path
  · rw [same, Function.update_self, Option.some.injEq] at entry
    exact absurd entry (Nat.ne_of_gt only.1)
  · rw [Function.update_of_ne same] at entry
    exact only.2 path'' entry

theorem Pipes.OnlyAt.unlink {inode : Nat} {path' : π} (only : pipes.OnlyAt inode path')
    (unlinked : pipes.unlink path = some pipes') : pipes'.OnlyAt inode path' := by
  obtain ⟨entries, -, next⟩ := Pipes.unlink_spec unlinked
  refine ⟨next ▸ only.1, fun path'' entry => ?_⟩
  rw [entries] at entry
  exact only.2 path'' (Pipes.entry_unlink entry)

end Directory

/-- `open` with `O_RDONLY | O_NONBLOCK`. -/
def Pipes.openRead (pipes : Pipes π α) (path : π) : Option (Nat × Pipes π α) := do
  let inode ← pipes.entries path
  let pipe := pipes.inodes inode
  return (inode, pipes.withPipe inode { pipe with readers := pipe.readers + 1 })

/-- `open` with `O_WRONLY | O_NONBLOCK`; it fails when nobody has the pipe open for
reading. -/
def Pipes.openWrite (pipes : Pipes π α) (path : π) : Option Nat := do
  let inode ← pipes.entries path
  if (pipes.inodes inode).readers = 0 then none else return inode

/-- `write` of one message; undefined when no reader is left (`SIGPIPE`). -/
def Pipes.write (pipes : Pipes π α) (inode : Nat) (message : α) : Option (Pipes π α) :=
  let pipe := pipes.inodes inode
  if pipe.readers = 0 then none
  else some (pipes.withPipe inode { pipe with contents := pipe.contents ++ [message] })

/-- `read` of one message; undefined while there is none. -/
def Pipes.read (pipes : Pipes π α) (inode : Nat) : Option (α × Pipes π α) :=
  match (pipes.inodes inode).contents with
  | [] => none
  | message :: rest =>
      some (message, pipes.withPipe inode { pipes.inodes inode with contents := rest })

/-- `close` by a reader. -/
def Pipes.closeRead (pipes : Pipes π α) (inode : Nat) : Pipes π α :=
  let pipe := pipes.inodes inode
  pipes.withPipe inode { pipe with readers := pipe.readers - 1 }

section Messages

variable {pipes pipes' : Pipes π α} {path : π} {inode : Nat} {message : α}

theorem Pipes.openRead_spec (opened : pipes.openRead path = some (inode, pipes')) :
    pipes.entries path = some inode ∧
      pipes' = pipes.withPipe inode
        { pipes.inodes inode with readers := (pipes.inodes inode).readers + 1 } := by
  simp only [Pipes.openRead, Option.bind_eq_bind, Option.bind_eq_some_iff, Option.pure_def,
    Option.some.injEq, Prod.mk.injEq] at opened
  obtain ⟨inode', entry, rfl, rfl⟩ := opened
  exact ⟨entry, rfl⟩

theorem Pipes.openWrite_eq_some :
    pipes.openWrite path = some inode ↔
      pipes.entries path = some inode ∧ 0 < (pipes.inodes inode).readers := by
  simp only [Pipes.openWrite, Option.bind_eq_bind, Option.bind_eq_some_iff, Option.pure_def]
  constructor
  · rintro ⟨inode', entry, opened⟩
    split at opened
    · cases opened
    · rename_i readers
      cases opened
      exact ⟨entry, Nat.pos_of_ne_zero readers⟩
  · rintro ⟨entry, readers⟩
    exact ⟨inode, entry, if_neg (Nat.ne_of_gt readers)⟩

theorem Pipes.write_spec (written : pipes.write inode message = some pipes') :
    pipes' = pipes.withPipe inode
      { pipes.inodes inode with contents := (pipes.inodes inode).contents ++ [message] } := by
  simp only [Pipes.write] at written
  split at written
  · cases written
  · exact (Option.some.inj written).symm

theorem Pipes.write_readers (written : pipes.write inode message = some pipes') (other : Nat) :
    (pipes'.inodes other).readers = (pipes.inodes other).readers := by
  rw [Pipes.write_spec written]
  by_cases same : other = inode
  · rw [same, Pipes.withPipe_self]
  · rw [Pipes.withPipe_of_ne _ _ same]

theorem Pipes.read_spec (readOne : pipes.read inode = some (message, pipes')) :
    ∃ rest, (pipes.inodes inode).contents = message :: rest ∧
      pipes' = pipes.withPipe inode { pipes.inodes inode with contents := rest } := by
  unfold Pipes.read at readOne
  split at readOne
  · cases readOne
  · rename_i first rest contents
    cases readOne
    exact ⟨rest, contents, rfl⟩

end Messages

end Fifo
