import Sope.Lib.Codec
import Sope.Lib.Fifo

set_option autoImplicit false

/- Named pipes as the bytes that they are. A `write` appends all of its bytes and a `read`
takes what is there, up to a limit; where all messages on a pipe have one format, this
comes to whole messages. -/
namespace Fifo

open Wire

variable {π α : Type}

/-- `write`; undefined when no reader is left (`SIGPIPE`). -/
def Pipes.writeBytes (pipes : Pipes π UInt8) (inode : Nat) (bytes : List UInt8) :
    Option (Pipes π UInt8) :=
  let pipe := pipes.inodes inode
  if pipe.readers = 0 then none
  else some (pipes.withPipe inode { pipe with contents := pipe.contents ++ bytes })

/-- `read` of at most `size` bytes; undefined while there is none. -/
def Pipes.readBytes (pipes : Pipes π UInt8) (inode : Nat) (size : Nat) :
    Option (List UInt8 × Pipes π UInt8) :=
  let pipe := pipes.inodes inode
  if pipe.contents = [] then none
  else some (pipe.contents.take size,
    pipes.withPipe inode { pipe with contents := pipe.contents.drop size })

/-- What the variable holds into which bytes were read: they replace its first ones. -/
def overwrite (old bytes : List UInt8) : List UInt8 := bytes ++ old.drop bytes.length

theorem overwrite_whole {old bytes : List UInt8} (same : old.length = bytes.length) :
    overwrite old bytes = bytes := by
  rw [overwrite, List.drop_eq_nil_of_le (Nat.le_of_eq same), List.append_nil]

def Pipe.encoded (codec : Codec α) (pipe : Pipe α) : Pipe UInt8 :=
  ⟨pipe.readers, codec.stream pipe.contents⟩

/-- The pipes on which each message lies as its bytes. -/
def Pipes.encoded (codec : Codec α) (pipes : Pipes π α) : Pipes π UInt8 :=
  { pipes with inodes := fun inode => (pipes.inodes inode).encoded codec }

section Encoded

variable {codec : Codec α} {pipes pipes' : Pipes π α} {path : π} {inode : Nat}

@[simp] theorem Pipes.encoded_entries : (pipes.encoded codec).entries = pipes.entries := rfl

@[simp] theorem Pipes.encoded_inodes :
    (pipes.encoded codec).inodes inode = (pipes.inodes inode).encoded codec := rfl

@[simp] theorem Pipe.encoded_readers (pipe : Pipe α) :
    (pipe.encoded codec).readers = pipe.readers := rfl

@[simp] theorem Pipe.encoded_contents (pipe : Pipe α) :
    (pipe.encoded codec).contents = codec.stream pipe.contents := rfl

theorem Pipes.encoded_withPipe (pipe : Pipe α) :
    (pipes.withPipe inode pipe).encoded codec =
      (pipes.encoded codec).withPipe inode (pipe.encoded codec) := by
  have inodes : (fun other => (Function.update pipes.inodes inode pipe other).encoded codec) =
      Function.update (fun other => (pipes.inodes other).encoded codec) inode
        (pipe.encoded codec) := by
    funext other
    exact Function.apply_update (fun _ => Pipe.encoded codec) pipes.inodes inode pipe other
  simp only [Pipes.encoded, Pipes.withPipe, inodes]

theorem Pipes.encoded_closeRead :
    (pipes.closeRead inode).encoded codec = (pipes.encoded codec).closeRead inode :=
  Pipes.encoded_withPipe ..

theorem Pipes.encoded_openRead :
    (pipes.encoded codec).openRead path =
      (pipes.openRead path).map fun opened => (opened.1, opened.2.encoded codec) := by
  cases entry : pipes.entries path with
  | none => simp [Pipes.openRead, entry]
  | some inode =>
      simp only [Pipes.openRead, encoded_entries, entry, Option.bind_eq_bind, Option.bind_some,
        Option.pure_def, Option.map_some, encoded_withPipe]
      rfl

theorem Pipes.encoded_openWrite :
    (pipes.encoded codec).openWrite path = pipes.openWrite path := rfl

theorem Pipes.encoded_write (message : α) :
    (pipes.encoded codec).writeBytes inode (codec.encode message) =
      (pipes.write inode message).map (Pipes.encoded codec) := by
  by_cases broken : (pipes.inodes inode).readers = 0
  · simp [Pipes.writeBytes, Pipes.write, broken]
  · simp only [Pipes.writeBytes, Pipes.write, encoded_inodes, Pipe.encoded_readers, broken,
      ↓reduceIte, Option.map_some, encoded_withPipe]
    simp only [Pipe.encoded, codec.stream_snoc]

/-- On a pipe of whole messages a `read` with room for one gets one. -/
theorem Pipes.encoded_read (positive : 0 < codec.width) :
    (pipes.encoded codec).readBytes inode codec.width =
      (pipes.read inode).map fun got => (codec.encode got.1, got.2.encoded codec) := by
  cases contents : (pipes.inodes inode).contents with
  | nil => simp [Pipes.readBytes, Pipes.read, contents]
  | cons message rest =>
      have full : codec.stream (message :: rest) ≠ [] :=
        (codec.stream_eq_nil positive).not.mpr (List.cons_ne_nil _ _)
      simp only [Pipes.readBytes, Pipes.read, encoded_inodes, Pipe.encoded_contents, contents,
        full, ↓reduceIte, Option.map_some, encoded_withPipe, codec.take_stream,
        codec.drop_stream]
      rfl

section Directory

variable [DecidableEq π]

theorem Pipes.encoded_make :
    (pipes.encoded codec).make path = (pipes.make path).map (Pipes.encoded codec) := by
  by_cases taken : (pipes.entries path).isSome
  · simp [Pipes.make, taken]
  · have inodes : (fun other =>
          (Function.update pipes.inodes pipes.next ⟨0, []⟩ other).encoded codec) =
        Function.update (fun other => (pipes.inodes other).encoded codec) pipes.next ⟨0, []⟩ := by
      funext other
      exact Function.apply_update (fun _ => Pipe.encoded codec) pipes.inodes pipes.next ⟨0, []⟩
        other
    simp only [Pipes.make, encoded_entries, taken, Bool.false_eq_true, ↓reduceIte,
      Option.map_some, Option.some.injEq]
    simp only [Pipes.encoded, inodes]

theorem Pipes.encoded_unlink :
    (pipes.encoded codec).unlink path = (pipes.unlink path).map (Pipes.encoded codec) := by
  by_cases taken : (pipes.entries path).isSome
  · simp only [Pipes.unlink, encoded_entries, taken, ↓reduceIte, Option.map_some]
    rfl
  · simp [Pipes.unlink, taken]

end Directory

end Encoded

end Fifo
