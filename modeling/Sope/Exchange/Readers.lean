import Sope.Exchange.Moves

set_option autoImplicit false

/- Who reads which FIFO, under any interleaving: exactly the clients that poll have
their own FIFO open, and its path still names it. -/
namespace Sope.Exchange

open Machine Banking Server Fifo

/-- The FIFO that the client has open. -/
def ClientPc.reads : ClientPc → Option Nat
  | .poll fd => some fd
  | _ => none

@[simp] theorem ClientPc.reads_eq_some {pc : ClientPc} {fd : Nat} :
    pc.reads = some fd ↔ pc = .poll fd := by
  cases pc <;> simp [ClientPc.reads]

section Readers

variable {m n : Nat}

theorem DistinctPids.path {clients : Fin m → Client} (pids : DistinctPids clients)
    {k k' : Fin m} (same : (clients k).path = (clients k').path) : k = k' :=
  pids k k' (userFifoPath_inj same)

structure Readers (clients : Fin m → Client) (pipes : Pipes CString TlvReply)
    (pcs : Fin m → ClientPc) : Prop where
  polls : ∀ k fd, (pcs k).reads = some fd →
    pipes.entries (clients k).path = some fd ∧ (pipes.inodes fd).readers = 1
  owned : ∀ inode, 0 < (pipes.inodes inode).readers → ∃ k, (pcs k).reads = some inode

variable {clients : Fin m → Client} {pipes pipes' : Pipes CString TlvReply}
  {pcs : Fin m → ClientPc} {k : Fin m} {pc' : ClientPc}

theorem Readers.unique (readers : Readers clients pipes pcs) (pids : DistinctPids clients)
    {k' : Fin m} {fd : Nat} (entry : pipes.entries (clients k).path = some fd)
    (polling : (pcs k').reads = some fd) : k' = k :=
  pids.path (pipes.oneName _ _ fd (readers.polls k' fd polling).1 entry)

theorem ne_of_reads {k' : Fin m} {fd : Nat} (idle : (pcs k).reads = none)
    (polling : (pcs k').reads = some fd) : k' ≠ k := by
  rintro rfl
  rw [idle] at polling
  cases polling

/-- A client that polls on neither side of its step, and touches no FIFO. -/
theorem Readers.quiet (readers : Readers clients pipes pcs)
    (before : (pcs k).reads = none) (after : pc'.reads = none) :
    Readers clients pipes (Function.update pcs k pc') := by
  refine ⟨fun k' fd polling => ?_, fun inode open' => ?_⟩
  · by_cases same : k' = k
    · rw [same, Function.update_self, after] at polling
      cases polling
    · rw [Function.update_of_ne same] at polling
      exact readers.polls k' fd polling
  · obtain ⟨k', polling⟩ := readers.owned inode open'
    refine ⟨k', ?_⟩
    rwa [Function.update_of_ne (ne_of_reads before polling)]

/-- Entries and numbers of readers are all that matters. -/
theorem Readers.congr (readers : Readers clients pipes pcs)
    (entries : pipes'.entries = pipes.entries)
    (counts : ∀ inode, (pipes'.inodes inode).readers = (pipes.inodes inode).readers) :
    Readers clients pipes' pcs where
  polls k' fd polling := by
    rw [entries, counts]
    exact readers.polls k' fd polling
  owned inode open' := readers.owned inode (counts inode ▸ open')

theorem readers_withPipe {inode : Nat} {pipe : Pipe TlvReply}
    (same : pipe.readers = (pipes.inodes inode).readers) (other : Nat) :
    ((pipes.withPipe inode pipe).inodes other).readers = (pipes.inodes other).readers := by
  by_cases here : other = inode
  · rw [here, Pipes.withPipe_self, same]
  · rw [Pipes.withPipe_of_ne _ _ here]

theorem Readers.make (readers : Readers clients pipes pcs) {path : CString}
    (made : pipes.make path = some pipes') : Readers clients pipes' pcs := by
  obtain ⟨free, entries, inodes, -⟩ := Pipes.make_spec made
  refine ⟨fun k' fd polling => ?_, fun inode open' => ?_⟩
  · obtain ⟨entry, one⟩ := readers.polls k' fd polling
    have elsewhere : (clients k').path ≠ path := by
      intro same
      rw [same, free] at entry
      cases entry
    have old : fd ≠ pipes.next := Nat.ne_of_lt (pipes.bounded _ _ entry)
    rw [entries, inodes, Function.update_of_ne elsewhere, Function.update_of_ne old]
    exact ⟨entry, one⟩
  · by_cases new : inode = pipes.next
    · rw [inodes, new, Function.update_self] at open'
      exact absurd open' (Nat.lt_irrefl 0)
    · rw [inodes, Function.update_of_ne new] at open'
      exact readers.owned inode open'

/-- A client removes only its own path, while it does not poll. -/
theorem Readers.unlink (readers : Readers clients pipes pcs) (pids : DistinctPids clients)
    (idle : (pcs k).reads = none) (removed : pipes.unlink (clients k).path = some pipes') :
    Readers clients pipes' pcs := by
  obtain ⟨entries, inodes, -⟩ := Pipes.unlink_spec removed
  refine ⟨fun k' fd polling => ?_, fun inode open' => ?_⟩
  · have elsewhere : (clients k').path ≠ (clients k).path := by
      intro same
      exact ne_of_reads idle polling (pids.path same)
    rw [entries, inodes, Function.update_of_ne elsewhere]
    exact readers.polls k' fd polling
  · rw [inodes] at open'
    exact readers.owned inode open'

theorem Readers.openRead (readers : Readers clients pipes pcs) (pids : DistinctPids clients)
    (idle : (pcs k).reads = none) {fd : Nat}
    (opened : pipes.openRead (clients k).path = some (fd, pipes')) :
    Readers clients pipes' (Function.update pcs k (.poll fd)) := by
  obtain ⟨entry, rfl⟩ := Pipes.openRead_spec opened
  have others (k' : Fin m) (polling : (pcs k').reads = some fd) : False :=
    ne_of_reads idle polling (readers.unique pids entry polling)
  have none : (pipes.inodes fd).readers = 0 := by
    by_contra some
    obtain ⟨k', polling⟩ := readers.owned fd (Nat.pos_of_ne_zero some)
    exact others k' polling
  refine ⟨fun k' fd' polling => ?_, fun inode open' => ?_⟩
  · by_cases same : k' = k
    · subst same
      rw [Function.update_self] at polling
      cases polling
      refine ⟨entry, ?_⟩
      rw [Pipes.withPipe_self, none]
    · rw [Function.update_of_ne same] at polling
      have apart : fd' ≠ fd := fun same' => others k' (same' ▸ polling)
      rw [Pipes.withPipe_entries, Pipes.withPipe_of_ne _ _ apart]
      exact readers.polls k' fd' polling
  · by_cases here : inode = fd
    · refine ⟨k, ?_⟩
      rw [here, Function.update_self]
      rfl
    · rw [Pipes.withPipe_of_ne _ _ here] at open'
      obtain ⟨k', polling⟩ := readers.owned inode open'
      refine ⟨k', ?_⟩
      rwa [Function.update_of_ne (ne_of_reads idle polling)]

theorem Readers.closeRead (readers : Readers clients pipes pcs) (pids : DistinctPids clients)
    {fd : Nat} (polled : (pcs k).reads = some fd) (after : pc'.reads = none) :
    Readers clients (pipes.closeRead fd) (Function.update pcs k pc') := by
  obtain ⟨entry, one⟩ := readers.polls k fd polled
  refine ⟨fun k' fd' polling => ?_, fun inode open' => ?_⟩
  · by_cases same : k' = k
    · rw [same, Function.update_self, after] at polling
      cases polling
    · rw [Function.update_of_ne same] at polling
      have apart : fd' ≠ fd := fun same' => same (readers.unique pids entry (same' ▸ polling))
      rw [Pipes.closeRead, Pipes.withPipe_entries, Pipes.withPipe_of_ne _ _ apart]
      exact readers.polls k' fd' polling
  · by_cases here : inode = fd
    · rw [here, Pipes.closeRead, Pipes.withPipe_self, one] at open'
      exact absurd open' (Nat.lt_irrefl 0)
    · rw [Pipes.closeRead, Pipes.withPipe_of_ne _ _ here] at open'
      obtain ⟨k', polling⟩ := readers.owned inode open'
      refine ⟨k', ?_⟩
      have other : k' ≠ k := by
        intro same
        rw [same, polled] at polling
        exact here (Option.some.inj polling).symm
      rwa [Function.update_of_ne other]

theorem Readers.client (readers : Readers clients pipes pcs) (pids : DistinctPids clients)
    {report : Report n} (move : ClientMove (clients k) pipes (pcs k) pc' pipes' report) :
    Readers clients pipes' (Function.update pcs k pc') := by
  generalize here : pcs k = pc at move
  cases move with
  | make _ made =>
      exact (readers.make made).quiet (by rw [here]; rfl) rfl
  | remove _ removed | cleanUp _ removed =>
      have idle : (pcs k).reads = none := by rw [here]; rfl
      exact (readers.unlink pids idle removed).quiet idle rfl
  | openFifo fd _ opened => exact readers.openRead pids (by rw [here]; rfl) opened
  | timeOver fd => exact readers.closeRead pids (by rw [here]; rfl) rfl
  | receive fd reply _ received =>
      obtain ⟨rest, -, rfl⟩ := Pipes.read_spec received
      have polled : (pcs k).reads = some fd := by rw [here]; rfl
      have kept : Readers clients (pipes.withPipe fd { pipes.inodes fd with contents := rest })
          pcs := readers.congr rfl (readers_withPipe rfl)
      exact kept.closeRead pids polled rfl
  | wait fd =>
      rw [← here, Function.update_eq_self]
      exact readers
  | _ => exact readers.quiet (by rw [here]; rfl) rfl

/-- Nobody but the client itself opens its FIFO for reading, so an office's `open`
succeeds exactly when the client polls. -/
theorem Readers.openWrite_iff (readers : Readers clients pipes pcs) (pids : DistinctPids clients)
    {fd : Nat} :
    pipes.openWrite (clients k).path = some fd ↔ (pcs k).reads = some fd := by
  rw [Pipes.openWrite_eq_some]
  constructor
  · rintro ⟨entry, open'⟩
    obtain ⟨k', polling⟩ := readers.owned fd open'
    exact readers.unique pids entry polling ▸ polling
  · intro polling
    obtain ⟨entry, one⟩ := readers.polls k fd polling
    exact ⟨entry, one ▸ Nat.one_pos⟩

theorem initialWorld_readers {rand : Rand} {stale : Pipes CString TlvReply} (unread : Stale stale) :
    Readers clients (initialWorld m n rand stale).pipes (initialWorld m n rand stale).clients where
  polls _ _ polling := nomatch polling
  owned inode open' := absurd open' (unread inode ▸ Nat.lt_irrefl 0)

theorem Readers.step {world world' : World m n} {report : Report n}
    {generateSha256Hash : CString → CString → CString} {adminPassword : CString}
    (readers : Readers clients world.pipes world.clients) (pids : DistinctPids clients)
    (move : WorldMove generateSha256Hash adminPassword clients world world' report) :
    Readers clients world'.pipes world'.clients := by
  cases move with
  | main | office | broken => exact readers
  | write i written pipes running writing wrote =>
      have same := Pipes.write_spec wrote
      subst same
      exact readers.congr rfl (readers_withPipe rfl)
  | client k pc pipes report move => exact readers.client pids move

theorem exchange_readers {generateSha256Hash : CString → CString → CString} {rand : Rand}
    {adminPassword : CString} {stale : Pipes CString TlvReply} (pids : DistinctPids clients)
    (unread : Stale stale) {labels : List (Label m n)} {events : List (WorldEvent m n)}
    {world : World m n}
    (ran : exchange generateSha256Hash rand adminPassword clients stale labels =
      some (events, world)) : Readers clients world.pipes world.clients :=
  run_invariant ran (fun world => Readers clients world.pipes world.clients)
    (initialWorld_readers unread)
    fun _ _ _ _ _ readers fired => readers.step pids (worldStep_move fired)

end Readers

end Sope.Exchange
