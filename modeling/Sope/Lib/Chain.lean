import Mathlib.Data.Finmap

set_option autoImplicit false

/- Singly linked lists in a heap: cells that hold a value and the address of the next
cell. Freed addresses are absent from the heap and may be given out again. -/
namespace Chain

variable {ι α : Type}

structure Cell (ι α : Type) where
  value : α
  next : Option ι

abbrev Heap (ι α : Type) := Finmap fun _ : ι => Cell ι α

section Segments

variable [DecidableEq ι] {heap heap' : Heap ι α} {start stop middle : Option ι}
  {nodes front back : List (ι × α)} {address : ι} {value : α}

/-- Following `next` from `start` passes the nodes, in this order, and arrives at `stop`. -/
def Segment (heap : Heap ι α) : Option ι → List (ι × α) → Option ι → Prop
  | start, [], stop => start = stop
  | start, (address, value) :: rest, stop =>
      start = some address ∧
        ∃ next, heap.lookup address = some ⟨value, next⟩ ∧ Segment heap next rest stop

@[simp] theorem segment_nil : Segment heap start [] stop ↔ start = stop := Iff.rfl

theorem segment_append :
    Segment heap start (front ++ back) stop ↔
      ∃ middle, Segment heap start front middle ∧ Segment heap middle back stop := by
  induction front generalizing start with
  | nil => simp
  | cons node rest ih =>
      constructor
      · rintro ⟨here, next, held, segment⟩
        obtain ⟨middle, first, second⟩ := ih.mp segment
        exact ⟨middle, ⟨here, next, held, first⟩, second⟩
      · rintro ⟨middle, ⟨here, next, held, first⟩, second⟩
        exact ⟨here, next, held, ih.mpr ⟨middle, first, second⟩⟩

theorem segment_snoc :
    Segment heap start (front ++ [(address, value)]) stop ↔
      Segment heap start front (some address) ∧ heap.lookup address = some ⟨value, stop⟩ := by
  rw [segment_append]
  constructor
  · rintro ⟨middle, first, rfl, next, held, rfl⟩
    exact ⟨first, held⟩
  · rintro ⟨first, held⟩
    exact ⟨some address, first, rfl, stop, held, rfl⟩

/-- Only the cells of the nodes themselves matter. -/
theorem Segment.congr (segment : Segment heap start nodes stop)
    (same : ∀ node ∈ nodes, heap'.lookup node.1 = heap.lookup node.1) :
    Segment heap' start nodes stop := by
  induction nodes generalizing start with
  | nil => exact segment
  | cons node rest ih =>
      obtain ⟨here, next, held, tail⟩ := segment
      refine ⟨here, next, ?_, ih tail fun node member => same node (List.mem_cons_of_mem _ member)⟩
      rw [same _ (List.mem_cons_self ..), held]

theorem Segment.insert (segment : Segment heap start nodes stop) (cell : Cell ι α)
    (outside : address ∉ nodes.map Prod.fst) :
    Segment (heap.insert address cell) start nodes stop := by
  refine segment.congr fun node member => Finmap.lookup_insert_of_ne _ ?_
  rintro rfl
  exact outside (List.mem_map_of_mem member)

theorem Segment.erase (segment : Segment heap start nodes stop)
    (outside : address ∉ nodes.map Prod.fst) :
    Segment (heap.erase address) start nodes stop := by
  refine segment.congr fun node member => Finmap.lookup_erase_ne ?_
  rintro rfl
  exact outside (List.mem_map_of_mem member)

/-- Every node of a segment is allocated. -/
theorem Segment.allocated (segment : Segment heap start nodes stop) :
    ∀ address ∈ nodes.map Prod.fst, address ∈ heap := by
  induction nodes generalizing start with
  | nil => simp
  | cons node rest ih =>
      obtain ⟨-, next, held, tail⟩ := segment
      intro address member
      rcases List.mem_cons.mp member with rfl | later
      · exact Finmap.lookup_isSome.mp (by rw [held]; rfl)
      · exact ih tail address later

/-- A list that ends: its nodes lie at different addresses. -/
structure Linked (heap : Heap ι α) (head : Option ι) (nodes : List (ι × α)) : Prop where
  path : Segment heap head nodes none
  apart : (nodes.map Prod.fst).Nodup

theorem Linked.fresh {head : Option ι} (linked : Linked heap head nodes)
    (fresh : address ∉ heap) : address ∉ nodes.map Prod.fst :=
  fun member => fresh (linked.path.allocated address member)

/-- A new cell becomes the list of one node. -/
theorem Linked.single (value : α) :
    Linked (heap.insert address ⟨value, none⟩) (some address) [(address, value)] :=
  ⟨⟨rfl, none, Finmap.lookup_insert _, rfl⟩, by simp⟩

/-- A new cell is linked behind the last node. -/
theorem Linked.append {head : Option ι} {last : ι × α}
    (linked : Linked heap head (front ++ [last])) (fresh : address ∉ heap) (value : α) :
    Linked ((heap.insert address ⟨value, none⟩).insert last.1 ⟨last.2, some address⟩) head
      (front ++ [last] ++ [(address, value)]) := by
  have outside := linked.fresh fresh
  have notLast : address ≠ last.1 := fun same => outside (by simp [same])
  have notFront : last.1 ∉ front.map Prod.fst := by
    have apart := linked.apart
    rw [List.map_append, List.nodup_append] at apart
    intro member
    exact apart.2.2 last.1 member last.1 (by simp) rfl
  obtain ⟨leading, -⟩ := segment_snoc.mp linked.path
  constructor
  · apply segment_snoc.mpr
    refine ⟨segment_snoc.mpr ⟨?_, Finmap.lookup_insert _⟩, ?_⟩
    · exact (leading.insert _ fun member => outside (by simp_all)).insert _ notFront
    · rw [Finmap.lookup_insert_of_ne _ notLast, Finmap.lookup_insert]
  · rw [List.map_append, List.nodup_append]
    refine ⟨linked.apart, by simp, ?_⟩
    intro held member new isNew same
    rw [List.map_cons, List.map_nil, List.mem_singleton] at isNew
    rw [same, isNew] at member
    exact outside member

/-- The first cell is freed. -/
theorem Linked.tail {head : Option ι} {rest : List (ι × α)}
    (linked : Linked heap head ((address, value) :: rest)) :
    ∃ next, heap.lookup address = some ⟨value, next⟩ ∧ Linked (heap.erase address) next rest := by
  obtain ⟨-, next, held, tail⟩ := linked.path
  have apart := List.nodup_cons.mp linked.apart
  exact ⟨next, held, tail.erase apart.1, apart.2⟩

end Segments

end Chain
