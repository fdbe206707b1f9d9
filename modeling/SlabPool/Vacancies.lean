import SlabPool.Fault
import SlabPool.Marks
import SlabPool.Memory

/-!
# Vacancies

The vacancies of a slab are the indices of its slots that were handed out and
given back.  They are reused highest first, so they are listed in descending
order; a mark for each slot tells at once whether it is among them.

The list asks for room before it grows.  Room that was granted stays until the
slab is replaced.
-/

namespace SlabPool

/-- The vacant slots of a slab below its high-water mark. -/
structure Vacancies where
  /-- The vacant indices, the highest first. -/
  stack : List Nat
  /-- The marks of the vacant indices. -/
  marks : Marks
  /-- How many indices the granted storage holds. -/
  room : Nat
  deriving DecidableEq, Repr

namespace Vacancies

/-- No vacancies, and no slot that could become one. -/
def empty : Vacancies :=
  ⟨[], Marks.empty, 0⟩

/-- No vacancies yet among `capacity` slots. -/
def blank (capacity : Nat) : Vacancies :=
  ⟨[], Marks.blank capacity, 0⟩

/-- Add an index to a list in descending order. -/
def insertDescending (index : Nat) : List Nat → List Nat
  | [] => [index]
  | top :: rest =>
    if top ≤ index then
      index :: top :: rest
    else
      top :: insertDescending index rest

theorem insertDescending_perm
    (index : Nat)
    (stack : List Nat) :
    (insertDescending index stack).Perm (index :: stack) := by
  induction stack with
  | nil => exact .refl _
  | cons top rest ih =>
    unfold insertDescending
    split
    · exact .refl _
    · exact (ih.cons top).trans (.swap index top rest)

theorem mem_insertDescending
    {index tested : Nat}
    {stack : List Nat} :
    tested ∈ insertDescending index stack ↔
      tested = index ∨ tested ∈ stack := by
  rw [(insertDescending_perm index stack).mem_iff, List.mem_cons]

/-- A new index keeps the list strictly descending. -/
theorem descending_insertDescending
    {index : Nat}
    {stack : List Nat}
    (fresh : index ∉ stack)
    (descending : stack.Pairwise (· > ·)) :
    (insertDescending index stack).Pairwise (· > ·) := by
  induction stack with
  | nil => simp [insertDescending]
  | cons top rest ih =>
    rw [List.pairwise_cons] at descending
    rw [List.mem_cons, not_or] at fresh
    rcases descending with ⟨topAbove, restDescending⟩
    unfold insertDescending
    split
    · rename_i notBelow
      have below := List.pairwise_cons.2 ⟨topAbove, restDescending⟩
      refine List.pairwise_cons.2 ⟨?_, below⟩
      intro lower member
      rcases List.mem_cons.1 member with rfl | member
      · omega
      · have := topAbove lower member
        omega
    · refine List.pairwise_cons.2 ⟨?_, ih fresh.2 restDescending⟩
      intro lower member
      rcases mem_insertDescending.1 member with rfl | member
      · omega
      · exact topAbove lower member

variable (vacancies : Vacancies)

/-- The number of vacancies. -/
def size : Nat :=
  vacancies.stack.length

/-- The highest vacant index. -/
def highest? : Option Nat :=
  vacancies.stack.head?

/-- The vacant indices in ascending order. -/
def ascending : List Nat :=
  vacancies.stack.reverse

/-- Whether the slot is vacant. -/
def contains (index : Nat) : Bool :=
  vacancies.marks.has index

/-- Take the highest index off the list, and then its mark away. -/
def takeHighest : Except Breach (Option Nat) × Vacancies :=
  match vacancies.stack with
  | [] => (.ok none, vacancies)
  | index :: rest =>
    let listed := { vacancies with stack := rest }
    match vacancies.marks.write? index false with
    | none => (.error .vacancyBeyondMarks, listed)
    | some marks => (.ok (some index), { listed with marks })

/-- Mark an index, and then put it on the list. -/
def record (index : Nat) : Except Breach Unit × Vacancies :=
  if vacancies.contains index then
    (.error (.vacancyRecordedTwice index), vacancies)
  else
    match vacancies.marks.write? index true with
    | none => (.error .vacancyBeyondMarks, vacancies)
    | some marks =>
      (.ok (), {
        stack := insertDescending index vacancies.stack
        marks
        room :=
          if vacancies.size = vacancies.room then
            extendedRoom vacancies.room
          else
            vacancies.room })

/-- Take every index off the record and keep the storage. -/
def wiped : Vacancies :=
  { vacancies with stack := [], marks := vacancies.marks.wiped }

/-- The bytes one entry of a list of indices or marks takes. -/
def entryBytes : Nat := 8

variable {σ : Type} [Provider σ]

/-- No vacancies yet among `capacity` slots, if their marks are granted. -/
def ofCapacity
    (capacity : Nat)
    (memory : Memory σ) :
    Except Fault Vacancies × Memory σ :=
  let bytes :=
    Word.saturatingMul (Marks.wordsFor capacity) entryBytes
  if bytes = 0 then
    (.ok (blank capacity), memory)
  else
    match memory.secure .marks bytes with
    | (true, memory) => (.ok (blank capacity), memory)
    | (false, memory) =>
      (.error (.allocationFailed bytes entryBytes), memory)

/-- Make room for one more index, where the storage is full. -/
def reserve
    (memory : Memory σ) :
    Except Fault Vacancies × Memory σ :=
  if vacancies.size = vacancies.room then
    let room := extendedRoom vacancies.room
    match memory.secure .vacancies (entryBytes * room) with
    | (true, memory) => (.ok { vacancies with room }, memory)
    | (false, memory) =>
      (.error (.allocationFailed entryBytes entryBytes), memory)
  else
    (.ok vacancies, memory)

end Vacancies

end SlabPool
