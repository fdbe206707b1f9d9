import Mathlib.Data.List.Basic
import SlabPool.Proofs.Extent
import SlabPool.Slab

/-!
# Addresses of slots

A slab that is `Sited` has slots, no more than the geometry admits, and ends
among the addresses that are words.  For such a slab no operation on words
wraps: `slotAt` is the exact address of a slot, and finding the slot of an
address is the inverse of finding the address of a slot
(`slotAddress_eq`, `indexOf?_eq_some_iff`).
-/

namespace SlabPool.Slab

variable {geometry : Geometry}

/-- The address at which a slot starts, as an exact sum. -/
def slotAt (slab : Slab geometry) (index : Nat) : Nat :=
  slab.base + index * geometry.stride

/-- A slot of the slab starts at the address. -/
def Starts (slab : Slab geometry) (address : Nat) : Prop :=
  ∃ index < slab.capacity, address = slab.slotAt index

/-- The slab has slots and lies among the addresses that are words. -/
structure Sited (slab : Slab geometry) : Prop where
  capacity_pos : 0 < slab.capacity
  capacity_le : slab.capacity ≤ geometry.limit
  finish_lt : slab.base + slab.bytes < Word.modulus

theorem slotAt_injective (slab : Slab geometry) :
    Function.Injective slab.slotAt := by
  intro first second equal
  exact Nat.eq_of_mul_eq_mul_right geometry.stride_pos
    (Nat.add_left_cancel equal)

/-- If the first slot is aligned, so are all. -/
theorem slotAt_aligned
    {slab : Slab geometry}
    (aligned : slab.base % geometry.item.align = 0)
    (index : Nat) :
    slab.slotAt index % geometry.item.align = 0 := by
  have offset : geometry.item.align ∣ index * geometry.stride :=
    Dvd.dvd.mul_left geometry.align_dvd_stride index
  exact
    Nat.mod_eq_zero_of_dvd
      (Nat.dvd_add (Nat.dvd_of_mod_eq_zero aligned) offset)

/-- A slot ends inside the slab. -/
theorem slotAt_add_stride_le
    {slab : Slab geometry}
    {index : Nat}
    (inside : index < slab.capacity) :
    slab.slotAt index + geometry.stride ≤ slab.base + slab.bytes := by
  have room : (index + 1) * geometry.stride ≤ slab.capacity * geometry.stride :=
    Nat.mul_le_mul_right _ inside
  rw [Nat.add_mul, Nat.one_mul] at room
  rw [slotAt, bytes, Nat.mul_comm geometry.stride]
  omega

/-- Two slots of a slab share no byte. -/
theorem slotAt_add_stride_le_slotAt
    (slab : Slab geometry)
    {lower upper : Nat}
    (ordered : lower < upper) :
    slab.slotAt lower + geometry.stride ≤ slab.slotAt upper := by
  have room : (lower + 1) * geometry.stride ≤ upper * geometry.stride :=
    Nat.mul_le_mul_right _ ordered
  rw [Nat.add_mul, Nat.one_mul] at room
  unfold slotAt
  omega

/-- Slots are in the order of their addresses. -/
theorem slotAt_lt_slotAt_iff
    (slab : Slab geometry)
    {lower upper : Nat} :
    slab.slotAt lower < slab.slotAt upper ↔ lower < upper := by
  constructor
  · intro below
    by_contra above
    rcases Nat.lt_or_eq_of_le (Nat.le_of_not_lt above) with after | rfl
    · have apart := slab.slotAt_add_stride_le_slotAt after
      omega
    · exact Nat.lt_irrefl _ below
  · intro below
    have apart := slab.slotAt_add_stride_le_slotAt below
    have positive := geometry.stride_pos
    omega

theorem bytes_pos
    {slab : Slab geometry}
    (sited : slab.Sited) :
    0 < slab.bytes :=
  Nat.mul_pos geometry.stride_pos sited.capacity_pos

/-- A slab has no more slots than bytes. -/
theorem capacity_le_bytes (slab : Slab geometry) :
    slab.capacity ≤ slab.bytes :=
  Nat.le_mul_of_pos_left _ geometry.stride_pos

/-- The addresses inside a slab are those of its bytes. -/
theorem mem_extent_block
    {slab : Slab geometry}
    {address : Nat} :
    address ∈ slab.block.extent ↔
      slab.base ≤ address ∧ address < slab.base + slab.bytes :=
  Block.mem_extent

/-- The slot that starts at the address ends inside the slab. -/
theorem Starts.add_stride_le
    {slab : Slab geometry}
    {address : Nat}
    (starts : slab.Starts address) :
    address + geometry.stride ≤ slab.block.finish := by
  rcases starts with ⟨index, inside, rfl⟩
  exact slotAt_add_stride_le inside

theorem Starts.mem_extent
    {slab : Slab geometry}
    {address : Nat}
    (starts : slab.Starts address) :
    address ∈ slab.block.extent := by
  rcases starts with ⟨index, inside, rfl⟩
  have fits := slotAt_add_stride_le inside
  have positive := geometry.stride_pos
  change slab.slotAt index + geometry.stride ≤ slab.base + slab.bytes at fits
  exact mem_extent_block.2 ⟨Nat.le_add_right _ _, by omega⟩

/-- Where a slab lies does not depend on its count. -/
theorem Sited.withLive
    {slab : Slab geometry}
    (sited : slab.Sited)
    (live : Nat) :
    ({ slab with live } : Slab geometry).Sited :=
  ⟨sited.capacity_pos, sited.capacity_le, sited.finish_lt⟩

/-! ## A slab is known from its block, but for its count -/

theorem eq_of_block_eq
    {left right : Slab geometry}
    (same : left.block = right.block) :
    left = { right with live := left.live } := by
  have base : left.base = right.base := congrArg Block.base same
  have bytes : left.bytes = right.bytes := congrArg Block.size same
  have capacity : left.capacity = right.capacity :=
    Nat.eq_of_mul_eq_mul_left geometry.stride_pos bytes
  rw [← base, ← capacity]

theorem Sited.of_block_eq
    {left right : Slab geometry}
    (sited : left.Sited)
    (same : right.block = left.block) :
    right.Sited := by
  rw [eq_of_block_eq same]
  exact sited.withLive _

theorem Starts.of_block_eq
    {left right : Slab geometry}
    {address : Nat}
    (starts : left.Starts address)
    (same : right.block = left.block) :
    right.Starts address := by
  rw [eq_of_block_eq same]
  exact starts

/-! ## No operation on words wraps -/

theorem finish_eq
    {slab : Slab geometry}
    (sited : slab.Sited) :
    slab.finish = slab.base + slab.bytes :=
  Word.add_eq sited.finish_lt

theorem covers_iff
    {slab : Slab geometry}
    (sited : slab.Sited)
    {address : Nat} :
    slab.covers address = true ↔ address ∈ slab.block.extent := by
  rw [covers, decide_eq_true_iff, finish_eq sited, mem_extent_block]

theorem slotOffset_eq
    {slab : Slab geometry}
    (sited : slab.Sited)
    {index : Nat}
    (inside : index < slab.capacity) :
    Word.mul index geometry.stride = index * geometry.stride := by
  have fits := slotAt_add_stride_le inside
  have bounded := sited.finish_lt
  apply Word.mul_eq
  unfold slotAt at fits
  omega

theorem slotAddress_eq
    {slab : Slab geometry}
    (sited : slab.Sited)
    {index : Nat}
    (inside : index < slab.capacity) :
    slab.slotAddress index = .ok (slab.slotAt index) := by
  have fits := slotAt_add_stride_le inside
  have bounded := sited.finish_lt
  rw [slotAddress, if_pos inside, slotOffset_eq sited inside]
  congr 1
  apply Word.add_eq
  unfold slotAt at fits
  omega

/-- The slot that starts at an address is found from the address alone. -/
theorem indexOf?_eq_some_iff
    {slab : Slab geometry}
    (sited : slab.Sited)
    {address index : Nat} :
    slab.indexOf? address = some index ↔
      index < slab.capacity ∧ address = slab.slotAt index := by
  have positive := geometry.stride_pos
  have bounded := sited.finish_lt
  constructor
  · intro found
    unfold indexOf? at found
    split at found
    case isFalse => cases found
    case isTrue covered =>
      have inside := mem_extent_block.1 ((covers_iff sited).1 covered)
      rw [Word.sub_eq inside.1 (by omega),
        geometry.indexAt?_eq_some_iff] at found
      refine ⟨?_, by unfold slotAt; omega⟩
      have below : index * geometry.stride < slab.capacity * geometry.stride := by
        rw [← found, Nat.mul_comm slab.capacity]
        show address - slab.base < slab.bytes
        omega
      exact Nat.lt_of_mul_lt_mul_right below
  · rintro ⟨inside, rfl⟩
    have member := Starts.mem_extent ⟨index, inside, rfl⟩
    have within := mem_extent_block.1 member
    rw [indexOf?, if_pos ((covers_iff sited).2 member),
      Word.sub_eq within.1 (by omega),
      geometry.indexAt?_eq_some_iff, slotAt, Nat.add_sub_cancel_left]

theorem exists_indexOf?_iff
    {slab : Slab geometry}
    (sited : slab.Sited)
    {address : Nat} :
    (∃ index, slab.indexOf? address = some index) ↔ slab.Starts address := by
  simp only [indexOf?_eq_some_iff sited]
  rfl

/-- A slab that is not full hands out the slot at its mark. -/
theorem bump_eq
    {slab : Slab geometry}
    (sited : slab.Sited)
    (room : slab.live < slab.capacity) :
    slab.bump = .ok (slab.live, { slab with live := slab.live + 1 }) := by
  have bounded := sited.finish_lt
  have slots := slab.capacity_le_bytes
  have notFull : ¬ slab.isFull = true := by
    rw [isFull, decide_eq_true_iff]
    exact Nat.not_le_of_lt room
  rw [bump, if_neg notFull, Word.add_eq (by omega)]

theorem untouched_eq
    {slab : Slab geometry}
    (sited : slab.Sited)
    (counted : slab.live ≤ slab.capacity) :
    slab.untouched = slab.capacity - slab.live := by
  have bounded := sited.finish_lt
  have slots := slab.capacity_le_bytes
  exact Word.sub_eq counted (by omega)

end SlabPool.Slab
