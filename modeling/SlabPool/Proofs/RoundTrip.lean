import SlabPool.Proofs.Addressing

/-!
# From a slot to its address and back

The address of a slot is computed by a product and a sum that wrap around, and
the slot of an address by a difference that wraps around and a division.  Where
the block of a slab lies among the addresses that are words none of them wraps,
and the two ways are inverse to each other at every address:
`indexOf?_eq_some_iff_slotAddress`.

`roundTrip_of_block` says so of every slab whose block starts at an aligned
address, together with what a slot is for: its item lies inside the block and
shares no byte with another.
-/

namespace SlabPool.Slab

variable {geometry : Geometry}

/-- The bytes of the item in a slot. -/
def itemBlock (slab : Slab geometry) (index : Nat) : Block :=
  ⟨slab.slotAt index, geometry.item.size, geometry.item.align⟩

/-- The item in a slot of a slab lies inside its block. -/
theorem extent_itemBlock_subset
    {slab : Slab geometry}
    {index : Nat}
    (inside : index < slab.capacity) :
    (slab.itemBlock index).extent ⊆ slab.block.extent := by
  have ends := slotAt_add_stride_le inside
  have fits := geometry.item_le_stride
  intro address member
  rcases Block.mem_extent.1 member with ⟨above, below⟩
  change slab.slotAt index ≤ address at above
  change address < slab.slotAt index + geometry.item.size at below
  rw [mem_extent_block]
  unfold slotAt at above
  exact ⟨by omega, by omega⟩

/-- Items in different slots share no byte. -/
theorem itemBlock_apart
    (slab : Slab geometry)
    {index other : Nat}
    (differ : index ≠ other) :
    (slab.itemBlock index).Apart (slab.itemBlock other) := by
  have fits := geometry.item_le_stride
  rcases Nat.lt_or_gt_of_ne differ with before | after
  · have apart := slab.slotAt_add_stride_le_slotAt before
    exact
      Or.inl (Nat.le_trans (Nat.add_le_add_left fits _) apart)
  · have apart := slab.slotAt_add_stride_le_slotAt after
    exact
      Or.inr (Nat.le_trans (Nat.add_le_add_left fits _) apart)

theorem slotAddress_eq_ok_iff
    {slab : Slab geometry}
    (sited : slab.Sited)
    {address index : Nat} :
    slab.slotAddress index = .ok address ↔
      index < slab.capacity ∧ address = slab.slotAt index := by
  by_cases inside : index < slab.capacity
  · rw [slotAddress_eq sited inside]
    constructor
    · rintro ⟨⟩
      exact ⟨inside, rfl⟩
    · rintro ⟨-, rfl⟩
      rfl
  · rw [slotAddress, if_neg inside]
    constructor
    · intro stopped
      cases stopped
    · rintro ⟨started, -⟩
      exact absurd started inside

/-- The slot of an address is the one that starts there. -/
theorem indexOf?_eq_some_iff_slotAddress
    {slab : Slab geometry}
    (sited : slab.Sited)
    {address index : Nat} :
    slab.indexOf? address = some index ↔
      slab.slotAddress index = .ok address := by
  rw [indexOf?_eq_some_iff sited, slotAddress_eq_ok_iff sited]

/-- An address at which no slot starts has no index. -/
theorem indexOf?_eq_none_iff
    {slab : Slab geometry}
    (sited : slab.Sited)
    {address : Nat} :
    slab.indexOf? address = none ↔
      ∀ index < slab.capacity, address ≠ slab.slotAt index := by
  rw [Option.eq_none_iff_forall_ne_some]
  constructor
  · intro nowhere index inside same
    exact nowhere index ((indexOf?_eq_some_iff sited).2 ⟨inside, same⟩)
  · intro nowhere index found
    rcases (indexOf?_eq_some_iff sited).1 found with ⟨inside, same⟩
    exact nowhere index inside same

/--
In a slab within the limit whose block starts at an aligned address and ends
among the words, the address of each slot is the exact one, aligned, and leads
back to the slot; its item lies inside the block and shares no byte with the
item of another slot.  An address leads to a slot just if it is the address of
the slot, and to none just if it is that of none.
-/
theorem roundTrip_of_block
    (slab : Slab geometry)
    (capacity_pos : 0 < slab.capacity)
    (capacity_le : slab.capacity ≤ geometry.limit)
    (aligned : slab.base % geometry.item.align = 0)
    (addressable :
      slab.base + geometry.stride * slab.capacity ≤ Word.greatest) :
    slab.finish = slab.base + geometry.stride * slab.capacity ∧
    (∀ index < slab.capacity,
      slab.slotAddress index = .ok (slab.base + index * geometry.stride) ∧
      (slab.base + index * geometry.stride) % geometry.item.align = 0 ∧
      (slab.itemBlock index).extent ⊆ slab.block.extent ∧
      slab.indexOf? (slab.base + index * geometry.stride) = some index) ∧
    (∀ index other, index ≠ other →
      Disjoint (slab.itemBlock index).extent (slab.itemBlock other).extent) ∧
    (∀ address index,
      slab.indexOf? address = some index ↔
        slab.slotAddress index = .ok address) ∧
    (∀ address index, slab.indexOf? address = some index →
      index < slab.capacity ∧
        address = slab.base + index * geometry.stride) ∧
    (∀ address, slab.indexOf? address = none ↔
      ∀ index < slab.capacity,
        address ≠ slab.base + index * geometry.stride) := by
  have sited : slab.Sited :=
    ⟨capacity_pos, capacity_le, Nat.lt_of_le_of_lt addressable (by decide)⟩
  refine ⟨finish_eq sited, ?_, ?_, ?_, ?_, ?_⟩
  · intro index inside
    exact
      ⟨slotAddress_eq sited inside, slotAt_aligned aligned index,
        extent_itemBlock_subset inside,
        (indexOf?_eq_some_iff sited).2 ⟨inside, rfl⟩⟩
  · exact fun index other differ => (slab.itemBlock_apart differ).disjoint
  · exact fun address index => indexOf?_eq_some_iff_slotAddress sited
  · exact fun address index => (indexOf?_eq_some_iff sited).1
  · exact fun address => indexOf?_eq_none_iff sited

/-- Items of three bytes. -/
def Sample.threeBytes : Geometry :=
  ⟨⟨3, 1, Nat.isPowerOfTwo_one, by decide⟩, by decide⟩

/-- Five slots that end right below the greatest word. -/
def Sample.topmost : Slab Sample.threeBytes :=
  ⟨2 ^ 64 - 16, 5, 2⟩

theorem roundTrip_of_topmost :
    Sample.topmost.finish = Word.greatest ∧
      Sample.topmost.slotAddress 4 = .ok (2 ^ 64 - 4) ∧
      Sample.topmost.indexOf? (2 ^ 64 - 4) = some 4 ∧
      Sample.topmost.indexOf? Word.greatest = none := by
  rcases
      roundTrip_of_block Sample.topmost (by decide) (by decide +kernel)
        (by decide +kernel) (by decide +kernel) with
    ⟨finish, slots, -, inverse, -, nowhere⟩
  have last : Sample.topmost.slotAddress 4 = .ok (2 ^ 64 - 4) :=
    (slots 4 (by decide)).1
  exact
    ⟨finish, last, (inverse _ 4).2 last,
      (nowhere Word.greatest).2 (by decide +kernel)⟩

end SlabPool.Slab
