import SlabPool.Fault
import SlabPool.Layout

/-!
# The geometry of slots

All slabs of a pool hold slots for items of one layout.  Slots follow one
another at a distance, the stride, that keeps every one of them aligned; a slab
of `n` slots spans `n` strides.  A `Geometry` fixes the item, and with it the
stride, the greatest number of slots that one slab can have, and which byte
offsets inside a slab are starts of slots.
-/

namespace SlabPool

/-- The layout of the items of a pool, which take at least one byte each. -/
structure Geometry where
  /-- The layout of one item. -/
  item : Layout
  /-- An item takes space. -/
  size_pos : 0 < item.size
  deriving DecidableEq, Repr

namespace Geometry

/-- The geometry for items of this layout. -/
def of (item : Layout) : Except Breach Geometry :=
  if size_pos : 0 < item.size then
    .ok ⟨item, size_pos⟩
  else
    .error .sizelessItem

variable (geometry : Geometry)

/-- Bytes from the start of a slot to the start of the next. -/
def stride : Nat :=
  roundUp geometry.item.size geometry.item.align

/-- The greatest number of slots in one slab. -/
def limit : Nat :=
  Word.spanLimit / geometry.stride

/-- The layout of the block for a slab with `capacity` slots. -/
def slabLayout (capacity : Nat) : Except Fault Layout :=
  match Word.mul? geometry.stride capacity with
  | none => .error (.capacityOverflow capacity geometry.limit)
  | some bytes =>
    match Layout.of? bytes geometry.item.align with
    | none => .error (.capacityOverflow capacity geometry.limit)
    | some layout => .ok layout

/-- The index of the slot that starts `offset` bytes into a slab. -/
def indexAt? (offset : Nat) : Option Nat :=
  if offset % geometry.stride = 0 then
    some (offset / geometry.stride)
  else
    none

/-- A slot is at least as large as its item. -/
theorem item_le_stride : geometry.item.size ≤ geometry.stride :=
  le_roundUp geometry.item.align_pos geometry.item.size

/-- If one slot is aligned, so is the next. -/
theorem align_dvd_stride : geometry.item.align ∣ geometry.stride :=
  dvd_roundUp geometry.item.size geometry.item.align

theorem stride_pos : 0 < geometry.stride :=
  Nat.lt_of_lt_of_le geometry.size_pos geometry.item_le_stride

/-- A slab can have at least one slot. -/
theorem limit_pos : 0 < geometry.limit :=
  Nat.div_pos geometry.item.padded_le geometry.stride_pos

/-- A slab is within the limit just if one block can span its slots. -/
theorem le_limit_iff {capacity : Nat} :
    capacity ≤ geometry.limit ↔
      geometry.stride * capacity ≤ Word.spanLimit := by
  rw [limit, Nat.le_div_iff_mul_le geometry.stride_pos, Nat.mul_comm]

theorem indexAt?_eq_some_iff {offset index : Nat} :
    geometry.indexAt? offset = some index ↔
      offset = index * geometry.stride := by
  unfold indexAt?
  constructor
  · intro found
    split at found
    · rename_i exact
      cases found
      exact (Nat.div_mul_cancel (Nat.dvd_of_mod_eq_zero exact)).symm
    · cases found
  · rintro rfl
    simp [Nat.mul_div_cancel _ geometry.stride_pos]

end Geometry

end SlabPool
