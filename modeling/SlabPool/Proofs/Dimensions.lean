import Mathlib.Order.Bounds.Basic
import SlabPool.Proofs.Provision

/-!
# Which slabs have a layout

The layout of a slab is made in two steps that can fail: the bytes of its slots
must come to a word, and one block must span them once they are padded to the
alignment of the item.  The limit of the geometry is a plain quotient, in which
the alignment does not occur.

No slab needs padding, as the stride is a multiple of the alignment.  So the two
agree at every capacity: `slabLayout_eq_ok_iff` and `slabLayout_eq_error_iff`.
`dimensions_of_item` puts them together for every item that takes space.
-/

namespace SlabPool

/-- What no block can span has no layout. -/
theorem Layout.of?_eq_none
    {size align : Nat}
    (positive : 0 < align)
    (tooLarge : Word.spanLimit < size) :
    of? size align = none := by
  apply dif_neg
  rintro ⟨-, padded_le⟩
  have padded := le_roundUp positive size
  omega

/-- A layout is told from its size and its alignment. -/
theorem Layout.eq_of_size_align
    {left right : Layout}
    (size : left.size = right.size)
    (align : left.align = right.align) :
    left = right := by
  cases left
  cases right
  cases size
  cases align
  rfl

namespace Geometry

variable (geometry : Geometry)

/-- The stride is the least multiple of the alignment that holds an item. -/
theorem isLeast_stride :
    IsLeast
      {multiple |
        geometry.item.align ∣ multiple ∧ geometry.item.size ≤ multiple}
      geometry.stride := by
  refine ⟨⟨geometry.align_dvd_stride, geometry.item_le_stride⟩, ?_⟩
  rintro multiple ⟨divides, above⟩
  exact roundUp_le geometry.item.align_pos divides above

/-- No slab needs padding. -/
theorem align_dvd_bytes (capacity : Nat) :
    geometry.item.align ∣ geometry.stride * capacity :=
  geometry.align_dvd_stride.mul_right capacity

/-- The bytes of a slab within the limit come to a word. -/
theorem lt_modulus_of_le_limit
    {capacity : Nat}
    (bounded : capacity ≤ geometry.limit) :
    geometry.stride * capacity < Word.modulus :=
  Nat.lt_of_le_of_lt (geometry.le_limit_iff.1 bounded) (by decide)

/-- Whichever step fails, the fault is the same. -/
theorem slabLayout_of_limit_lt
    {capacity : Nat}
    (beyond : geometry.limit < capacity) :
    geometry.slabLayout capacity =
      .error (.capacityOverflow capacity geometry.limit) := by
  unfold slabLayout
  cases multiplied : Word.mul? geometry.stride capacity with
  | none => rfl
  | some bytes =>
    have exact := (Word.mul?_eq_some_iff.1 multiplied).2
    have tooLarge : Word.spanLimit < bytes := by
      rw [← exact, ← Nat.not_le, ← geometry.le_limit_iff]
      exact Nat.not_le_of_lt beyond
    dsimp only
    rw [Layout.of?_eq_none geometry.item.align_pos tooLarge]

/-- A slab has a layout just if it is within the limit: that of its slots. -/
theorem slabLayout_eq_ok_iff
    {capacity : Nat}
    {layout : Layout} :
    geometry.slabLayout capacity = .ok layout ↔
      capacity ≤ geometry.limit ∧
        layout.size = geometry.stride * capacity ∧
          layout.align = geometry.item.align := by
  rcases Nat.lt_or_ge geometry.limit capacity with beyond | bounded
  · rw [geometry.slabLayout_of_limit_lt beyond]
    exact ⟨nofun, fun described => by omega⟩
  · rcases geometry.exists_slabLayout bounded with ⟨made, laidOut, size, align⟩
    rw [laidOut]
    constructor
    · rintro ⟨⟩
      exact ⟨bounded, size, align⟩
    · rintro ⟨-, sameSize, sameAlign⟩
      rw [Layout.eq_of_size_align (size.trans sameSize.symm)
        (align.trans sameAlign.symm)]

/-- A slab has no layout just if it is beyond the limit. -/
theorem slabLayout_eq_error_iff
    {capacity : Nat}
    {fault : Fault} :
    geometry.slabLayout capacity = .error fault ↔
      geometry.limit < capacity ∧
        fault = .capacityOverflow capacity geometry.limit := by
  rcases Nat.lt_or_ge geometry.limit capacity with beyond | bounded
  · rw [geometry.slabLayout_of_limit_lt beyond]
    constructor
    · rintro ⟨⟩
      exact ⟨beyond, rfl⟩
    · rintro ⟨-, rfl⟩
      rfl
  · rcases geometry.exists_slabLayout bounded with ⟨made, laidOut, -, -⟩
    rw [laidOut]
    exact ⟨nofun, fun described => by omega⟩

/--
Every layout that takes space is that of the items of a geometry.  Its stride is
the least multiple of the alignment that holds an item, and its limit at least
one slot.  A slab has a layout just if its capacity is within the limit, which
then has exactly the bytes of its slots, no more than a block can span and a
multiple of the alignment of the item; beyond the limit, whether the bytes come
to a word or not, the answer is an overflow that names the capacity and the
limit.
-/
theorem dimensions_of_item
    {size align : Nat}
    (size_pos : 0 < size)
    (align_pow : align.isPowerOfTwo)
    (padded_le : roundUp size align ≤ Word.spanLimit) :
    let geometry : Geometry := ⟨⟨size, align, align_pow, padded_le⟩, size_pos⟩
    Layout.of? size align = some geometry.item ∧
    Geometry.of geometry.item = .ok geometry ∧
    IsLeast {multiple | align ∣ multiple ∧ size ≤ multiple} geometry.stride ∧
    1 ≤ geometry.limit ∧
    (∀ capacity layout,
      geometry.slabLayout capacity = .ok layout ↔
        capacity ≤ geometry.limit ∧
          layout.size = geometry.stride * capacity ∧ layout.align = align) ∧
    (∀ capacity layout,
      geometry.slabLayout capacity = .ok layout →
        layout.size ≤ Word.spanLimit ∧ layout.align ∣ layout.size) ∧
    (∀ capacity fault,
      geometry.slabLayout capacity = .error fault ↔
        geometry.limit < capacity ∧
          fault = .capacityOverflow capacity geometry.limit) ∧
    (∀ capacity,
      Word.mul? geometry.stride capacity = none →
        geometry.slabLayout capacity =
          .error (.capacityOverflow capacity geometry.limit)) := by
  intro geometry
  refine
    ⟨Layout.of?_eq_some_iff.2 ⟨rfl, rfl⟩, dif_pos size_pos,
      geometry.isLeast_stride, geometry.limit_pos, ?_, ?_, ?_, ?_⟩
  · exact fun capacity layout => geometry.slabLayout_eq_ok_iff
  · intro capacity layout laidOut
    rcases geometry.slabLayout_eq_ok_iff.1 laidOut with
      ⟨bounded, size, align⟩
    rw [size, align]
    exact
      ⟨geometry.le_limit_iff.1 bounded, geometry.align_dvd_bytes capacity⟩
  · exact fun capacity fault => geometry.slabLayout_eq_error_iff
  · intro capacity wraps
    apply geometry.slabLayout_of_limit_lt
    by_contra bounded
    have fits := geometry.lt_modulus_of_le_limit (Nat.le_of_not_lt bounded)
    rw [Word.mul?, if_pos fits] at wraps
    cases wraps

/--
Three items of this size fit into a slab.  The bytes of four come to a word that
no block spans, those of eight not even to a word.
-/
theorem dimensions_of_vastItem :
    let geometry : Geometry :=
      ⟨⟨2 ^ 61 + 1, 2, by decide, by decide +kernel⟩, by decide⟩
    let layout : Layout := ⟨3 * 2 ^ 61 + 6, 2, by decide, by decide +kernel⟩
    geometry.stride = 2 ^ 61 + 2 ∧
      geometry.slabLayout 3 = .ok layout ∧
      2 ∣ 3 * 2 ^ 61 + 6 ∧
      Word.mul? geometry.stride 4 = some (2 ^ 63 + 8) ∧
      geometry.slabLayout 4 = .error (.capacityOverflow 4 3) ∧
      Word.mul? geometry.stride 8 = none ∧
      geometry.slabLayout 8 = .error (.capacityOverflow 8 3) := by
  intro geometry layout
  rcases
      dimensions_of_item (by decide : 0 < 2 ^ 61 + 1)
        (by decide : Nat.isPowerOfTwo 2)
        (by decide +kernel : roundUp (2 ^ 61 + 1) 2 ≤ Word.spanLimit) with
    ⟨-, -, -, -, laidOut, whole, refused, wraps⟩
  have three : geometry.slabLayout 3 = .ok layout :=
    (laidOut 3 layout).2
      ⟨by decide +kernel, by decide +kernel, by decide +kernel⟩
  have eight : Word.mul? geometry.stride 8 = none := by decide +kernel
  refine
    ⟨by decide +kernel, three, (whole 3 layout three).2, by decide +kernel, ?_,
      eight, wraps 8 eight⟩
  exact (refused 4 _).2 ⟨by decide +kernel, by decide +kernel⟩

end Geometry

end SlabPool
