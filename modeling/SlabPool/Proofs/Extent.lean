import Mathlib.Algebra.GroupWithZero.Nat
import Mathlib.Data.Finset.Card
import Mathlib.Data.List.Pairwise
import Mathlib.Order.Interval.Finset.Nat
import SlabPool.Memory

/-!
# Blocks that share no address

The extent of a block is the set of its addresses.  Blocks that are apart have
disjoint extents, so an address lies in at most one of them
(`Block.eq_of_mem_extent`), and all of them together are no larger than the
range of addresses they lie in (`Block.sum_size_le`).
-/

namespace SlabPool.Block

/-- The addresses of a block. -/
def extent (block : Block) : Finset Nat :=
  Finset.Ico block.base block.finish

@[simp]
theorem mem_extent
    {block : Block}
    {address : Nat} :
    address ∈ block.extent ↔
      block.base ≤ address ∧ address < block.finish :=
  Finset.mem_Ico

@[simp]
theorem card_extent (block : Block) : block.extent.card = block.size := by
  simp [extent, finish]

instance : Std.Symm Apart :=
  ⟨fun _ _ apart => apart.symm⟩

theorem Apart.disjoint
    {left right : Block}
    (apart : Apart left right) :
    Disjoint left.extent right.extent := by
  rw [Finset.disjoint_left]
  intro address inLeft inRight
  rw [mem_extent] at inLeft inRight
  rcases apart with before | after
  · exact absurd inRight.1 (by omega)
  · exact absurd inLeft.1 (by omega)

/-- Blocks that are apart differ, unless they are empty. -/
theorem Apart.ne
    {left right : Block}
    (apart : Apart left right)
    (nonempty : 0 < left.size) :
    left ≠ right := by
  rintro rfl
  have overlap : left.finish ≤ left.base := or_self_iff.1 apart
  have grows : left.base < left.finish := Nat.lt_add_of_pos_right nonempty
  exact Nat.not_le_of_lt grows overlap

/-- In a list of blocks that are apart, one address lies in one block. -/
theorem eq_of_mem_extent
    {blocks : List Block}
    (apart : blocks.Pairwise Apart)
    {left right : Block}
    (leftMember : left ∈ blocks)
    (rightMember : right ∈ blocks)
    {address : Nat}
    (inLeft : address ∈ left.extent)
    (inRight : address ∈ right.extent) :
    left = right := by
  by_contra differ
  have separate : Apart left right :=
    apart.forall leftMember rightMember differ
  exact Finset.disjoint_left.1 separate.disjoint inLeft inRight

/-- The addresses of a list of blocks. -/
def extents : List Block → Finset Nat
  | [] => ∅
  | block :: rest => block.extent ∪ extents rest

theorem mem_extents
    {blocks : List Block}
    {address : Nat} :
    address ∈ extents blocks ↔ ∃ block ∈ blocks, address ∈ block.extent := by
  induction blocks with
  | nil => simp [extents]
  | cons block rest ih =>
    rw [extents, Finset.mem_union, ih]
    simp only [List.mem_cons, exists_eq_or_imp]

/-- In blocks that are apart, addresses are counted block by block. -/
theorem card_inter_extents
    {blocks : List Block}
    (apart : blocks.Pairwise Apart)
    (addresses : Finset Nat) :
    (addresses ∩ extents blocks).card =
      (blocks.map fun block => (addresses ∩ block.extent).card).sum := by
  induction blocks with
  | nil => simp [extents]
  | cons block rest ih =>
    rw [List.pairwise_cons] at apart
    have separate : Disjoint block.extent (extents rest) := by
      rw [Finset.disjoint_left]
      intro address inBlock inRest
      rcases mem_extents.1 inRest with ⟨other, member, inOther⟩
      exact Finset.disjoint_left.1
        (apart.1 other member).disjoint inBlock inOther
    have parts :
        Disjoint (addresses ∩ block.extent) (addresses ∩ extents rest) :=
      separate.mono Finset.inter_subset_right Finset.inter_subset_right
    rw [extents, Finset.inter_union_distrib_left,
      Finset.card_union_of_disjoint parts, ih apart.2, List.map_cons,
      List.sum_cons]

theorem card_extents
    {blocks : List Block}
    (apart : blocks.Pairwise Apart) :
    (extents blocks).card = (blocks.map size).sum := by
  have counted := card_inter_extents apart (extents blocks)
  rw [Finset.inter_self] at counted
  rw [counted]
  congr 1
  apply List.map_congr_left
  intro block member
  have inside : block.extent ⊆ extents blocks := fun address inBlock =>
    mem_extents.2 ⟨block, member, inBlock⟩
  rw [Finset.inter_eq_right.2 inside, card_extent]

/-- Blocks that are apart fit together below any bound on their ends. -/
theorem sum_size_le
    {blocks : List Block}
    {bound : Nat}
    (apart : blocks.Pairwise Apart)
    (below : ∀ block ∈ blocks, block.finish ≤ bound) :
    (blocks.map size).sum ≤ bound := by
  have inside : extents blocks ⊆ Finset.range bound := by
    intro address member
    rcases mem_extents.1 member with ⟨block, blockMember, inBlock⟩
    rw [Finset.mem_range]
    exact Nat.lt_of_lt_of_le
      (mem_extent.1 inBlock).2 (below block blockMember)
  calc
    (blocks.map size).sum = (extents blocks).card :=
      (card_extents apart).symm
    _ ≤ (Finset.range bound).card := Finset.card_le_card inside
    _ = bound := Finset.card_range bound

end SlabPool.Block
