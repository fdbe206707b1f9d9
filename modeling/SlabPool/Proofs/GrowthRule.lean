import SlabPool.Proofs.Invariant

/-!
# What the rule for capacities computes

A slab is to have thirteen eighths of the capacity of the slab before it, at
least the minimum and at most the limit.  The product stops at the greatest word
before it is divided, so that the eighths never come to more than the
`growthCeiling` (`saturatingMul_div_eq`).  The limit hides this just if a slot
takes at least four bytes (`limit_le_growthCeiling_iff`); below that, the slab
to follow a large one gets too small, and even smaller than the one before it:
`growthRule_of_geometry`.

The last section tells which capacities are followed by greater ones.
-/

namespace SlabPool.Config

/-- The capacity to follow `current`, from the exact product. -/
def exactNextCapacity (current minimum limit : Nat) : Nat :=
  min (max (growthEighths * current / 8) minimum) limit

/-- The eighths of the greatest word. -/
def growthCeiling : Nat :=
  Word.greatest / 8

/-- A product that stops at the greatest word has eighths that stop, too. -/
theorem saturatingMul_div_eq (current : Nat) :
    Word.saturatingMul current growthEighths / 8 =
      min (growthEighths * current / 8) growthCeiling := by
  rw [Word.saturatingMul, growthCeiling, Nat.mul_comm current]
  omega

theorem eighths_le_growthCeiling_iff (current : Nat) :
    growthEighths * current / 8 ≤ growthCeiling ↔
      growthEighths * current ≤ Word.greatest := by
  rw [growthCeiling, Word.greatest, Word.modulus]
  omega

theorem nextCapacity_eq_min (current minimum limit : Nat) :
    nextCapacity current minimum limit =
      min (max (min (growthEighths * current / 8) growthCeiling) minimum)
        limit := by
  rw [nextCapacity, saturatingMul_div_eq]

/-- The limit on the bytes of a slab is a limit on its slots. -/
theorem limit_le_growthCeiling_iff (geometry : Geometry) :
    geometry.limit ≤ growthCeiling ↔ 4 ≤ geometry.stride := by
  constructor
  · intro low
    by_contra small
    have wide : Word.spanLimit / 3 ≤ geometry.limit :=
      Nat.div_le_div_left (by omega) geometry.stride_pos
    exact absurd (Nat.le_trans wide low) (by decide)
  · intro large
    have narrow : geometry.limit ≤ Word.spanLimit / 4 :=
      Nat.div_le_div_left large (by decide)
    exact Nat.le_trans narrow (by decide)

/-! ## Where the rule is exact -/

theorem nextCapacity_eq_exact_iff (current minimum limit : Nat) :
    nextCapacity current minimum limit =
        exactNextCapacity current minimum limit ↔
      limit ≤ growthCeiling ∨
        growthEighths * current / 8 ≤ growthCeiling ∨
          min (growthEighths * current / 8) limit ≤ minimum := by
  rw [nextCapacity_eq_min, exactNextCapacity]
  omega

theorem le_nextCapacity_iff (current minimum limit : Nat) :
    current ≤ nextCapacity current minimum limit ↔
      current ≤ limit ∧ (current ≤ growthCeiling ∨ current ≤ minimum) := by
  have eighths : current ≤ growthEighths * current / 8 := by
    rw [growthEighths]
    omega
  rw [nextCapacity_eq_min]
  omega

/--
The rule is exact just if a slot takes at least four bytes, the product is a
word, or the minimum makes up for it; and a slab that is no larger than the
limit is not followed by a smaller one just if a slot takes at least four bytes
or the slab is no larger than the ceiling or the minimum.  For all minima and
capacities together, it is exact just if a slot takes at least four bytes.
-/
theorem growthRule_of_geometry (geometry : Geometry) :
    (∀ current minimum,
      nextCapacity current minimum geometry.limit =
          exactNextCapacity current minimum geometry.limit ↔
        4 ≤ geometry.stride ∨
          growthEighths * current ≤ Word.greatest ∨
            min (growthEighths * current / 8) geometry.limit ≤ minimum) ∧
    (∀ current minimum,
      current ≤ nextCapacity current minimum geometry.limit ↔
        current ≤ geometry.limit ∧
          (4 ≤ geometry.stride ∨ current ≤ growthCeiling ∨
            current ≤ minimum)) ∧
    ((∀ current minimum,
      0 < current → current ≤ geometry.limit → 0 < minimum →
        nextCapacity current minimum geometry.limit =
          exactNextCapacity current minimum geometry.limit) ↔
      4 ≤ geometry.stride) := by
  have low := limit_le_growthCeiling_iff geometry
  refine ⟨?_, ?_, ?_, ?_⟩
  · intro current minimum
    rw [nextCapacity_eq_exact_iff, low, eighths_le_growthCeiling_iff]
  · intro current minimum
    rw [le_nextCapacity_iff, ← low]
    omega
  · intro exact
    -- The greatest slab, with no help of a minimum, needs an exact product.
    have greatest :=
      exact geometry.limit 1 geometry.limit_pos (Nat.le_refl _) (by decide)
    rw [nextCapacity_eq_exact_iff, growthEighths] at greatest
    rw [← low]
    rw [growthCeiling, Word.greatest, Word.modulus] at greatest ⊢
    omega
  · intro large current minimum _ _ _
    exact (nextCapacity_eq_exact_iff _ _ _).2 (Or.inl (low.2 large))

/-- Items of one byte. -/
def Sample.bytes : Geometry :=
  ⟨⟨1, 1, by decide, by decide⟩, by decide⟩

/-- A slab of half the greatest capacity is followed by one half as large. -/
theorem nextCapacity_of_bytes :
    let limit := Sample.bytes.limit
    2 ^ 62 ≤ limit ∧
      nextCapacity (2 ^ 62) 8 limit = 2 ^ 61 - 1 ∧
        exactNextCapacity (2 ^ 62) 8 limit = 13 * 2 ^ 59 ∧
          nextCapacity (2 ^ 62) 8 limit ≠
              exactNextCapacity (2 ^ 62) 8 limit ∧
            ¬ 2 ^ 62 ≤ nextCapacity (2 ^ 62) 8 limit := by
  decide +kernel

/-! ## Which capacities are followed by greater ones -/

theorem lt_nextCapacity_iff (current minimum limit : Nat) :
    current < nextCapacity current minimum limit ↔
      current < limit ∧
        (current < minimum ∨ 1 < current ∧ current < growthCeiling) := by
  have eighths : current < growthEighths * current / 8 ↔ 1 < current := by
    rw [growthEighths]
    omega
  rw [nextCapacity_eq_min]
  omega

/-- Each capacity below the limit that a slab can have is followed by a greater one. -/
def Progressive (config : Config) : Prop :=
  ∀ current, config.firstCapacity ≤ current → current < config.limit →
    current < config.capacityAfter current

/--
Either there is but one capacity, or the first slab has two slots and the limit
hides where the rule is not exact.
-/
theorem progressive_iff (config : Config) :
    config.Progressive ↔
      config.limit ≤ config.minimum ∨
        1 < config.minimum ∧ 4 ≤ config.geometry.stride := by
  have low : config.limit ≤ growthCeiling ↔ 4 ≤ config.geometry.stride :=
    limit_le_growthCeiling_iff config.geometry
  simp only [Progressive, firstCapacity, capacityAfter, lt_nextCapacity_iff,
    ← low]
  constructor
  · intro progressive
    by_contra stuck
    have first := progressive config.minimum
    have last := progressive growthCeiling
    omega
  · intro condition current least below
    omega

/-- The greatest capacity is followed by itself. -/
theorem Progressive.capacityAfter_limit
    {config : Config}
    (progressive : config.Progressive) :
    config.capacityAfter config.limit = config.limit := by
  have low : config.limit ≤ growthCeiling ↔ 4 ≤ config.geometry.stride :=
    limit_le_growthCeiling_iff config.geometry
  have condition := config.progressive_iff.1 progressive
  refine Nat.le_antisymm (config.capacityAfter_le_limit _) ?_
  rw [capacityAfter, le_nextCapacity_iff]
  omega

end SlabPool.Config
