import SlabPool.Proofs.Issued

/-!
# The canonical form of the active slab

What the active slab records is a function of the slots that are in use: the
mark is right above the highest of them, and the list and the marks of the
vacancies hold the other slots below it (`Vacancies.Settled.stack_eq`,
`Vacancies.Settled.marks_eq`).

The slots in use are those issued from the slab, so that `canonical_of_run`
tells the whole record from the history.
-/

namespace SlabPool

/-! ## Marks of a set of slots -/

namespace Marks

/-- The marks of these slots among the first `capacity`. -/
def ofSet
    (capacity : Nat)
    (marked : Finset Nat) :
    Marks :=
  ⟨Array.ofFn fun word : Fin (wordsFor capacity) =>
    (BitVec.ofBoolListLE
      ((List.range 64).map fun bit =>
        decide (64 * word.val + bit ∈ marked))).setWidth 64⟩

theorem has_ofSet
    {capacity index : Nat}
    (inside : index / 64 < wordsFor capacity)
    (marked : Finset Nat) :
    (ofSet capacity marked).has index = decide (index ∈ marked) := by
  have bit : index % 64 < 64 := Nat.mod_lt _ (by decide)
  have place : 64 * (index / 64) + index % 64 = index := by omega
  have found :
      (ofSet capacity marked).words[index / 64]? =
        some
          ((BitVec.ofBoolListLE
            ((List.range 64).map fun bit =>
              decide (64 * (index / 64) + bit ∈ marked))).setWidth 64) := by
    simp only [ofSet, Array.getElem?_ofFn, inside, dif_pos]
  rw [has, found]
  dsimp only
  rw [BitVec.getLsbD_setWidth, BitVec.getLsbD_ofBoolListLE,
    List.getD_eq_getElem?_getD, List.getElem?_map, List.getElem?_range bit,
    Option.map_some, Option.getD_some, place, decide_eq_true bit,
    Bool.true_and]

/-- Marks with as many words are told apart by the slots marked. -/
theorem eq_of_has
    {left right : Marks}
    (words : left.words.size = right.words.size)
    (same :
      ∀ index, index / 64 < left.words.size →
        left.has index = right.has index) :
    left = right := by
  rcases left with ⟨left⟩
  rcases right with ⟨right⟩
  congr 1
  apply Array.ext words
  intro word insideLeft insideRight
  apply BitVec.eq_of_getLsbD_eq
  intro bit small
  have place : (64 * word + bit) / 64 = word := by omega
  have rest : (64 * word + bit) % 64 = bit := by omega
  have agree := same (64 * word + bit) (by rwa [place])
  simpa [has, place, rest, insideLeft, insideRight] using agree

end Marks

namespace Vacancies

/-- The slots below the mark that are not used, the highest first. -/
def unused
    (mark : Nat)
    (used : Finset Nat) :
    List Nat :=
  ((List.range mark).filter (· ∉ used)).reverse

theorem mem_unused
    {mark index : Nat}
    {used : Finset Nat} :
    index ∈ unused mark used ↔ index < mark ∧ index ∉ used := by
  simp [unused]

theorem descending_unused
    (mark : Nat)
    (used : Finset Nat) :
    (unused mark used).Pairwise (· > ·) := by
  rw [unused, List.pairwise_reverse]
  exact List.pairwise_lt_range.filter _

section Canonical

variable {vacancies : Vacancies} {capacity mark : Nat}

/-- Below the mark, the slots not in use are the vacant ones. -/
theorem Settled.mem_stack_iff
    (settled : vacancies.Settled capacity mark)
    {index : Nat} :
    index ∈ vacancies.stack ↔
      index < mark ∧ index ∉ vacancies.inUse mark := by
  rw [mem_inUse, not_and, not_not]
  constructor
  · intro vacant
    have below := settled.buried index vacant
    exact ⟨by omega, fun _ => vacant⟩
  · rintro ⟨below, vacant⟩
    exact vacant below

/-- The list of the vacancies is told from the slots in use. -/
theorem Settled.stack_eq
    (settled : vacancies.Settled capacity mark) :
    vacancies.stack = unused mark (vacancies.inUse mark) := by
  have descending := descending_unused mark (vacancies.inUse mark)
  have nodup : (unused mark (vacancies.inUse mark)).Nodup :=
    descending.imp fun above => Nat.ne_of_gt above
  apply List.Perm.eq_of_pairwise ?_ settled.descending descending
  · rw [List.perm_ext_iff_of_nodup settled.nodup nodup]
    intro index
    rw [settled.mem_stack_iff, mem_unused]
  · intro left right _ _ above below
    omega

/-- The marks of the vacancies are told from the slots in use. -/
theorem Settled.marks_eq
    (settled : vacancies.Settled capacity mark) :
    vacancies.marks =
      Marks.ofSet capacity (Finset.range mark \ vacancies.inUse mark) := by
  apply Marks.eq_of_has
  · simp [Marks.ofSet, settled.words]
  · intro index inside
    rw [settled.words] at inside
    rw [Marks.has_ofSet inside, Bool.eq_iff_iff, settled.marked,
      settled.mem_stack_iff, decide_eq_true_iff, Finset.mem_sdiff,
      Finset.mem_range]

end Canonical

/-- Mark and vacancies are told from the slots in use, but for their room. -/
theorem Settled.eq_of_inUse_eq
    {left right : Vacancies}
    {capacity leftMark rightMark : Nat}
    (leftSettled : left.Settled capacity leftMark)
    (rightSettled : right.Settled capacity rightMark)
    (same : left.inUse leftMark = right.inUse rightMark) :
    leftMark = rightMark ∧ left = { right with room := left.room } := by
  have mark : leftMark = rightMark := by
    rw [leftSettled.mark_eq, rightSettled.mark_eq, same]
  have stack : left.stack = right.stack := by
    rw [leftSettled.stack_eq, rightSettled.stack_eq, same, mark]
  have marks : left.marks = right.marks := by
    rw [leftSettled.marks_eq, rightSettled.marks_eq, same, mark]
  rw [← stack, ← marks]
  exact ⟨mark, rfl⟩

end Vacancies

/-! ## The record of a pool -/

/-- The indices of the slots of the slab that start at these addresses. -/
noncomputable def Slab.indices
    {geometry : Geometry}
    (slab : Slab geometry)
    (addresses : Finset Nat) :
    Finset Nat :=
  addresses.preimage slab.slotAt slab.slotAt_injective.injOn

theorem Slab.indices_image
    {geometry : Geometry}
    (slab : Slab geometry)
    (indices : Finset Nat) :
    slab.indices (indices.image slab.slotAt) = indices := by
  ext index
  rw [Slab.indices, Finset.mem_preimage,
    slab.slotAt_injective.mem_finset_image]

namespace Pool

variable {config : Config}

/-- All that the pool records of its active slab is told from the slots used. -/
structure Canonical
    (pool : Pool config)
    (active : Slab config.geometry)
    (used : Finset Nat) :
    Prop where
  within : used ⊆ Finset.range active.capacity
  mark : pool.highWater = used.sup (· + 1)
  stack :
    pool.vacancies.stack = Vacancies.unused (used.sup (· + 1)) used
  marks :
    pool.vacancies.marks =
      Marks.ofSet active.capacity (Finset.range (used.sup (· + 1)) \ used)
  marked :
    ∀ index,
      pool.vacancies.contains index = true ↔
        index < pool.highWater ∧ index ∉ used
  size : pool.vacancies.size = pool.highWater - used.card
  top : 0 < pool.highWater → pool.highWater - 1 ∈ used

theorem Sound.canonical
    {pool : Pool config}
    (sound : pool.Sound)
    {active : Slab config.geometry}
    (serving : pool.shelf.active = some active) :
    pool.Canonical active pool.inUse := by
  have settled := sound.settled_active serving
  have split := sound.card_inUse
  have mark := settled.mark_eq
  have stack := settled.stack_eq
  have marks := settled.marks_eq
  rw [← inUse_of_active serving] at mark stack marks
  rw [mark] at stack marks
  refine ⟨?_, ?_, stack, marks, ?_, by omega, ?_⟩
  · intro index used
    rw [inUse_of_active serving] at used
    exact Finset.mem_range.2 (settled.lt_of_mem_inUse used)
  · rw [highWater_of_active serving]
    exact mark
  · intro index
    rw [settled.contains_iff, settled.mem_stack_iff,
      inUse_of_active serving, highWater_of_active serving]
  · exact sound.settled.top_mem_inUse

/--
At any time the record of the active slab is the one of the slots issued from
it, and nothing else was issued from it.
-/
theorem canonical_of_run
    {σ : Type}
    [Provider σ]
    [SeparatingProvider σ]
    {deals : List (Deal config σ)}
    {world : World config σ}
    (run : Run deals world)
    {active : Slab config.geometry}
    (serving : world.pool.shelf.active = some active) :
    issued deals = (active.indices (issued deals)).image active.slotAt ∧
      world.pool.Canonical active (active.indices (issued deals)) := by
  have occupied : issued deals = world.pool.inUse.image active.slotAt := by
    rw [run.issued_eq, addresses_of_active serving]
  have indices : active.indices (issued deals) = world.pool.inUse := by
    rw [occupied, active.indices_image]
  rw [indices]
  exact ⟨occupied, run.balanced.sound.canonical serving⟩

/-- Five slots in two slabs; both items of the first slab leave by one address. -/
def Sample.repeatedRemoval : List (Request Arena) :=
  [.remove (Arena.origin + 24), .remove Arena.origin, .remove Arena.origin,
    .allocate, .allocate, .allocate, .allocate, .allocate]

/-- The second slab, after its middle slot was given back. -/
def Sample.secondSlab : Slab Sample.config.geometry :=
  ⟨Arena.origin + 16, 3, 3⟩

theorem canonical_of_repeatedRemoval :
    issued (history Sample.arena Sample.repeatedRemoval :
        List (Deal Sample.config Arena)) =
      {Arena.origin + 16, Arena.origin + 32} ∧
    (reached Sample.arena Sample.repeatedRemoval :
        World Sample.config Arena).pool.Canonical
      Sample.secondSlab
      (Sample.secondSlab.indices
        (issued (history Sample.arena Sample.repeatedRemoval :
          List (Deal Sample.config Arena)))) := by
  have run : Run _ (reached Sample.arena _ : World Sample.config Arena) :=
    run_history Sample.arena Sample.repeatedRemoval
  refine ⟨by decide +kernel, ?_⟩
  exact (canonical_of_run run (by decide +kernel)).2

end Pool

end SlabPool
