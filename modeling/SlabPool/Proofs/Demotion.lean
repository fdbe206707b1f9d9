import Mathlib.Data.List.InsertIdx
import Mathlib.Data.List.Perm.Basic
import SlabPool.Proofs.Invariant
import SlabPool.Proofs.Provision

/-!
# The slab before a new one

When a pool gets a new active slab, the slab before it retires with the number
of its items, or is given back if it has none.  `Demotion` states both and what
the log says of them.  Either way the retired slabs stay in order, and the held
blocks are again those of the slabs (`Demotion.sound_renewed`,
`Demotion.held_perm`).
-/

namespace SlabPool

variable {σ : Type}

/-- An entry put where it belongs keeps a list in order. -/
theorem pairwise_insertIdx
    {α : Type}
    {relation : α → α → Prop}
    {entries : List α}
    {position : Nat}
    {entry : α}
    (related : entries.Pairwise relation)
    (before :
      ∀ index other, entries[index]? = some other →
        index < position → relation other entry)
    (after :
      ∀ index other, entries[index]? = some other →
        position ≤ index → relation entry other) :
    (entries.insertIdx position entry).Pairwise relation := by
  induction entries generalizing position with
  | nil =>
    cases position with
    | zero => simp
    | succ position => simp
  | cons first rest ih =>
    cases position with
    | zero =>
      rw [List.insertIdx_zero, List.pairwise_cons]
      refine ⟨?_, related⟩
      intro other member
      rcases List.mem_iff_getElem?.1 member with ⟨index, found⟩
      exact after index other found (Nat.zero_le index)
    | succ position =>
      rw [List.pairwise_cons] at related
      rw [List.insertIdx_succ_cons, List.pairwise_cons]
      constructor
      · intro other member
        rcases List.eq_or_mem_of_mem_insertIdx member with rfl | earlier
        · exact before 0 first rfl (Nat.succ_pos position)
        · exact related.1 other earlier
      · apply ih related.2
        · intro index other found inside
          exact before (index + 1) other found (Nat.succ_lt_succ inside)
        · intro index other found beyond
          exact after (index + 1) other found (Nat.succ_le_succ beyond)

/-- The active slab can be put where it belongs among the retired ones. -/
theorem Shelf.Orderly.ascending_insertIdx
    {geometry : Geometry}
    {shelf : Shelf geometry}
    (orderly : shelf.Orderly)
    {previous : Slab geometry}
    (serving : shelf.active = some previous)
    {position live : Nat}
    (ordered :
      ∀ index slab, shelf.retired[index]? = some slab →
        (index < position ↔ slab.base < previous.base)) :
    ((shelf.retired.insertIdx position { previous with live }).map
      Slab.base).Pairwise (· < ·) := by
  rw [List.pairwise_map]
  apply pairwise_insertIdx (List.pairwise_map.1 orderly.ascending)
  · intro index other found earlier
    exact (ordered index other found).1 earlier
  · intro index other found later
    have notBelow : ¬ other.base < previous.base := by
      rw [← ordered index other found]
      exact Nat.not_lt_of_le later
    -- The two slabs are apart, so their bases differ as well.
    have member := List.mem_of_getElem? found
    have apart := orderly.active_apart serving member
    have bytes := Slab.bytes_pos (orderly.sited_active serving)
    have otherBytes := Slab.bytes_pos (orderly.sited_retired member)
    change previous.base + previous.bytes ≤ other.base ∨
      other.base + other.bytes ≤ previous.base at apart
    show previous.base < other.base
    omega

namespace Pool

variable {config : Config}

/-- The pool is sound, and the held blocks are those of its slabs. -/
structure Balanced
    (pool : Pool config)
    (memory : Memory σ) :
    Prop where
  sound : pool.Sound
  held : memory.held.Perm (pool.shelf.slabs.map Slab.block)

/-! ## The slab before the new one -/

/--
What becomes of the active slab beside a new one: which slabs are retired and
which blocks are held afterwards, and what the log says of it.
-/
inductive Demotion
    (pool : Pool config)
    (held : List Block) :
    List (Slab config.geometry) → List Block → List Event → Prop where
  /-- There was no active slab. -/
  | absent (inactive : pool.shelf.active = none) :
      Demotion pool held pool.shelf.retired held []
  /-- It had no items and was given back. -/
  | released
      {previous : Slab config.geometry}
      (serving : pool.shelf.active = some previous)
      (unused : pool.inUse = ∅) :
      Demotion pool held pool.shelf.retired (held.erase previous.block)
        [.previousReleased previous.capacity]
  /-- It retired, with the number of its items, among the slabs below and above it. -/
  | retired
      {previous : Slab config.geometry}
      {position : Nat}
      (serving : pool.shelf.active = some previous)
      (used : pool.inUse.Nonempty)
      (inside : position ≤ pool.shelf.retired.length)
      (ordered :
        ∀ index slab, pool.shelf.retired[index]? = some slab →
          (index < position ↔ slab.base < previous.base)) :
      Demotion pool held
        (pool.shelf.retired.insertIdx position
          { previous with live := pool.inUse.card })
        held
        [.retired previous.capacity pool.inUse.card position]

namespace Demotion

variable {pool : Pool config} {before after : List Block}
variable {retired : List (Slab config.geometry)} {events : List Event}

/-- The blocks of the retired slabs are blocks of slabs of the pool. -/
theorem subperm
    (demotion : pool.Demotion before retired after events) :
    (retired.map Slab.block).Subperm (pool.shelf.slabs.map Slab.block) := by
  cases demotion with
  | absent inactive =>
    exact
      ((List.sublist_append_right pool.shelf.active.toList _).map _).subperm
  | released serving unused =>
    exact
      ((List.sublist_append_right pool.shelf.active.toList _).map _).subperm
  | @retired previous position serving used inside ordered =>
    rw [Shelf.slabs_of_active serving, List.map_insertIdx, List.map_cons]
    have inRange :
        position ≤ (pool.shelf.retired.map Slab.block).length := by
      rwa [List.length_map]
    exact (List.perm_insertIdx _ _ inRange).subperm

/-- With the new slab, the held blocks are again those of the slabs. -/
theorem held_perm
    {block : Block}
    {held : List Block}
    (balanced : held.Perm (pool.shelf.slabs.map Slab.block))
    (demotion : pool.Demotion (block :: held) retired after events) :
    after.Perm (block :: retired.map Slab.block) := by
  cases demotion with
  | absent inactive =>
    rw [Shelf.slabs, inactive, Option.toList_none, List.nil_append] at balanced
    exact balanced.cons block
  | @released previous serving unused =>
    rw [Shelf.slabs_of_active serving, List.map_cons] at balanced
    have swapped := (balanced.cons block).trans (List.Perm.swap _ _ _)
    have erased := swapped.erase previous.block
    rwa [List.erase_cons_head] at erased
  | @retired previous position serving used inside ordered =>
    rw [Shelf.slabs_of_active serving, List.map_cons] at balanced
    rw [List.map_insertIdx]
    have inRange :
        position ≤ (pool.shelf.retired.map Slab.block).length := by
      rwa [List.length_map]
    exact
      (balanced.trans (List.perm_insertIdx _ _ inRange).symm).cons block

theorem length_le
    (demotion : pool.Demotion before retired after events) :
    retired.length ≤ pool.shelf.retired.length + 1 := by
  cases demotion with
  | absent inactive => exact Nat.le_succ _
  | released serving unused => exact Nat.le_succ _
  | retired serving used inside ordered =>
    rw [List.length_insertIdx_of_le_length inside]

theorem ascending
    (sound : pool.Sound)
    (demotion : pool.Demotion before retired after events) :
    (retired.map Slab.base).Pairwise (· < ·) := by
  cases demotion with
  | absent inactive => exact sound.orderly.ascending
  | released serving unused => exact sound.orderly.ascending
  | retired serving used inside ordered =>
    exact sound.orderly.ascending_insertIdx serving ordered

theorem counted
    (sound : pool.Sound)
    (demotion : pool.Demotion before retired after events)
    {slab : Slab config.geometry}
    (member : slab ∈ retired) :
    0 < slab.live ∧ slab.live ≤ slab.capacity := by
  cases demotion with
  | absent inactive => exact sound.orderly.counted slab member
  | released serving unused => exact sound.orderly.counted slab member
  | @retired previous position serving used inside ordered =>
    rcases List.eq_or_mem_of_mem_insertIdx member with rfl | earlier
    · have split := sound.card_inUse
      have marked := sound.settled.mark_le
      rw [activeCapacity_of_active serving] at marked
      refine ⟨Finset.card_pos.2 used, ?_⟩
      show pool.inUse.card ≤ previous.capacity
      omega
    · exact sound.orderly.counted slab earlier

end Demotion

/-! ## The pool with a new slab -/

/-- The pool with a new active slab and these retired ones. -/
def renewed
    (slab : Slab config.geometry)
    (retired : List (Slab config.geometry))
    (room : Nat) :
    Pool config :=
  ⟨⟨some slab, retired, room⟩, Vacancies.blank slab.capacity,
    config.capacityAfter slab.capacity⟩

/-- No slot of a new slab is in use. -/
theorem inUse_renewed
    {slab : Slab config.geometry}
    (untouched : slab.live = 0)
    (retired : List (Slab config.geometry))
    (room : Nat) :
    (renewed slab retired room).inUse = ∅ := by
  rw [inUse_of_active rfl, untouched]
  rfl

/-- Growth by a slab that is apart from all others leaves a sound pool. -/
theorem Demotion.sound_renewed
    {pool : Pool config}
    {before after : List Block}
    {retired : List (Slab config.geometry)}
    {events : List Event}
    (sound : pool.Sound)
    (demotion : pool.Demotion before retired after events)
    {slab : Slab config.geometry}
    (sited : slab.Sited)
    (untouched : slab.live = 0)
    (apart :
      ∀ block ∈ pool.shelf.slabs.map Slab.block,
        Block.Apart slab.block block)
    {room : Nat}
    (fits : retired.length ≤ room) :
    (renewed slab retired room).Sound where
  orderly :=
    { sited := by
        intro member listed
        rcases Shelf.mem_slabs.1 listed with serving | retiredMember
        · cases serving
          exact sited
        · have placed :=
            demotion.subperm.subset (List.mem_map_of_mem retiredMember)
          rcases List.mem_map.1 placed with ⟨origin, originMember, same⟩
          exact
            (sound.orderly.sited origin originMember).of_block_eq same.symm
      apart := by
        rw [Shelf.slabs_of_active rfl, List.map_cons, List.pairwise_cons]
        refine ⟨?_, ?_⟩
        · intro block member
          exact apart block (demotion.subperm.subset member)
        · rcases demotion.subperm with ⟨listed, same, sublist⟩
          exact (same.pairwise_iff fun related => related.symm).1
            (sound.orderly.apart.sublist sublist)
      ascending := demotion.ascending sound
      counted := fun _ member => demotion.counted sound member
      led := fun absent => by cases absent }
  settled := by
    have blank := Vacancies.settled_blank slab.capacity
    rwa [← untouched] at blank
  fits := fits
  hinted := rfl

end Pool

end SlabPool
