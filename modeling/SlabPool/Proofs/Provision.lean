import Mathlib.Algebra.Ring.Nat
import SlabPool.Proofs.Extent
import SlabPool.Shelf
import SlabPool.Vacancies

/-!
# What a pool relies on when memory is granted

A `SeparatingProvider` grants blocks among the addresses that are words and
apart from the held ones; alignment, the third promise of a lawful provider, is
of use to those who use the slots, but not to the books of the pool.

`Granted` says that a provider placed a block beside the held ones, and
`Undisturbed` that dealings with memory changed neither the held blocks nor the
log.  Each request of a pool is granted or refused, and leaves all but a block
that it was granted undisturbed.
-/

namespace SlabPool

/-- A provider of blocks that share no address. -/
class SeparatingProvider (σ : Type) [Provider σ] : Prop where
  addressable :
    ∀ {provider : σ} {held : List Block} {layout : Layout} {base : Nat},
      (Provider.place provider held layout).1 = some base →
        base + layout.size ≤ Word.greatest
  apart :
    ∀ {provider : σ} {held : List Block} {layout : Layout} {base : Nat},
      (Provider.place provider held layout).1 = some base →
        ∀ block ∈ held,
          Block.Apart ⟨base, layout.size, layout.align⟩ block

variable {σ : Type} [Provider σ]

instance [LawfulProvider σ] : SeparatingProvider σ where
  addressable := LawfulProvider.addressable
  apart := LawfulProvider.apart

/-- A provider placed the block beside the held ones. -/
def Granted
    (σ : Type)
    [Provider σ]
    (held : List Block)
    (block : Block) :
    Prop :=
  ∃ (provider : σ) (layout : Layout),
    (Provider.place provider held layout).1 = some block.base ∧
      layout.size = block.size ∧ layout.align = block.align

namespace Granted

variable {held : List Block} {block : Block}

theorem finish_lt
    [SeparatingProvider σ]
    (granted : Granted σ held block) :
    block.finish < Word.modulus := by
  rcases granted with ⟨provider, layout, placed, size, -⟩
  have bounded := SeparatingProvider.addressable placed
  rw [size] at bounded
  exact Nat.lt_of_le_of_lt bounded (by decide)

theorem apart
    [SeparatingProvider σ]
    (granted : Granted σ held block)
    {other : Block}
    (member : other ∈ held) :
    Block.Apart block other := by
  rcases granted with ⟨provider, layout, placed, size, align⟩
  have separate := SeparatingProvider.apart placed other member
  rwa [size, align] at separate

theorem aligned
    [LawfulProvider σ]
    (granted : Granted σ held block) :
    block.base % block.align = 0 := by
  rcases granted with ⟨provider, layout, placed, -, align⟩
  rw [← align]
  exact LawfulProvider.aligned placed

end Granted

namespace Memory

/-- Held blocks and log are as they were. -/
structure Undisturbed (before after : Memory σ) : Prop where
  held : after.held = before.held
  journal : after.journal = before.journal

omit [Provider σ] in
theorem Undisturbed.refl (memory : Memory σ) : memory.Undisturbed memory :=
  ⟨rfl, rfl⟩

omit [Provider σ] in
theorem Undisturbed.trans
    {first second third : Memory σ}
    (left : first.Undisturbed second)
    (right : second.Undisturbed third) :
    first.Undisturbed third :=
  ⟨right.held.trans left.held, right.journal.trans left.journal⟩

/-- Bookkeeping storage leaves blocks and log alone, granted or not. -/
theorem exists_secure_eq
    (memory : Memory σ)
    (resource : Resource)
    (bytes : Nat) :
    ∃ granted after,
      memory.secure resource bytes = (granted, after) ∧
        memory.Undisturbed after :=
  ⟨_, _, rfl, rfl, rfl⟩

theorem acquire_refused
    {memory after : Memory σ}
    {layout : Layout}
    (refused : memory.acquire layout = (none, after)) :
    memory.Undisturbed after := by
  have answer :
      (Provider.place memory.provider memory.held layout).1 = none :=
    congrArg Prod.fst refused
  have left : (memory.acquire layout).2 = after := congrArg Prod.snd refused
  subst left
  refine ⟨?_, rfl⟩
  simp only [acquire, answer]

theorem acquire_granted
    {memory after : Memory σ}
    {layout : Layout}
    {base : Nat}
    (granted : memory.acquire layout = (some base, after)) :
    Granted σ memory.held ⟨base, layout.size, layout.align⟩ ∧
      after.held = ⟨base, layout.size, layout.align⟩ :: memory.held ∧
        after.journal = memory.journal := by
  have answer :
      (Provider.place memory.provider memory.held layout).1 = some base :=
    congrArg Prod.fst granted
  have left : (memory.acquire layout).2 = after := congrArg Prod.snd granted
  subst left
  refine ⟨⟨memory.provider, layout, answer, rfl, rfl⟩, ?_, rfl⟩
  simp only [acquire, answer]

end Memory

/-! ## The requests of a pool, one by one -/

/-- A slab within the limit has a layout, of exactly the size of its slots. -/
theorem Geometry.exists_slabLayout
    (geometry : Geometry)
    {capacity : Nat}
    (bounded : capacity ≤ geometry.limit) :
    ∃ layout, geometry.slabLayout capacity = .ok layout ∧
      layout.size = geometry.stride * capacity ∧
        layout.align = geometry.item.align := by
  have spans := geometry.le_limit_iff.1 bounded
  have inRange : geometry.stride * capacity < Word.modulus :=
    Nat.lt_of_le_of_lt spans (by decide)
  have padded :
      roundUp (geometry.stride * capacity) geometry.item.align ≤
        Word.spanLimit :=
    Nat.le_trans
      (roundUp_le geometry.item.align_pos
        (Dvd.dvd.mul_right geometry.align_dvd_stride capacity)
        (Nat.le_refl _))
      spans
  let layout : Layout :=
    ⟨geometry.stride * capacity, geometry.item.align,
      geometry.item.align_pow, padded⟩
  have made :
      Layout.of? (geometry.stride * capacity) geometry.item.align =
        some layout :=
    Layout.of?_eq_some_iff.2 ⟨rfl, rfl⟩
  refine ⟨layout, ?_, rfl, rfl⟩
  rw [slabLayout, Word.mul?_eq_some_iff.2 ⟨inRange, rfl⟩]
  dsimp only
  rw [made]

/-- Room for one more retired slab is granted or refused. -/
theorem Shelf.reserveRetirement_cases
    {geometry : Geometry}
    (shelf : Shelf geometry)
    (fits : shelf.retired.length ≤ shelf.room)
    (memory : Memory σ) :
    (∃ room after,
      shelf.reserveRetirement memory = (.ok { shelf with room }, after) ∧
        shelf.retired.length < room ∧ memory.Undisturbed after) ∨
    (∃ after,
      shelf.reserveRetirement memory =
          (.error (.allocationFailed entryBytes entryAlign), after) ∧
        memory.Undisturbed after) := by
  unfold reserveRetirement
  dsimp only
  split
  case isTrue full =>
    rcases memory.exists_secure_eq .retirement
        (entryBytes * extendedRoom shelf.room) with
      ⟨granted, after, secured, undisturbed⟩
    rw [secured]
    cases granted with
    | true =>
      have larger := Nat.lt_of_le_of_lt fits (lt_extendedRoom shelf.room)
      exact Or.inl ⟨_, after, rfl, larger, undisturbed⟩
    | false => exact Or.inr ⟨after, rfl, undisturbed⟩
  case isFalse roomy =>
    exact Or.inl
      ⟨shelf.room, memory, rfl, Nat.lt_of_le_of_ne fits roomy, .refl memory⟩

/-- The block of a new slab is granted or refused. -/
theorem Slab.acquire_cases
    {geometry : Geometry}
    {capacity : Nat}
    (bounded : capacity ≤ geometry.limit)
    (memory : Memory σ) :
    (∃ (slab : Slab geometry) (after : Memory σ),
      acquire geometry capacity memory = (.ok slab, after) ∧
        slab.capacity = capacity ∧ slab.live = 0 ∧
          Granted σ memory.held slab.block ∧
            after.held = slab.block :: memory.held ∧
              after.journal = memory.journal) ∨
    (∃ size align after,
      acquire geometry capacity memory =
          (.error (.allocationFailed size align), after) ∧
        memory.Undisturbed after) := by
  rcases geometry.exists_slabLayout bounded with ⟨layout, made, size, align⟩
  unfold acquire
  rw [made]
  dsimp only
  cases acquired : memory.acquire layout with
  | mk base after =>
    cases base with
    | none =>
      exact Or.inr
        ⟨layout.size, layout.align, after, rfl,
          Memory.acquire_refused acquired⟩
    | some base =>
      rcases Memory.acquire_granted acquired with ⟨granted, held, journal⟩
      rw [size, align] at granted held
      exact Or.inl
        ⟨⟨base, capacity, 0⟩, after, rfl, rfl, rfl, granted, held, journal⟩

/-- The marks of a new slab are granted or refused. -/
theorem Vacancies.ofCapacity_cases
    (capacity : Nat)
    (memory : Memory σ) :
    (∃ after,
      ofCapacity capacity memory = (.ok (blank capacity), after) ∧
        memory.Undisturbed after) ∨
    (∃ size align after,
      ofCapacity capacity memory =
          (.error (.allocationFailed size align), after) ∧
        memory.Undisturbed after) := by
  unfold ofCapacity
  dsimp only
  split
  case isTrue nothing => exact Or.inl ⟨memory, rfl, .refl memory⟩
  case isFalse something =>
    rcases memory.exists_secure_eq .marks
        (Word.saturatingMul (Marks.wordsFor capacity) entryBytes) with
      ⟨granted, after, secured, undisturbed⟩
    rw [secured]
    cases granted with
    | true => exact Or.inl ⟨after, rfl, undisturbed⟩
    | false => exact Or.inr ⟨_, _, after, rfl, undisturbed⟩

/-- Room for one more vacancy is granted or refused. -/
theorem Vacancies.reserve_cases
    (vacancies : Vacancies)
    (fits : vacancies.size ≤ vacancies.room)
    (memory : Memory σ) :
    (∃ room after,
      vacancies.reserve memory = (.ok { vacancies with room }, after) ∧
        vacancies.size < room ∧ memory.Undisturbed after) ∨
    (∃ after,
      vacancies.reserve memory =
          (.error (.allocationFailed entryBytes entryBytes), after) ∧
        memory.Undisturbed after) := by
  unfold reserve
  dsimp only
  split
  case isTrue full =>
    rcases memory.exists_secure_eq .vacancies
        (entryBytes * extendedRoom vacancies.room) with
      ⟨granted, after, secured, undisturbed⟩
    rw [secured]
    cases granted with
    | true =>
      have larger := Nat.lt_of_le_of_lt fits (lt_extendedRoom vacancies.room)
      exact Or.inl ⟨_, after, rfl, larger, undisturbed⟩
    | false => exact Or.inr ⟨after, rfl, undisturbed⟩
  case isFalse roomy =>
    exact Or.inl
      ⟨vacancies.room, memory, rfl, Nat.lt_of_le_of_ne fits roomy,
        .refl memory⟩

end SlabPool
