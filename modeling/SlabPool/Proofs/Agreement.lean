import Mathlib.Order.Bounds.Basic
import SlabPool.Arena
import SlabPool.Proofs.Occupancy
import SlabPool.Proofs.Provision
import SlabPool.Reply

/-!
# The list and the marks of vacancies agree

A record of vacancies can be worked on without a pool: indices are recorded in
any order, also some that are on record or beyond the marks, and the storage may
be refused.  `World.operate` carries out one operation, broken off or not, and a
`Run` tells from the operations and their replies which indices should be on
record.

Every operation keeps the list and the marks to that set (`Keeps.operate`).  So
each question is answered as a finite set would answer it: `agreement_of_run`.
-/

namespace SlabPool.Vacancies

/-! ## Records that hold a set -/

/-- The record is faithful and holds these indices. -/
structure Keeps
    (vacancies : Vacancies)
    (capacity : Nat)
    (indices : Finset Nat) :
    Prop where
  faithful : vacancies.Faithful capacity
  listed : vacancies.stack.toFinset = indices

theorem keeps_blank (capacity : Nat) : (blank capacity).Keeps capacity ∅ :=
  ⟨(settled_blank capacity).toFaithful, rfl⟩

namespace Keeps

variable {vacancies : Vacancies} {capacity index : Nat} {indices : Finset Nat}

theorem mem_stack_iff
    (keeps : vacancies.Keeps capacity indices) :
    index ∈ vacancies.stack ↔ index ∈ indices := by
  rw [← keeps.listed, List.mem_toFinset]

theorem contains_iff
    (keeps : vacancies.Keeps capacity indices) :
    vacancies.contains index = true ↔ index ∈ indices := by
  rw [keeps.faithful.contains_iff, keeps.mem_stack_iff]

theorem size_eq
    (keeps : vacancies.Keeps capacity indices) :
    vacancies.size = indices.card := by
  rw [← keeps.listed]
  exact (List.toFinset_card_of_nodup keeps.faithful.nodup).symm

/-- The indices that have a mark, used or not. -/
theorem lt_words_iff
    (keeps : vacancies.Keeps capacity indices) :
    index / 64 < vacancies.marks.words.size ↔
      index < 64 * Marks.wordsFor capacity := by
  rw [keeps.faithful.words, Nat.div_lt_iff_lt_mul (by decide), Nat.mul_comm]

theorem highest?_eq_none_iff
    (keeps : vacancies.Keeps capacity indices) :
    vacancies.highest? = none ↔ indices = ∅ := by
  rw [highest?, List.head?_eq_none_iff, ← keeps.listed,
    List.toFinset_eq_empty_iff]

/-- The list begins with the highest index. -/
theorem highest?_eq_some_iff
    (keeps : vacancies.Keeps capacity indices) :
    vacancies.highest? = some index ↔ IsGreatest (indices : Set Nat) index := by
  have descending := keeps.faithful.descending
  constructor
  · intro first
    rcases List.head?_eq_some_iff.1 first with ⟨rest, stacked⟩
    rw [stacked, List.pairwise_cons] at descending
    refine ⟨keeps.mem_stack_iff.1 (List.mem_of_mem_head? first), ?_⟩
    intro other member
    have listed := keeps.mem_stack_iff.2 (Finset.mem_coe.1 member)
    rw [stacked, List.mem_cons] at listed
    rcases listed with rfl | later
    · exact Nat.le_refl _
    · exact Nat.le_of_lt (descending.1 other later)
  · rintro ⟨member, above⟩
    have listed := keeps.mem_stack_iff.2 (Finset.mem_coe.1 member)
    cases stacked : vacancies.stack with
    | nil =>
      rw [stacked] at listed
      cases listed
    | cons top rest =>
      have highest : top ∈ indices := by
        rw [← keeps.mem_stack_iff, stacked]
        exact List.mem_cons_self
      rw [stacked] at listed descending
      rw [List.pairwise_cons] at descending
      have lower := above (Finset.mem_coe.2 highest)
      rw [highest?, stacked, List.head?_cons]
      rcases List.mem_cons.1 listed with rfl | later
      · rfl
      · have higher := descending.1 index later
        omega

/-- Listed the other way round, the indices ascend. -/
theorem ascending
    (keeps : vacancies.Keeps capacity indices) :
    vacancies.ascending.Pairwise (· < ·) ∧
      ∀ index, index ∈ vacancies.ascending ↔ index ∈ indices := by
  refine ⟨List.pairwise_reverse.2 keeps.faithful.descending, fun index => ?_⟩
  rw [Vacancies.ascending, List.mem_reverse, keeps.mem_stack_iff]

/-! ## Operations -/

theorem wiped
    (keeps : vacancies.Keeps capacity indices) :
    vacancies.wiped.Keeps capacity ∅ :=
  ⟨keeps.faithful.wiped.toFaithful, rfl⟩

theorem withRoom
    (keeps : vacancies.Keeps capacity indices)
    {room : Nat}
    (fits : vacancies.size ≤ room) :
    ({ vacancies with room } : Vacancies).Keeps capacity indices :=
  ⟨{ keeps.faithful with fits }, keeps.listed⟩

/-- The highest index is taken, if there is one. -/
theorem takeHighest_cases
    (keeps : vacancies.Keeps capacity indices) :
    (vacancies.highest? = none ∧
      vacancies.takeHighest = (.ok none, vacancies)) ∨
    (∃ top left,
      vacancies.highest? = some top ∧
        vacancies.takeHighest = (.ok (some top), left) ∧
          left.Keeps capacity (indices.erase top)) := by
  cases stacked : vacancies.stack with
  | nil =>
    refine Or.inl ⟨?_, ?_⟩
    · rw [highest?, stacked, List.head?_nil]
    · rw [takeHighest, stacked]
  | cons top rest =>
    rcases keeps.faithful.takeHighest_eq stacked with ⟨written, taken, faithful⟩
    refine Or.inr ⟨top, _, ?_, taken, faithful, ?_⟩
    · rw [highest?, stacked, List.head?_cons]
    · have nodup := keeps.faithful.nodup
      rw [stacked, List.nodup_cons] at nodup
      have fresh : top ∉ rest.toFinset :=
        fun member => nodup.1 (List.mem_toFinset.1 member)
      show rest.toFinset = indices.erase top
      rw [← keeps.listed, stacked, List.toFinset_cons,
        Finset.erase_insert fresh]

theorem record_of_mem
    (keeps : vacancies.Keeps capacity indices)
    (member : index ∈ indices) :
    vacancies.record index =
      (.error (.vacancyRecordedTwice index), vacancies) :=
  if_pos (keeps.contains_iff.2 member)

theorem record_of_beyond
    (keeps : vacancies.Keeps capacity indices)
    (fresh : index ∉ indices)
    (beyond : 64 * Marks.wordsFor capacity ≤ index) :
    vacancies.record index = (.error .vacancyBeyondMarks, vacancies) := by
  have unmarked : ¬ vacancies.contains index = true := by
    rwa [keeps.contains_iff]
  have wordless : ¬ index / 64 < vacancies.marks.words.size := by
    rw [keeps.lt_words_iff]
    exact Nat.not_lt_of_le beyond
  rw [record, if_neg unmarked, Marks.write?, dif_neg wordless]

theorem record_of_fresh
    (keeps : vacancies.Keeps capacity indices)
    (fresh : index ∉ indices)
    (inside : index < 64 * Marks.wordsFor capacity) :
    ∃ left,
      vacancies.record index = (.ok (), left) ∧
        left.Keeps capacity (insert index indices) := by
  have unlisted : index ∉ vacancies.stack := by
    rwa [keeps.mem_stack_iff]
  rcases keeps.faithful.record_eq unlisted (keeps.lt_words_iff.2 inside) with
    ⟨written, recorded, faithful⟩
  refine ⟨_, recorded, faithful, ?_⟩
  show (insertDescending index vacancies.stack).toFinset = insert index indices
  rw [List.toFinset_eq_of_perm _ _ (insertDescending_perm index _),
    List.toFinset_cons, keeps.listed]

end Keeps

/-! ## Runs of operations -/

/-- An operation on a record, or a change of the source of its memory. -/
inductive Operation (σ : Type) where
  /-- Make room for one more index. -/
  | reserve
  | record (index : Nat)
  | takeHighest
  | wipe
  /-- From now on memory comes from this provider. -/
  | supply (provider : σ)

/-- The indices on record, told from those before, the operation and the reply. -/
def Operation.track
    {σ : Type}
    (operation : Operation σ)
    (reply : Reply)
    (indices : Finset Nat) :
    Finset Nat :=
  match operation, reply with
  | .record index, .done => insert index indices
  | .takeHighest, .number (some index) => indices.erase index
  | .wipe, _ => ∅
  | _, _ => indices

/-- A record of vacancies with the memory it gets its storage from. -/
structure World (σ : Type) where
  /-- The record. -/
  vacancies : Vacancies
  /-- The memory. -/
  memory : Memory σ

variable {σ : Type} [Provider σ]

/-- The reply to an operation, with the world after it. -/
def World.operate
    (world : World σ) :
    Operation σ → Reply × World σ
  | .reserve =>
    match world.vacancies.reserve world.memory with
    | (.error fault, memory) => (.ofFault fault, { world with memory })
    | (.ok vacancies, memory) => (.done, ⟨vacancies, memory⟩)
  | .record index =>
    match world.vacancies.record index with
    | (.error breach, vacancies) =>
      (.ofBreach breach, { world with vacancies })
    | (.ok (), vacancies) => (.done, { world with vacancies })
  | .takeHighest =>
    match world.vacancies.takeHighest with
    | (.error breach, vacancies) =>
      (.ofBreach breach, { world with vacancies })
    | (.ok index, vacancies) => (.number index, { world with vacancies })
  | .wipe => (.done, { world with vacancies := world.vacancies.wiped })
  | .supply provider =>
    (.done, { world with memory := { world.memory with provider } })

/--
The indices that should be on record, and the world, after operations on the
record of a slab with this capacity.
-/
inductive Run (capacity : Nat) : Finset Nat → World σ → Prop where
  /-- The marks of the slab were just granted. -/
  | start
      {vacancies : Vacancies}
      {before after : Memory σ}
      (granted : ofCapacity capacity before = (.ok vacancies, after)) :
      Run capacity ∅ ⟨vacancies, after⟩
  /-- One more operation was carried out, or broken off. -/
  | next
      {indices : Finset Nat}
      {world : World σ}
      (run : Run capacity indices world)
      (operation : Operation σ) :
      Run capacity (operation.track (world.operate operation).1 indices)
        (world.operate operation).2

/-- The world after these operations, the first one first. -/
def World.run (world : World σ) : List (Operation σ) → World σ
  | [] => world
  | operation :: later => (world.operate operation).2.run later

/-- The indices that should be on record after these operations. -/
def World.tracked
    (world : World σ)
    (indices : Finset Nat) :
    List (Operation σ) → Finset Nat
  | [] => indices
  | operation :: later =>
    (world.operate operation).2.tracked
      (operation.track (world.operate operation).1 indices) later

/-- Any operations continue a run. -/
theorem Run.append
    {capacity : Nat}
    {indices : Finset Nat}
    {world : World σ}
    (run : Run capacity indices world)
    (operations : List (Operation σ)) :
    Run capacity (world.tracked indices operations) (world.run operations) := by
  induction operations generalizing indices world with
  | nil => exact run
  | cons operation later ih => exact ih (run.next operation)

/-- Every operation, broken off or not, keeps the record to its indices. -/
theorem Keeps.operate
    {capacity : Nat}
    {indices : Finset Nat}
    {world : World σ}
    (keeps : world.vacancies.Keeps capacity indices)
    (operation : Operation σ) :
    (world.operate operation).2.vacancies.Keeps capacity
      (operation.track (world.operate operation).1 indices) := by
  cases operation with
  | reserve =>
    dsimp only [World.operate]
    rcases world.vacancies.reserve_cases keeps.faithful.fits world.memory with
      ⟨room, after, reserved, larger, -⟩ | ⟨after, refused, -⟩
    · rw [reserved]
      exact keeps.withRoom (Nat.le_of_lt larger)
    · rw [refused]
      exact keeps
  | record index =>
    dsimp only [World.operate]
    by_cases member : index ∈ indices
    · rw [keeps.record_of_mem member]
      exact keeps
    · rcases Nat.lt_or_ge index (64 * Marks.wordsFor capacity) with
        inside | beyond
      · rcases keeps.record_of_fresh member inside with
          ⟨left, recorded, kept⟩
        rw [recorded]
        exact kept
      · rw [keeps.record_of_beyond member beyond]
        exact keeps
  | takeHighest =>
    dsimp only [World.operate]
    rcases keeps.takeHighest_cases with
      ⟨-, nothing⟩ | ⟨top, left, -, taken, kept⟩
    · rw [nothing]
      exact keeps
    · rw [taken]
      exact kept
  | wipe => exact keeps.wiped
  | supply provider => exact keeps

theorem Run.keeps
    {capacity : Nat}
    {indices : Finset Nat}
    {world : World σ}
    (run : Run capacity indices world) :
    world.vacancies.Keeps capacity indices := by
  induction run with
  | @start vacancies before after granted =>
    rcases ofCapacity_cases capacity before with
      ⟨_, made, -⟩ | ⟨_, _, _, refused, -⟩
    · cases made.symm.trans granted
      exact keeps_blank capacity
    · cases refused.symm.trans granted
  | next run operation ih => exact ih.operate operation

/-- An operation that is refused or breaks off leaves the record as it was. -/
theorem World.vacancies_of_stopped
    {capacity : Nat}
    {indices : Finset Nat}
    {world : World σ}
    (keeps : world.vacancies.Keeps capacity indices)
    {operation : Operation σ}
    {stop : Stop}
    (stopped : (world.operate operation).1 = .stopped stop) :
    (world.operate operation).2.vacancies = world.vacancies := by
  cases operation with
  | reserve =>
    dsimp only [World.operate] at stopped ⊢
    generalize world.vacancies.reserve world.memory = answer at stopped ⊢
    rcases answer with ⟨fault | left, after⟩
    · rfl
    · cases stopped
  | record index =>
    dsimp only [World.operate] at stopped ⊢
    by_cases member : index ∈ indices
    · rw [keeps.record_of_mem member]
    · rcases Nat.lt_or_ge index (64 * Marks.wordsFor capacity) with
        inside | beyond
      · rcases keeps.record_of_fresh member inside with ⟨left, recorded, -⟩
        rw [recorded] at stopped
        cases stopped
      · rw [keeps.record_of_beyond member beyond]
  | takeHighest =>
    -- An index that was taken off the list is gone, so this must not stop.
    dsimp only [World.operate] at stopped ⊢
    rcases keeps.takeHighest_cases with
      ⟨-, nothing⟩ | ⟨top, left, -, taken, -⟩
    · rw [nothing] at stopped
      cases stopped
    · rw [taken] at stopped
      cases stopped
  | wipe => cases stopped
  | supply provider => cases stopped

/--
After any operations on the record of a slab, refused and broken off ones
included, the list holds a set without repetition, which is that of the set
marks: they say of every index whether it is in the set, and there are as many.
The highest index of the set is known and is what is taken next, and the
set can be listed in ascending order.  An index can be recorded just if it is
not in the set and has a mark, as every slot of the slab has; whatever is
refused or breaks off changes nothing.
-/
theorem agreement_of_run
    {capacity : Nat}
    {indices : Finset Nat}
    {world : World σ}
    (run : Run capacity indices world) :
    let vacancies := world.vacancies
    (vacancies.stack.Nodup ∧ vacancies.stack.toFinset = indices) ∧
    (∀ index, vacancies.contains index = true ↔ index ∈ indices) ∧
    (vacancies.size = indices.card ∧ vacancies.marks.count = indices.card) ∧
    (vacancies.highest? = none ↔ indices = ∅) ∧
    (∀ index,
      vacancies.highest? = some index ↔
        IsGreatest (indices : Set Nat) index) ∧
    (∃ left,
      vacancies.takeHighest = (.ok vacancies.highest?, left) ∧
        ∀ index, left.contains index = true ↔
          index ∈ indices ∧ vacancies.highest? ≠ some index) ∧
    (vacancies.ascending.Pairwise (· < ·) ∧
      ∀ index, index ∈ vacancies.ascending ↔ index ∈ indices) ∧
    (∀ index ∈ indices,
      vacancies.record index =
        (.error (.vacancyRecordedTwice index), vacancies)) ∧
    (∀ index ∉ indices, 64 * Marks.wordsFor capacity ≤ index →
      vacancies.record index = (.error .vacancyBeyondMarks, vacancies)) ∧
    (∀ index ∉ indices,
      index < capacity ∨ index < 64 * Marks.wordsFor capacity →
        ∃ left,
          vacancies.record index = (.ok (), left) ∧
            ∀ other, left.contains other = true ↔
              other = index ∨ other ∈ indices) ∧
    (∀ operation stop,
      (world.operate operation).1 = .stopped stop →
        (world.operate operation).2.vacancies = vacancies) := by
  intro vacancies
  have keeps := run.keeps
  refine
    ⟨⟨keeps.faithful.nodup, keeps.listed⟩, fun index => keeps.contains_iff,
      ⟨keeps.size_eq, keeps.faithful.count_eq.trans keeps.size_eq⟩,
      keeps.highest?_eq_none_iff, fun index => keeps.highest?_eq_some_iff,
      ?_, keeps.ascending, fun index => keeps.record_of_mem,
      fun index => keeps.record_of_beyond, ?_,
      fun operation stop => World.vacancies_of_stopped keeps⟩
  · rcases keeps.takeHighest_cases with
      ⟨nothing, same⟩ | ⟨top, left, highest, taken, kept⟩
    · rw [nothing]
      refine ⟨vacancies, same, fun index => ?_⟩
      rw [keeps.contains_iff]
      exact ⟨fun member => ⟨member, nofun⟩, And.left⟩
    · rw [highest]
      refine ⟨left, taken, fun index => ?_⟩
      rw [kept.contains_iff, Finset.mem_erase, and_comm, ne_comm,
        ← (Option.some_injective Nat).ne_iff]
  · intro index fresh inside
    have marked : index < 64 * Marks.wordsFor capacity := by
      rw [Marks.wordsFor] at inside ⊢
      omega
    rcases keeps.record_of_fresh fresh marked with ⟨left, recorded, kept⟩
    refine ⟨left, recorded, fun other => ?_⟩
    rw [kept.contains_iff, Finset.mem_insert]

/--
Indices on both sides of the edge between two words; one is recorded twice, one
lies beyond the marks, and room for a fifth is refused but found after all.
-/
def Sample.wordEdge : List (Operation Arena) :=
  [.reserve, .record 63, .record 64, .takeHighest, .record 63, .record 128,
    .supply { length := 0, placement := .up, refused := [.vacancies] },
    .record 9, .record 2, .record 5, .reserve, .record 127]

/-- Memory without any room for slabs. -/
def Sample.bookkeeping : Memory Arena :=
  .fresh { length := 0, placement := .up }

/-- The blank record of a slab with 65 slots. -/
def Sample.blankWorld : World Arena :=
  ⟨blank 65, (ofCapacity 65 Sample.bookkeeping).2⟩

theorem agreement_of_wordEdge :
    let world := Sample.blankWorld.run Sample.wordEdge
    let indices := Sample.blankWorld.tracked ∅ Sample.wordEdge
    indices = {2, 5, 9, 63, 127} ∧
      world.vacancies.marks.count = 5 ∧
      world.vacancies.highest? = some 127 ∧
      world.vacancies.contains 64 = false ∧
      world.vacancies.record 63 =
        (.error (.vacancyRecordedTwice 63), world.vacancies) ∧
      world.vacancies.record 128 =
        (.error .vacancyBeyondMarks, world.vacancies) ∧
      ∃ left, world.vacancies.record 64 = (.ok (), left) := by
  intro world indices
  have granted :
      ofCapacity 65 Sample.bookkeeping =
        (.ok (blank 65), Sample.blankWorld.memory) :=
    rfl
  have start : Run 65 ∅ Sample.blankWorld := .start granted
  have run : Run 65 indices world := start.append Sample.wordEdge
  have members : indices = {2, 5, 9, 63, 127} := by decide +kernel
  have agreement := agreement_of_run run
  rw [members] at agreement
  rcases agreement with
    ⟨-, contains, ⟨-, count⟩, -, highest, -, -, twice, beyond, fresh, -⟩
  refine
    ⟨members, count, (highest 127).2 ?_, ?_, twice 63 (by decide),
      beyond 128 (by decide) (by decide), ?_⟩
  · exact ⟨by decide, fun other member => by simp at member; omega⟩
  · rw [← Bool.not_eq_true, contains]
    decide
  · rcases fresh 64 (by decide) (Or.inl (by decide)) with ⟨left, recorded, -⟩
    exact ⟨left, recorded⟩

end SlabPool.Vacancies
