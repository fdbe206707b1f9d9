import SlabPool.Proofs.Lifecycle
import SlabPool.Proofs.Requests

/-!
# The ledger of blocks

The ledger lists all blocks that were granted and all that were given back.
`Transaction.holdings` reads off which blocks are held, and refuses a ledger in
which a block is given back that is not held: one that was never granted, or
one that was given back before.

A memory is `Accounted` for by some blocks if they are the held ones and the
ledger says the same.  This module follows the account through all that slabs,
vacancies and shelves do with memory, whatever the provider answers: nothing is
asked of it here, and blocks that it grants may even coincide.
-/

namespace SlabPool

namespace Transaction

/-- The blocks held after the transaction; only a held one can be given back. -/
def post : Transaction → List Block → Option (List Block)
  | .block size align (some base), held => some (⟨base, size, align⟩ :: held)
  | .block _ _ none, held => some held
  | .storage .., held => some held
  | .returned spare, held =>
    if spare ∈ held then some (held.erase spare) else none

/-- The blocks held after these transactions, of which the newest is first. -/
def holdings : List Transaction → Option (List Block)
  | [] => some []
  | entry :: earlier => (holdings earlier).bind entry.post

end Transaction

namespace Memory

variable {σ : Type}

/-- Exactly these blocks are held, and the ledger accounts for each of them. -/
structure Accounted (memory : Memory σ) (blocks : List Block) : Prop where
  held : memory.held.Perm blocks
  ledger : Transaction.holdings memory.ledger = some memory.held

namespace Accounted

variable {memory : Memory σ} {blocks : List Block}

theorem fresh (provider : σ) : (fresh provider).Accounted [] :=
  ⟨.refl _, rfl⟩

theorem perm
    {others : List Block}
    (accounted : memory.Accounted blocks)
    (same : blocks.Perm others) :
    memory.Accounted others :=
  ⟨accounted.held.trans same, accounted.ledger⟩

theorem note
    (accounted : memory.Accounted blocks)
    (event : Event) :
    (memory.note event).Accounted blocks :=
  ⟨accounted.held, accounted.ledger⟩

/-- A block of the account can be given back, and leaves it. -/
theorem giveBack
    {block : Block}
    (accounted : memory.Accounted (block :: blocks)) :
    (memory.giveBack block).Accounted blocks where
  held := by
    have erased := accounted.held.erase block
    rwa [List.erase_cons_head] at erased
  ledger := by
    have member : block ∈ memory.held :=
      accounted.held.mem_iff.2 List.mem_cons_self
    show (Transaction.holdings memory.ledger).bind _ = _
    rw [accounted.ledger, Option.bind_some, Transaction.post, if_pos member]
    rfl

variable [Provider σ]

theorem secure
    (accounted : memory.Accounted blocks)
    (resource : Resource)
    (bytes : Nat) :
    (memory.secure resource bytes).2.Accounted blocks where
  held := accounted.held
  ledger := by
    show (Transaction.holdings memory.ledger).bind _ = _
    rw [accounted.ledger]
    rfl

theorem asked
    (accounted : memory.Accounted blocks)
    {resource : Resource}
    {after : Memory σ}
    (asked : memory.Asked resource after) :
    after.Accounted blocks := by
  cases asked with
  | spared => exact accounted
  | secured bytes => exact accounted.secure resource bytes

/-- A block that is granted joins the account. -/
theorem acquire
    (accounted : memory.Accounted blocks)
    (layout : Layout) :
    (memory.acquire layout).2.Accounted
      ((memory.acquire layout).1.toList.map
          (fun base => ⟨base, layout.size, layout.align⟩) ++ blocks) := by
  unfold Memory.acquire
  rcases Provider.place memory.provider memory.held layout with
    ⟨_ | base, provider⟩
  · refine ⟨accounted.held, ?_⟩
    show (Transaction.holdings memory.ledger).bind _ = _
    rw [accounted.ledger]
    rfl
  · refine ⟨accounted.held.cons _, ?_⟩
    show (Transaction.holdings memory.ledger).bind _ = _
    rw [accounted.ledger]
    rfl

end Accounted

end Memory

/-! ## Slabs and vacancies -/

section Parts

variable {geometry : Geometry} {σ : Type}
variable {memory : Memory σ} {blocks : List Block}

theorem Slab.accounted_release
    {slab : Slab geometry}
    (accounted : memory.Accounted (slab.block :: blocks)) :
    (slab.release memory).Accounted blocks :=
  accounted.giveBack

theorem Slab.eq_of_withLive
    {slab changed : Slab geometry}
    {live : Nat}
    (made : slab.withLive live = .ok changed) :
    changed = { slab with live } := by
  unfold withLive at made
  split at made <;> cases made
  rfl

theorem Slab.eq_of_decrement
    {slab lowered : Slab geometry}
    (made : slab.decrement = .ok lowered) :
    lowered = { slab with live := slab.live - 1 } := by
  unfold decrement at made
  split at made <;> cases made
  rfl

variable [Provider σ]

/-- The block of a new slab joins the account. -/
theorem Slab.Acquisition.accounted
    {capacity : Nat}
    {answer : Except Fault (Slab geometry)}
    {after : Memory σ}
    (acquisition : Acquisition geometry capacity memory answer after)
    (accounted : memory.Accounted blocks) :
    after.Accounted (answer.toOption.toList.map block ++ blocks) := by
  cases acquisition with
  | excessive fault => exact accounted
  | @refused layout after fault refused =>
    have left := accounted.acquire layout
    rw [refused] at left
    exact left
  | @granted layout base after size align granted =>
    have left := accounted.acquire layout
    rw [granted, size, align] at left
    exact left

end Parts

/-! ## Shelves -/

namespace Shelf

variable {geometry : Geometry} {σ : Type}
variable {memory : Memory σ} {blocks : List Block}
variable (shelf : Shelf geometry)

/-- With a new slab, the blocks are still those of the slabs on the shelf. -/
theorem accounted_activate
    {slab : Slab geometry}
    (previousItems : Nat)
    (accounted :
      memory.Accounted (slab.block :: shelf.slabs.map Slab.block)) :
    (shelf.activate slab previousItems memory).2.2.Accounted
      ((shelf.activate slab previousItems memory).2.1.slabs.map
        Slab.block) := by
  unfold activate
  cases serving : shelf.active with
  | none =>
    rw [slabs, serving] at accounted
    exact accounted.note _
  | some previous =>
    rw [slabs_of_active serving, List.map_cons] at accounted
    have swapped := accounted.perm (.swap _ _ _)
    dsimp only
    split
    case isTrue empty =>
      exact Slab.accounted_release ((swapped.note _).note _)
    case isFalse nonempty =>
      cases made : previous.withLive previousItems with
      | error breach =>
        -- The slab cannot retire, and is given back all the same.
        exact Slab.accounted_release (swapped.note _)
      | ok retiring =>
        obtain rfl := Slab.eq_of_withLive made
        refine Memory.Accounted.note ((accounted.note _).perm ?_) _
        have inserted :=
          List.perm_insertIdx { previous with live := previousItems }
            shelf.retired
            (shelf.leading_le fun slab => decide (slab.base < previous.base))
        exact (inserted.symm.map Slab.block).cons slab.block

/-- A retired slab is given back if, and only if, it leaves the shelf. -/
theorem accounted_removeRetiredItem
    (position : Nat)
    (accounted : memory.Accounted (shelf.slabs.map Slab.block)) :
    (shelf.removeRetiredItem position memory).2.2.Accounted
      ((shelf.removeRetiredItem position memory).2.1.slabs.map
        Slab.block) := by
  unfold removeRetiredItem
  cases found : shelf.retired[position]? with
  | none => exact accounted
  | some slab =>
    dsimp only
    cases made : slab.decrement with
    | error breach => exact accounted
    | ok lowered =>
      obtain rfl := Slab.eq_of_decrement made
      dsimp only
      split
      case isTrue several =>
        apply Memory.Accounted.note
        rw [slabs, List.map_append, Slab.map_block_set found,
          ← List.map_append]
        exact accounted
      case isFalse last =>
        have gone := (slabs_perm_eraseIdx found).map Slab.block
        exact Slab.accounted_release (((accounted.note _).note _).perm gone)

theorem accounted_releaseEach
    {slabs : List (Slab geometry)}
    (accounted : memory.Accounted (slabs.map Slab.block ++ blocks)) :
    (releaseEach slabs memory).Accounted blocks := by
  induction slabs generalizing memory with
  | nil => exact accounted
  | cons slab rest ih => exact ih (Slab.accounted_release accounted)

theorem accounted_releaseRetired
    (accounted : memory.Accounted (shelf.slabs.map Slab.block)) :
    (shelf.releaseRetired memory).2.Accounted
      (shelf.active.toList.map Slab.block) := by
  unfold releaseRetired
  dsimp only
  apply accounted_releaseEach
  rw [slabs, List.map_append] at accounted
  have swapped := accounted.perm List.perm_append_comm
  split
  case isTrue none => exact swapped
  case isFalse some => exact swapped.note _

theorem accounted_releaseAll
    (accounted : memory.Accounted (shelf.slabs.map Slab.block)) :
    (shelf.releaseAll memory).2.Accounted [] := by
  have left := shelf.accounted_releaseRetired accounted
  cases serving : shelf.active with
  | none =>
    rw [releaseAll_of_inactive serving]
    rwa [serving] at left
  | some active =>
    rw [releaseAll_of_active serving]
    rw [serving] at left
    exact Slab.accounted_release (left.note _)

theorem accounted_abandon
    (accounted : memory.Accounted (shelf.slabs.map Slab.block)) :
    (shelf.abandon memory).Accounted [] := by
  apply accounted_releaseEach
  rwa [List.append_nil]

end Shelf

end SlabPool
