import SlabPool.Event
import SlabPool.Layout

/-!
# Memory as a pool sees it

A pool gets memory from a *provider*.  It asks for blocks, which hold slots and
whose addresses matter, and for storage of its own bookkeeping, where only the
answer matters.  A provider may refuse any request; `LawfulProvider` says what
a pool may rely on when a block is granted.

For bookkeeping the provider stands for all that can refuse a list its growth:
also for the rule that no list spans more bytes than `Word.spanLimit`, by which
some requests fail before any memory is asked for.

`Memory` is a provider with the account of its dealings: the blocks that are
held, the ledger of all requests and returns, and the journal of log events.
Ledger and journal have the newest entry first.
-/

namespace SlabPool

/-- A range of addresses granted to a slab. -/
structure Block where
  /-- The first address. -/
  base : Nat
  /-- The number of bytes. -/
  size : Nat
  /-- The alignment that was asked for. -/
  align : Nat
  deriving DecidableEq, Repr

namespace Block

/-- The first address after the block. -/
def finish (block : Block) : Nat :=
  block.base + block.size

/-- The blocks share no address. -/
def Apart (left right : Block) : Prop :=
  left.finish ≤ right.base ∨ right.finish ≤ left.base

instance (left right : Block) : Decidable (Apart left right) :=
  inferInstanceAs (Decidable (_ ∨ _))

theorem Apart.symm
    {left right : Block}
    (apart : Apart left right) :
    Apart right left :=
  Or.symm apart

end Block

/-- What a pool asks memory for. -/
inductive Resource where
  /-- The block of a slab. -/
  | slots
  /-- Room for the list of retired slabs. -/
  | retirement
  /-- The marks of the vacancies of a slab. -/
  | marks
  /-- Room for the list of vacancies. -/
  | vacancies
  deriving DecidableEq, Repr

/-- The source of memory; `σ` holds all that its next answer depends on. -/
class Provider (σ : Type) where
  /-- The base of a new block beside the held ones, unless it is refused. -/
  place : σ → List Block → Layout → Option Nat × σ
  /-- Whether a list of bookkeeping entries may grow to this many bytes. -/
  grant : σ → Resource → Nat → Bool × σ

/--
What a pool relies on: a block that is granted is aligned, lies among the
addresses that are words, and is apart from all held blocks.
-/
class LawfulProvider (σ : Type) [Provider σ] : Prop where
  aligned :
    ∀ {provider : σ} {held : List Block} {layout : Layout} {base : Nat},
      (Provider.place provider held layout).1 = some base →
        base % layout.align = 0
  addressable :
    ∀ {provider : σ} {held : List Block} {layout : Layout} {base : Nat},
      (Provider.place provider held layout).1 = some base →
        base + layout.size ≤ Word.greatest
  apart :
    ∀ {provider : σ} {held : List Block} {layout : Layout} {base : Nat},
      (Provider.place provider held layout).1 = some base →
        ∀ block ∈ held,
          Block.Apart ⟨base, layout.size, layout.align⟩ block

/-- An entry of the ledger. -/
inductive Transaction where
  /-- A block was asked for, and granted at `base` if there is one. -/
  | block (size align : Nat) (base : Option Nat)
  /-- Bookkeeping storage was asked for. -/
  | storage (resource : Resource) (bytes : Nat) (granted : Bool)
  /-- A block was given back. -/
  | returned (block : Block)
  deriving DecidableEq, Repr

/-- A provider with the account of its dealings. -/
structure Memory (σ : Type) where
  /-- The provider as it is after all dealings. -/
  provider : σ
  /-- Blocks granted and not given back, the newest first. -/
  held : List Block
  /-- All requests and returns. -/
  ledger : List Transaction
  /-- All events. -/
  journal : List Event

namespace Memory

variable {σ : Type}

/-- Memory before any dealing. -/
def fresh (provider : σ) : Memory σ :=
  ⟨provider, [], [], []⟩

/-- Ask for a block of this layout. -/
def acquire
    [Provider σ]
    (memory : Memory σ)
    (layout : Layout) :
    Option Nat × Memory σ :=
  let (base, provider) :=
    Provider.place memory.provider memory.held layout
  let held :=
    match base with
    | none => memory.held
    | some address => ⟨address, layout.size, layout.align⟩ :: memory.held
  let entry := Transaction.block layout.size layout.align base
  (base, ⟨provider, held, entry :: memory.ledger, memory.journal⟩)

/-- Ask for bookkeeping storage. -/
def secure
    [Provider σ]
    (memory : Memory σ)
    (resource : Resource)
    (bytes : Nat) :
    Bool × Memory σ :=
  let (granted, provider) := Provider.grant memory.provider resource bytes
  let entry := Transaction.storage resource bytes granted
  (granted, { memory with provider, ledger := entry :: memory.ledger })

/-- Give a block back. -/
def giveBack
    (memory : Memory σ)
    (block : Block) :
    Memory σ :=
  { memory with
    held := memory.held.erase block
    ledger := .returned block :: memory.ledger }

/-- Tell the log. -/
def note
    (memory : Memory σ)
    (event : Event) :
    Memory σ :=
  { memory with journal := event :: memory.journal }

/-- The events of the journal, the oldest first; the journal is then empty. -/
def drain (memory : Memory σ) : List Event × Memory σ :=
  (memory.journal.reverse, { memory with journal := [] })

/-- The held blocks by address. -/
def blocks (memory : Memory σ) : List Block :=
  memory.held.mergeSort fun left right => decide (left.base ≤ right.base)

end Memory

/--
The room that a list of bookkeeping entries asks for when it is full: twice as
much, and at least four entries.
-/
def extendedRoom (room : Nat) : Nat :=
  max (2 * room) 4

theorem lt_extendedRoom (room : Nat) : room < extendedRoom room := by
  unfold extendedRoom
  omega

end SlabPool
