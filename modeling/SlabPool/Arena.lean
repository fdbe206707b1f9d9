import SlabPool.Memory

/-!
# The arena

An arena is a provider with one range of addresses.  Its placement rule names a
spot for each new block, and the request is refused if that spot is not free:
aligned, inside the arena, and apart from all held blocks.  Kinds of requests
can be refused altogether, and bookkeeping storage is refused above a fixed
number of bytes.

`Arena.lawful` says that an arena is a lawful provider.
-/

namespace SlabPool

/-- The rule that names the spot of a new block. -/
inductive Placement where
  /-- The lowest aligned address above all earlier blocks. -/
  | up
  /-- The highest aligned address below all earlier blocks. -/
  | down
  /-- The lowest free address among the start and the ends of held blocks. -/
  | firstFit
  /-- The listed distances from the start, one for each block in turn. -/
  | listed (offsets : List Int)
  deriving DecidableEq, Repr

/-- A provider with one range of addresses. -/
structure Arena where
  /-- The number of addresses. -/
  length : Nat
  /-- How blocks are placed. -/
  placement : Placement
  /-- How far the blocks placed so far reach into the arena. -/
  cursor : Nat := 0
  /-- Kinds of requests that are refused. -/
  refused : List Resource := []
  deriving DecidableEq, Repr

namespace Arena

/-- The first address of every arena. -/
def origin : Nat := 0x100000000000

/-- The number of addresses unless one is chosen. -/
def defaultLength : Nat := 0x4000000

/-- The most bytes of bookkeeping storage granted at once. -/
def storageLimit : Nat := 0x100000

/-- The first address after the arena. -/
def finish (arena : Arena) : Nat :=
  min (origin + arena.length) Word.greatest

/--
A block at this address is aligned, inside the arena, and apart from the held
ones.
-/
def Free
    (arena : Arena)
    (held : List Block)
    (layout : Layout)
    (base : Nat) :
    Prop :=
  base % layout.align = 0 ∧
    origin ≤ base ∧
      base + layout.size ≤ arena.finish ∧
        ∀ block ∈ held,
          Block.Apart ⟨base, layout.size, layout.align⟩ block

instance
    (arena : Arena)
    (held : List Block)
    (layout : Layout)
    (base : Nat) :
    Decidable (arena.Free held layout base) :=
  inferInstanceAs (Decidable (_ ∧ _ ∧ _ ∧ _))

/-- The spot that the placement rule names, if it names one. -/
def spot?
    (arena : Arena)
    (held : List Block)
    (layout : Layout) :
    Option Nat :=
  match arena.placement with
  | .up => some (roundUp (origin + arena.cursor) layout.align)
  | .down =>
      let reach := arena.cursor + layout.size
      if reach ≤ origin + arena.length then
        some (roundDown (origin + arena.length - reach) layout.align)
      else
        none
  | .firstFit =>
      (origin :: held.map Block.finish)
        |>.map (roundUp · layout.align)
        |>.filter (fun base => decide (arena.Free held layout base))
        |>.min?
  | .listed [] => none
  | .listed (offset :: _) =>
      let base := (origin : Int) + offset
      if 0 ≤ base then some base.toNat else none

/-- The arena after a request that its placement rule decided. -/
def advance
    (arena : Arena)
    (layout : Layout)
    (base : Option Nat) :
    Arena :=
  match arena.placement, base with
  | .up, some base => { arena with cursor := base + layout.size - origin }
  | .down, some base =>
      { arena with cursor := origin + arena.length - base }
  | .listed (_ :: offsets), _ => { arena with placement := .listed offsets }
  | _, _ => arena

/-- The base of a new block: the named spot, if it is free. -/
def place
    (arena : Arena)
    (held : List Block)
    (layout : Layout) :
    Option Nat × Arena :=
  if .slots ∈ arena.refused then
    (none, arena)
  else
    let base :=
      (arena.spot? held layout).filter
        (fun base => decide (arena.Free held layout base))
    (base, arena.advance layout base)

/-- Storage is granted up to the limit, unless its kind is refused. -/
def grants
    (arena : Arena)
    (resource : Resource)
    (bytes : Nat) :
    Bool :=
  decide (resource ∉ arena.refused ∧ bytes ≤ storageLimit)

instance : Provider Arena where
  place := place
  grant arena resource bytes := (arena.grants resource bytes, arena)

theorem free_of_place
    {arena : Arena}
    {held : List Block}
    {layout : Layout}
    {base : Nat}
    (placed : (arena.place held layout).1 = some base) :
    arena.Free held layout base := by
  unfold place at placed
  split at placed
  · cases placed
  · exact of_decide_eq_true (Option.filter_eq_some_iff.1 placed).2

instance lawful : LawfulProvider Arena where
  aligned placed := (free_of_place placed).1
  addressable placed :=
    Nat.le_trans (free_of_place placed).2.2.1 (Nat.min_le_right _ _)
  apart placed := (free_of_place placed).2.2.2

end Arena

/-- Memory whose arena refuses these kinds of requests and no others. -/
def Memory.refusing
    (memory : Memory Arena)
    (resources : List Resource) :
    Memory Arena :=
  { memory with
    provider := { memory.provider with refused := resources } }

end SlabPool
