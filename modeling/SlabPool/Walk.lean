import SlabPool.Slab

/-!
# Walks over slots in use

A walk visits the slots of a slab that are in use, from the lowest to the
highest.  It keeps two places that move together: the next index below the
high-water mark, and the vacancies that are not passed yet.

The vacancies are a sorted copy of those of the pool.  Storage for the copy is
not asked of the provider that the pool has its memory from, and a walk has no
answer for the case that there is none.
-/

namespace SlabPool

/-- A walk over the slots in use of a slab. -/
structure Walk (geometry : Geometry) where
  /-- The slab, if there is one to walk over. -/
  slab : Option (Slab geometry)
  /-- The vacancies not passed yet, in ascending order. -/
  vacant : List Nat
  /-- The next index to look at. -/
  next : Nat
  /-- The first index not to look at. -/
  finish : Nat
  deriving DecidableEq, Repr

namespace Walk

variable {geometry : Geometry}

/-- The walk from the lowest slot. -/
def start
    (slab : Option (Slab geometry))
    (vacant : List Nat) :
    Walk geometry :=
  ⟨slab, vacant, 0, (slab.map Slab.live).getD 0⟩

/-- Pass the vacancies that lie at the next index. -/
def passVacant (finish : Nat) : Nat → List Nat → Nat × List Nat
  | next, [] => (next, [])
  | next, vacancy :: rest =>
    if next < finish ∧ vacancy = next then
      passVacant finish (next + 1) rest
    else
      (next, vacancy :: rest)

variable (walk : Walk geometry)

/-- How many slots are left to visit. -/
def remaining : Nat :=
  walk.finish - walk.next - walk.vacant.length

/-- Bounds on how many slots are left to visit: from below, and from above. -/
def sizeHint : Nat × Option Nat :=
  (walk.remaining, some walk.remaining)

/-- The address of the next slot in use, with the walk from there on. -/
def step : Except Breach (Option Nat) × Walk geometry :=
  match walk.slab with
  | none => (.ok none, walk)
  | some slab =>
    let (next, vacant) := passVacant walk.finish walk.next walk.vacant
    if next < walk.finish then
      ((slab.slotAddress next).map some,
        { walk with next := next + 1, vacant })
    else
      (.ok none, { walk with next, vacant })

/-- The walk after `count` steps. -/
def after : Nat → Walk geometry → Walk geometry
  | 0, walk => walk
  | count + 1, walk => after count walk.step.2

/-- At most `count` addresses that the walk visits. -/
def visits : Nat → Walk geometry → Except Breach (List Nat)
  | 0, _ => .ok []
  | count + 1, walk =>
    match walk.step with
    | (.error breach, _) => .error breach
    | (.ok none, _) => .ok []
    | (.ok (some address), walk) =>
      match walk.visits count with
      | .error breach => .error breach
      | .ok addresses => .ok (address :: addresses)

/-- All addresses that the walk visits; each step passes at least one index. -/
def toList : Except Breach (List Nat) :=
  walk.visits (walk.finish - walk.next)

variable {β : Type}

/-- Show a visitor at most `count` addresses, each as the walk gets there. -/
def showUpTo
    (visitor : Nat → β → β) :
    Nat → Walk geometry → β → Except Breach Unit × β
  | 0, _, seen => (.ok (), seen)
  | count + 1, walk, seen =>
    match walk.step with
    | (.error breach, _) => (.error breach, seen)
    | (.ok none, _) => (.ok (), seen)
    | (.ok (some address), walk) =>
      walk.showUpTo visitor count (visitor address seen)

/-- Show a visitor all addresses that the walk visits. -/
def forEach
    (visitor : Nat → β → β)
    (seen : β) :
    Except Breach Unit × β :=
  walk.showUpTo visitor (walk.finish - walk.next) seen

end Walk

end SlabPool
