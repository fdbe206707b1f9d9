import SlabPool.Geometry

/-!
# Configuration of a pool

A pool is set up once: for items of some layout, with a least capacity for its
slabs, and with a rule for its disposal.  A `Plan` gathers these choices in any
order, the later of two for the same thing winning, and yields a `Config` once
the layout is known.
-/

namespace SlabPool

/-- Whether a pool may be disposed of while it has items. -/
inductive Disposal where
  /-- Items may be left; they are forgotten. -/
  | mayHoldItems
  /-- It breaks a rule to leave items. -/
  | mustBeEmpty
  deriving DecidableEq, Repr

/-- The word for a rule of disposal in records. -/
def Disposal.name : Disposal → String
  | .mayHoldItems => "MayDropItems"
  | .mustBeEmpty => "MustNotDropItems"

/-- All that is fixed when a pool is set up. -/
structure Config where
  /-- The slots of the pool. -/
  geometry : Geometry
  /-- The least capacity of a slab. -/
  minimum : Nat
  /-- Every slab has a slot. -/
  minimum_pos : 0 < minimum
  /-- The rule for its disposal. -/
  disposal : Disposal
  deriving DecidableEq, Repr

namespace Config

/-- A slab gets this many eighths of the capacity of the slab before it. -/
def growthEighths : Nat := 13

/-- The capacity to follow `current`, at least `minimum` and at most `limit`. -/
def nextCapacity (current minimum limit : Nat) : Nat :=
  min (max (Word.saturatingMul current growthEighths / 8) minimum) limit

variable (config : Config)

/-- The greatest capacity of a slab. -/
def limit : Nat :=
  config.geometry.limit

/-- The capacity of the first slab. -/
def firstCapacity : Nat :=
  min config.minimum config.limit

/-- The capacity to follow a slab of capacity `current`. -/
def capacityAfter (current : Nat) : Nat :=
  nextCapacity current config.minimum config.limit

end Config

/-- Choices made so far for a pool. -/
structure Plan where
  /-- The layout of the items, once known. -/
  item : Option Layout
  /-- The least capacity of a slab. -/
  minimum : Nat
  /-- Every slab has a slot. -/
  minimum_pos : 0 < minimum
  /-- The rule for its disposal. -/
  disposal : Disposal
  deriving DecidableEq, Repr

namespace Plan

/-- The least capacity of a slab unless one is chosen. -/
def defaultMinimum : Nat := 8

/-- The plan before any choice. -/
def initial : Plan :=
  ⟨none, defaultMinimum, by decide, .mayHoldItems⟩

variable (plan : Plan)

/-- Choose the layout of the items, which must take space. -/
def withItem (layout : Layout) : Except Breach Plan :=
  if 0 < layout.size then
    .ok { plan with item := some layout }
  else
    .error .sizelessPlan

/-- Choose the least capacity of a slab. -/
def withMinimum
    (minimum : Nat)
    (minimum_pos : 0 < minimum) :
    Plan :=
  { plan with minimum, minimum_pos }

/-- Choose the rule for the disposal. -/
def withDisposal (disposal : Disposal) : Plan :=
  { plan with disposal }

/-- The configuration, if the layout of the items is known. -/
def config : Except Breach Config :=
  match plan.item with
  | none => .error .layoutMissing
  | some layout =>
    match Geometry.of layout with
    | .error breach => .error breach
    | .ok geometry =>
      .ok ⟨geometry, plan.minimum, plan.minimum_pos, plan.disposal⟩

/-- The record of a plan for items of a named kind. -/
def record (itemName : String) : String :=
  "ChunkedPoolBuilder \x7b item_type: " ++ itemName ++
    ", minimum_capacity: " ++ toString plan.minimum ++
    ", drop_policy: " ++ plan.disposal.name ++ " \x7d"

end Plan

/-- How the record of a pool for items of a named kind begins. -/
def Config.recordHead (itemName : String) : String :=
  "ChunkedPool \x7b item_type: " ++ itemName ++ ", "

end SlabPool
