/-!
# Faults and breaches

A `Fault` is an answer an operation may give to any caller: memory was refused,
too many items were asked for, or an address was not one to give back.  After a
fault the caller goes on with the pool as it was.

A `Breach` is a broken rule: of the pool's own bookkeeping, of the order in
which a pool is set up, or of the promise to be empty when disposed of.  It
stops the operation.  So does a caller's own code when it gives up in the
middle of one; `Stop` covers the three.

This module fixes their wording.  There, a slab is called a chunk.
-/

namespace SlabPool

/-- Answers other than success that a caller may act on. -/
inductive Fault where
  /-- Memory of this size and alignment was refused. -/
  | allocationFailed (size align : Nat)
  /-- More items were asked for than one slab can hold. -/
  | capacityOverflow (requested maximum : Nat)
  /-- No slot of the pool starts at the address. -/
  | notOwned (address : Nat)
  /-- The slot at the address is vacant. -/
  | doubleRemove (address : Nat)
  deriving DecidableEq, Repr

namespace Fault

/-- An address in messages: hexadecimal, in lower case, marked by `0x`. -/
def hexadecimal (address : Nat) : String :=
  "0x" ++ String.ofList (Nat.toDigits 16 address)

/-- The sentence shown to a user. -/
def message : Fault → String
  | .allocationFailed size align =>
      s!"memory allocation of {size} bytes (alignment {align}) failed"
  | .capacityOverflow requested maximum =>
      s!"capacity overflow: {requested} items requested but at most {maximum} fit in a chunk"
  | .notOwned address =>
      "pointer " ++ hexadecimal address ++ " is not owned by this pool"
  | .doubleRemove address =>
      "pointer " ++ hexadecimal address ++
        " refers to a slot that has already been removed"

/-- The name of the fault, as in its record. -/
def name : Fault → String
  | .allocationFailed .. => "AllocationFailed"
  | .capacityOverflow .. => "CapacityOverflow"
  | .notOwned .. => "NotOwned"
  | .doubleRemove .. => "DoubleRemove"

/-- The details of the fault by name, in the order of its record. -/
def details : Fault → List (String × Nat)
  | .allocationFailed size align => [("size", size), ("align", align)]
  | .capacityOverflow requested maximum =>
      [("requested", requested), ("maximum", maximum)]
  | .notOwned address => [("address", address)]
  | .doubleRemove address => [("address", address)]

/-- The record shown to a developer: the name and, in braces, every detail. -/
def record (fault : Fault) : String :=
  let shown := fault.details.map fun (label, amount) => s!"{label}: {amount}"
  fault.name ++ " \x7b " ++ ", ".intercalate shown ++ " \x7d"

end Fault

/-- Broken rules, each of which stops the operation that finds it. -/
inductive Breach where
  /-- Items of no size have no slots. -/
  | sizelessItem
  /-- A pool is planned for items of no size. -/
  | sizelessPlan
  /-- A pool is built before the layout of its items is known. -/
  | layoutMissing
  /-- A slot is asked for beyond the end of its slab. -/
  | slotOutOfBounds (index capacity : Nat)
  /-- A slot is asked of a slab that has handed out all of them. -/
  | bumpOfFull (capacity : Nat)
  /-- A count of live slots drops below zero. -/
  | liveBelowZero
  /-- A count of live slots exceeds the slab. -/
  | liveAboveCapacity (live capacity : Nat)
  /-- A vacancy is recorded that is on record. -/
  | vacancyRecordedTwice (index : Nat)
  /-- A vacancy lies beyond the marks kept for the active slab. -/
  | vacancyBeyondMarks
  /-- A vacancy is on record without an active slab. -/
  | vacancyWithoutActive
  /-- No active slab has room although one was just ensured. -/
  | roomMissing
  /-- A slot of the active slab is given back without an active slab. -/
  | activeMissing
  /-- A retired slab is named by a position that holds none. -/
  | retiredMissing
  /-- All slabs together have more slots than there are words. -/
  | slotsOverflow
  /-- All retired slabs together have more items than there are words. -/
  | retiredItemsOverflow
  /-- The pool has more items than there are words. -/
  | itemsOverflow
  /-- The audit counts more or fewer marks than recorded vacancies. -/
  | marksDisagree (marked recorded : Nat)
  /-- The audit finds a vacancy recorded twice. -/
  | vacancyRepeated (index : Nat)
  /-- The audit finds a vacancy at or above the slot below the mark. -/
  | vacancyAtTop (index highWater : Nat)
  /-- The audit finds retired slabs out of order. -/
  | retiredUnsorted
  /-- The audit finds retired slabs that share an address. -/
  | retiredOverlap
  /-- The audit finds a retired slab without items. -/
  | retiredEmpty
  /-- The audit finds the next capacity above the limit. -/
  | hintAboveLimit
  /-- A slot was given back without its item being handed over. -/
  | itemNotHandedOver
  /-- A pool that must be empty is disposed of with items in it. -/
  | disposedWithItems
  deriving DecidableEq, Repr

namespace Breach

/-- The sentence that the stopped operation leaves behind. -/
def message : Breach → String
  | .sizelessItem =>
      "ChunkLayout cannot be calculated for zero-sized item layout"
  | .sizelessPlan => "RawChunkedPool must have non-zero item size"
  | .layoutMissing =>
      "Layout must be set using .layout() or .layout_of::<T>() before calling .build()"
  | .slotOutOfBounds index capacity =>
      s!"slot {index} index out of bounds in chunk of capacity {capacity}"
  | .bumpOfFull capacity => s!"cannot bump a full chunk of capacity {capacity}"
  | .liveBelowZero =>
      "live count of a chunk cannot drop below zero - caller broke the bookkeeping"
  | .liveAboveCapacity live capacity =>
      s!"live count {live} exceeds chunk capacity {capacity}"
  | .vacancyRecordedTwice index => s!"vacancy {index} recorded twice"
  | .vacancyBeyondMarks =>
      "vacancy index is beyond the capacity of the active chunk"
  | .vacancyWithoutActive =>
      "vacancies can only be recorded while there is an active chunk"
  | .roomMissing => "we just ensured there is an active chunk with room"
  | .activeMissing =>
      "locate() only reports the active chunk if there is one"
  | .retiredMissing =>
      "caller obtained the position from locate() without mutating in between"
  | .slotsOverflow =>
      "chunks cannot hold more slots than there are bytes in virtual memory"
  | .retiredItemsOverflow =>
      "chunks cannot hold more items than there are bytes in virtual memory"
  | .itemsOverflow =>
      "the pool cannot hold more items than there are bytes in virtual memory"
  | .marksDisagree marked recorded =>
      "assertion `left == right` failed: vacancy bitmap disagrees with the vacancy heap\n" ++
        s!"  left: {marked}\n right: {recorded}"
  | .vacancyRepeated index => s!"vacancy Some({index}) recorded twice"
  | .vacancyAtTop index highWater =>
      s!"vacancy {index} is not below the slot at the top of the high-water mark {highWater}"
  | .retiredUnsorted => "retired chunks are not sorted by address"
  | .retiredOverlap => "retired chunks overlap"
  | .retiredEmpty => "empty retired chunk was not released"
  | .hintAboveLimit => "next capacity hint exceeds the maximum chunk capacity"
  | .itemNotHandedOver =>
      "the pool calls the release callback exactly once when removal succeeds"
  | .disposedWithItems =>
      "dropped a non-empty pool with a policy that says it must be empty when dropped"

end Breach

/-- Why an operation did not succeed. -/
inductive Stop where
  /-- The operation answers with a fault. -/
  | fault (cause : Fault)
  /-- The operation breaks off at a broken rule. -/
  | breach (cause : Breach)
  /-- Code of the caller gave up with this message inside the operation. -/
  | interrupted (message : String)
  deriving DecidableEq, Repr

namespace Stop

/-- The sentence that goes with the stop. -/
def message : Stop → String
  | .fault cause => cause.message
  | .breach cause => cause.message
  | .interrupted text => text

/-- What can only break off answers with no fault. -/
theorem mapError_breach_ne_fault
    {α : Type}
    (answer : Except Breach α)
    (fault : Fault) :
    answer.mapError Stop.breach ≠ .error (.fault fault) := by
  cases answer <;> exact nofun

end Stop

end SlabPool
