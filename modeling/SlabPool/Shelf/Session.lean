import SlabPool.Arena
import SlabPool.Reply
import SlabPool.Shelf

/-!
# Commands to a shelf

A session with a shelf runs beside an arena, from which its slabs come.
-/

namespace SlabPool.Shelf

/-- A command to a shelf. -/
inductive Command where
  /-- Let a new slab with this capacity and live count serve allocations. -/
  | install (capacity live previousItems : Nat)
  | locate (addresses : List Nat)
  | removeRetiredItem (position : Nat)
  | decrementActive
  | releaseRetired
  | releaseAll
  deriving DecidableEq, Repr

/-- The reply to a command. -/
inductive Response where
  | plain (reply : Reply)
  | places (places : List (Option Place))
  deriving DecidableEq, Repr

variable {geometry : Geometry}

/-- Acquire a slab with some live count, make room for it, and activate it. -/
def install
    (shelf : Shelf geometry)
    (capacity live previousItems : Nat)
    (memory : Memory Arena) :
    Reply × Shelf geometry × Memory Arena :=
  match Slab.acquire geometry capacity memory with
  | (.error fault, memory) => (.ofFault fault, shelf, memory)
  | (.ok acquired, memory) =>
    match acquired.withLive live with
    | .error breach => (.ofBreach breach, shelf, acquired.release memory)
    | .ok slab =>
      match shelf.reserveRetirement memory with
      | (.error fault, memory) =>
        (.ofFault fault, shelf, slab.release memory)
      | (.ok shelf, memory) =>
        match shelf.activate slab previousItems memory with
        | (.error breach, shelf, memory) => (.ofBreach breach, shelf, memory)
        | (.ok (), shelf, memory) => (.done, shelf, memory)

/-- Carry out one command. -/
def perform
    (shelf : Shelf geometry)
    (memory : Memory Arena) :
    Command → Response × Shelf geometry × Memory Arena
  | .install capacity live previousItems =>
    match shelf.install capacity live previousItems memory with
    | (reply, shelf, memory) => (.plain reply, shelf, memory)
  | .locate addresses =>
    (.places (addresses.map shelf.locate), shelf, memory)
  | .removeRetiredItem position =>
    match shelf.removeRetiredItem position memory with
    | (.error breach, shelf, memory) =>
      (.plain (.ofBreach breach), shelf, memory)
    | (.ok emptied, shelf, memory) => (.plain (.flag emptied), shelf, memory)
  | .decrementActive =>
    match shelf.active with
    | none => (.plain (.flag false), shelf, memory)
    | some active =>
      match active.decrement with
      | .error breach => (.plain (.ofBreach breach), shelf, memory)
      | .ok active =>
        (.plain (.flag true), { shelf with active := some active }, memory)
  | .releaseRetired =>
    match shelf.releaseRetired memory with
    | (shelf, memory) => (.plain .done, shelf, memory)
  | .releaseAll =>
    match shelf.releaseAll memory with
    | (shelf, memory) => (.plain .done, shelf, memory)

/-- A response, with the shelf after it and the events on the way. -/
structure Entry (geometry : Geometry) where
  response : Response
  shelf : Shelf geometry
  events : List Event

/-- Each entry of a session, and the memory after the shelf was abandoned. -/
def session
    (shelf : Shelf geometry)
    (memory : Memory Arena) :
    List Command → List (Entry geometry) × Memory Arena
  | [] => ([], shelf.abandon memory)
  | command :: rest =>
    match shelf.perform memory command with
    | (response, shelf, memory) =>
      let (events, memory) := memory.drain
      let (entries, memory) := shelf.session memory rest
      (⟨response, shelf, events⟩ :: entries, memory)

end SlabPool.Shelf
