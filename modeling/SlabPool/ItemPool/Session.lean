import SlabPool.ItemPool
import SlabPool.Pool.Session

/-!
# Sessions with a pool of items

As with a pool of slots, a session keeps the pool beside an arena and numbers
the addresses.  It also keeps account of which handles are *live*: their item
was moved in and not moved out, and the pool not cleared or destroyed since.

A caller promises to move out items of live handles only.  The session refuses
a removal that would break the promise, and lets through those that the pool
turns down by itself.  It discards every item that it gets.
-/

namespace SlabPool.ItemPool

/-- A command to a pool of items. -/
inductive Command (α : Type) where
  /-- Move these items in, up to the first failure. -/
  | insert (items : List α)
  | insertWith (initializer : Initializer α)
  | remove (pointers : List Pointer)
  | contains (pointers : List Pointer)
  | reserve (additional : Nat)
  | clear
  | destroy
  /-- From now on the arena refuses these requests and no others. -/
  | refuse (resources : List Resource)
  /-- Look at the items of these handles. -/
  | read (handles : List Nat)
  | activeItems
  | describe
  | summarize
  | blocks

/-- What became of a removal. -/
inductive Removal (α : Type) where
  /-- The item, with the counts after it left. -/
  | moved (item : α) (tally : Except Stop Pool.Tally)
  | stopped (stop : Stop)
  /-- The removal would have broken the promise. -/
  | refused

/-- The counts of a pool of items. -/
structure Summary where
  items : Nat
  slots : Nat
  slabs : Nat
  minimum : Nat
  deriving DecidableEq, Repr

/-- The reply to a command. -/
inductive Response (α : Type) where
  | done
  | stopped (stop : Stop)
  /-- The addresses of the items moved in, and what ended them early. -/
  | inserted (addresses : List Nat) (stop : Option Stop)
  /-- The address of the item filled in, and whether the caller was called. -/
  | initialized (answer : Except Stop Nat) (called : Bool)
  /-- What became of each pointer; nothing where its handle is unknown. -/
  | removed (removals : List (Option (Removal α)))
  /-- Whether each pointer is in use; nothing where its handle is unknown. -/
  | contained (answers : List (Option Bool))
  /-- The item of each handle; nothing where the handle is not live. -/
  | read (items : List (Option α))
  | items (items : List α)
  | described (description : Pool.Description)
  | summarized (summary : Summary)
  | blocks (blocks : List Block)

namespace Response

variable {α : Type}

/-- The reply of an operation that answers with nothing. -/
def ofAnswer : Except Stop Unit → Response α
  | .ok () => .done
  | .error stop => .stopped stop

/-- The reply of a look at the pool, which only a breach can spoil. -/
def ofLook
    {β : Type}
    (reply : β → Response α) :
    Except Breach β → Response α
  | .ok seen => reply seen
  | .error breach => .stopped (.breach breach)

end Response

variable {config : Config} {α : Type}

/-- The counts of the pool. -/
def summarize (pool : ItemPool config α) : Except Breach Summary :=
  match pool.slots.itemCount, pool.slots.shelf.slotCount with
  | .error breach, _ => .error breach
  | _, .error breach => .error breach
  | .ok items, .ok slots =>
    .ok ⟨items, slots, pool.slots.shelf.slabCount, config.minimum⟩

/-- A pool of items in a session. -/
structure Session (config : Config) (α : Type) where
  /-- The pool. -/
  pool : ItemPool config α
  /-- The arena that serves the pool. -/
  memory : Memory Arena
  /-- The addresses of the items moved in, by handle. -/
  addresses : Array Nat
  /-- Whether each handle is live. -/
  live : Array Bool

/-- An entry of a session. -/
structure Entry (α : Type) where
  response : Response α
  statistics : Except Breach Pool.Statistics
  discarded : List α
  events : List Event

/-- The last entry of a session. -/
structure LastEntry (α : Type) where
  answer : Except Stop Unit
  held : List Block
  discarded : List α
  events : List Event

namespace Session

/-- The session with a pool that was just set up. -/
def start (memory : Memory Arena) : Session config α :=
  ⟨idle, memory, #[], #[]⟩

variable (session : Session config α)

/-- Give the next handle to an address. -/
def enroll (address : Nat) : Session config α :=
  { session with
    addresses := session.addresses.push address
    live := session.live.push true }

/-- No handle is live any more. -/
def forget : Session config α :=
  { session with live := session.live.map fun _ => false }

/-- Whether the pointer is a live handle. -/
def isLive : Pointer → Bool
  | .handle number => session.live.getD number false
  | _ => false

/-- The handle is not live any more. -/
def retire : Pointer → Session config α
  | .handle number =>
    { session with live := session.live.setIfInBounds number false }
  | _ => session

/-- The item of a handle, if it is live. -/
def read? (number : Nat) : Option α :=
  if session.isLive (.handle number) then
    session.addresses[number]?.bind session.pool.read?
  else
    none

/--
Move items in, up to the first failure.  The addresses of the items before
these are `earlier`, the newest first.
-/
def insertEach :
    List α →
    List Nat →
    Session config α →
    List Nat × Option Stop × Session config α
  | [], earlier, session => (earlier.reverse, none, session)
  | item :: rest, earlier, session =>
    match session.pool.insert item session.memory with
    | ⟨.error stop, pool, memory⟩ =>
      (earlier.reverse, some stop, { session with pool, memory })
    | ⟨.ok address, pool, memory⟩ =>
      insertEach rest (address :: earlier)
        ({ session with pool, memory }.enroll address)

/-- Move out the item at an address, and discard it. -/
def removeAt
    (pointer : Pointer)
    (address : Nat) :
    Removal α × Session config α :=
  if session.isLive pointer || !session.pool.contains address then
    match session.pool.remove address session.memory with
    | ⟨.error stop, pool, memory⟩ =>
      (.stopped stop, { session with pool, memory })
    | ⟨.ok item, pool, memory⟩ =>
      let session := { session with pool := pool.discard item, memory }
      (.moved item pool.slots.tally, session.retire pointer)
  else
    (.refused, session)

/-- Move out what each pointer names. -/
def removeEach :
    List Pointer →
    Session config α →
    List (Option (Removal α)) × Session config α
  | [], session => ([], session)
  | pointer :: rest, session =>
    match pointer.resolve session.addresses with
    | none =>
      let (removals, session) := removeEach rest session
      (none :: removals, session)
    | some address =>
      let (removal, session) := session.removeAt pointer address
      let (removals, session) := removeEach rest session
      (some removal :: removals, session)

/-- Carry out one command. -/
def perform : Command α → Response α × Session config α
  | .insert items =>
    match insertEach items [] session with
    | (addresses, stop, session) => (.inserted addresses stop, session)
  | .insertWith initializer =>
    match session.pool.insertWith initializer session.memory with
    | (⟨.error stop, pool, memory⟩, called) =>
      (.initialized (.error stop) called, { session with pool, memory })
    | (⟨.ok address, pool, memory⟩, called) =>
      (.initialized (.ok address) called,
        { session with pool, memory }.enroll address)
  | .remove pointers =>
    match removeEach pointers session with
    | (removals, session) => (.removed removals, session)
  | .contains pointers =>
    let look := fun pointer : Pointer =>
      (pointer.resolve session.addresses).map session.pool.contains
    (.contained (pointers.map look), session)
  | .reserve additional =>
    match session.pool.reserve additional session.memory with
    | ⟨answer, pool, memory⟩ =>
      (.ofAnswer answer, { session with pool, memory })
  | .clear =>
    match session.pool.clear session.memory with
    | (pool, memory) => (.done, { session with pool, memory }.forget)
  | .destroy =>
    match session.pool.destroy session.memory with
    | (pool, memory) => (.done, { session with pool, memory }.forget)
  | .refuse resources =>
    (.done, { session with memory := session.memory.refusing resources })
  | .read handles => (.read (handles.map session.read?), session)
  | .activeItems => (.ofLook .items session.pool.activeItems, session)
  | .describe => (.ofLook .described session.pool.slots.describe, session)
  | .summarize => (.ofLook .summarized session.pool.summarize, session)
  | .blocks => (.blocks session.memory.blocks, session)

/-- The entry for a response. -/
def enter (response : Response α) : Entry α × Session config α :=
  let (events, memory) := session.memory.drain
  let discarded := session.pool.discarded.reverse
  let statistics := session.pool.slots.statistics
  let pool := { session.pool with discarded := [] }
  (⟨response, statistics, discarded, events⟩,
    { session with pool, memory })

/-- The entry for each command. -/
def run :
    List (Command α) →
    Session config α →
    List (Entry α) × Session config α
  | [], session => ([], session)
  | command :: rest, session =>
    let (response, session) := session.perform command
    let (entry, session) := session.enter response
    let (entries, session) := run rest session
    (entry :: entries, session)

/-- The entry for the disposal, while the caller is unwinding or not. -/
def close (unwinding : Bool) : LastEntry α :=
  let disposed := session.pool.dispose unwinding session.memory
  let (events, memory) := disposed.memory.drain
  let shown :=
    if unwinding then .error Pool.Session.unrelatedBreach else disposed.answer
  ⟨shown, memory.blocks, disposed.pool.discarded.reverse, events⟩

/-- All entries of a session: the set-up, each command, and the disposal. -/
def transcript
    (commands : List (Command α))
    (unwinding : Bool) :
    List (Entry α) × LastEntry α :=
  let (opening, session) := session.perform .describe
  let (first, session) := session.enter opening
  let (entries, session) := session.run commands
  (first :: entries, session.close unwinding)

end Session

end SlabPool.ItemPool
