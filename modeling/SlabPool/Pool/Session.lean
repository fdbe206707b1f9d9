import SlabPool.Arena
import SlabPool.Pointer
import SlabPool.Pool.Allocation
import SlabPool.Pool.Lifecycle
import SlabPool.Pool.Removal
import SlabPool.Walk.Excursion

/-!
# Sessions with a pool of slots

A session keeps a pool beside an arena and numbers the addresses that the pool
hands out.  Each command yields an entry: the reply, the counts of the pool
after it, and the log events on the way.  At its end the pool is disposed of.
-/

namespace SlabPool.Pool

/-- A command to a pool of slots. -/
inductive Command where
  /-- Allocate so many slots, up to the first failure. -/
  | allocate (count : Nat)
  | remove (pointers : List Pointer)
  | contains (pointers : List Pointer)
  | reserve (additional : Nat)
  | clear
  | destroy
  /-- From now on the arena refuses these requests and no others. -/
  | refuse (resources : List Resource)
  | describe
  | blocks
  | slotsInUse
  | excursion (count : Nat)
  deriving DecidableEq, Repr

/-- The counts that are shown after each removal. -/
structure Tally where
  items : Nat
  retired : Nat
  highWater : Nat
  vacant : Nat
  deriving DecidableEq, Repr

/-- What was fixed when a pool was set up, and whether it has no items. -/
structure Description where
  item : Layout
  minimum : Nat
  isEmpty : Bool
  deriving DecidableEq, Repr

/-- The reply to a command. -/
inductive Response where
  | done
  | stopped (stop : Stop)
  /-- The addresses that were handed out, and what ended them early. -/
  | allocated (addresses : List Nat) (stop : Option Stop)
  /-- What became of each pointer; nothing where its handle is unknown. -/
  | removed (answers : List (Option (Except Stop Tally)))
  /-- Whether each pointer is in use; nothing where its handle is unknown. -/
  | contained (answers : List (Option Bool))
  | described (description : Description)
  | blocks (blocks : List Block)
  | slots (addresses : List Nat)
  | excursion (excursion : Walk.Excursion)

namespace Response

/-- The reply of an operation that answers with nothing. -/
def ofAnswer : Except Stop Unit → Response
  | .ok () => .done
  | .error stop => .stopped stop

/-- The reply of a look at the pool, which only a breach can spoil. -/
def ofLook
    {α : Type}
    (reply : α → Response) :
    Except Breach α → Response
  | .ok seen => reply seen
  | .error breach => .stopped (.breach breach)

end Response

variable {config : Config}

/-- The counts after a removal. -/
def tally (pool : Pool config) : Except Stop Tally :=
  match pool.itemCount with
  | .error breach => .error (.breach breach)
  | .ok items =>
    .ok {
      items
      retired := pool.shelf.retiredCount
      highWater := pool.highWater
      vacant := pool.vacancies.size }

/-- The description of the pool. -/
def describe (pool : Pool config) : Except Breach Description :=
  pool.isEmpty.map fun isEmpty =>
    ⟨config.geometry.item, config.minimum, isEmpty⟩

/-- A pool in a session. -/
structure Session (config : Config) where
  /-- The pool. -/
  pool : Pool config
  /-- The arena that serves the pool. -/
  memory : Memory Arena
  /-- The addresses handed out, by handle. -/
  addresses : Array Nat

/-- An entry of a session. -/
structure Entry where
  response : Response
  statistics : Except Breach Statistics
  events : List Event

/-- The last entry of a session. -/
structure LastEntry where
  answer : Except Stop Unit
  held : List Block
  events : List Event

namespace Session

/-- The session with a pool that was just set up. -/
def start (memory : Memory Arena) : Session config :=
  ⟨idle, memory, #[]⟩

/-- The session with a pool that was just set up for `capacity` slots. -/
def startWithCapacity
    (capacity : Nat)
    (memory : Memory Arena) :
    Except Stop (Session config) :=
  match (withCapacity capacity memory : Outcome (Pool config) Arena Unit) with
  | ⟨.error stop, _, _⟩ => .error stop
  | ⟨.ok (), pool, memory⟩ => .ok ⟨pool, memory, #[]⟩

/--
Allocate `count` slots, up to the first failure.  The addresses of the slots
before these are `earlier`, the newest first.
-/
def allocateUpTo :
    Nat →
    List Nat →
    Session config →
    List Nat × Option Stop × Session config
  | 0, earlier, session => (earlier.reverse, none, session)
  | count + 1, earlier, session =>
    match session.pool.allocate session.memory with
    | ⟨.error stop, pool, memory⟩ =>
      (earlier.reverse, some stop, { session with pool, memory })
    | ⟨.ok address, pool, memory⟩ =>
      allocateUpTo count (address :: earlier)
        ⟨pool, memory, session.addresses.push address⟩

/-- Give back what each pointer names, with the counts after each success. -/
def removeEach :
    List Pointer →
    Session config →
    List (Option (Except Stop Tally)) × Session config
  | [], session => ([], session)
  | pointer :: rest, session =>
    match pointer.resolve session.addresses with
    | none =>
      let (answers, session) := removeEach rest session
      (none :: answers, session)
    | some address =>
      let removed := session.pool.remove address session.memory
      let answer :=
        match removed.answer with
        | .error stop => .error stop
        | .ok () => removed.pool.tally
      let (answers, session) :=
        removeEach rest
          { session with pool := removed.pool, memory := removed.memory }
      (some answer :: answers, session)

variable (session : Session config)

/-- Carry out one command. -/
def perform : Command → Response × Session config
  | .allocate count =>
    match allocateUpTo count [] session with
    | (addresses, stop, session) => (.allocated addresses stop, session)
  | .remove pointers =>
    match removeEach pointers session with
    | (answers, session) => (.removed answers, session)
  | .contains pointers =>
    let look := fun pointer : Pointer =>
      (pointer.resolve session.addresses).map session.pool.contains
    (.contained (pointers.map look), session)
  | .reserve additional =>
    match session.pool.reserve additional session.memory with
    | ⟨answer, pool, memory⟩ =>
      (.ofAnswer answer, { session with pool, memory })
  | .clear =>
    match session.pool.clear session.memory with
    | (pool, memory) => (.done, { session with pool, memory })
  | .destroy =>
    match session.pool.destroy session.memory with
    | (pool, memory) => (.done, { session with pool, memory })
  | .refuse resources =>
    (.done, { session with memory := session.memory.refusing resources })
  | .describe => (.ofLook .described session.pool.describe, session)
  | .blocks => (.blocks session.memory.blocks, session)
  | .slotsInUse => (.ofLook .slots session.pool.walk.toList, session)
  | .excursion count =>
    (.ofLook .excursion (session.pool.walk.excursion count), session)

/-- The entry for a response. -/
def enter (response : Response) : Entry × Session config :=
  let (events, memory) := session.memory.drain
  (⟨response, session.pool.statistics, events⟩, { session with memory })

/-- The entry for each command. -/
def run : List Command → Session config → List Entry × Session config
  | [], session => ([], session)
  | command :: rest, session =>
    let (response, session) := session.perform command
    let (entry, session) := session.enter response
    let (entries, session) := run rest session
    (entry :: entries, session)

/-- What the caller gives up with when it unwinds. -/
def unrelatedBreach : Stop :=
  .interrupted "unrelated panic"

/-- The entry for the disposal, while the caller is unwinding or not. -/
def close (unwinding : Bool) : LastEntry :=
  let disposed := session.pool.dispose unwinding session.memory
  let (events, memory) := disposed.memory.drain
  let shown :=
    if unwinding then .error unrelatedBreach else disposed.answer
  ⟨shown, memory.blocks, events⟩

/-- All entries of a session: the set-up, each command, and the disposal. -/
def transcript
    (commands : List Command)
    (unwinding : Bool) :
    List Entry × LastEntry :=
  let (opening, session) := session.perform .describe
  let (first, session) := session.enter opening
  let (entries, session) := session.run commands
  (first :: entries, session.close unwinding)

end Session

end SlabPool.Pool
