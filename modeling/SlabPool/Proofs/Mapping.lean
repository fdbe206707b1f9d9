import Mathlib.Data.Finmap
import SlabPool.ItemPool
import SlabPool.Proofs.Tenancy

/-!
# A pool of items is a finite map

A run of requests to a pool of items tells which item was moved in at which
address and not moved out since: these are its `bindings`.  `MapStep` says what
a plain finite map allows at each request.  The `imprint` of a run goes deeper:
it tells for every byte which item was last written over it.

`mapping_of_run` says that a pool whose clients abide by the rules is such a
map, that each item can be read at its address, and that all bytes of it are
still those that were written when it was moved in.
-/

namespace SlabPool

namespace ItemPool

variable {config : Config} {σ α : Type}

/-- Items by address. -/
abbrev Bindings (α : Type) : Type :=
  Finmap fun _ : Nat => α

theorem keys_insert
    (bindings : Bindings α)
    (address : Nat)
    (item : α) :
    (bindings.insert address item).keys =
      Insert.insert address bindings.keys := by
  ext other
  rw [Finmap.mem_keys, Finmap.mem_insert, Finset.mem_insert, Finmap.mem_keys]

/-- The item last written over each byte, and the place of the byte in it. -/
abbrev Imprint (α : Type) : Type :=
  Nat → Option (α × Nat)

/-- The imprint after an item of this size is written at the address. -/
def Imprint.write
    (imprint : Imprint α)
    (size address : Nat)
    (item : α) :
    Imprint α :=
  fun byte =>
    if address ≤ byte ∧ byte < address + size then
      some (item, byte - address)
    else
      imprint byte

namespace Imprint

variable (imprint : Imprint α) {size address : Nat} (item : α)

/-- Each byte of what was written is the one in its place. -/
theorem write_inside
    {offset : Nat}
    (inside : offset < size) :
    imprint.write size address item (address + offset) =
      some (item, offset) := by
  unfold write
  rw [if_pos (by omega), Nat.add_sub_cancel_left]

/-- A byte apart from what was written is as it was. -/
theorem write_apart
    {byte : Nat}
    (apart : byte < address ∨ address + size ≤ byte) :
    imprint.write size address item byte = imprint byte := by
  unfold write
  rw [if_neg (by omega)]

end Imprint

/-! ## Runs -/

/-- A request to a pool of items, or a change of the source of its memory. -/
inductive Request (σ α : Type) where
  | insert (item : α)
  | insertWith (initializer : Initializer α)
  | remove (address : Nat)
  | reserve (additional : Nat)
  | clear
  | destroy
  /-- From now on memory comes from this provider. -/
  | supply (provider : σ)

/-- The answer to a request. -/
inductive Answer (α : Type) where
  | done
  /-- The item is at this address. -/
  | placed (address : Nat)
  /-- The item was moved out. -/
  | moved (item : α)
  | stopped (stop : Stop)

/-- The answer of an operation that succeeds with something to show. -/
def Answer.of {β : Type} (shown : β → Answer α) : Except Stop β → Answer α
  | .ok success => shown success
  | .error stop => .stopped stop

/-- The items by address, told from those before, the request and the answer. -/
def Request.track
    (request : Request σ α)
    (answer : Answer α)
    (bindings : Bindings α) :
    Bindings α :=
  match request, answer with
  | .insert item, .placed address => bindings.insert address item
  | .insertWith initializer, .placed address =>
    bindings.insert address initializer.item
  | .remove address, .moved _ => bindings.erase address
  | .clear, _ => ∅
  | .destroy, _ => ∅
  | _, _ => bindings

/-- What the client wrote into the slots that it was given. -/
def Request.imprint
    (request : Request σ α)
    (answer : Answer α)
    (size : Nat)
    (imprint : Imprint α) :
    Imprint α :=
  match request, answer with
  | .insert item, .placed address => imprint.write size address item
  | .insertWith initializer, .placed address =>
    imprint.write size address initializer.item
  | _, _ => imprint

/-- A pool of items with its memory. -/
structure World (config : Config) (σ α : Type) where
  /-- The pool. -/
  pool : ItemPool config α
  /-- The memory it gets its slabs from. -/
  memory : Memory σ

/-- The world after an operation. -/
def World.ofOutcome
    {β : Type}
    (outcome : Outcome (ItemPool config α) σ β) :
    World config σ α :=
  ⟨outcome.pool, outcome.memory⟩

/--
The request moves out an item that is there, or names an address that the pool
turns down.
-/
def Request.Permitted
    (world : World config σ α)
    (bindings : Bindings α) :
    Request σ α → Prop
  | .remove address =>
    address ∈ bindings ∨ world.pool.contains address = false
  | _ => True

section Runs

variable [Provider σ]

/-- The answer to a request, with the world after it. -/
def World.perform
    (world : World config σ α) :
    Request σ α → Answer α × World config σ α
  | .insert item =>
    let outcome := world.pool.insert item world.memory
    (.of .placed outcome.answer, .ofOutcome outcome)
  | .insertWith initializer =>
    let outcome := (world.pool.insertWith initializer world.memory).1
    (.of .placed outcome.answer, .ofOutcome outcome)
  | .remove address =>
    let outcome := world.pool.remove address world.memory
    (.of .moved outcome.answer, .ofOutcome outcome)
  | .reserve additional =>
    let outcome := world.pool.reserve additional world.memory
    (.of (fun _ => .done) outcome.answer, .ofOutcome outcome)
  | .clear =>
    let (pool, memory) := world.pool.clear world.memory
    (.done, ⟨pool, memory⟩)
  | .destroy =>
    let (pool, memory) := world.pool.destroy world.memory
    (.done, ⟨pool, memory⟩)
  | .supply provider =>
    (.done, { world with memory := { world.memory with provider } })

/-- A request with the world it was made in. -/
structure Deal (config : Config) (σ α : Type) where
  /-- The world before the request. -/
  before : World config σ α
  /-- The request. -/
  request : Request σ α

namespace Deal

variable (deal : Deal config σ α)

/-- What was answered. -/
def answer : Answer α :=
  (deal.before.perform deal.request).1

/-- The world after the request. -/
def after : World config σ α :=
  (deal.before.perform deal.request).2

end Deal

/-- The deals since a pool was set up, the newest first, and the world they led to. -/
inductive Run : List (Deal config σ α) → World config σ α → Prop where
  /-- The pool was just set up. -/
  | start (provider : σ) : Run [] ⟨idle, Memory.fresh provider⟩
  /-- One more request was made. -/
  | next
      {deals : List (Deal config σ α)}
      {world : World config σ α}
      (run : Run deals world)
      (request : Request σ α) :
      Run (⟨world, request⟩ :: deals) (Deal.after ⟨world, request⟩)

/-- The world after these requests, the newest first. -/
def reached (provider : σ) : List (Request σ α) → World config σ α
  | [] => ⟨idle, Memory.fresh provider⟩
  | request :: earlier => Deal.after ⟨reached provider earlier, request⟩

/-- The deals of these requests, the newest first. -/
def history (provider : σ) : List (Request σ α) → List (Deal config σ α)
  | [] => []
  | request :: earlier =>
    ⟨reached provider earlier, request⟩ :: history provider earlier

/-- Any requests make a run. -/
theorem run_history
    (provider : σ)
    (requests : List (Request σ α)) :
    Run (history provider requests)
      (reached provider requests : World config σ α) := by
  induction requests with
  | nil => exact .start provider
  | cons request earlier ih => exact .next ih request

/--
The items that were moved in and not moved out since, without a clearing or a
destruction in between.
-/
def bindings : List (Deal config σ α) → Bindings α
  | [] => ∅
  | deal :: earlier => deal.request.track deal.answer (bindings earlier)

/-- What was last written over each byte. -/
def imprint : List (Deal config σ α) → Imprint α
  | [] => fun _ => none
  | deal :: earlier =>
    deal.request.imprint deal.answer config.geometry.item.size
      (imprint earlier)

/-- No request broke the rules. -/
def Abiding : List (Deal config σ α) → Prop
  | [] => True
  | deal :: earlier =>
    Abiding earlier ∧ deal.request.Permitted deal.before (bindings earlier)

end Runs

/-! ## The map -/

/-- What a plain finite map allows at a request, and the map that is left. -/
inductive MapStep
    (bindings : Bindings α) :
    Request σ α → Answer α → Bindings α → Prop where
  /-- The item is bound to an address that was not in the map. -/
  | inserted
      {item : α}
      {address : Nat}
      (fresh : address ∉ bindings) :
      MapStep bindings (.insert item) (.placed address)
        (bindings.insert address item)
  | insertFailed (item : α) (fault : Fault) :
      MapStep bindings (.insert item) (.stopped (.fault fault)) bindings
  /-- The item that the initializer wrote is bound. -/
  | filled
      {item : α}
      {address : Nat}
      (fresh : address ∉ bindings) :
      MapStep bindings (.insertWith (.writes item)) (.placed address)
        (bindings.insert address item)
  /-- The initializer gave up, and nothing is bound. -/
  | abandoned (item : α) (message : String) :
      MapStep bindings (.insertWith (.givesUp item message))
        (.stopped (.interrupted message)) bindings
  | fillFailed (initializer : Initializer α) (fault : Fault) :
      MapStep bindings (.insertWith initializer) (.stopped (.fault fault))
        bindings
  /-- The item that was bound is moved out, and its address unbound. -/
  | removed
      {item : α}
      {address : Nat}
      (bound : bindings.lookup address = some item) :
      MapStep bindings (.remove address) (.moved item)
        (bindings.erase address)
  | removalFailed (address : Nat) (fault : Fault) :
      MapStep bindings (.remove address) (.stopped (.fault fault)) bindings
  | reserved (additional : Nat) :
      MapStep bindings (.reserve additional) .done bindings
  | reservationFailed (additional : Nat) (fault : Fault) :
      MapStep bindings (.reserve additional) (.stopped (.fault fault))
        bindings
  | cleared : MapStep bindings .clear .done ∅
  | destroyed : MapStep bindings .destroy .done ∅
  | supplied (provider : σ) : MapStep bindings (.supply provider) .done bindings

/-! ## The pool mirrors the map -/

/-- Every item of the map is in the pool, whole, and there are no others. -/
structure World.Mirrors
    (world : World config σ α)
    (bindings : Bindings α)
    (imprint : Imprint α) :
    Prop where
  houses : world.pool.slots.Houses world.memory bindings.keys
  stored :
    ∀ {address item}, bindings.lookup address = some item →
      world.pool.read? address = some item
  imprinted :
    ∀ {address item}, bindings.lookup address = some item →
      ∀ offset < config.geometry.item.size,
        imprint (address + offset) = some (item, offset)

namespace World.Mirrors

variable {pool : ItemPool config α} {memory : Memory σ}
variable {bindings : Bindings α} {imprint : Imprint α}

/-- Where the same addresses are live, the items are where they were. -/
theorem withSlots
    (mirrors : (⟨pool, memory⟩ : World config σ α).Mirrors bindings imprint)
    {left : Pool config}
    {after : Memory σ}
    (houses : left.Houses after bindings.keys)
    (discarded : List α) :
    (⟨⟨left, pool.items, discarded⟩, after⟩ : World config σ α).Mirrors
      bindings imprint :=
  ⟨houses, mirrors.stored, mirrors.imprinted⟩

theorem empty
    {left : Pool config}
    {after : Memory σ}
    (houses : left.Houses after ∅) :
    (⟨{ pool with slots := left }, after⟩ : World config σ α).Mirrors ∅
      imprint :=
  ⟨houses, nofun, nofun⟩

/-- A new item is written over no byte of another. -/
theorem inserted
    (mirrors : (⟨pool, memory⟩ : World config σ α).Mirrors bindings imprint)
    {address : Nat}
    (fresh : address ∉ bindings)
    {left : Pool config}
    {after : Memory σ}
    (houses : left.Houses after (Insert.insert address bindings.keys))
    (item : α) :
    (⟨⟨left, pool.items.insert address item, pool.discarded⟩, after⟩ :
        World config σ α).Mirrors
      (bindings.insert address item)
      (imprint.write config.geometry.item.size address item) := by
  refine ⟨?_, ?_, ?_⟩
  · rw [keys_insert]
    exact houses
  · intro other held bound
    show (pool.items.insert address item)[other]? = some held
    rw [Std.HashMap.getElem?_insert]
    by_cases same : address = other
    · subst same
      rw [Finmap.lookup_insert] at bound
      rw [if_pos (beq_self_eq_true address)]
      exact bound
    · rw [Finmap.lookup_insert_of_ne _ (Ne.symm same)] at bound
      rw [if_neg (by simpa using same)]
      exact mirrors.stored bound
  · intro other held bound offset inside
    by_cases same : other = address
    · subst same
      rw [Finmap.lookup_insert] at bound
      cases bound
      exact imprint.write_inside item inside
    · -- The other item has a slot of its own, apart from the one written to.
      rw [Finmap.lookup_insert_of_ne _ same] at bound
      have member : other ∈ bindings.keys :=
        Finmap.mem_keys.2 (Finmap.mem_iff.2 ⟨held, bound⟩)
      have apart :=
        houses.coupled.slots_apart houses.balanced.sound
          (Finset.mem_insert_of_mem member) (Finset.mem_insert_self _ _) same
      have fits := config.geometry.item_le_stride
      rw [imprint.write_apart item (by omega)]
      exact mirrors.imprinted bound offset inside

theorem removed
    (mirrors : (⟨pool, memory⟩ : World config σ α).Mirrors bindings imprint)
    {address : Nat}
    {left : Pool config}
    {after : Memory σ}
    (houses : left.Houses after (bindings.keys.erase address)) :
    (⟨⟨left, pool.items.erase address, pool.discarded⟩, after⟩ :
        World config σ α).Mirrors
      (bindings.erase address) imprint := by
  have kept :
      ∀ {other held}, (bindings.erase address).lookup other = some held →
        other ≠ address ∧ bindings.lookup other = some held := by
    intro other held bound
    by_cases same : other = address
    · subst same
      rw [Finmap.lookup_erase] at bound
      cases bound
    · rw [Finmap.lookup_erase_ne same] at bound
      exact ⟨same, bound⟩
  refine ⟨?_, ?_, ?_⟩
  · rw [Finmap.keys_erase]
    exact houses
  · intro other held bound
    rcases kept bound with ⟨differs, bound⟩
    show (pool.items.erase address)[other]? = some held
    rw [Std.HashMap.getElem?_erase, if_neg (by simpa using Ne.symm differs)]
    exact mirrors.stored bound
  · intro other held bound
    exact mirrors.imprinted (kept bound).2

end World.Mirrors

variable [Provider σ] [SeparatingProvider σ]

/-- What a deal does to the map, the pool does as well. -/
theorem World.Mirrors.deal
    {world : World config σ α}
    {bindings : Bindings α}
    {imprint : Imprint α}
    (mirrors : world.Mirrors bindings imprint)
    {request : Request σ α}
    (permitted : request.Permitted world bindings) :
    ∃ answer after,
      world.perform request = (answer, after) ∧
        MapStep bindings request answer (request.track answer bindings) ∧
          after.Mirrors (request.track answer bindings)
            (request.imprint answer config.geometry.item.size imprint) := by
  rcases world with ⟨pool, memory⟩
  have houses := mirrors.houses
  cases request with
  | insert item =>
    unfold perform ItemPool.insert
    dsimp only
    rcases houses.allocate_cases with
      ⟨address, left, after, allocated, fresh, housed, -⟩ |
      ⟨fault, left, after, refused, housed⟩
    · rw [Finmap.mem_keys] at fresh
      rw [allocated]
      exact ⟨_, _, rfl, .inserted fresh, mirrors.inserted fresh housed item⟩
    · rw [refused]
      exact
        ⟨_, _, rfl, .insertFailed item fault, mirrors.withSlots housed _⟩
  | insertWith initializer =>
    unfold perform ItemPool.insertWith
    dsimp only
    rcases houses.allocate_cases with
      ⟨address, left, after, allocated, fresh, housed, freed, removed, again⟩ |
      ⟨fault, left, after, refused, housed⟩
    · rw [Finmap.mem_keys] at fresh
      rw [allocated]
      cases initializer with
      | writes item =>
        exact ⟨_, _, rfl, .filled fresh, mirrors.inserted fresh housed item⟩
      | givesUp item message =>
        -- Here the slot must come back without a request, or it were lost.
        dsimp only
        rw [removed]
        exact
          ⟨_, _, rfl, .abandoned item message, mirrors.withSlots again _⟩
    · rw [refused]
      exact
        ⟨_, _, rfl, .fillFailed initializer fault,
          mirrors.withSlots housed _⟩
  | remove address =>
    have allowed :
        address ∈ bindings.keys ∨ pool.slots.contains address = false := by
      rw [Finmap.mem_keys]
      exact permitted
    unfold perform ItemPool.remove
    dsimp only
    rcases houses.removeWith_cases allowed moveOut (pool.items, none) with
      ⟨left, after, removed, member, housed⟩ |
      ⟨fault, left, after, refused, housed⟩
    · rcases Finmap.mem_iff.1 (Finmap.mem_keys.1 member) with ⟨item, bound⟩
      have stored := mirrors.stored bound
      rw [read?] at stored
      rw [removed, moveOut, stored]
      exact ⟨_, _, rfl, .removed bound, mirrors.removed housed⟩
    · rw [refused]
      exact
        ⟨_, _, rfl, .removalFailed address fault, mirrors.withSlots housed _⟩
  | reserve additional =>
    unfold perform ItemPool.reserve
    dsimp only
    rcases houses.reserve_cases additional with
      ⟨left, after, reserved, housed⟩ |
      ⟨fault, left, after, refused, housed⟩
    · rw [reserved]
      exact
        ⟨_, _, rfl, .reserved additional, mirrors.withSlots housed _⟩
    · rw [refused]
      exact
        ⟨_, _, rfl, .reservationFailed additional fault,
          mirrors.withSlots housed _⟩
  | clear => exact ⟨_, _, rfl, .cleared, .empty houses.clear⟩
  | destroy => exact ⟨_, _, rfl, .destroyed, .empty houses.destroy⟩
  | supply provider =>
    have supplied :
        pool.slots.Houses { memory with provider } bindings.keys :=
      houses.withMemory rfl
    exact
      ⟨_, _, rfl, .supplied provider, mirrors.withSlots supplied _⟩

/-- The next deal of an abiding run is a step of the map. -/
theorem World.Mirrors.next
    {world : World config σ α}
    {deals : List (Deal config σ α)}
    (mirrors : world.Mirrors (bindings deals) (imprint deals))
    {request : Request σ α}
    (permitted : request.Permitted world (bindings deals)) :
    MapStep (bindings deals) request (Deal.answer ⟨world, request⟩)
        (bindings (⟨world, request⟩ :: deals)) ∧
      (Deal.after ⟨world, request⟩).Mirrors
        (bindings (⟨world, request⟩ :: deals))
        (imprint (⟨world, request⟩ :: deals)) := by
  rcases mirrors.deal permitted with ⟨answer, after, performed, step, later⟩
  rw [ItemPool.bindings, ItemPool.imprint, Deal.after, Deal.answer, performed]
  exact ⟨step, later⟩

theorem Run.mirrors
    {deals : List (Deal config σ α)}
    {world : World config σ α}
    (run : Run deals world)
    (abiding : Abiding deals) :
    world.Mirrors (bindings deals) (imprint deals) := by
  induction run with
  | start provider => exact ⟨Pool.houses_idle provider, nofun, nofun⟩
  | next run request ih => exact ((ih abiding.1).next abiding.2).2

/--
Throughout an abiding run the pool of items is the map of its bindings: each
request is answered as the map allows; each bound item can be read, lies inside
a held block, and has all its bytes as they were written; and the pool counts
the bindings.
-/
theorem mapping_of_run
    {deals : List (Deal config σ α)}
    {world : World config σ α}
    (run : Run deals world)
    (abiding : Abiding deals) :
    (∀ request, Abiding (⟨world, request⟩ :: deals) →
      MapStep (bindings deals) request (Deal.answer ⟨world, request⟩)
        (bindings (⟨world, request⟩ :: deals))) ∧
    (∀ address item, (bindings deals).lookup address = some item →
      world.pool.read? address = some item ∧
        (∀ offset < config.geometry.item.size,
          imprint deals (address + offset) = some (item, offset)) ∧
          ∃ block ∈ world.memory.held,
            block.base ≤ address ∧
              address + config.geometry.item.size ≤ block.finish) ∧
    world.pool.slots.itemCount = .ok (bindings deals).keys.card := by
  have mirrors := run.mirrors abiding
  have balanced := mirrors.houses.balanced
  have coupled := mirrors.houses.coupled
  refine ⟨fun request permitted => (mirrors.next permitted.2).1, ?_, ?_⟩
  · intro address item bound
    have member : address ∈ (bindings deals).keys :=
      Finmap.mem_keys.2 (Finmap.mem_iff.2 ⟨item, bound⟩)
    rcases coupled.inside_held balanced member with
      ⟨block, held, starts, ends⟩
    have fits := config.geometry.item_le_stride
    exact
      ⟨mirrors.stored bound, mirrors.imprinted bound, block, held, starts,
        by omega⟩
  · exact coupled.itemCount_eq balanced.sound

/-- Two items fill the first slab; the first slot of the second is used twice. -/
def Sample.givenUp : List (Request Arena Nat) :=
  [.insert 4, .insertWith (.givesUp 3 "no"), .insertWith (.writes 2),
    .insert 1]

theorem mapping_of_givenUp :
    let deals : List (Deal Sample.config Arena Nat) :=
      history Sample.arena Sample.givenUp
    let world : World Sample.config Arena Nat :=
      reached Sample.arena Sample.givenUp
    let next : Deal Sample.config Arena Nat :=
      ⟨world, .remove Arena.origin⟩
    world.pool.read? Arena.origin = some 1 ∧
      world.pool.slots.itemCount = .ok 3 ∧
        MapStep (bindings deals) next.request next.answer
          (bindings (next :: deals)) := by
  intro deals world next
  have run : Run deals world := run_history Sample.arena Sample.givenUp
  have abiding : Abiding deals :=
    ⟨⟨⟨⟨trivial, trivial⟩, trivial⟩, trivial⟩, trivial⟩
  have bound : (bindings deals).lookup Arena.origin = some 1 := by
    decide +kernel
  have count : (bindings deals).keys.card = 3 := by
    decide +kernel
  have mapping := mapping_of_run run abiding
  refine ⟨(mapping.2.1 Arena.origin 1 bound).1, ?_, ?_⟩
  · rw [mapping.2.2, count]
  · exact
      mapping.1 (.remove Arena.origin)
        ⟨abiding, Or.inl (Finmap.mem_iff.2 ⟨1, bound⟩)⟩

end ItemPool

end SlabPool
