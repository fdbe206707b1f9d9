import SlabPool.Proofs.Run

/-!
# What a pool does does not depend on the past

Ledger and journal are accounts that nobody reads: no operation of a pool looks
at them.  `Memory.since` puts older entries below those of a memory; every
operation gives the same answer there, leaves the same pool, and adds the same
entries.

A `Report` is all that can be seen of a request: the reply, the counts of the
pool afterwards, the dealings with the provider and the events in the log.
`World.reports_since` says that the reports of any requests do not depend on
the past.
-/

namespace SlabPool

variable {σ : Type}

namespace Memory

/-- The memory, with the entries of `past` below its own. -/
def since (memory past : Memory σ) : Memory σ :=
  { memory with
    ledger := memory.ledger ++ past.ledger
    journal := memory.journal ++ past.journal }

/-- A memory in which nothing is held is a new one since its own past. -/
theorem fresh_since
    {memory : Memory σ}
    (nothing : memory.held = []) :
    (fresh memory.provider).since memory = memory := by
  rcases memory with ⟨provider, held, ledger, journal⟩
  subst nothing
  rfl

/-- The dealings with the provider meanwhile, the newest first. -/
def dealingsTo (before after : Memory σ) : List Transaction :=
  after.ledger.take (after.ledger.length - before.ledger.length)

theorem dealingsTo_eq
    {before after : Memory σ}
    {entries : List Transaction}
    (ledger : after.ledger = entries ++ before.ledger) :
    before.dealingsTo after = entries := by
  rw [dealingsTo, ledger, List.length_append, Nat.add_sub_cancel]
  exact List.take_left

/-- Entries below both of two lists are not among the newest of one. -/
theorem take_append_append
    {α : Type}
    (before after past : List α) :
    (after ++ past).take ((after ++ past).length - (before ++ past).length) =
      after.take (after.length - before.length) := by
  rw [List.length_append, List.length_append, Nat.add_sub_add_right,
    List.take_append_of_le_length (Nat.sub_le _ _)]

theorem dealingsTo_since (before after past : Memory σ) :
    (before.since past).dealingsTo (after.since past) =
      before.dealingsTo after :=
  take_append_append before.ledger after.ledger past.ledger

theorem newsTo_since (before after past : Memory σ) :
    (before.since past).newsTo (after.since past) = before.newsTo after :=
  take_append_append before.journal after.journal past.journal

theorem note_since
    (memory past : Memory σ)
    (event : Event) :
    (memory.since past).note event = (memory.note event).since past :=
  rfl

theorem acquire_since
    [Provider σ]
    (memory past : Memory σ)
    (layout : Layout) :
    (memory.since past).acquire layout =
      (memory.acquire layout).map id (·.since past) :=
  rfl

theorem secure_since
    [Provider σ]
    (memory past : Memory σ)
    (resource : Resource)
    (bytes : Nat) :
    (memory.since past).secure resource bytes =
      (memory.secure resource bytes).map id (·.since past) :=
  rfl

end Memory

/-- The outcome, with the entries of `past` below those of its memory. -/
def Outcome.since
    {state answer : Type}
    (outcome : Outcome state σ answer)
    (past : Memory σ) :
    Outcome state σ answer :=
  { outcome with memory := outcome.memory.since past }

/-! ## Slabs and vacancies -/

section Parts

variable {geometry : Geometry}

theorem Slab.acquire_since
    [Provider σ]
    (capacity : Nat)
    (memory past : Memory σ) :
    acquire geometry capacity (memory.since past) =
      (acquire geometry capacity memory).map id (·.since past) := by
  unfold acquire
  cases geometry.slabLayout capacity with
  | error fault => rfl
  | ok layout =>
    dsimp only
    rw [memory.acquire_since]
    rcases memory.acquire layout with ⟨base | base, after⟩ <;> rfl

theorem Vacancies.ofCapacity_since
    [Provider σ]
    (capacity : Nat)
    (memory past : Memory σ) :
    ofCapacity capacity (memory.since past) =
      (ofCapacity capacity memory).map id (·.since past) := by
  unfold ofCapacity
  dsimp only
  split
  case isTrue nothing => rfl
  case isFalse something =>
    rw [memory.secure_since]
    rcases memory.secure .marks _ with ⟨granted | granted, after⟩ <;> rfl

theorem Slab.furnish_since
    [Provider σ]
    (capacity : Nat)
    (memory past : Memory σ) :
    furnish geometry capacity (memory.since past) =
      (furnish geometry capacity memory).map id (·.since past) := by
  unfold furnish
  rw [acquire_since]
  rcases acquire geometry capacity memory with ⟨fault | slab, placed⟩
  · rfl
  · dsimp only [Prod.map_apply, id_eq]
    rw [Vacancies.ofCapacity_since]
    rcases Vacancies.ofCapacity capacity placed with
      ⟨fault | vacancies, marked⟩ <;> rfl

theorem Vacancies.reserve_since
    [Provider σ]
    (vacancies : Vacancies)
    (memory past : Memory σ) :
    vacancies.reserve (memory.since past) =
      (vacancies.reserve memory).map id (·.since past) := by
  unfold reserve
  dsimp only
  split
  case isTrue full =>
    rw [memory.secure_since]
    rcases memory.secure .vacancies _ with ⟨granted | granted, after⟩ <;> rfl
  case isFalse roomy => rfl

end Parts

/-! ## Shelves -/

namespace Shelf

variable {geometry : Geometry} (shelf : Shelf geometry)

theorem reserveRetirement_since
    [Provider σ]
    (memory past : Memory σ) :
    shelf.reserveRetirement (memory.since past) =
      (shelf.reserveRetirement memory).map id (·.since past) := by
  unfold reserveRetirement
  dsimp only
  split
  case isTrue full =>
    rw [memory.secure_since]
    rcases memory.secure .retirement _ with ⟨granted | granted, after⟩ <;> rfl
  case isFalse roomy => rfl

theorem activate_since
    (slab : Slab geometry)
    (previousItems : Nat)
    (memory past : Memory σ) :
    shelf.activate slab previousItems (memory.since past) =
      (shelf.activate slab previousItems memory).map id
        (Prod.map id (·.since past)) := by
  unfold activate
  cases shelf.active with
  | none => rfl
  | some previous =>
    dsimp only
    split
    case isTrue empty => rfl
    case isFalse nonempty => cases previous.withLive previousItems <;> rfl

theorem removeRetiredItem_since
    (position : Nat)
    (memory past : Memory σ) :
    shelf.removeRetiredItem position (memory.since past) =
      (shelf.removeRetiredItem position memory).map id
        (Prod.map id (·.since past)) := by
  unfold removeRetiredItem
  cases shelf.retired[position]? with
  | none => rfl
  | some slab =>
    dsimp only
    cases slab.decrement with
    | error breach => rfl
    | ok slab =>
      dsimp only
      split <;> rfl

theorem releaseEach_since
    (slabs : List (Slab geometry))
    (memory past : Memory σ) :
    releaseEach slabs (memory.since past) =
      (releaseEach slabs memory).since past := by
  induction slabs generalizing memory with
  | nil => rfl
  | cons slab rest ih => exact ih (slab.release memory)

theorem releaseRetired_since (memory past : Memory σ) :
    shelf.releaseRetired (memory.since past) =
      (shelf.releaseRetired memory).map id (·.since past) := by
  unfold releaseRetired
  dsimp only
  split
  case isTrue none =>
    rw [releaseEach_since]
    rfl
  case isFalse some =>
    rw [memory.note_since, releaseEach_since]
    rfl

theorem releaseAll_since (memory past : Memory σ) :
    shelf.releaseAll (memory.since past) =
      (shelf.releaseAll memory).map id (·.since past) := by
  unfold releaseAll
  rw [releaseRetired_since]
  rcases shelf.releaseRetired memory with ⟨left, after⟩
  dsimp only [Prod.map_apply, id_eq]
  cases left.active <;> rfl

end Shelf

/-! ## Pools -/

namespace Pool

variable {config : Config} (pool : Pool config)

theorem install_since
    (slab : Slab config.geometry)
    (vacancies : Vacancies)
    (memory past : Memory σ) :
    pool.install slab vacancies (memory.since past) =
      (pool.install slab vacancies memory).since past := by
  unfold install
  rw [Shelf.activate_since]
  rcases pool.shelf.activate slab pool.activeItems memory with
    ⟨breach | done, shelf, after⟩
  · rfl
  · dsimp only [Prod.map_apply, id_eq]
    split <;> rfl

theorem clear_since (memory past : Memory σ) :
    pool.clear (memory.since past) =
      (pool.clear memory).map id (·.since past) := by
  unfold clear
  rw [Shelf.releaseRetired_since]
  rfl

theorem destroy_since (memory past : Memory σ) :
    pool.destroy (memory.since past) =
      (pool.destroy memory).map id (·.since past) := by
  unfold destroy
  dsimp only
  split
  case isTrue none => rfl
  case isFalse some =>
    rw [memory.note_since, Shelf.releaseAll_since]
    rfl

/-- Disposal gives the same answer, whatever happened before. -/
theorem dispose_since
    (unwinding : Bool)
    (memory past : Memory σ) :
    pool.dispose unwinding (memory.since past) =
      (pool.dispose unwinding memory).since past := by
  unfold dispose
  cases pool.isEmpty with
  | error breach =>
    dsimp only
    rw [Shelf.abandon, Shelf.releaseEach_since]
    rfl
  | ok wasEmpty =>
    dsimp only
    rw [destroy_since]
    split <;> rfl

variable [Provider σ]

theorem prepare_since
    (capacity : Nat)
    (memory past : Memory σ) :
    pool.prepare capacity (memory.since past) =
      (pool.prepare capacity memory).map id (Prod.map id (·.since past)) := by
  unfold prepare
  rw [Shelf.reserveRetirement_since]
  rcases pool.shelf.reserveRetirement memory with ⟨fault | shelf, roomy⟩
  · rfl
  · dsimp only [Prod.map_apply, id_eq]
    rw [Slab.furnish_since]
    rfl

theorem grow_since
    (required : Nat)
    (memory past : Memory σ) :
    pool.grow required (memory.since past) =
      (pool.grow required memory).since past := by
  unfold grow
  split
  case isTrue beyond => rfl
  case isFalse within =>
    rw [prepare_since]
    rcases pool.prepare (pool.grownCapacity required) memory with
      ⟨fault | ⟨slab, vacancies⟩, shelf, after⟩
    · rfl
    · exact install_since _ slab vacancies after past

theorem reserve_since
    (additional : Nat)
    (memory past : Memory σ) :
    pool.reserve additional (memory.since past) =
      (pool.reserve additional memory).since past := by
  unfold reserve
  split
  case isTrue enough => rfl
  case isFalse short => exact pool.grow_since additional memory past

omit [Provider σ] in
theorem refill_since
    (index : Nat)
    (memory past : Memory σ) :
    pool.refill index (memory.since past) =
      (pool.refill index memory).since past := by
  unfold refill
  cases pool.shelf.active <;> rfl

omit [Provider σ] in
theorem extend_since (memory past : Memory σ) :
    pool.extend (memory.since past) = (pool.extend memory).since past := by
  unfold extend
  cases pool.shelf.active with
  | none => rfl
  | some active =>
    dsimp only
    rcases active.bump with breach | ⟨index, active⟩ <;> rfl

theorem allocate_since (memory past : Memory σ) :
    pool.allocate (memory.since past) = (pool.allocate memory).since past := by
  unfold allocate
  rcases pool.vacancies.takeHighest with ⟨breach | _ | index, vacancies⟩
  · rfl
  · dsimp only
    split
    case isTrue exhausted =>
      rw [grow_since]
      rcases pool.grow 1 memory with ⟨stop | done, grown, after⟩
      · rfl
      · exact extend_since grown after past
    case isFalse room => exact pool.extend_since memory past
  · exact refill_since _ index memory past

theorem removeActive_since
    {β : Type}
    (active : Slab config.geometry)
    (index address : Nat)
    (act : Nat → β → β)
    (world : β)
    (memory past : Memory σ) :
    pool.removeActive active index address act world (memory.since past) =
      (pool.removeActive active index address act world memory).map
        (·.since past) id := by
  unfold removeActive
  split
  case isTrue free => rfl
  case isFalse occupied =>
    split
    case isTrue top => rfl
    case isFalse notTop =>
      rw [Vacancies.reserve_since]
      rcases pool.vacancies.reserve memory with
        ⟨fault | vacancies, after⟩ <;> rfl

theorem removeWith_since
    {β : Type}
    (address : Nat)
    (act : Nat → β → β)
    (world : β)
    (memory past : Memory σ) :
    pool.removeWith address act world (memory.since past) =
      (pool.removeWith address act world memory).map (·.since past) id := by
  unfold removeWith
  rcases pool.shelf.locate address with _ | index | position
  · rfl
  · cases pool.shelf.active with
    | none => rfl
    | some active =>
      exact
        pool.removeActive_since active index address act world memory past
  · dsimp only
    rw [Shelf.removeRetiredItem_since]
    rcases pool.shelf.removeRetiredItem position memory with
      ⟨breach | gone, shelf, after⟩ <;> rfl

theorem remove_since
    (address : Nat)
    (memory past : Memory σ) :
    pool.remove address (memory.since past) =
      (pool.remove address memory).since past :=
  congrArg Prod.fst (pool.removeWith_since address _ () memory past)

/-! ## Requests -/

/-- The world, with the entries of `past` below those of its memory. -/
def World.since
    (world : World config σ)
    (past : Memory σ) :
    World config σ :=
  { world with memory := world.memory.since past }

/-- A request is replied to as if there were no past. -/
theorem World.perform_since
    (world : World config σ)
    (past : Memory σ)
    (request : Request σ) :
    (world.since past).perform request =
      (world.perform request).map id (·.since past) := by
  rcases world with ⟨pool, memory⟩
  unfold World.since perform
  cases request with
  | allocate =>
    dsimp only
    rw [allocate_since]
    rfl
  | reserve additional =>
    dsimp only
    rw [reserve_since]
    rfl
  | remove address =>
    dsimp only
    rw [remove_since]
    rfl
  | contains address => rfl
  | clear =>
    dsimp only
    rw [clear_since]
    rfl
  | destroy =>
    dsimp only
    rw [destroy_since]
    rfl
  | slotsInUse => rfl
  | supply provider => rfl

theorem Deal.reply_since
    (world : World config σ)
    (past : Memory σ)
    (request : Request σ) :
    reply ⟨world.since past, request⟩ = reply ⟨world, request⟩ := by
  unfold reply
  rw [World.perform_since]
  rfl

theorem Deal.after_since
    (world : World config σ)
    (past : Memory σ)
    (request : Request σ) :
    after ⟨world.since past, request⟩ =
      (after ⟨world, request⟩).since past := by
  unfold after
  rw [World.perform_since]
  rfl

/-- All that can be seen of a request. -/
structure Report where
  /-- What was replied. -/
  reply : Reply
  /-- The counts of the pool afterwards. -/
  statistics : Except Breach Statistics
  /-- The dealings with the provider, the newest first. -/
  dealings : List Transaction
  /-- What the log was told, the newest first. -/
  events : List Event
  deriving DecidableEq

/-- What can be seen of a deal. -/
def Deal.report (deal : Deal config σ) : Report where
  reply := deal.reply
  statistics := deal.after.pool.statistics
  dealings := deal.before.memory.dealingsTo deal.after.memory
  events := deal.before.memory.newsTo deal.after.memory

/-- The reports of these requests, made one after another. -/
def World.reports (world : World config σ) : List (Request σ) → List Report
  | [] => []
  | request :: later =>
    Deal.report ⟨world, request⟩ :: reports (Deal.after ⟨world, request⟩) later

/-- The world after these requests, made one after another. -/
def World.continued (world : World config σ) :
    List (Request σ) → World config σ
  | [] => world
  | request :: later => continued (Deal.after ⟨world, request⟩) later

theorem Deal.report_since
    (world : World config σ)
    (past : Memory σ)
    (request : Request σ) :
    report ⟨world.since past, request⟩ = report ⟨world, request⟩ := by
  unfold report
  rw [reply_since, after_since]
  congr 1
  · exact Memory.dealingsTo_since _ _ past
  · exact Memory.newsTo_since _ _ past

/-- What is seen of any requests does not depend on the past. -/
theorem World.reports_since
    (world : World config σ)
    (past : Memory σ)
    (requests : List (Request σ)) :
    (world.since past).reports requests = world.reports requests := by
  induction requests generalizing world with
  | nil => rfl
  | cons request later ih =>
    rw [reports, reports, Deal.report_since, Deal.after_since, ih]

/-- The past stays below all that is done. -/
theorem World.continued_since
    (world : World config σ)
    (past : Memory σ)
    (requests : List (Request σ)) :
    (world.since past).continued requests =
      (world.continued requests).since past := by
  induction requests generalizing world with
  | nil => rfl
  | cons request later ih => rw [continued, continued, Deal.after_since, ih]

end Pool

end SlabPool
