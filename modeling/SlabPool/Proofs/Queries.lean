import SlabPool.Proofs.Memoryless
import SlabPool.Proofs.Requests

/-!
# What a provider was asked

The ledger tells which requests were made of a provider and whether each was
granted: `Memory.queries`.  As no operation looks at the ledger, it only adds
to it (`Memory.queries_suffix`).  A growth within the limit makes at least one
request, whatever room there is on the shelf (`length_queries_grow`).
-/

namespace SlabPool

/-- A request to a provider. -/
inductive Query where
  | block (size align : Nat)
  | storage (resource : Resource) (bytes : Nat)
  deriving DecidableEq, Repr

/-- The request of an entry, if it is one, and whether it was granted. -/
def Transaction.query? : Transaction → Option (Query × Bool)
  | .block size align base => some (.block size align, base.isSome)
  | .storage resource bytes granted => some (.storage resource bytes, granted)
  | .returned _ => none

variable {σ : Type}

namespace Memory

/-- All requests to the provider with its decisions, the newest first. -/
def queries (memory : Memory σ) : List (Query × Bool) :=
  memory.ledger.filterMap Transaction.query?

@[simp]
theorem queries_note
    (memory : Memory σ)
    (event : Event) :
    (memory.note event).queries = memory.queries :=
  rfl

@[simp]
theorem queries_giveBack
    (memory : Memory σ)
    (block : Block) :
    (memory.giveBack block).queries = memory.queries :=
  rfl

theorem queries_secure
    [Provider σ]
    (memory : Memory σ)
    (resource : Resource)
    (bytes : Nat) :
    (memory.secure resource bytes).2.queries =
      (.storage resource bytes, (memory.secure resource bytes).1) ::
        memory.queries :=
  rfl

theorem queries_acquire
    [Provider σ]
    (memory : Memory σ)
    (layout : Layout) :
    (memory.acquire layout).2.queries =
      (.block layout.size layout.align, (memory.acquire layout).1.isSome) ::
        memory.queries :=
  rfl

/-- What does not look at the past only adds to the ledger. -/
theorem ledger_suffix
    {α : Type}
    {act : Memory σ → α × Memory σ}
    (blind :
      ∀ memory past,
        act (memory.since past) = (act memory).map id (·.since past))
    (memory : Memory σ) :
    memory.ledger <:+ (act memory).2.ledger := by
  let recent : Memory σ := { memory with ledger := [], journal := [] }
  have split : memory = recent.since memory := rfl
  refine ⟨(act recent).2.ledger, ?_⟩
  conv_rhs => rw [split, blind]
  rfl

theorem queries_suffix
    {α : Type}
    {act : Memory σ → α × Memory σ}
    (blind :
      ∀ memory past,
        act (memory.since past) = (act memory).map id (·.since past))
    (memory : Memory σ) :
    memory.queries <:+ (act memory).2.queries :=
  (ledger_suffix blind memory).filterMap _

end Memory

/-! ## Slabs -/

section Parts

variable [Provider σ] {geometry : Geometry}

theorem Slab.memory_acquire
    {capacity : Nat}
    {layout : Layout}
    (made : geometry.slabLayout capacity = .ok layout)
    (memory : Memory σ) :
    (acquire geometry capacity memory).2 = (memory.acquire layout).2 := by
  unfold acquire
  rw [made]
  dsimp only
  rcases memory.acquire layout with ⟨_ | base, after⟩ <;> rfl

/-- A slab within the limit is asked for. -/
theorem Slab.exists_queries_acquire
    {capacity : Nat}
    (bounded : capacity ≤ geometry.limit)
    (memory : Memory σ) :
    ∃ query,
      (acquire geometry capacity memory).2.queries =
        query :: memory.queries := by
  rcases geometry.exists_slabLayout bounded with ⟨layout, made, -, -⟩
  rw [memory_acquire made, Memory.queries_acquire]
  exact ⟨_, rfl⟩

theorem Slab.Acquisition.queries_suffix
    {capacity : Nat}
    {memory after : Memory σ}
    {answer : Except Fault (Slab geometry)}
    (acquisition : Acquisition geometry capacity memory answer after) :
    memory.queries <:+ after.queries := by
  have asked (layout : Layout) :
      memory.queries <:+ (memory.acquire layout).2.queries :=
    List.suffix_cons _ _
  cases acquisition with
  | excessive fault => exact List.suffix_rfl
  | @refused layout _ fault refused =>
    have later := asked layout
    rwa [refused] at later
  | @granted layout _ _ size align granted =>
    have later := asked layout
    rwa [granted] at later

theorem Memory.Asked.queries_suffix
    {memory after : Memory σ}
    {resource : Resource}
    (asked : memory.Asked resource after) :
    memory.queries <:+ after.queries := by
  cases asked with
  | spared => exact List.suffix_rfl
  | secured bytes => exact List.suffix_cons _ _

theorem Vacancies.queries_ofCapacity_suffix
    (capacity : Nat)
    (memory : Memory σ) :
    memory.queries <:+ (ofCapacity capacity memory).2.queries :=
  Memory.queries_suffix (ofCapacity_since capacity) memory

/-- Once the block is granted, the marks decide. -/
theorem Slab.furnish_of_granted
    {capacity : Nat}
    {slab : Slab geometry}
    {memory placed : Memory σ}
    (granted : acquire geometry capacity memory = (.ok slab, placed)) :
    (furnish geometry capacity memory).1 =
        (Vacancies.ofCapacity capacity placed).1.map (slab, ·) ∧
      (furnish geometry capacity memory).2.queries =
        (Vacancies.ofCapacity capacity placed).2.queries := by
  unfold furnish
  rw [granted]
  dsimp only
  rcases Vacancies.ofCapacity capacity placed with
    ⟨fault | vacancies, marked⟩ <;> exact ⟨rfl, rfl⟩

theorem Slab.queries_furnish_suffix
    (geometry : Geometry)
    (capacity : Nat)
    (memory : Memory σ) :
    (acquire geometry capacity memory).2.queries <:+
      (furnish geometry capacity memory).2.queries := by
  cases acquired : acquire geometry capacity memory with
  | mk answer placed =>
    cases answer with
    | error fault =>
      rw [furnish, acquired]
    | ok slab =>
      rw [(furnish_of_granted acquired).2]
      exact Vacancies.queries_ofCapacity_suffix capacity placed

end Parts

theorem Shelf.queries_activate
    {geometry : Geometry}
    (shelf : Shelf geometry)
    (slab : Slab geometry)
    (previousItems : Nat)
    (memory : Memory σ) :
    (shelf.activate slab previousItems memory).2.2.queries =
      memory.queries := by
  unfold activate
  cases shelf.active with
  | none => rfl
  | some previous =>
    dsimp only
    split
    case isTrue empty => rfl
    case isFalse nonempty => cases previous.withLive previousItems <;> rfl

/-! ## Giving back asks for nothing -/

section Release

variable {geometry : Geometry}

theorem Shelf.queries_releaseEach
    (slabs : List (Slab geometry))
    (memory : Memory σ) :
    (releaseEach slabs memory).queries = memory.queries := by
  induction slabs generalizing memory with
  | nil => rfl
  | cons slab slabs ih => exact ih (slab.release memory)

theorem Shelf.queries_releaseRetired
    (shelf : Shelf geometry)
    (memory : Memory σ) :
    (shelf.releaseRetired memory).2.queries = memory.queries := by
  unfold releaseRetired
  dsimp only
  rw [queries_releaseEach]
  split <;> rfl

theorem Shelf.queries_releaseAll
    (shelf : Shelf geometry)
    (memory : Memory σ) :
    (shelf.releaseAll memory).2.queries = memory.queries := by
  have retired := shelf.queries_releaseRetired memory
  cases serving : shelf.active with
  | none =>
    rw [releaseAll_of_inactive serving]
    exact retired
  | some active =>
    rw [releaseAll_of_active serving]
    exact retired

theorem Pool.queries_clear
    {config : Config}
    (pool : Pool config)
    (memory : Memory σ) :
    (pool.clear memory).2.queries = memory.queries :=
  pool.shelf.queries_releaseRetired memory

theorem Pool.queries_destroy
    {config : Config}
    (pool : Pool config)
    (memory : Memory σ) :
    (pool.destroy memory).2.queries = memory.queries := by
  unfold destroy
  split
  case isTrue none => rfl
  case isFalse some => exact pool.shelf.queries_releaseAll _

end Release

/-! ## Growth -/

namespace Pool

variable {config : Config} (pool : Pool config)

theorem queries_install
    (slab : Slab config.geometry)
    (vacancies : Vacancies)
    (memory : Memory σ) :
    (pool.install slab vacancies memory).memory.queries = memory.queries := by
  have kept := pool.shelf.queries_activate slab pool.activeItems memory
  rcases pool.install_cases slab vacancies memory with
    ⟨answer, shelf, after, activated, -, same | ⟨event, same⟩⟩
  · rw [same, ← kept, activated]
  · rw [same, Memory.queries_note, ← kept, activated]

variable [Provider σ]

/-- Whatever is prepared, room on the shelf is seen to first. -/
theorem Preparation.queries_suffix
    {pool : Pool config}
    {capacity : Nat}
    {memory after : Memory σ}
    {answer : Except Fault (Slab config.geometry × Vacancies)}
    {shelf : Shelf config.geometry}
    (preparation : pool.Preparation capacity memory answer shelf after) :
    (pool.shelf.reserveRetirement memory).2.queries <:+ after.queries := by
  cases preparation with
  | roomRefused => exact List.suffix_rfl
  | slabRefused refused => exact refused.queries_suffix
  | marksRefused _ acquired asked =>
    exact acquired.queries_suffix.trans asked.queries_suffix
  | prepared acquired asked =>
    exact acquired.queries_suffix.trans asked.queries_suffix

/-- What is prepared within the limit is asked for. -/
theorem length_queries_prepare
    {capacity : Nat}
    (bounded : capacity ≤ config.limit)
    (memory : Memory σ) :
    memory.queries.length <
      (pool.prepare capacity memory).2.2.queries.length := by
  have room := pool.shelf.memory_reserveRetirement memory
  by_cases full : pool.shelf.retiredCount = pool.shelf.room
  · have later := (pool.prepare_spec capacity memory).queries_suffix.length_le
    rw [room, if_pos full, Memory.queries_secure, List.length_cons] at later
    exact later
  · have roomy :
        pool.shelf.reserveRetirement memory = (.ok pool.shelf, memory) :=
      if_neg full
    rcases Slab.exists_queries_acquire bounded memory with ⟨query, asked⟩
    have later :=
      (Slab.queries_furnish_suffix config.geometry capacity memory).length_le
    rw [asked, List.length_cons] at later
    rw [prepare, roomy]
    exact later

/-- All requests of a growth within the limit come before it is installed. -/
theorem queries_grow
    {required : Nat}
    (bounded : required ≤ config.limit)
    (memory : Memory σ) :
    (pool.grow required memory).memory.queries =
      (pool.prepare (pool.grownCapacity required) memory).2.2.queries := by
  rw [grow, if_neg (Nat.not_lt.2 bounded)]
  rcases pool.prepare (pool.grownCapacity required) memory with
    ⟨fault | ⟨slab, vacancies⟩, shelf, after⟩
  · rfl
  · exact queries_install _ slab vacancies after

/-- Growth within the limit asks for memory, granted or not. -/
theorem length_queries_grow
    {required : Nat}
    (bounded : required ≤ config.limit)
    (hinted : pool.hint ≤ config.limit)
    (memory : Memory σ) :
    memory.queries.length <
      (pool.grow required memory).memory.queries.length := by
  rw [pool.queries_grow bounded]
  exact pool.length_queries_prepare (Nat.max_le.2 ⟨bounded, hinted⟩) memory

/-! ## Deals -/

theorem Deal.ledger_suffix (deal : Deal config σ) :
    deal.before.memory.ledger <:+ deal.after.memory.ledger := by
  rcases deal with ⟨⟨pool, memory⟩, request⟩
  let act (memory : Memory σ) : (Reply × Pool config) × Memory σ :=
    let result := World.perform ⟨pool, memory⟩ request
    ((result.1, result.2.pool), result.2.memory)
  have blind (memory past : Memory σ) :
      act (memory.since past) = (act memory).map id (·.since past) := by
    have past := World.perform_since ⟨pool, memory⟩ past request
    exact
      congrArg
        (fun result : Reply × World config σ =>
          ((result.1, result.2.pool), result.2.memory))
        past
  exact Memory.ledger_suffix blind memory

/-- The requests to the provider during the deal, the newest first. -/
def Deal.queries (deal : Deal config σ) : List (Query × Bool) :=
  deal.report.dealings.filterMap Transaction.query?

theorem Deal.queries_after (deal : Deal config σ) :
    deal.after.memory.queries = deal.queries ++ deal.before.memory.queries := by
  rcases deal.ledger_suffix with ⟨entries, ledger⟩
  have dealings : deal.report.dealings = entries :=
    Memory.dealingsTo_eq ledger.symm
  rw [queries, dealings, Memory.queries, ← ledger, List.filterMap_append]
  rfl

/-- What the ledger shows on top of the earlier requests was asked meanwhile. -/
theorem Deal.queries_eq_of_after
    {deal : Deal config σ}
    {decisions : List (Query × Bool)}
    (asked :
      deal.after.memory.queries = decisions ++ deal.before.memory.queries) :
    deal.queries = decisions := by
  rw [deal.queries_after] at asked
  exact List.append_cancel_right asked

/-- What leaves memory as it was asked for nothing. -/
theorem Deal.queries_eq_nil
    {deal : Deal config σ}
    (same : deal.after.memory = deal.before.memory) :
    deal.queries = [] := by
  have asked := deal.queries_after
  rw [same] at asked
  exact List.self_eq_append_left.1 asked

end Pool

end SlabPool
