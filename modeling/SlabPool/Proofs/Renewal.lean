import SlabPool.Proofs.Memoryless
import SlabPool.Proofs.Requests

/-!
# A destroyed pool starts anew

A pool without slabs is `idleWith` some room on its shelf: it may have been
granted room for retired slabs by a growth of which a later request was
refused.  Destroying a pool gives that room back only along with a slab.

`renewal_of_run` says when a destroyed pool is a new one, to its client and to
its provider: just if it had a slab, or had no room on its shelf.
-/

namespace SlabPool

namespace Pool

variable {config : Config} {σ : Type}

/-! ## Pools without slabs -/

/-- The pool without slabs, with room on its shelf. -/
def idleWith (room : Nat) : Pool config :=
  ⟨⟨none, [], room⟩, Vacancies.empty, config.firstCapacity⟩

theorem idleWith_zero : (idleWith 0 : Pool config) = idle :=
  rfl

/-- Pools without an active slab keep no record of vacancies. -/
def Unrecorded (pool : Pool config) : Prop :=
  pool.shelf.active = none → pool.vacancies = Vacancies.empty

theorem unrecorded_of_active
    {pool : Pool config}
    {active : Slab config.geometry}
    (serving : pool.shelf.active = some active) :
    pool.Unrecorded := by
  intro inactive
  rw [inactive] at serving
  cases serving

theorem Unrecorded.clear
    {pool : Pool config}
    (unrecorded : pool.Unrecorded)
    (memory : Memory σ) :
    (pool.clear memory).1.Unrecorded := by
  intro inactive
  rw [shelf_clear, Option.map_eq_none_iff] at inactive
  show pool.vacancies.wiped = Vacancies.empty
  rw [unrecorded inactive]
  simp [Vacancies.wiped, Marks.wiped, Vacancies.empty, Marks.empty]

/-- A sound pool without slabs has nothing but room on its shelf. -/
theorem Sound.eq_idleWith
    {pool : Pool config}
    (sound : pool.Sound)
    (unrecorded : pool.Unrecorded)
    (inactive : pool.shelf.active = none) :
    pool = idleWith pool.shelf.room := by
  have vacancies := unrecorded inactive
  have hinted := sound.hinted
  have led := sound.orderly.led inactive
  rw [dueHint, inactive] at hinted
  rcases pool with ⟨⟨active, retired, room⟩, vacant, hint⟩
  dsimp only at inactive led vacancies hinted
  subst inactive led vacancies hinted
  rfl

variable [Provider σ]

theorem Growth.unrecorded
    {pool grown : Pool config}
    {required : Nat}
    {memory after : Memory σ}
    (growth : pool.Growth required memory ⟨.ok (), grown, after⟩) :
    grown.Unrecorded := by
  cases growth with
  | replaced bounded capacity untouched granted demotion fits journal =>
    exact unrecorded_of_active rfl

theorem Effect.unrecorded
    {before after : World config σ}
    {request : Request σ}
    {reply : Reply}
    (balanced : before.pool.Balanced before.memory)
    (unrecorded : before.pool.Unrecorded)
    (effect : Effect before request reply after) :
    after.pool.Unrecorded := by
  cases effect with
  | kept unbroken idle fits undisturbed => exact unrecorded
  | served serving service => exact unrecorded_of_active rfl
  | grown growth => exact growth.unrecorded
  | grownServed growth serving service => exact unrecorded_of_active rfl
  | released serving release undisturbed => exact unrecorded_of_active rfl
  | counted found starts several => exact unrecorded
  | emptied found starts last => exact unrecorded
  | cleared => exact unrecorded.clear before.memory
  | destroyed =>
    rcases balanced.destroy_cases with ⟨-, same⟩ | ⟨-, renewed, -⟩
    · rw [same]
      exact unrecorded
    · rw [renewed]
      exact fun _ => rfl

theorem Run.unrecorded
    [SeparatingProvider σ]
    {deals : List (Deal config σ)}
    {world : World config σ}
    (run : Run deals world) :
    world.pool.Unrecorded := by
  induction run with
  | start provider => exact fun _ => rfl
  | next run request ih => exact (run.effect request).unrecorded run.balanced ih

end Pool

/-! ## Requests for room on the shelf -/

/-- Room for retired slabs was asked for. -/
def Transaction.asksRoom : Transaction → Bool
  | .storage .retirement _ _ => true
  | _ => false

/-- How often room for retired slabs was asked for. -/
def Memory.roomRequests
    {σ : Type}
    (memory : Memory σ) :
    Nat :=
  memory.ledger.countP Transaction.asksRoom

section RoomRequests

variable {σ : Type} [Provider σ]

theorem Slab.Acquisition.roomRequests_eq
    {geometry : Geometry}
    {capacity : Nat}
    {memory after : Memory σ}
    {answer : Except Fault (Slab geometry)}
    (acquisition : Acquisition geometry capacity memory answer after) :
    after.roomRequests = memory.roomRequests := by
  have asked :
      ∀ layout,
        (memory.acquire layout).2.roomRequests = memory.roomRequests :=
    fun _ => rfl
  cases acquisition with
  | excessive => rfl
  | @refused layout _ _ refused => rw [← asked layout, refused]
  | @granted layout _ _ _ _ granted => rw [← asked layout, granted]

theorem Memory.Asked.roomRequests_eq
    {memory after : Memory σ}
    (asked : memory.Asked .marks after) :
    after.roomRequests = memory.roomRequests := by
  cases asked with
  | spared => rfl
  | secured bytes => rfl

theorem Shelf.roomRequests_reserveRetirement
    {geometry : Geometry}
    (shelf : Shelf geometry)
    (memory : Memory σ) :
    (shelf.reserveRetirement memory).2.roomRequests =
      memory.roomRequests +
        if shelf.retiredCount = shelf.room then 1 else 0 := by
  rw [memory_reserveRetirement]
  split
  case isTrue full => exact List.countP_cons_of_pos rfl
  case isFalse roomy => rfl

omit [Provider σ] in
theorem Shelf.roomRequests_activate
    {geometry : Geometry}
    (shelf : Shelf geometry)
    (slab : Slab geometry)
    (previousItems : Nat)
    (memory : Memory σ) :
    (shelf.activate slab previousItems memory).2.2.roomRequests =
      memory.roomRequests := by
  unfold activate
  cases shelf.active with
  | none => rfl
  | some previous =>
    dsimp only
    split
    case isTrue empty => rfl
    case isFalse nonempty => cases previous.withLive previousItems <;> rfl

namespace Pool

variable {config : Config} (pool : Pool config)

theorem Preparation.roomRequests_eq
    {pool : Pool config}
    {capacity : Nat}
    {memory after : Memory σ}
    {answer : Except Fault (Slab config.geometry × Vacancies)}
    {shelf : Shelf config.geometry}
    (preparation : pool.Preparation capacity memory answer shelf after) :
    after.roomRequests =
      memory.roomRequests +
        if pool.shelf.retiredCount = pool.shelf.room then 1 else 0 := by
  rw [← Shelf.roomRequests_reserveRetirement]
  cases preparation with
  | roomRefused => rfl
  | slabRefused refused => exact refused.roomRequests_eq
  | marksRefused _ acquired asked =>
    exact asked.roomRequests_eq.trans acquired.roomRequests_eq
  | prepared acquired asked =>
    exact asked.roomRequests_eq.trans acquired.roomRequests_eq

omit [Provider σ] in
theorem roomRequests_install
    (slab : Slab config.geometry)
    (vacancies : Vacancies)
    (memory : Memory σ) :
    (pool.install slab vacancies memory).memory.roomRequests =
      memory.roomRequests := by
  unfold install
  have activated :=
    pool.shelf.roomRequests_activate slab pool.activeItems memory
  generalize pool.shelf.activate slab pool.activeItems memory = answer
    at activated ⊢
  rcases answer with ⟨breach | done, shelf, after⟩
  · exact activated
  · dsimp only
    split <;> exact activated

/-- Growth within the limit asks for room just if there is none left. -/
theorem roomRequests_grow
    {required : Nat}
    (bounded : required ≤ config.limit)
    (memory : Memory σ) :
    (pool.grow required memory).memory.roomRequests =
      memory.roomRequests +
        if pool.shelf.retiredCount = pool.shelf.room then 1 else 0 := by
  rcases pool.grow_cases required memory with
    ⟨beyond, -⟩ | ⟨-, fault, shelf, after, preparation, same⟩ |
    ⟨-, slab, vacancies, shelf, after, preparation, same⟩
  · omega
  · rw [same]
    exact preparation.roomRequests_eq
  · rw [same, roomRequests_install]
    exact preparation.roomRequests_eq

/-- The first slab of a pool without slabs may need room on the shelf. -/
theorem roomRequests_reserve_idleWith
    (room : Nat)
    (provider : σ) :
    (Deal.report
        ⟨(⟨idleWith room, Memory.fresh provider⟩ : World config σ),
          .reserve 1⟩).dealings.countP Transaction.asksRoom =
      if room = 0 then 1 else 0 := by
  have grown :=
    roomRequests_grow (idleWith room : Pool config)
      config.geometry.limit_pos (Memory.fresh provider)
  have whole :
      ∀ after : Memory σ,
        (Memory.fresh provider).dealingsTo after = after.ledger :=
    fun after => List.take_length
  rw [Deal.report, whole]
  show Memory.roomRequests (grow _ _ _).memory = _
  rw [grown]
  show 0 + (if 0 = room then 1 else 0) = _
  rw [Nat.zero_add]
  simp only [eq_comm]

end Pool

end RoomRequests

/-! ## Destroyed pools -/

namespace Pool

variable {config : Config} {σ : Type} [Provider σ]

namespace World

/-- The world after the pool was destroyed. -/
def destroyed (world : World config σ) : World config σ :=
  Deal.after ⟨world, .destroy⟩

/-- A new pool with the provider as it is now. -/
def anew (world : World config σ) : World config σ :=
  ⟨idle, Memory.fresh world.memory.provider⟩

/-- The answer to a disposal of the pool. -/
def disposal
    (world : World config σ)
    (unwinding : Bool) :
    Except Stop Unit :=
  (world.pool.dispose unwinding world.memory).answer

/-- Nothing that is asked of the pool from now on tells it from a new one. -/
def Renewed (world : World config σ) : Prop :=
  ∀ requests,
    world.reports requests = world.anew.reports requests ∧
      ∀ unwinding,
        (world.continued requests).disposal unwinding =
          (world.anew.continued requests).disposal unwinding

omit [Provider σ] in
/-- A pool with nothing held is one with new memory since its own past. -/
theorem eq_since
    (world : World config σ)
    (nothing : world.memory.held = []) :
    world =
      World.since ⟨world.pool, Memory.fresh world.memory.provider⟩
        world.memory := by
  rw [World.since, Memory.fresh_since nothing]

/-- A pool as new is renewed, whatever account there is of its past. -/
theorem renewed_of_idle
    {world : World config σ}
    (idle : world.pool = idle)
    (nothing : world.memory.held = []) :
    world.Renewed := by
  intro requests
  have past := world.eq_since nothing
  rw [idle] at past
  constructor
  · rw [past, reports_since]
    rfl
  · intro unwinding
    rw [past, continued_since, disposal, since, dispose_since]
    rfl

/-- Room on the shelf tells a pool without slabs from a new one. -/
theorem not_renewed_of_room
    {world : World config σ}
    {room : Nat}
    (left : world.pool = idleWith room)
    (nothing : world.memory.held = [])
    (roomy : room ≠ 0) :
    ¬ world.Renewed := by
  intro renewed
  have past := world.eq_since nothing
  rw [left] at past
  -- Where a new pool asks for room to place its first slab, this one has it.
  have first := (renewed [.reserve 1]).1
  rw [past, reports_since] at first
  have counts :=
    congrArg (·.dealings.countP Transaction.asksRoom)
      (List.head_eq_of_cons_eq first)
  rw [roomRequests_reserve_idleWith, anew, ← idleWith_zero,
    roomRequests_reserve_idleWith, if_neg roomy, if_pos rfl] at counts
  cases counts

end World

/-- The room that stays on the shelf of a pool when it is destroyed. -/
def roomLeft (pool : Pool config) : Nat :=
  if pool.shelf.slabs = [] then pool.shelf.room else 0

section Destroyed

variable [SeparatingProvider σ]
variable {deals : List (Deal config σ)} {world : World config σ}

theorem Run.held_destroyed
    (run : Run deals world) :
    world.destroyed.memory.held = [] :=
  run.balanced.held_destroy

theorem Run.pool_destroyed
    (run : Run deals world) :
    world.destroyed.pool = idleWith world.pool.roomLeft := by
  have balanced := run.balanced
  show (world.pool.destroy world.memory).1 = _
  rcases balanced.destroy_cases with ⟨bare, same⟩ | ⟨stocked, renewed, -⟩
  · rw [same, roomLeft, if_pos bare]
    rw [Shelf.slabs, List.append_eq_nil_iff] at bare
    exact
      balanced.sound.eq_idleWith run.unrecorded
        (Option.toList_eq_nil_iff.1 bare.1)
  · rw [renewed, roomLeft, if_neg stocked, idleWith_zero]

/-- To destroy a pool twice is to destroy it once. -/
theorem Run.destroyed_destroyed
    (run : Run deals world) :
    world.destroyed.destroyed = world.destroyed := by
  have again : Run _ world.destroyed := .next run .destroy
  have bare : world.destroyed.pool.shelf.slabs = [] := by
    rw [run.pool_destroyed]
    rfl
  rcases again.balanced.destroy_cases with ⟨-, same⟩ | ⟨stocked, -⟩
  · show World.mk (world.destroyed.pool.destroy world.destroyed.memory).1
        (world.destroyed.pool.destroy world.destroyed.memory).2 = _
    rw [same]
  · exact absurd bare stocked

/--
A destroyed pool holds no block and has nothing but room on its shelf;
destroying it again changes nothing.  It is like a new pool from now on just if
it had a slab before, or no room.
-/
theorem renewal_of_run
    (run : Run deals world) :
    world.destroyed.memory.held = [] ∧
      world.destroyed.pool = idleWith world.pool.roomLeft ∧
        world.destroyed.destroyed = world.destroyed ∧
          (world.destroyed.Renewed ↔ world.pool.roomLeft = 0) := by
  have held := run.held_destroyed
  have left := run.pool_destroyed
  refine ⟨held, left, run.destroyed_destroyed, ?_, ?_⟩
  · intro renewed
    by_contra roomy
    exact World.not_renewed_of_room left held roomy renewed
  · intro none
    rw [none] at left
    exact World.renewed_of_idle left held

end Destroyed

/-- The block of the first slab is refused after room on the shelf was granted. -/
def Sample.refusedSlab : List (Request Arena) :=
  [.allocate, .supply { Sample.arena with refused := [.slots] }]

theorem renewal_of_refusedSlab :
    let world : World Sample.config Arena :=
      reached Sample.arena Sample.refusedSlab
    world.destroyed.memory.held = [] ∧
      world.destroyed.pool = idleWith world.pool.roomLeft ∧
        world.destroyed.destroyed = world.destroyed ∧
          (world.destroyed.Renewed ↔ world.pool.roomLeft = 0) :=
  renewal_of_run (run_history Sample.arena Sample.refusedSlab)

/-- The pool destroyed then serves a slot that a new pool has no room for. -/
theorem not_renewed_of_refusedSlab :
    let world : World Sample.config Arena :=
      reached Sample.arena Sample.refusedSlab
    let later : List (Request Arena) :=
      [.supply { Sample.arena with refused := [.retirement] }, .allocate]
    (world.destroyed.reports later).map Report.reply =
        [.done, .number (some Arena.origin)] ∧
      (world.destroyed.anew.reports later).map Report.reply =
        [.done, .ofFault (.allocationFailed 80 8)] ∧
      ¬ world.destroyed.Renewed := by
  intro world later
  have told :
      (world.destroyed.reports later).map Report.reply =
        [.done, .number (some Arena.origin)] := by
    decide +kernel
  have toldAnew :
      (world.destroyed.anew.reports later).map Report.reply =
        [.done, .ofFault (.allocationFailed 80 8)] := by
    decide +kernel
  refine ⟨told, toldAnew, ?_⟩
  intro renewed
  rw [(renewed _).1, toldAnew] at told
  cases told

end Pool

end SlabPool
