import SlabPool.Proofs.GrowthRule
import SlabPool.Proofs.Issued

/-!
# How the capacities of the slabs progress

The log tells when a new slab begins to serve.  Its capacity is what the rule
makes of the capacity of the slab before it, or the number of slots asked for if
that is greater (`Run.renewal`); between two such deals the capacity of the
active slab stays (`Effect.activeCapacity?_eq`).

So the capacities since the last destruction are as good as the rule.  Where it
is `Progressive` each is greater than those before it, until there are only
slabs of the greatest capacity: `progression_of_run`.
-/

namespace SlabPool

namespace Config

variable {config : Config}

/-- The newer capacity is greater, or both are the greatest there is. -/
def Surpasses
    (config : Config)
    (newer older : Nat) :
    Prop :=
  older < newer ∨ older = config.limit ∧ newer = config.limit

instance (newer older : Nat) : Decidable (config.Surpasses newer older) :=
  inferInstanceAs (Decidable (_ ∨ _))

theorem Surpasses.trans
    {newest newer older : Nat}
    (bounded : newest ≤ config.limit)
    (first : config.Surpasses newest newer)
    (second : config.Surpasses newer older) :
    config.Surpasses newest older := by
  unfold Surpasses at first second ⊢
  omega

/-- A progressive rule surpasses each capacity that a slab can have. -/
theorem Progressive.surpasses
    (progressive : config.Progressive)
    {newer older : Nat}
    (least : config.firstCapacity ≤ older)
    (olderBounded : older ≤ config.limit)
    (grown : config.capacityAfter older ≤ newer)
    (newerBounded : newer ≤ config.limit) :
    config.Surpasses newer older := by
  rcases Nat.lt_or_eq_of_le olderBounded with below | rfl
  · exact Or.inl (Nat.lt_of_lt_of_le (progressive older least below) grown)
  · rw [progressive.capacityAfter_limit] at grown
    exact Or.inr ⟨rfl, Nat.le_antisymm newerBounded grown⟩

end Config

namespace Pool

variable {config : Config} {σ : Type}

/-- How many slots a growth on this request must make room for. -/
def Request.required : Request σ → Nat
  | .reserve additional => additional
  | _ => 1

def Request.destroys : Request σ → Bool
  | .destroy => true
  | _ => false

/-- The capacity of the active slab, if there is one. -/
def activeCapacity? (pool : Pool config) : Option Nat :=
  pool.shelf.active.map Slab.capacity

theorem activeCapacity_of_activeCapacity?
    {pool : Pool config}
    {capacity : Nat}
    (serving : pool.activeCapacity? = some capacity) :
    pool.activeCapacity = capacity := by
  rw [activeCapacity?, Option.map_eq_some_iff] at serving
  rcases serving with ⟨active, serving, rfl⟩
  exact activeCapacity_of_active serving

variable [Provider σ]

/--
The capacities of the slabs that began to serve since the last destruction, the
newest first.
-/
def capacities : List (Deal config σ) → List Nat
  | [] => []
  | deal :: earlier =>
    if deal.renews then
      deal.after.pool.activeCapacity :: capacities earlier
    else if deal.request.destroys then
      []
    else
      capacities earlier

/-! ## One deal -/

theorem Growth.activeCapacity?_eq
    {pool grown : Pool config}
    {required : Nat}
    {memory after : Memory σ}
    (growth : pool.Growth required memory ⟨.ok (), grown, after⟩) :
    grown.activeCapacity? = some (pool.grownCapacity required) := by
  cases growth with
  | replaced bounded capacity untouched granted demotion fits journal =>
    exact congrArg some capacity

/-- The capacity of the active slab stays until a new slab begins to serve. -/
theorem Effect.activeCapacity?_eq
    [SeparatingProvider σ]
    {before after : World config σ}
    {request : Request σ}
    {reply : Reply}
    (balanced : before.pool.Balanced before.memory)
    (effect : Effect before request reply after) :
    after.pool.activeCapacity? =
      if before.memory.activates after.memory then
        some (before.pool.grownCapacity request.required)
      else if request.destroys then
        none
      else
        before.pool.activeCapacity? := by
  cases effect with
  | kept unbroken idle fits undisturbed =>
    have kept : request.destroys = false := by
      cases request with
      | destroy => exact absurd (idle {0}).symm (Finset.singleton_ne_empty 0)
      | _ => rfl
    rw [activates_of_undisturbed undisturbed, kept]
    rfl
  | served serving service =>
    rw [activates_of_undisturbed (.refl _), activeCapacity?,
      activeCapacity?, serving]
    rfl
  | grown growth =>
    rw [growth.activates]
    exact growth.activeCapacity?_eq
  | grownServed growth serving service =>
    have grown := growth.activeCapacity?_eq
    rw [growth.activates]
    rw [activeCapacity?, serving] at grown
    exact grown
  | released serving release undisturbed =>
    rw [activates_of_undisturbed undisturbed, activeCapacity?,
      activeCapacity?, serving]
    rfl
  | counted found starts several =>
    rw [activates_of_retiredItemRemoved rfl (Or.inl rfl)]
    rfl
  | emptied found starts last =>
    rw [activates_of_retiredItemRemoved rfl (Or.inr ⟨_, rfl⟩)]
    rfl
  | cleared =>
    rw [activates_clear, activeCapacity?, shelf_clear, Option.map_map]
    rfl
  | destroyed =>
    have bare := balanced.slabs_destroy
    rw [Shelf.slabs, List.append_eq_nil_iff] at bare
    rw [activates_destroy, activeCapacity?, Option.toList_eq_nil_iff.1 bare.1]
    rfl

/-! ## Runs -/

section Run

variable [SeparatingProvider σ]
variable {deals : List (Deal config σ)} {world : World config σ}

theorem Run.activeCapacity?_eq
    (run : Run deals world)
    (request : Request σ) :
    (Deal.after ⟨world, request⟩).pool.activeCapacity? =
      if Deal.renews ⟨world, request⟩ then
        some (world.pool.grownCapacity request.required)
      else if request.destroys then
        none
      else
        world.pool.activeCapacity? :=
  (run.effect request).activeCapacity?_eq run.balanced

/-- The newest of the capacities is that of the active slab. -/
theorem Run.head?_capacities
    (run : Run deals world) :
    (capacities deals).head? = world.pool.activeCapacity? := by
  induction run with
  | start provider => rfl
  | @next deals world run request ih =>
    have serving := run.activeCapacity?_eq request
    rw [capacities]
    split
    case isTrue renews =>
      rw [if_pos renews] at serving
      rw [serving, activeCapacity_of_activeCapacity? serving]
      rfl
    case isFalse stays =>
      rw [serving, if_neg stays]
      split
      case isTrue destroys => rfl
      case isFalse keeps => exact ih

/-- Each of the capacities is one that a slab can have. -/
theorem Run.capacities_bounds
    (run : Run deals world) :
    ∀ capacity ∈ capacities deals,
      config.firstCapacity ≤ capacity ∧ capacity ≤ config.limit := by
  induction run with
  | start provider => exact nofun
  | @next deals world run request ih =>
    have serving := run.activeCapacity?_eq request
    have bounded := (run.next request).balanced.sound.activeCapacity_le_limit
    rw [capacities]
    split
    case isTrue renews =>
      rw [if_pos renews] at serving
      refine List.forall_mem_cons.2 ⟨⟨?_, bounded⟩, ih⟩
      rw [activeCapacity_of_activeCapacity? serving]
      exact
        Nat.le_trans run.balanced.sound.firstCapacity_le_hint
          (Nat.le_max_right _ _)
    case isFalse stays =>
      split
      case isTrue destroys => exact nofun
      case isFalse keeps => exact ih

/-- A new slab that takes the place of another follows it by the rule. -/
theorem Run.renewal
    (run : Run deals world)
    {request : Request σ}
    {old : Slab config.geometry}
    (serving : world.pool.shelf.active = some old)
    (renews : Deal.renews ⟨world, request⟩ = true) :
    (Deal.after ⟨world, request⟩).pool.activeCapacity? =
      some (max request.required (config.capacityAfter old.capacity)) := by
  have hinted := run.balanced.sound.hinted
  rw [dueHint, serving] at hinted
  rw [run.activeCapacity?_eq request, if_pos renews, grownCapacity, hinted]

/-- Under a progressive rule it surpasses the one whose place it takes. -/
theorem Run.surpasses_of_renewal
    (run : Run deals world)
    (progressive : config.Progressive)
    {request : Request σ}
    {old : Slab config.geometry}
    (serving : world.pool.shelf.active = some old)
    (renews : Deal.renews ⟨world, request⟩ = true) :
    config.Surpasses (Deal.after ⟨world, request⟩).pool.activeCapacity
      old.capacity := by
  have newest : old.capacity ∈ capacities deals := by
    apply List.mem_of_mem_head?
    rw [run.head?_capacities, activeCapacity?, serving]
    rfl
  rcases run.capacities_bounds _ newest with ⟨least, oldBounded⟩
  have placed := run.renewal serving renews
  have bounded := (run.next request).balanced.sound.activeCapacity_le_limit
  refine progressive.surpasses least oldBounded ?_ bounded
  rw [activeCapacity_of_activeCapacity? placed]
  exact Nat.le_max_right _ _

/-- Under a progressive rule each capacity surpasses all those before it. -/
theorem Run.pairwise_capacities
    (run : Run deals world)
    (progressive : config.Progressive) :
    (capacities deals).Pairwise config.Surpasses := by
  induction run with
  | start provider => exact List.Pairwise.nil
  | @next deals world run request ih =>
    have newest := run.head?_capacities
    have bounded := (run.next request).balanced.sound.activeCapacity_le_limit
    rw [capacities]
    split
    case isFalse stays =>
      split
      case isTrue destroys => exact List.Pairwise.nil
      case isFalse keeps => exact ih
    case isTrue renews =>
      refine List.pairwise_cons.2 ⟨?_, ih⟩
      cases line : capacities deals with
      | nil => exact nofun
      | cons last rest =>
        rw [line] at ih newest
        rcases Option.map_eq_some_iff.1 newest.symm with
          ⟨old, serving, rfl⟩
        -- The new slab surpasses the last one, and through it all others.
        have surpassed := run.surpasses_of_renewal progressive serving renews
        refine List.forall_mem_cons.2 ⟨surpassed, ?_⟩
        intro older member
        exact
          surpassed.trans bounded ((List.pairwise_cons.1 ih).1 older member)

/--
A slab that takes the place of an active one has the capacity that the rule
gives, or that was asked for if that is greater.  So below the limit it is
larger just if it was asked to be, by the request or by the minimum, or if the
one before had more than one slot and fewer than the ceiling.  All capacities
below the limit are surpassed if and only if slabs of the least capacity have
the limit already, or have at least two slots of at least four bytes; the
capacities since the last destruction then increase up to the limit.
-/
theorem progression_of_run
    (run : Run deals world) :
    (∀ request old,
      world.pool.shelf.active = some old →
      Deal.renews ⟨world, request⟩ = true →
      ∃ new, (Deal.after ⟨world, request⟩).pool.shelf.active = some new ∧
        new.capacity =
            max request.required (config.capacityAfter old.capacity) ∧
          (config.Progressive →
            config.Surpasses new.capacity old.capacity) ∧
            (old.capacity < config.limit →
              (old.capacity < new.capacity ↔
                old.capacity < request.required ∨
                  old.capacity < config.minimum ∨
                    1 < old.capacity ∧
                      old.capacity < Config.growthCeiling))) ∧
    (config.Progressive ↔
      config.limit ≤ config.minimum ∨
        1 < config.minimum ∧ 4 ≤ config.geometry.stride) ∧
    (config.Progressive →
      (capacities deals).head? = world.pool.activeCapacity? ∧
        (capacities deals).Pairwise config.Surpasses) := by
  refine ⟨?_, config.progressive_iff, ?_⟩
  · intro request old serving renews
    have served := run.renewal serving renews
    rcases Option.map_eq_some_iff.1 served with ⟨new, placed, capacity⟩
    refine ⟨new, placed, capacity, ?_, ?_⟩
    · intro progressive
      have surpassed := run.surpasses_of_renewal progressive serving renews
      rwa [activeCapacity_of_active placed] at surpassed
    · intro below
      rw [capacity, lt_max_iff, Config.capacityAfter,
        Config.lt_nextCapacity_iff]
      exact or_congr_right (and_iff_right below)
  · intro progressive
    exact ⟨run.head?_capacities, run.pairwise_capacities progressive⟩

end Run

/-- Three slabs, the last of which is there for a reservation. -/
def Sample.threeSlabs : List (Request Arena) :=
  [.reserve 9, .allocate, .allocate, .allocate]

theorem progression_of_threeSlabs :
    Sample.config.Progressive ∧
      capacities
          (history Sample.arena Sample.threeSlabs :
            List (Deal Sample.config Arena)) =
        [9, 3, 2] ∧
      (capacities
          (history Sample.arena Sample.threeSlabs :
            List (Deal Sample.config Arena))).Pairwise
        Sample.config.Surpasses := by
  have run :
      Run (history Sample.arena Sample.threeSlabs)
        (reached Sample.arena Sample.threeSlabs :
          World Sample.config Arena) :=
    run_history Sample.arena Sample.threeSlabs
  rcases progression_of_run run with ⟨-, progressive_iff, increasing⟩
  have progressive : Sample.config.Progressive :=
    progressive_iff.2 (by decide +kernel)
  exact ⟨progressive, by decide +kernel, (increasing progressive).2⟩

/-- The sample pool with a single slot in its first slab. -/
def Sample.single : Config :=
  { Sample.config with minimum := 1, minimum_pos := by decide }

/-- A slab with a single slot is followed by one that is no larger. -/
theorem progression_stuck_of_single :
    let world : World Sample.single Arena :=
      reached Sample.arena [.allocate]
    let deal : Deal Sample.single Arena := ⟨world, .allocate⟩
    world.pool.activeCapacity? = some 1 ∧
      1 < Sample.single.limit ∧
        deal.reply = .number (some (Arena.origin + 8)) ∧
          deal.renews = true ∧
            deal.after.pool.activeCapacity? = some 1 := by
  decide +kernel

end Pool

end SlabPool
