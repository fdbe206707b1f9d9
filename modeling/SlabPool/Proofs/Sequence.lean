import SlabPool.Proofs.Canonical
import SlabPool.Proofs.Reservation

/-!
# In which order slots are served

A pool serves the vacant slots of its active slab from the highest to the
lowest, and then the slots above the mark from the lowest to the highest.
`Pool.upcoming` are their addresses in this order.  An allocation is answered
with the first of them and leaves the others (`Service.upcoming_eq`), so that
what was served and what is still to come make up one list
(`Run.drawn_append`).

After the last of them an allocation asks for memory; if it succeeds, a new slab
serves its first slot.  `sequence_of_run` says all this of any world.
-/

namespace SlabPool

/-- The reply to an allocation that is served this address. -/
def Reply.ofAddress (address : Nat) : Reply :=
  .number (some address)

namespace Pool

variable {config : Config}

/-! ## What comes next -/

/-- The addresses that the active slab serves next, in this order. -/
def upcoming (pool : Pool config) : List Nat :=
  match pool.shelf.active with
  | none => []
  | some active =>
    (pool.vacancies.stack ++
      List.range' active.live (active.capacity - active.live)).map
        active.slotAt

section Upcoming

variable {pool : Pool config} {active : Slab config.geometry}

theorem upcoming_of_active
    (serving : pool.shelf.active = some active) :
    pool.upcoming =
      (pool.vacancies.stack ++
        List.range' active.live (active.capacity - active.live)).map
          active.slotAt := by
  simp [upcoming, serving]

/-- There are as many of them as there are slots available. -/
theorem Sound.length_upcoming
    (sound : pool.Sound) :
    pool.upcoming.length = pool.available := by
  have whole := sound.available_add_card
  have split := sound.card_inUse
  have marked := sound.settled.mark_le
  cases serving : pool.shelf.active with
  | none => simp [upcoming, available, serving]
  | some active =>
    rw [activeCapacity_of_active serving] at whole marked
    rw [highWater_of_active serving] at split marked
    rw [Vacancies.size] at split
    simp only [upcoming_of_active serving, List.length_map,
      List.length_append, List.length_range']
    omega

/-- The slot that is served is the first of them. -/
theorem Service.upcoming_eq
    {index mark : Nat}
    {vacancies : Vacancies}
    (serving : pool.shelf.active = some active)
    (service : pool.Service active index mark vacancies) :
    pool.upcoming =
      active.slotAt index ::
        (pool.withRecord active mark vacancies).upcoming := by
  rw [upcoming_of_active serving]
  cases service with
  | reused highest settled =>
    rw [highest]
    rfl
  | extended compact room =>
    have left :
        active.capacity - active.live =
          active.capacity - (active.live + 1) + 1 := by
      omega
    have next :
        (pool.withRecord active (active.live + 1) pool.vacancies).upcoming =
          (pool.vacancies.stack ++
            List.range' (active.live + 1)
              (active.capacity - (active.live + 1))).map active.slotAt :=
      rfl
    rw [next, compact, left, List.nil_append, List.nil_append,
      List.range'_succ, List.map_cons]

/-- The vacancies among them are the slots below the mark that are not in use. -/
theorem Sound.mem_vacant_iff
    (sound : pool.Sound)
    (serving : pool.shelf.active = some active)
    {address : Nat} :
    address ∈ pool.vacancies.stack.map active.slotAt ↔
      address ∉ pool.addresses ∧
        ∃ index < active.live, address = active.slotAt index := by
  have settled := sound.settled_active serving
  simp only [List.mem_map]
  constructor
  · rintro ⟨index, vacant, rfl⟩
    rcases settled.mem_stack_iff.1 vacant with ⟨below, unused⟩
    rw [slotAt_mem_addresses_iff serving, inUse_of_active serving]
    exact ⟨unused, index, below, rfl⟩
  · rintro ⟨unused, index, below, rfl⟩
    rw [slotAt_mem_addresses_iff serving, inUse_of_active serving] at unused
    exact ⟨index, settled.mem_stack_iff.2 ⟨below, unused⟩, rfl⟩

theorem Sound.descending_vacant
    (sound : pool.Sound)
    (serving : pool.shelf.active = some active) :
    (pool.vacancies.stack.map active.slotAt).Pairwise (· > ·) := by
  have settled := sound.settled_active serving
  rw [List.pairwise_map]
  exact settled.descending.imp fun above => active.slotAt_lt_slotAt_iff.2 above

end Upcoming

/-! ## The allocations of a run -/

variable {σ : Type} [Provider σ]

/-- While slots are available, an allocation is served the first of them. -/
theorem Allocation.upcoming_eq
    {pool : Pool config}
    {memory : Memory σ}
    (sound : pool.Sound)
    (enough : 0 < pool.available)
    {outcome : Outcome (Pool config) σ Nat}
    (allocation : pool.Allocation memory outcome) :
    ∃ address, outcome.answer = .ok address ∧
      pool.upcoming = address :: outcome.pool.upcoming := by
  have whole := sound.available_add_card
  cases allocation with
  | served serving service => exact ⟨_, rfl, service.upcoming_eq serving⟩
  | refused full growth => omega
  | grown full growth serving service => omega

/-- The request is an allocation, or a change of the provider. -/
def Deal.allots (deal : Deal config σ) : Bool :=
  match deal.request with
  | .allocate | .supply _ => true
  | _ => false

/-- What the allocations were replied to, the oldest first. -/
def drawn (deals : List (Deal config σ)) : List Reply :=
  (deals.filter Deal.draws).reverse.map Deal.reply

theorem drawn_cons
    (deal : Deal config σ)
    (deals : List (Deal config σ)) :
    drawn (deal :: deals) = drawn deals ++ drawn [deal] := by
  cases draws : deal.draws <;> simp [drawn, draws]

/-- What one allocation is replied to is missing from what comes next. -/
theorem Deal.drawn_append
    [SeparatingProvider σ]
    (deal : Deal config σ)
    (balanced : deal.before.pool.Balanced deal.before.memory)
    (allots : deal.allots = true)
    (enough : deal.draws = true → 0 < deal.before.pool.available) :
    drawn [deal] ++ deal.after.pool.upcoming.map .ofAddress =
      deal.before.pool.upcoming.map .ofAddress := by
  rcases deal with ⟨world, request⟩
  cases request with
  | allocate =>
    rcases (allocate_spec balanced).upcoming_eq balanced.sound (enough rfl)
      with ⟨address, answer, next⟩
    have replied : Deal.reply ⟨world, .allocate⟩ = .ofAddress address := by
      simp only [reply_allocate, answer]
      rfl
    rw [next, List.map_cons, ← replied]
    rfl
  | supply provider => rfl
  | _ => cases allots

/-- The deals do not tell which provider there is, but they tell the pool. -/
theorem Run.pool_eq
    {deals : List (Deal config σ)}
    {left right : World config σ}
    (first : Run deals left)
    (second : Run deals right) :
    left.pool = right.pool := by
  cases first with
  | start provider =>
    cases second with
    | start other => rfl
  | next run request =>
    cases second with
    | next other request => rfl

section Run

variable [SeparatingProvider σ]
variable {deals later : List (Deal config σ)} {world final : World config σ}

/-- What was served and what is still to come make up one list. -/
theorem Run.drawn_append
    (run : Run deals world)
    (continued : Run (later ++ deals) final)
    (allots : ∀ deal ∈ later, deal.allots = true)
    (budget : later.countP Deal.draws ≤ world.pool.available) :
    (∀ deal ∈ later, deal.Steady) ∧
      final.pool.available + later.countP Deal.draws = world.pool.available ∧
        drawn later ++ final.pool.upcoming.map .ofAddress =
          world.pool.upcoming.map .ofAddress := by
  induction later generalizing final with
  | nil =>
    rw [Run.pool_eq continued run]
    exact ⟨nofun, rfl, rfl⟩
  | cons deal rest ih =>
    -- The newest deal is on top, so its reply comes after those of the rest.
    rw [List.forall_mem_cons] at allots
    rw [countP_cons_eq_toNat] at budget ⊢
    cases continued with
    | @next _ before continued request =>
      rcases ih continued allots.2 (by omega) with ⟨steady, left, listed⟩
      have enough
          (draws : Deal.draws ⟨before, request⟩ = true) :
          0 < before.pool.available := by
        rw [draws, Bool.toNat_true] at budget
        omega
      have churns : Deal.churns ⟨before, request⟩ = true := by
        cases request <;> first | rfl | cases allots.1
      have unregained : Deal.regains ⟨before, request⟩ = false := by
        cases request <;> first | rfl | cases allots.1
      rcases Deal.churned ⟨before, request⟩ continued.balanced churns enough
        with ⟨newest, changed⟩
      have step :=
        Deal.drawn_append ⟨before, request⟩ continued.balanced allots.1 enough
      rw [unregained] at changed
      refine ⟨List.forall_mem_cons.2 ⟨newest, steady⟩, ?_, ?_⟩
      · dsimp only [Bool.toNat_false] at changed
        omega
      · rw [drawn_cons, List.append_assoc, step]
        exact listed

end Run

/-! ## The first slot of a new slab -/

section Fresh

variable {pool grown : Pool config} {memory after : Memory σ}

theorem Growth.slotAt_eq_base
    {required index mark : Nat}
    {vacancies : Vacancies}
    {slab : Slab config.geometry}
    (growth : pool.Growth required memory ⟨.ok (), grown, after⟩)
    (serving : grown.shelf.active = some slab)
    (service : grown.Service slab index mark vacancies) :
    slab.slotAt index = slab.base := by
  cases growth with
  | replaced bounded capacity untouched granted demotion fits journal =>
    cases serving
    cases service with
    | reused highest settled => cases highest
    | extended compact room => simp [Slab.slotAt, untouched]

/-- Without available slots, only the first slot of a new slab is served. -/
theorem Allocation.of_unavailable
    (sound : pool.Sound)
    (unavailable : pool.available = 0)
    {outcome : Outcome (Pool config) σ Nat}
    (allocation : pool.Allocation memory outcome)
    {address : Nat}
    (answer : outcome.answer = .ok address) :
    memory.activates outcome.memory = true ∧
      ∃ fresh, outcome.pool.shelf.active = some fresh ∧
        fresh.base = address := by
  cases allocation with
  | served serving service =>
    have drawn := service.available_eq sound serving
    omega
  | refused full growth => cases answer
  | grown full growth serving service =>
    cases answer
    have first := growth.slotAt_eq_base serving service
    exact ⟨growth.activates, _, rfl, first.symm⟩

end Fresh

section Run

variable [SeparatingProvider σ]
variable {deals : List (Deal config σ)} {world final : World config σ}

/-- An allocation that finds no slot grows the pool, or fails. -/
theorem Run.grows
    (run : Run deals final)
    (unavailable : final.pool.available = 0) :
    Deal.queries ⟨final, .allocate⟩ ≠ [] ∧
      ∀ address,
        Deal.reply ⟨final, .allocate⟩ = .ofAddress address →
          Deal.renews ⟨final, .allocate⟩ = true ∧
            ∃ fresh,
              (Deal.after ⟨final, .allocate⟩).pool.shelf.active = some fresh ∧
                fresh.base = address := by
  refine ⟨(queries_allocate_ne_nil_iff run.balanced).2 unavailable, ?_⟩
  intro address replied
  have allocation := allocate_spec run.balanced
  have answer : (final.pool.allocate final.memory).answer = .ok address := by
    rw [Deal.reply_allocate] at replied
    revert replied
    cases (final.pool.allocate final.memory).answer with
    | error stop => exact nofun
    | ok served =>
      rintro ⟨⟩
      rfl
  exact allocation.of_unavailable run.balanced.sound unavailable answer

/--
With an active slab of `capacity` slots, `live` of which are below the mark, the
next allocations are served without any request: first the vacant slots, from
the highest to the lowest, and then those above the mark, from the lowest to the
highest.  An allocation after them asks for memory, and is served the base of a
new slab unless it fails.
-/
theorem sequence_of_run
    (run : Run deals world)
    {active : Slab config.geometry}
    (serving : world.pool.shelf.active = some active) :
    let vacant := world.pool.vacancies.stack.map active.slotAt
    let untouched :=
      (List.range (active.capacity - active.live)).map fun offset =>
        active.base + (active.live + offset) * config.geometry.stride
    vacant.length = world.pool.vacancies.size ∧
      vacant.Pairwise (· > ·) ∧
      (∀ address,
        address ∈ vacant ↔
          address ∉ issued deals ∧
            ∃ index < active.live,
              address = active.base + index * config.geometry.stride) ∧
      ∀ later final,
        Run (later ++ deals) final →
        (∀ deal ∈ later, deal.allots = true) →
        later.countP Deal.draws =
          world.pool.vacancies.size + (active.capacity - active.live) →
        (∀ deal ∈ later, deal.Steady) ∧
          drawn later = (vacant ++ untouched).map .ofAddress ∧
          Deal.queries ⟨final, .allocate⟩ ≠ [] ∧
          ∀ address,
            Deal.reply ⟨final, .allocate⟩ = .ofAddress address →
              Deal.renews ⟨final, .allocate⟩ = true ∧
                ∃ fresh,
                  (Deal.after ⟨final, .allocate⟩).pool.shelf.active =
                      some fresh ∧
                    fresh.base = address := by
  intro vacant untouched
  have sound := run.balanced.sound
  have listed : world.pool.upcoming = vacant ++ untouched := by
    rw [upcoming_of_active serving, List.map_append, List.range'_eq_map_range,
      List.map_map]
    rfl
  refine ⟨List.length_map _, sound.descending_vacant serving, ?_, ?_⟩
  · intro address
    rw [run.issued_eq]
    exact sound.mem_vacant_iff serving
  · intro later final continued allots spends
    have whole := sound.length_upcoming
    have counted :
        (vacant ++ untouched).length =
          world.pool.vacancies.size + (active.capacity - active.live) := by
      simp [vacant, untouched, Vacancies.size]
    rw [listed, counted, ← spends] at whole
    rcases run.drawn_append continued allots (Nat.le_of_eq whole) with
      ⟨steady, left, together⟩
    have spent : final.pool.available = 0 := by omega
    have last : final.pool.upcoming = [] := by
      apply List.eq_nil_of_length_eq_zero
      rw [continued.balanced.sound.length_upcoming, spent]
    rw [last, listed, List.map_nil, List.append_nil] at together
    exact ⟨steady, together, continued.grows spent⟩

end Run

/-- Of the four slots of the third slab, the lower two are vacant, the last new. -/
def Sample.holed : List (Request Arena) :=
  [.remove (Arena.origin + 40), .remove (Arena.origin + 48)] ++
    List.replicate 8 .allocate

/-- Three allocations, two of them while everything is refused. -/
def Sample.filling : List (Request Arena) :=
  [.allocate, .allocate,
    .supply
      { Sample.arena with
        refused := [.slots, .retirement, .marks, .vacancies] },
    .allocate]

theorem sequence_of_filling :
    let deals : List (Deal Sample.config Arena) :=
      history Sample.arena (Sample.filling ++ Sample.holed)
    let final : World Sample.config Arena :=
      reached Sample.arena (Sample.filling ++ Sample.holed)
    drawn (deals.take Sample.filling.length) =
        [Arena.origin + 48, Arena.origin + 40, Arena.origin + 64].map
          .ofAddress ∧
      Deal.queries ⟨final, .allocate⟩ ≠ [] := by
  intro deals final
  let world : World Sample.config Arena := reached Sample.arena Sample.holed
  have run : Run (history Sample.arena Sample.holed) world :=
    run_history Sample.arena Sample.holed
  have serving :
      world.pool.shelf.active = some ⟨Arena.origin + 40, 4, 3⟩ := by
    decide +kernel
  have continued : Run deals final :=
    run_history Sample.arena (Sample.filling ++ Sample.holed)
  have stack : world.pool.vacancies.stack = [1, 0] := by decide +kernel
  rcases (sequence_of_run run serving).2.2.2
      (deals.take Sample.filling.length) final continued
      (by decide +kernel) (by decide +kernel) with
    ⟨-, served, asks, -⟩
  rw [stack] at served
  exact ⟨served, asks⟩

end Pool

end SlabPool
