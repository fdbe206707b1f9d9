import SlabPool.Proofs.Issued
import SlabPool.Proofs.Queries

/-!
# Reservations are honoured

A pool can hand out as many slots without any request as its active slab has
slots that are not in use.  An allocation draws one of them, and the removal of
an item of the active slab regains one, whatever holes there are; nothing else
that is done between them makes a difference (`Deal.churned`).

So a reservation of `n` slots is good for as long as no more than `n` more were
drawn than regained: `reservation_of_run`.
-/

namespace SlabPool.Pool

variable {config : Config} {σ : Type} [Provider σ]

/-! ## What is available -/

section Available

variable {pool : Pool config} {memory : Memory σ}

omit [Provider σ] in
theorem Sound.card_inUse_le
    (sound : pool.Sound) :
    pool.inUse.card ≤ pool.activeCapacity := by
  have split := sound.card_inUse
  have marked := sound.settled.mark_le
  omega

omit [Provider σ] in
/-- What is available makes up for what is in use. -/
theorem Sound.available_add_card
    (sound : pool.Sound) :
    pool.available + pool.inUse.card = pool.activeCapacity := by
  have used := sound.card_inUse_le
  rw [sound.available_eq]
  omega

omit [Provider σ] in
/-- Another record of the active slab leaves its capacity. -/
theorem activeCapacity_withRecord
    {active : Slab config.geometry}
    (serving : pool.shelf.active = some active)
    (mark : Nat)
    (vacancies : Vacancies) :
    (pool.withRecord active mark vacancies).activeCapacity =
      pool.activeCapacity := by
  rw [activeCapacity_of_active serving, activeCapacity_of_active rfl]

omit [Provider σ] in
/-- A slot that is served is no longer available. -/
theorem Service.available_eq
    (sound : pool.Sound)
    {active : Slab config.geometry}
    (serving : pool.shelf.active = some active)
    {index mark : Nat}
    {vacancies : Vacancies}
    (service : pool.Service active index mark vacancies) :
    (pool.withRecord active mark vacancies).available + 1 =
      pool.available := by
  have before := sound.available_add_card
  have after :=
    (sound.withRecord serving
      (service.settled sound serving)).available_add_card
  have used := service.card_inUse sound serving
  rw [activeCapacity_withRecord serving] at after
  omega

omit [Provider σ] in
/-- A slot that is released is available again. -/
theorem Release.available_eq
    (sound : pool.Sound)
    {active : Slab config.geometry}
    (serving : pool.shelf.active = some active)
    {index mark : Nat}
    {vacancies : Vacancies}
    (release : pool.Release active index mark vacancies) :
    (pool.withRecord active mark vacancies).available =
      pool.available + 1 := by
  have before := sound.available_add_card
  have after :=
    (sound.withRecord serving release.settled).available_add_card
  have used := release.card_inUse sound serving
  rw [activeCapacity_withRecord serving] at after
  omega

/-- A growth makes all slots of the new slab available. -/
theorem Growth.available_eq
    [SeparatingProvider σ]
    (balanced : pool.Balanced memory)
    {required : Nat}
    {grown : Pool config}
    {after : Memory σ}
    (growth : pool.Growth required memory ⟨.ok (), grown, after⟩) :
    grown.available = pool.grownCapacity required := by
  have sound := (growth.balanced balanced).sound
  cases growth with
  | replaced bounded capacity untouched granted demotion fits journal =>
    have whole := sound.available_add_card
    rwa [inUse_renewed untouched, Finset.card_empty, Nat.add_zero,
      activeCapacity_of_active rfl, capacity] at whole

theorem Growth.le_available
    [SeparatingProvider σ]
    (balanced : pool.Balanced memory)
    {required : Nat}
    {grown : Pool config}
    {after : Memory σ}
    (growth : pool.Growth required memory ⟨.ok (), grown, after⟩) :
    required ≤ grown.available := by
  rw [growth.available_eq balanced]
  exact Nat.le_max_left required pool.hint

/-- A reservation that succeeds makes what was asked for available. -/
theorem le_available_of_reserve
    [SeparatingProvider σ]
    (balanced : pool.Balanced memory)
    {additional : Nat}
    (reserved : (pool.reserve additional memory).answer = .ok ()) :
    additional ≤ (pool.reserve additional memory).pool.available := by
  rcases reserve_cases balanced additional with
    ⟨enough, same⟩ | ⟨-, growth⟩
  · rw [same]
    exact enough
  · generalize pool.reserve additional memory = outcome at reserved growth ⊢
    rcases outcome with ⟨_, grown, after⟩
    cases reserved
    exact growth.le_available balanced

end Available

/-! ## What allocations and removals do to it -/

namespace Deal

/-- A slot is asked for. -/
def draws (deal : Deal config σ) : Bool :=
  match deal.request with
  | .allocate => true
  | _ => false

/-- An item of the active slab was removed. -/
def regains (deal : Deal config σ) : Bool :=
  match deal.request with
  | .remove address =>
    decide (deal.reply = .done) &&
      deal.before.pool.shelf.active.any fun active => active.covers address
  | _ => false

/-- The request is an allocation, a removal, or a change of the provider. -/
def churns (deal : Deal config σ) : Bool :=
  match deal.request with
  | .allocate | .remove _ | .supply _ => true
  | _ => false

/-- The active slab stays, and an allocation is served without any request. -/
structure Steady (deal : Deal config σ) : Prop where
  seat :
    deal.after.pool.shelf.active.map Slab.block =
      deal.before.pool.shelf.active.map Slab.block
  unrenewed : deal.renews = false
  served :
    deal.request = .allocate →
      (∃ address, deal.reply = .number (some address)) ∧
        deal.after.memory = deal.before.memory

end Deal

section Churn

variable {pool : Pool config} {memory : Memory σ}

omit [Provider σ] in
theorem available_congr
    {left right : Pool config}
    (active : left.shelf.active = right.shelf.active)
    (vacancies : left.vacancies = right.vacancies) :
    left.available = right.available := by
  rw [available, available, active, vacancies]

/-- While slots are available, an allocation draws one and asks for nothing. -/
theorem Allocation.of_available
    (sound : pool.Sound)
    (enough : 0 < pool.available)
    {outcome : Outcome (Pool config) σ Nat}
    (allocation : pool.Allocation memory outcome) :
    (∃ address, outcome.answer = .ok address) ∧
      outcome.memory = memory ∧
        outcome.pool.available + 1 = pool.available ∧
          outcome.pool.shelf.active.map Slab.block =
            pool.shelf.active.map Slab.block := by
  have whole := sound.available_add_card
  cases allocation with
  | served serving service =>
    refine ⟨⟨_, rfl⟩, rfl, service.available_eq sound serving, ?_⟩
    rw [serving]
    rfl
  | refused full growth => omega
  | grown full growth serving service => omega

omit [Provider σ] in
/-- A removal regains a slot if it succeeds in the active slab, and only then. -/
theorem Removal.regained
    (sound : pool.Sound)
    {address : Nat}
    {outcome : Outcome (Pool config) σ Unit}
    (removal : pool.Removal address memory outcome) :
    memory.activates outcome.memory = false ∧
    outcome.pool.shelf.active.map Slab.block =
      pool.shelf.active.map Slab.block ∧
    outcome.pool.available =
      pool.available +
        (decide
            (Reply.ofAnswer (fun _ => Reply.done) outcome.answer = .done) &&
          pool.shelf.active.any fun active => active.covers address).toNat := by
  -- An address in a retired slab is not in the active one.
  have uncovered
      {position : Nat}
      {slab : Slab config.geometry}
      (found : pool.shelf.retired[position]? = some slab)
      (starts : slab.Starts address) :
      (pool.shelf.active.any fun active => active.covers address) = false := by
    cases serving : pool.shelf.active with
    | none => rfl
    | some active =>
      rw [Option.any_some, ← Bool.not_eq_true,
        Slab.covers_iff (sound.orderly.sited_active serving)]
      exact fun inside =>
        sound.orderly.outside_of_active serving
          (List.mem_of_getElem? found) inside starts.mem_extent
  cases removal with
  | foreign nowhere => exact ⟨activates_of_undisturbed (.refl _), rfl, rfl⟩
  | vacant serving inside addressed unused =>
    exact ⟨activates_of_undisturbed (.refl _), rfl, rfl⟩
  | refused serving addressed used below undisturbed =>
    exact ⟨activates_of_undisturbed undisturbed, rfl, rfl⟩
  | @released active index mark vacancies after serving addressed release
      undisturbed =>
    subst addressed
    have used := release.mem_inUse sound serving
    rw [inUse_of_active serving] at used
    have starts : active.Starts (active.slotAt index) :=
      ⟨index, (sound.settled_active serving).lt_of_mem_inUse used, rfl⟩
    have covered :=
      (Slab.covers_iff (sound.orderly.sited_active serving)).2
        starts.mem_extent
    refine ⟨activates_of_undisturbed undisturbed, ?_, ?_⟩
    · rw [serving]
      rfl
    · rw [release.available_eq sound serving, serving, Option.any_some,
        covered]
      rfl
  | counted found starts several =>
    rw [uncovered found starts, Bool.and_false]
    exact
      ⟨activates_of_retiredItemRemoved rfl (Or.inl rfl), rfl,
        available_congr rfl rfl⟩
  | emptied found starts last =>
    rw [uncovered found starts, Bool.and_false]
    exact
      ⟨activates_of_retiredItemRemoved rfl (Or.inr ⟨_, rfl⟩), rfl,
        available_congr rfl rfl⟩

/-- What is available changes by the slots drawn and regained. -/
theorem Deal.churned
    [SeparatingProvider σ]
    (deal : Deal config σ)
    (balanced : deal.before.pool.Balanced deal.before.memory)
    (churns : deal.churns = true)
    (enough : deal.draws = true → 0 < deal.before.pool.available) :
    deal.Steady ∧
      deal.after.pool.available + deal.draws.toNat =
        deal.before.pool.available + deal.regains.toNat := by
  rcases deal with ⟨⟨pool, memory⟩, request⟩
  have sound := balanced.sound
  cases request with
  | allocate =>
    rcases (allocate_spec balanced).of_available sound (enough rfl) with
      ⟨⟨address, answer⟩, kept, drawn, seat⟩
    refine ⟨⟨seat, ?_, ?_⟩, drawn⟩
    · show memory.activates (pool.allocate memory).memory = false
      rw [kept]
      exact activates_of_undisturbed (.refl memory)
    · intro _
      rw [reply_allocate, answer]
      exact ⟨⟨address, rfl⟩, kept⟩
  | remove address =>
    rcases (remove_spec sound address memory).regained sound with
      ⟨unrenewed, seat, regained⟩
    exact ⟨⟨seat, unrenewed, nofun⟩, regained⟩
  | supply provider =>
    exact ⟨⟨rfl, activates_of_undisturbed ⟨rfl, rfl⟩, nofun⟩, rfl⟩
  | reserve additional => cases churns
  | contains address => cases churns
  | clear => cases churns
  | destroy => cases churns
  | slotsInUse => cases churns

end Churn

/-! ## When an allocation asks for memory -/

section Full

variable {pool : Pool config} {memory : Memory σ}

omit [Provider σ] in
theorem memory_extend
    (pool : Pool config)
    (memory : Memory σ) :
    (pool.extend memory).memory = memory := by
  unfold extend
  cases pool.shelf.active with
  | none => rfl
  | some active =>
    dsimp only
    rcases active.bump with breach | ⟨index, bumped⟩ <;> rfl

omit [Provider σ] in
/-- A pool with nothing available has no vacancy and no room above its mark. -/
theorem Sound.exhausted_of_unavailable
    (sound : pool.Sound)
    (unavailable : pool.available = 0) :
    pool.vacancies.stack = [] ∧ pool.isExhausted = true := by
  have whole := sound.available_add_card
  have split := sound.card_inUse
  have marked := sound.settled.mark_le
  refine ⟨List.eq_nil_of_length_eq_zero ?_, ?_⟩
  · show pool.vacancies.size = 0
    omega
  · cases serving : pool.shelf.active with
    | none => rw [isExhausted, serving]
    | some active =>
      rw [activeCapacity_of_active serving] at whole marked
      rw [highWater_of_active serving] at split marked
      rw [isExhausted, serving]
      exact decide_eq_true (show active.capacity ≤ active.live by omega)

/-- A pool with nothing available grows, and then serves the slot at its mark. -/
theorem Sound.allocate_of_unavailable
    (sound : pool.Sound)
    (unavailable : pool.available = 0)
    (memory : Memory σ) :
    pool.allocate memory =
      match pool.grow 1 memory with
      | ⟨.error stop, pool, memory⟩ => ⟨.error stop, pool, memory⟩
      | ⟨.ok (), pool, memory⟩ => pool.extend memory := by
  rcases sound.exhausted_of_unavailable unavailable with ⟨compact, exhausted⟩
  rw [allocate, Vacancies.takeHighest, compact]
  dsimp only
  refine (if_pos exhausted).trans ?_
  rcases pool.grow 1 memory with ⟨stop | done, grown, after⟩ <;> rfl

/-- Such an allocation asks for what the growth asks for. -/
theorem Sound.memory_allocate
    (sound : pool.Sound)
    (unavailable : pool.available = 0)
    (memory : Memory σ) :
    (pool.allocate memory).memory = (pool.grow 1 memory).memory := by
  rw [sound.allocate_of_unavailable unavailable]
  rcases pool.grow 1 memory with ⟨stop | done, grown, after⟩
  · rfl
  · exact memory_extend grown after

/-- The slot at the mark of a new slab is what an allocation serves. -/
theorem Growth.extend_eq
    [SeparatingProvider σ]
    (balanced : pool.Balanced memory)
    {grown : Pool config}
    {after : Memory σ}
    (growth : pool.Growth 1 memory ⟨.ok (), grown, after⟩) :
    grown.extend after = grown.allocate after := by
  have sound : grown.Sound := (growth.balanced balanced).sound
  have whole := sound.available_add_card
  have enough := growth.le_available balanced
  have compact : grown.vacancies.stack = [] := by
    cases growth with
    | replaced => rfl
  have roomy : ¬ grown.isExhausted = true := by
    intro exhausted
    have full := sound.card_inUse_of_exhausted compact exhausted
    omega
  rw [allocate, Vacancies.takeHighest, compact]
  dsimp only
  rw [if_neg roomy]

/-- An allocation asks for memory just if there is nothing available. -/
theorem queries_allocate_ne_nil_iff
    [SeparatingProvider σ]
    {world : World config σ}
    (balanced : world.pool.Balanced world.memory) :
    Deal.queries ⟨world, .allocate⟩ ≠ [] ↔ world.pool.available = 0 := by
  have sound := balanced.sound
  constructor
  · intro some
    by_contra enough
    exact some
      (Deal.queries_eq_nil
        ((allocate_spec balanced).of_available sound
          (Nat.pos_of_ne_zero enough)).2.1)
  · intro unavailable none
    have asked := Deal.queries_after ⟨world, .allocate⟩
    have grown :=
      world.pool.length_queries_grow config.geometry.limit_pos
        sound.hint_le_limit world.memory
    rw [none, List.nil_append] at asked
    change (world.pool.allocate world.memory).memory.queries = _ at asked
    rw [sound.memory_allocate unavailable] at asked
    rw [asked] at grown
    exact Nat.lt_irrefl _ grown

omit [Provider σ] in
/-- Nothing is available just if every slot of the active slab is in use. -/
theorem Sound.available_eq_zero_iff
    (sound : pool.Sound) :
    pool.available = 0 ↔
      pool.shelf.active = none ∨
        ∃ active, pool.shelf.active = some active ∧
          ∀ index < active.capacity,
            active.slotAt index ∈ pool.addresses := by
  have whole := sound.available_add_card
  cases serving : pool.shelf.active with
  | none =>
    rw [activeCapacity, serving] at whole
    exact ⟨fun _ => Or.inl rfl, fun _ => Nat.eq_zero_of_add_eq_zero_right whole⟩
  | some active =>
    rw [activeCapacity_of_active serving] at whole
    have within : pool.inUse ⊆ Finset.range active.capacity := by
      intro index used
      rw [inUse_of_active serving] at used
      exact
        Finset.mem_range.2 ((sound.settled_active serving).lt_of_mem_inUse used)
    simp only [reduceCtorEq, false_or, Option.some.injEq, exists_eq_left',
      slotAt_mem_addresses_iff serving]
    constructor
    · intro unavailable index inside
      have same : pool.inUse = Finset.range active.capacity :=
        Finset.eq_of_subset_of_card_le within
          (by rw [Finset.card_range]; omega)
      rw [same]
      exact Finset.mem_range.2 inside
    · intro full
      have covers : Finset.range active.capacity ⊆ pool.inUse :=
        fun index member => full index (Finset.mem_range.1 member)
      have counted := Finset.card_le_card covers
      rw [Finset.card_range] at counted
      omega

end Full

/-! ## Reservations in a run -/

omit [Provider σ] in
theorem eq_ok_of_ofAnswer_eq_done
    {answer : Except Stop Unit}
    (done : Reply.ofAnswer (fun _ => .done) answer = .done) :
    answer = .ok () := by
  cases answer with
  | ok _ => rfl
  | error stop => cases done

omit [Provider σ] in
theorem countP_cons_eq_toNat
    {α : Type}
    (test : α → Bool)
    (entry : α)
    (entries : List α) :
    (entry :: entries).countP test =
      entries.countP test + (test entry).toNat := by
  rw [List.countP_cons]
  cases test entry <;> rfl

theorem Deal.regains_of_draws
    {deal : Deal config σ}
    (draws : deal.draws = true) :
    deal.regains = false := by
  rcases deal with ⟨before, request⟩
  cases request <;> first | rfl | cases draws

section Run

variable [SeparatingProvider σ]
variable {deals : List (Deal config σ)} {world final : World config σ}

/-- What was reserved is available, but for what was drawn and not regained. -/
theorem Run.reserved
    {additional : Nat}
    {later : List (Deal config σ)}
    (reserved : Deal.reply ⟨world, .reserve additional⟩ = .done)
    (run : Run (later ++ ⟨world, .reserve additional⟩ :: deals) final)
    (churns : ∀ deal ∈ later, deal.churns = true)
    (budget :
      ∀ recent, recent <:+ later →
        recent.countP Deal.draws ≤
          additional + recent.countP Deal.regains) :
    (∀ deal ∈ later, deal.Steady) ∧
      additional + later.countP Deal.regains ≤
        final.pool.available + later.countP Deal.draws := by
  induction later generalizing final with
  | nil =>
    cases run with
    | next run _ =>
      exact
        ⟨nofun,
          le_available_of_reserve run.balanced
            (eq_ok_of_ofAnswer_eq_done reserved)⟩
  | cons deal rest ih =>
    rw [List.forall_mem_cons] at churns
    cases run with
    | @next _ before run request =>
      rcases ih run churns.2 fun recent earlier =>
          budget recent (earlier.trans (List.suffix_cons _ _)) with
        ⟨steady, covered⟩
      have afforded := budget _ List.suffix_rfl
      rw [countP_cons_eq_toNat, countP_cons_eq_toNat] at afforded ⊢
      have enough
          (draws : Deal.draws ⟨before, request⟩ = true) :
          0 < before.pool.available := by
        rw [draws, Deal.regains_of_draws draws, Bool.toNat_true,
          Bool.toNat_false] at afforded
        omega
      rcases Deal.churned ⟨before, request⟩ run.balanced churns.1 enough with
        ⟨newest, changed⟩
      refine ⟨List.forall_mem_cons.2 ⟨newest, steady⟩, ?_⟩
      dsimp only at changed
      omega

/--
Once a reservation has succeeded, allocations are served without any request
and the active slab stays, whatever is removed and whatever is refused, as long
as no more slots were drawn than reserved and regained together.  In any world,
an allocation asks for memory just if there is no active slab or all its slots
are in use, the available slots are those of the active slab that are not, and a
reservation of no more than these changes nothing.
-/
theorem reservation_of_run
    (run : Run deals world) :
    (∀ additional later final,
      Deal.reply ⟨world, .reserve additional⟩ = .done →
      Run (later ++ ⟨world, .reserve additional⟩ :: deals) final →
      (∀ deal ∈ later, deal.churns = true) →
      (∀ recent, recent <:+ later →
        recent.countP Deal.draws ≤
          additional + recent.countP Deal.regains) →
      ∀ deal ∈ later, deal.Steady) ∧
    (Deal.queries ⟨world, .allocate⟩ ≠ [] ↔
      world.pool.shelf.active = none ∨
        ∃ active, world.pool.shelf.active = some active ∧
          ∀ index < active.capacity,
            active.slotAt index ∈ issued deals) ∧
    world.pool.available + (issued deals).card = world.pool.activeCapacity ∧
    ∀ additional ≤ world.pool.available,
      Deal.reply ⟨world, .reserve additional⟩ = .done ∧
        Deal.after ⟨world, .reserve additional⟩ = world := by
  have balanced := run.balanced
  have sound := balanced.sound
  rw [run.issued_eq, ← sound.available_eq_zero_iff, card_addresses sound]
  refine
    ⟨?_, queries_allocate_ne_nil_iff balanced, sound.available_add_card, ?_⟩
  · intro additional later final reserved continued churns budget
    exact (continued.reserved reserved churns budget).1
  · intro additional enough
    have same :
        world.pool.reserve additional world.memory =
          ⟨.ok (), world.pool, world.memory⟩ :=
      if_pos enough
    refine ⟨?_, ?_⟩
    · rw [Deal.reply_reserve, same]
      rfl
    · show World.ofOutcome (world.pool.reserve additional world.memory) = world
      rw [same]
      rfl

end Run

/-- Three slots in two slabs, and a reservation of two more. -/
def Sample.reserving : List (Request Arena) :=
  [.reserve 2, .allocate, .allocate, .allocate]

/--
Three slots are drawn and one is regained in between; the last two draws come
while everything is refused, beside removals that regain nothing.
-/
def Sample.churning : List (Request Arena) :=
  [.allocate, .remove (Arena.origin + 1), .remove Arena.origin, .allocate,
    .supply
      { Sample.arena with
        refused := [.slots, .retirement, .marks, .vacancies] },
    .remove (Arena.origin + 16), .allocate]

theorem reservation_of_churning :
    let deals : List (Deal Sample.config Arena) :=
      history Sample.arena (Sample.churning ++ Sample.reserving)
    let later := deals.take Sample.churning.length
    later.countP Deal.draws = 3 ∧ later.countP Deal.regains = 1 ∧
      ∀ deal ∈ later, deal.Steady := by
  intro deals later
  have run : Run deals _ :=
    run_history Sample.arena (Sample.churning ++ Sample.reserving)
  have budget :
      ∀ recent ∈ later.tails,
        recent.countP Deal.draws ≤ 2 + recent.countP Deal.regains := by
    decide +kernel
  refine ⟨by decide +kernel, by decide +kernel, ?_⟩
  exact
    (reservation_of_run
        (run_history Sample.arena [.allocate, .allocate, .allocate])).1
      2 later _ (by decide +kernel) run (by decide +kernel)
      fun recent suffix => budget recent ((List.mem_tails _ _).2 suffix)

end SlabPool.Pool
