import SlabPool.Proofs.Accounting
import SlabPool.Proofs.Verdict

/-!
# The hint, and how large slabs are

The hint of a pool is stored, but it is a function of the active slab: what the
rule makes of its capacity, or the least capacity if there is none.  It is also
a lower bound on the capacity of the next slab, and the only one beside the
number of slots that the growth is asked for: a block is asked for by nothing
but growth, and it holds exactly the greater number of slots
(`Run.demand_of_mem_queries`).

Every slab lies in such a block, as the ledger knows where it came from.  So
`hint_of_run` bounds all capacities alike.
-/

namespace SlabPool

/-- A held block was granted at some time. -/
theorem Transaction.mem_of_holdings
    {ledger : List Transaction}
    {held : List Block}
    (holds : holdings ledger = some held)
    {block : Block}
    (member : block ∈ held) :
    .block block.size block.align (some block.base) ∈ ledger := by
  induction ledger generalizing held with
  | nil =>
    cases holds
    cases member
  | cons entry earlier ih =>
    rw [holdings, Option.bind_eq_some_iff] at holds
    rcases holds with ⟨before, earlierHolds, posted⟩
    have kept (heldBefore : block ∈ before) :=
      List.mem_cons_of_mem entry (ih earlierHolds heldBefore)
    cases entry with
    | block size align base =>
      cases base with
      | none =>
        cases posted
        exact kept member
      | some base =>
        cases posted
        rcases List.mem_cons.1 member with rfl | heldBefore
        · exact List.mem_cons_self
        · exact kept heldBefore
    | storage resource bytes granted =>
      cases posted
      exact kept member
    | returned spare =>
      rw [post] at posted
      split at posted
      case isTrue owned =>
        cases posted
        exact kept (List.mem_of_mem_erase member)
      case isFalse foreign => cases posted

/-- Only what is needed is asked for. -/
theorem Petition.mem_needs
    {needs : List Query}
    {decisions : List (Query × Bool)}
    {answer : Except Fault Unit}
    (petition : Petition needs decisions answer)
    {query : Query}
    {granted : Bool}
    (member : (query, granted) ∈ decisions) :
    query ∈ needs := by
  induction petition with
  | satisfied => cases member
  | refused first later =>
    cases List.mem_singleton.1 member
    exact List.mem_cons_self
  | granted first rest ih =>
    rcases List.mem_cons.1 member with same | later
    · cases same
      exact List.mem_cons_self
    · exact List.mem_cons_of_mem _ (ih later)

namespace Pool

variable {config : Config} {σ : Type}

@[simp]
theorem block_mem_needs
    {pool : Pool config}
    {capacity size align : Nat} :
    .block size align ∈ pool.needs capacity ↔
      size = config.geometry.stride * capacity ∧
        align = config.geometry.item.align := by
  unfold needs
  split <;> simp

/-- No block is needed to give a slot back. -/
theorem Verdict.block_not_mem
    {pool : Pool config}
    {used : Finset Nat}
    {address size align : Nat}
    {reply : Reply}
    {decisions : List (Query × Bool)}
    {granted : Bool}
    (verdict : pool.Verdict used address reply decisions) :
    (.block size align, granted) ∉ decisions := by
  cases verdict with
  | foreign nowhere => exact List.not_mem_nil
  | vacant serving starts unused => exact List.not_mem_nil
  | free known roomy => exact List.not_mem_nil
  | granted cramped => simp [Vacancies.need]
  | refused cramped => simp [Vacancies.need]

/-- How many slots growth is asked for, if the request can lead to growth. -/
def Request.demand : Request σ → Option Nat
  | .allocate => some 1
  | .reserve additional => some additional
  | _ => none

variable [Provider σ]

/-! ## What the deals of a run ask for -/

section Run

variable {deals : List (Deal config σ)} {world : World config σ}

/-- Every deal of a run was made in a world of a run. -/
theorem Run.exists_of_mem
    (run : Run deals world)
    {deal : Deal config σ}
    (member : deal ∈ deals) :
    ∃ earlier, Run earlier deal.before := by
  induction run with
  | start provider => cases member
  | next run request ih =>
    rcases List.mem_cons.1 member with rfl | earlier
    · exact ⟨_, run⟩
    · exact ih earlier

/-- The ledger lists the dealings of all deals. -/
theorem Run.ledger_eq
    (run : Run deals world) :
    world.memory.ledger = deals.flatMap fun deal => deal.report.dealings := by
  induction run with
  | start provider => rfl
  | @next deals world run request ih =>
    rcases Deal.ledger_suffix ⟨world, request⟩ with ⟨entries, ledger⟩
    have dealings : (Deal.report ⟨world, request⟩).dealings = entries :=
      Memory.dealingsTo_eq ledger.symm
    rw [List.flatMap_cons, dealings, ← ih]
    exact ledger.symm

variable [SeparatingProvider σ]

/-- An allocation that has to grow makes the requests of a growth by one slot. -/
theorem World.allocate_of_unavailable
    (balanced : world.pool.Balanced world.memory)
    (unavailable : world.pool.available = 0) :
    ∃ answer,
      Petition (world.pool.needs (max 1 world.pool.hint))
        (Deal.queries ⟨world, .allocate⟩).reverse answer := by
  rcases balanced.petitioned_grow config.geometry.limit_pos with
    ⟨answer, ⟨decisions, told, petition⟩, -⟩
  have same : Deal.queries ⟨world, .allocate⟩ = decisions.reverse := by
    apply Deal.queries_eq_of_after
    show (world.pool.allocate world.memory).memory.queries = _
    rw [balanced.sound.memory_allocate unavailable, told]
  rw [same, List.reverse_reverse]
  exact ⟨answer, petition⟩

/--
A block is asked for by growth only.  It holds as many slots as the growth is
asked for, or as the hint says if that is more.
-/
theorem Run.demand_of_mem_queries
    (run : Run deals world)
    {request : Request σ}
    {size align : Nat}
    {granted : Bool}
    (asked :
      (.block size align, granted) ∈ Deal.queries ⟨world, request⟩) :
    ∃ required,
      request.demand = some required ∧ required ≤ config.limit ∧
        size = config.geometry.stride * max required world.pool.hint ∧
          align = config.geometry.item.align := by
  have balanced := run.balanced
  have grows
      {required : Nat}
      {answer : Except Fault Unit}
      (petition :
        Petition (world.pool.needs (max required world.pool.hint))
          (Deal.queries ⟨world, request⟩).reverse answer) :
      size = config.geometry.stride * max required world.pool.hint ∧
        align = config.geometry.item.align :=
    block_mem_needs.1 (petition.mem_needs (List.mem_reverse.2 asked))
  cases request with
  | allocate =>
    rcases Nat.eq_zero_or_pos world.pool.available with unavailable | enough
    · rcases World.allocate_of_unavailable balanced unavailable with
        ⟨answer, petition⟩
      exact ⟨1, rfl, config.geometry.limit_pos, grows petition⟩
    · have served :=
        ((allocate_spec balanced).of_available balanced.sound enough).2.1
      have none : Deal.queries ⟨world, .allocate⟩ = [] :=
        Deal.queries_eq_nil served
      rw [none] at asked
      cases asked
  | reserve additional =>
    rcases Nat.lt_or_ge world.pool.available additional with short | enough
    · rcases Nat.lt_or_ge config.limit additional with beyond | bounded
      · rw [(World.reserve_of_beyond balanced.sound beyond).2] at asked
        cases asked
      · rcases World.reserve_of_short balanced short bounded with
          ⟨answer, petition, -⟩
        exact ⟨additional, rfl, bounded, grows petition⟩
    · rw [(World.reserve_of_available enough).2] at asked
      cases asked
  | remove address =>
    exact ((run.verdict address).block_not_mem asked).elim
  | contains address =>
    rw [Deal.queries_eq_nil rfl] at asked
    cases asked
  | clear =>
    have none : Deal.queries ⟨world, .clear⟩ = [] :=
      Deal.queries_eq_of_after (world.pool.queries_clear world.memory)
    rw [none] at asked
    cases asked
  | destroy =>
    have none : Deal.queries ⟨world, .destroy⟩ = [] :=
      Deal.queries_eq_of_after (world.pool.queries_destroy world.memory)
    rw [none] at asked
    cases asked
  | slotsInUse =>
    rw [Deal.queries_eq_nil rfl] at asked
    cases asked
  | supply provider =>
    have none : Deal.queries ⟨world, .supply provider⟩ = [] :=
      Deal.queries_eq_of_after rfl
    rw [none] at asked
    cases asked

/-- Each slab came from a growth, with the capacity that was due then. -/
theorem Run.exists_of_slab
    (run : Run deals world)
    {slab : Slab config.geometry}
    (member : slab ∈ world.pool.shelf.slabs) :
    ∃ deal ∈ deals, ∃ required,
      deal.request.demand = some required ∧ required ≤ config.limit ∧
        slab.capacity = max required deal.before.pool.hint ∧
          .block slab.bytes config.geometry.item.align (some slab.base) ∈
            deal.report.dealings := by
  have held : slab.block ∈ world.memory.held :=
    run.balanced.held.mem_iff.2 (List.mem_map_of_mem member)
  have listed := Transaction.mem_of_holdings run.accounted.ledger held
  rw [run.ledger_eq, List.mem_flatMap] at listed
  rcases listed with ⟨deal, dealt, granted⟩
  rcases run.exists_of_mem dealt with ⟨earlier, past⟩
  have asked :
      (.block slab.bytes config.geometry.item.align, true) ∈ deal.queries :=
    List.mem_filterMap.2 ⟨_, granted, rfl⟩
  rcases past.demand_of_mem_queries asked with
    ⟨required, demand, bounded, size, -⟩
  refine ⟨deal, dealt, required, demand, bounded, ?_, granted⟩
  exact Nat.eq_of_mul_eq_mul_left config.geometry.stride_pos size

/--
In every world of a run, whatever was requested and refused before, the hint is
the least capacity if there is no active slab, and else what the rule makes of
the capacity of the active slab.  It is between the least capacity and the
limit.

Every block that was ever asked for, granted or not, was to hold as many slots
as the growth was asked for, or as the hint said before it if that was more.
The slabs of the pool lie in such blocks, so that their capacities, too, are
between the least capacity and the limit.
-/
theorem hint_of_run
    (run : Run deals world) :
    world.pool.hint =
        (match world.pool.shelf.active with
        | none => min config.minimum config.limit
        | some active =>
          Config.nextCapacity active.capacity config.minimum config.limit) ∧
    min config.minimum config.limit ≤ world.pool.hint ∧
    world.pool.hint ≤ config.limit ∧
    (∀ deal ∈ deals, ∀ size align base,
      .block size align base ∈ deal.report.dealings →
        ∃ required capacity,
          deal.request.demand = some required ∧
            capacity = max required deal.before.pool.hint ∧
              size = config.geometry.stride * capacity ∧
                align = config.geometry.item.align ∧
                  min config.minimum config.limit ≤ capacity ∧
                    capacity ≤ config.limit) ∧
    ∀ slab ∈ world.pool.shelf.slabs,
      min config.minimum config.limit ≤ slab.capacity ∧
        slab.capacity ≤ config.limit ∧
          ∃ deal ∈ deals, ∃ required,
            deal.request.demand = some required ∧
              slab.capacity = max required deal.before.pool.hint ∧
                .block slab.bytes config.geometry.item.align
                    (some slab.base) ∈
                  deal.report.dealings := by
  have sound := run.balanced.sound
  -- What a growth in an earlier world makes room for is within the bounds.
  have bounds
      {deal : Deal config σ}
      (dealt : deal ∈ deals)
      {required : Nat}
      (bounded : required ≤ config.limit) :
      min config.minimum config.limit ≤ max required deal.before.pool.hint ∧
        max required deal.before.pool.hint ≤ config.limit := by
    rcases run.exists_of_mem dealt with ⟨earlier, past⟩
    have before := past.balanced.sound
    exact
      ⟨Nat.le_trans before.firstCapacity_le_hint (Nat.le_max_right _ _),
        Nat.max_le.2 ⟨bounded, before.hint_le_limit⟩⟩
  refine
    ⟨sound.hinted, sound.firstCapacity_le_hint, sound.hint_le_limit, ?_, ?_⟩
  · intro deal dealt size align base listed
    rcases run.exists_of_mem dealt with ⟨earlier, past⟩
    have asked : (.block size align, base.isSome) ∈ deal.queries :=
      List.mem_filterMap.2 ⟨_, listed, rfl⟩
    rcases past.demand_of_mem_queries asked with
      ⟨required, demand, bounded, sized, aligned⟩
    exact
      ⟨required, _, demand, rfl, sized, aligned, bounds dealt bounded⟩
  · intro slab member
    rcases run.exists_of_slab member with
      ⟨deal, dealt, required, demand, bounded, capacity, granted⟩
    rw [capacity]
    rcases bounds dealt bounded with ⟨least, greatest⟩
    exact
      ⟨least, greatest, deal, dealt, required, demand, rfl, granted⟩

end Run

/-- After a clearing the first slab is filled again, and a second one refused. -/
def Sample.starved : List (Request Arena) :=
  [.allocate, .supply { Sample.arena with refused := [.slots] }, .allocate,
    .allocate, .clear, .allocate]

/-- The hint is the number of slots of the block that was refused. -/
theorem hint_of_starved :
    let world : World Sample.config Arena :=
      reached Sample.arena Sample.starved
    let deals : List (Deal Sample.config Arena) :=
      history Sample.arena Sample.starved
    world.pool.shelf.active = some ⟨Arena.origin, 2, 2⟩ ∧
      world.pool.hint = Config.nextCapacity 2 2 Sample.config.limit ∧
      ∀ deal ∈ deals.head?, ∃ required capacity,
        deal.request.demand = some required ∧
          capacity = max required deal.before.pool.hint ∧
            24 = Sample.config.geometry.stride * capacity := by
  intro world deals
  have run : Run deals world := run_history Sample.arena Sample.starved
  have serving : world.pool.shelf.active = some ⟨Arena.origin, 2, 2⟩ := by
    decide +kernel
  rcases hint_of_run run with ⟨hinted, -, -, blocks, -⟩
  rw [serving] at hinted
  refine ⟨serving, hinted, ?_⟩
  intro deal newest
  have refused : .block 24 8 none ∈ deal.report.dealings := by
    cases newest
    decide +kernel
  rcases blocks deal (List.mem_of_mem_head? newest) 24 8 none refused with
    ⟨required, capacity, demand, due, size, -⟩
  exact ⟨required, capacity, demand, due, size⟩

end Pool

end SlabPool
