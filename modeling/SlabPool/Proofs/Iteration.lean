import SlabPool.Proofs.Canonical
import SlabPool.Proofs.Tally
import SlabPool.Proofs.Verdict

/-!
# A walk over the slots in use is exact

A walk keeps two places: the next index to look at, and the vacancies that are
not passed yet.  They are `InStep` if these vacancies lie ahead in ascending
order.  Then the slots in use that lie `ahead` are the indices left over; a step
takes the first of them away (`InStep.step_eq`), and there are as many as the
walk says (`InStep.remaining_eq`).

So the walk `Yields` a list of addresses: whatever number of steps was taken, the
next step gives the address at that place in the list, and the walk knows how
many are left.  All that is done with walks is told from the list alone.

`iteration_of_run` says that in every world of a run the list is that of the
addresses inside the active slab that the pool knows, in ascending order.
-/

namespace SlabPool

namespace Walk

variable {geometry : Geometry}

/-! ## Walks that yield a list -/

/-- Step by step the walk gives these addresses, and knows how many are left. -/
structure Yields (walk : Walk geometry) (addresses : List Nat) : Prop where
  steps : ∀ count, (walk.after count).step.1 = .ok addresses[count]?
  left : ∀ count, (walk.after count).remaining = addresses.length - count

namespace Yields

variable {walk : Walk geometry} {addresses : List Nat}

theorem step_eq
    (yields : walk.Yields addresses) :
    walk.step.1 = .ok addresses.head? := by
  rw [List.head?_eq_getElem?]
  exact yields.steps 0

/-- A step takes the first address away. -/
theorem next
    (yields : walk.Yields addresses) :
    walk.step.2.Yields addresses.tail where
  steps count := by
    rw [List.getElem?_tail]
    exact yields.steps (count + 1)
  left count := by
    rw [List.length_tail, Nat.sub_sub, Nat.add_comm 1]
    exact yields.left (count + 1)

theorem step_nil
    (yields : walk.Yields []) :
    ∃ rest, walk.step = (.ok none, rest) :=
  ⟨walk.step.2, Prod.ext yields.step_eq rfl⟩

theorem step_cons
    {address : Nat}
    {later : List Nat}
    (yields : walk.Yields (address :: later)) :
    ∃ rest, walk.step = (.ok (some address), rest) ∧ rest.Yields later :=
  ⟨walk.step.2, Prod.ext yields.step_eq rfl, yields.next⟩

/-- Some steps take as many addresses away. -/
theorem after
    (yields : walk.Yields addresses)
    (count : Nat) :
    (walk.after count).Yields (addresses.drop count) := by
  induction count generalizing walk addresses with
  | zero => exact yields
  | succ count ih =>
    have rest := ih yields.next
    rwa [List.drop_tail] at rest

theorem remaining_eq
    (yields : walk.Yields addresses) :
    walk.remaining = addresses.length :=
  yields.left 0

theorem sizeHint_eq
    (yields : walk.Yields addresses) :
    walk.sizeHint = (addresses.length, some addresses.length) := by
  rw [sizeHint, yields.remaining_eq]

/-- A walk has at least as many indices ahead as addresses. -/
theorem length_le
    (yields : walk.Yields addresses) :
    addresses.length ≤ walk.finish - walk.next := by
  rw [← yields.remaining_eq, remaining]
  exact Nat.sub_le _ _

/-- The end of a list is the end of every walk that yields it. -/
theorem ended_iff
    (yields : walk.Yields addresses)
    (count : Nat) :
    (walk.after count).step.1 = .ok none ↔ addresses.length ≤ count := by
  simp [yields.steps count]

/-- A walk that has ended does not start again. -/
theorem fused
    (yields : walk.Yields addresses)
    (ended : walk.step.1 = .ok none)
    (further : Nat) :
    (walk.after further).step.1 = .ok none := by
  rw [yields.ended_iff]
  exact Nat.le_trans ((yields.ended_iff 0).1 ended) (Nat.zero_le further)

/-- Addresses are visited from the first one on, up to the count. -/
theorem visits_take
    (yields : walk.Yields addresses)
    (count : Nat) :
    walk.visits count = .ok (addresses.take count) := by
  induction count generalizing walk addresses with
  | zero => rfl
  | succ count ih =>
    cases addresses with
    | nil =>
      rcases yields.step_nil with ⟨rest, step⟩
      rw [visits, step]
      rfl
    | cons address addresses =>
      rcases yields.step_cons with ⟨rest, step, later⟩
      rw [visits, step]
      simp only [ih later]
      rfl

/-- All addresses are visited. -/
theorem toList_eq
    (yields : walk.Yields addresses) :
    walk.toList = .ok addresses := by
  rw [toList, yields.visits_take, List.take_of_length_le yields.length_le]

section Visitor

variable {β : Type} (visitor : Nat → β → β)

theorem showUpTo_take
    (yields : walk.Yields addresses)
    (count : Nat)
    (seen : β) :
    walk.showUpTo visitor count seen =
      (.ok (),
        (addresses.take count).foldl (fun seen address =>
          visitor address seen) seen) := by
  induction count generalizing walk addresses seen with
  | zero => rfl
  | succ count ih =>
    cases addresses with
    | nil =>
      rcases yields.step_nil with ⟨rest, step⟩
      rw [showUpTo, step]
      rfl
    | cons address addresses =>
      rcases yields.step_cons with ⟨rest, step, later⟩
      rw [showUpTo, step]
      exact ih later _

/-- A visitor is shown each address, the first one first. -/
theorem forEach_eq
    (yields : walk.Yields addresses)
    (seen : β) :
    walk.forEach visitor seen =
      (.ok (),
        addresses.foldl (fun seen address => visitor address seen) seen) := by
  rw [forEach, yields.showUpTo_take,
    List.take_of_length_le yields.length_le]

end Visitor

end Yields

/-! ## Walks without a slab -/

/-- Without a slab and without vacancies there is nothing to visit. -/
theorem yields_start_none :
    (start none [] : Walk geometry).Yields [] := by
  have still (count : Nat) :
      (start none [] : Walk geometry).after count = start none [] := by
    induction count with
    | zero => rfl
    | succ count ih => exact ih
  constructor
  · intro count
    rw [still]
    rfl
  · intro count
    rw [still, List.length_nil, Nat.zero_sub]
    rfl

/-! ## Walks whose places move together -/

/-- The indices from `next` to `finish` that are not vacant. -/
def occupied (finish next : Nat) (vacant : List Nat) : List Nat :=
  (List.range' next (finish - next)).filter (· ∉ vacant)

/-- The vacancies lie between the two indices, in ascending order. -/
structure Listed (finish next : Nat) (vacant : List Nat) : Prop where
  reached : next ≤ finish
  ascending : vacant.Pairwise (· < ·)
  bounds : ∀ vacancy ∈ vacant, next ≤ vacancy ∧ vacancy < finish

section Occupied

variable {finish next : Nat} {vacant : List Nat}

@[simp]
theorem mem_occupied {index : Nat} :
    index ∈ occupied finish next vacant ↔
      (next ≤ index ∧ index < finish) ∧ index ∉ vacant := by
  simp only [occupied, List.mem_filter, List.mem_range'_1,
    decide_eq_true_eq]
  apply and_congr_left
  intro _
  omega

theorem ascending_occupied (finish next : Nat) (vacant : List Nat) :
    (occupied finish next vacant).Pairwise (· < ·) := by
  apply List.Pairwise.filter
  exact List.pairwise_lt_range'

/-- Two ascending lists with the same entries are the same. -/
theorem occupied_eq_of_mem_iff
    {indices : List Nat}
    (ascending : indices.Pairwise (· < ·))
    (same :
      ∀ index, index ∈ occupied finish next vacant ↔ index ∈ indices) :
    occupied finish next vacant = indices := by
  have sorted := ascending_occupied finish next vacant
  apply List.Perm.eq_of_pairwise ?_ sorted ascending
  · rw [List.perm_ext_iff_of_nodup
      (sorted.imp Nat.ne_of_lt) (ascending.imp Nat.ne_of_lt)]
    exact same
  · intro left right _ _ below above
    omega

/-- Every index between the two is vacant or occupied. -/
theorem Listed.length_occupied
    (listed : Listed finish next vacant) :
    (occupied finish next vacant).length + vacant.length = finish - next := by
  have vacancies :
      ((List.range' next (finish - next)).filter (· ∈ vacant)).Perm
        vacant := by
    have distinct : (List.range' next (finish - next)).Nodup :=
      List.nodup_range'
    rw [List.perm_ext_iff_of_nodup (distinct.filter _)
      (listed.ascending.imp Nat.ne_of_lt)]
    intro index
    simp only [List.mem_filter, List.mem_range'_1, decide_eq_true_eq]
    constructor
    · exact And.right
    · intro member
      have bounds := listed.bounds index member
      exact ⟨by omega, member⟩
  have split :=
    List.length_eq_length_filter_add (l := List.range' next (finish - next))
      (fun index => decide (index ∈ vacant))
  rw [List.length_range', vacancies.length_eq] at split
  rw [split, Nat.add_comm, occupied]
  simp

/-- An index that is not vacant comes first. -/
theorem Listed.occupied_cons
    (below : next < finish)
    (free : next ∉ vacant) :
    occupied finish next vacant =
      next :: occupied finish (next + 1) vacant := by
  have left : finish - next = finish - (next + 1) + 1 := by omega
  rw [occupied, left, List.range'_succ, List.filter_cons_of_pos (by simpa)]
  rfl

/-- At the end nothing is left over. -/
theorem occupied_finish (finish : Nat) (vacant : List Nat) :
    occupied finish finish vacant = [] := by
  simp [occupied]

/-- An index that is not vacant can be passed. -/
theorem Listed.succ
    (listed : Listed finish next vacant)
    (below : next < finish)
    (free : next ∉ vacant) :
    Listed finish (next + 1) vacant where
  reached := below
  ascending := listed.ascending
  bounds := by
    intro vacancy member
    have bounds := listed.bounds vacancy member
    have differ : vacancy ≠ next := fun same => free (same ▸ member)
    omega

/--
When the vacancies at the next indices are passed, nothing that is occupied is
passed with them, and the index that is next then is not vacant.
-/
theorem Listed.passVacant_spec
    (listed : Listed finish next vacant) :
    Listed finish (passVacant finish next vacant).1
        (passVacant finish next vacant).2 ∧
      (passVacant finish next vacant).1 ∉
        (passVacant finish next vacant).2 ∧
      occupied finish (passVacant finish next vacant).1
          (passVacant finish next vacant).2 =
        occupied finish next vacant := by
  fun_induction passVacant finish next vacant with
  | case1 next => exact ⟨listed, List.not_mem_nil, rfl⟩
  | case2 next vacancy rest here ih =>
    rcases here with ⟨below, rfl⟩
    rcases List.pairwise_cons.1 listed.ascending with ⟨above, ascending⟩
    have later : Listed finish (vacancy + 1) rest := by
      refine ⟨below, ascending, ?_⟩
      intro other member
      exact
        ⟨above other member,
          (listed.bounds other (List.mem_cons_of_mem _ member)).2⟩
    rcases ih later with ⟨left, free, same⟩
    refine ⟨left, free, same.trans ?_⟩
    apply occupied_eq_of_mem_iff (ascending_occupied _ _ _)
    intro index
    simp only [mem_occupied, List.mem_cons, not_or]
    constructor
    · rintro ⟨⟨reached, inside⟩, occupied⟩
      exact ⟨⟨by omega, inside⟩, by omega, occupied⟩
    · rintro ⟨⟨reached, inside⟩, differ, occupied⟩
      exact ⟨⟨by omega, inside⟩, occupied⟩
  | case3 next vacancy rest elsewhere =>
    refine ⟨listed, ?_, rfl⟩
    -- The lowest vacancy lies above the next index, and with it all others.
    have bounds := listed.bounds vacancy List.mem_cons_self
    have above := (List.pairwise_cons.1 listed.ascending).1
    intro member
    rcases List.mem_cons.1 member with same | later
    · exact elsewhere ⟨by omega, same.symm⟩
    · have ordered := above next later
      omega

end Occupied

variable {walk : Walk geometry} {slab : Slab geometry}

/-- The walk is one over this slab, and its two places move together. -/
structure InStep (walk : Walk geometry) (slab : Slab geometry) : Prop extends
    Listed walk.finish walk.next walk.vacant where
  there : walk.slab = some slab
  sited : slab.Sited
  within : walk.finish ≤ slab.capacity

/-- The indices that the walk has yet to visit. -/
def ahead (walk : Walk geometry) : List Nat :=
  occupied walk.finish walk.next walk.vacant

namespace InStep

/-- A step visits the first index ahead and leaves the others. -/
theorem step_eq
    (inStep : walk.InStep slab) :
    walk.step.1 = .ok (walk.ahead.head?.map slab.slotAt) ∧
      walk.step.2.InStep slab ∧ walk.step.2.ahead = walk.ahead.tail := by
  rcases inStep.passVacant_spec with ⟨listed, free, same⟩
  rw [step, inStep.there, ahead, ← same]
  dsimp only
  generalize passVacant walk.finish walk.next walk.vacant = passed
    at listed free
  rcases passed with ⟨next, vacant⟩
  dsimp only at listed free ⊢
  by_cases below : next < walk.finish
  · have inside := Nat.lt_of_lt_of_le below inStep.within
    rw [if_pos below, Slab.slotAddress_eq inStep.sited inside,
      Listed.occupied_cons below free]
    exact
      ⟨rfl,
        ⟨listed.succ below free, rfl, inStep.sited, inStep.within⟩,
        rfl⟩
  · have ended : next = walk.finish :=
      Nat.le_antisymm listed.reached (Nat.le_of_not_lt below)
    subst ended
    rw [if_neg below, occupied_finish]
    exact
      ⟨rfl, ⟨listed, rfl, inStep.sited, inStep.within⟩,
        occupied_finish _ _⟩

/-- The vacancies ahead are all that is not visited ahead. -/
theorem remaining_eq
    (inStep : walk.InStep slab) :
    walk.remaining = walk.ahead.length := by
  have split := inStep.length_occupied
  rw [remaining, ahead]
  omega

theorem after
    (inStep : walk.InStep slab)
    (count : Nat) :
    (walk.after count).InStep slab ∧
      (walk.after count).ahead = walk.ahead.drop count := by
  induction count generalizing walk with
  | zero => exact ⟨inStep, rfl⟩
  | succ count ih =>
    rcases inStep.step_eq with ⟨-, next, tail⟩
    rcases ih next with ⟨later, rest⟩
    rw [tail, List.drop_tail] at rest
    exact ⟨later, rest⟩

/-- The walk yields the addresses of the indices ahead. -/
theorem yields
    (inStep : walk.InStep slab) :
    walk.Yields (walk.ahead.map slab.slotAt) where
  steps count := by
    rcases inStep.after count with ⟨later, rest⟩
    rw [later.step_eq.1, rest, List.head?_drop, List.getElem?_map]
  left count := by
    rcases inStep.after count with ⟨later, rest⟩
    rw [later.remaining_eq, rest, List.length_drop, List.length_map]

end InStep

end Walk

/-! ## The slots in use of a pool -/

namespace Pool

variable {config : Config}

/-- The addresses of the slots in use of the active slab, in ascending order. -/
def slotsInUse (pool : Pool config) : List Nat :=
  match pool.shelf.active with
  | none => []
  | some active =>
    (Walk.occupied active.live 0 pool.vacancies.ascending).map active.slotAt

section Sound

variable {pool : Pool config}

theorem Sound.walk_yields
    (sound : pool.Sound) :
    pool.walk.Yields pool.slotsInUse := by
  cases serving : pool.shelf.active with
  | none =>
    have unrecorded := (sound.idle_of_inactive serving).2
    rw [walk, slotsInUse, serving, Vacancies.ascending, unrecorded]
    exact Walk.yields_start_none
  | some active =>
    have settled := sound.settled_active serving
    have inStep : pool.walk.InStep active :=
      { reached := Nat.zero_le _
        ascending := by
          rw [walk, Walk.start, Vacancies.ascending, List.pairwise_reverse]
          exact settled.descending
        bounds := by
          intro vacancy member
          rw [walk, serving]
          have vacant : vacancy ∈ pool.vacancies.stack :=
            List.mem_reverse.1 member
          have buried := settled.buried vacancy vacant
          exact ⟨Nat.zero_le _, Nat.lt_of_succ_lt buried⟩
        there := serving
        sited := sound.orderly.sited_active serving
        within := by
          rw [walk, serving]
          exact settled.mark_le }
    have yields := inStep.yields
    rw [Walk.ahead, walk, serving] at yields
    rw [walk, slotsInUse, serving]
    exact yields

/-- The addresses in use ascend with their indices. -/
theorem ascending_slotsInUse (pool : Pool config) :
    pool.slotsInUse.Pairwise (· < ·) := by
  unfold slotsInUse
  split
  · exact List.Pairwise.nil
  · rename_i active _
    rw [List.pairwise_map]
    apply (Walk.ascending_occupied _ _ _).imp
    intro lower upper below
    exact active.slotAt_lt_slotAt_iff.2 below

@[simp]
theorem mem_slotsInUse {address : Nat} :
    address ∈ pool.slotsInUse ↔ address ∈ pool.addresses := by
  cases serving : pool.shelf.active with
  | none => simp [slotsInUse, addresses, serving]
  | some active =>
    simp [slotsInUse, addresses, serving, inUse_of_active serving,
      Vacancies.ascending]

/-- The slots in use of the active slab are those in it that the pool knows. -/
theorem Sound.mem_slotsInUse_iff
    (sound : pool.Sound)
    {address : Nat} :
    address ∈ pool.slotsInUse ↔
      (∃ active, pool.shelf.active = some active ∧
        active.covers address = true) ∧
      pool.contains address = true := by
  rw [mem_slotsInUse]
  constructor
  · intro used
    rcases sound.starts_of_mem_addresses used with ⟨active, serving, starts⟩
    have sited := sound.orderly.sited_active serving
    constructor
    · exact ⟨active, serving, (Slab.covers_iff sited).2 starts.mem_extent⟩
    · exact sound.contains_iff.2 (Or.inl used)
  · rintro ⟨⟨active, serving, covered⟩, known⟩
    have sited := sound.orderly.sited_active serving
    have inside := (Slab.covers_iff sited).1 covered
    rcases sound.contains_iff.1 known with used | ⟨slab, retired, starts⟩
    · exact used
    · have outside := sound.orderly.outside_of_active serving retired inside
      exact absurd starts.mem_extent outside

/-- There are as many addresses as indices in use. -/
theorem Sound.length_slotsInUse
    (sound : pool.Sound) :
    pool.slotsInUse.length = pool.inUse.card := by
  have distinct : pool.slotsInUse.Nodup :=
    (ascending_slotsInUse pool).imp Nat.ne_of_lt
  have same : pool.slotsInUse.toFinset = pool.addresses := by
    ext address
    rw [List.mem_toFinset, mem_slotsInUse]
  rw [← List.toFinset_card_of_nodup distinct, same, card_addresses sound]

end Sound

variable {σ : Type} [Provider σ]

/--
In every world of a run there is one list of addresses such that a walk gives
this list, from the first address to the last, and any visitor is shown it.  The
addresses ascend, and they are those inside the active slab that the pool knows.

After any number of steps the walk knows how many addresses are left.  A copy
of it visits these and no others; it is the same value as the walk itself.  The
first step that gives nothing is followed only by steps that give nothing.
-/
theorem iteration_of_run
    [SeparatingProvider σ]
    {deals : List (Deal config σ)}
    {world : World config σ}
    (run : Run deals world) :
    ∃ addresses : List Nat,
      world.pool.walk.toList = .ok addresses ∧
      addresses.Pairwise (· < ·) ∧
      (∀ address,
        address ∈ addresses ↔
          (∃ active, world.pool.shelf.active = some active ∧
            active.covers address = true) ∧
          world.pool.contains address = true) ∧
      (world.pool.shelf.active = none → addresses = []) ∧
      (∀ (β : Type) (visitor : Nat → β → β) (seen : β),
        world.pool.visitSlots visitor seen =
          (.ok (),
            addresses.foldl (fun seen address => visitor address seen)
              seen)) ∧
      (∀ count,
        let later := world.pool.walk.after count
        let left := addresses.drop count
        later.step.1 = .ok left.head? ∧
          later.sizeHint = (left.length, some left.length) ∧
          later.toList = .ok left ∧
          (later.step.1 = .ok none →
            ∀ further, (later.after further).step.1 = .ok none)) ∧
      ∃ retiredItems,
        world.pool.shelf.retiredItems = .ok retiredItems ∧
          world.pool.itemCount = .ok (addresses.length + retiredItems) := by
  have sound := run.balanced.sound
  have yields := sound.walk_yields
  refine
    ⟨world.pool.slotsInUse, yields.toList_eq,
      ascending_slotsInUse world.pool, fun address =>
        sound.mem_slotsInUse_iff, ?_, ?_, ?_, ?_⟩
  · intro idle
    rw [slotsInUse, idle]
  · intro β visitor seen
    exact yields.forEach_eq visitor seen
  · intro count later left
    have rest : later.Yields left := yields.after count
    exact ⟨rest.step_eq, rest.sizeHint_eq, rest.toList_eq, rest.fused⟩
  · refine ⟨_, sound.orderly.retiredItems_eq, ?_⟩
    rw [sound.length_slotsInUse]
    exact sound.itemCount_eq

/-- The lowest slot in use of the active slab and another one become vacant. -/
def Sample.punctured : List (Request Arena) :=
  .remove Arena.origin :: .remove (Arena.origin + 56) ::
    .remove (Arena.origin + 40) :: List.replicate 9 .allocate

/-- Two addresses are left in the active slab, and four items elsewhere. -/
theorem iteration_of_punctured :
    let world : World Sample.config Arena :=
      reached Sample.arena Sample.punctured
    world.pool.walk.toList =
        .ok [Arena.origin + 48, Arena.origin + 64] ∧
      (world.pool.walk.after 1).toList = .ok [Arena.origin + 64] ∧
      (world.pool.walk.after 1).sizeHint = (1, some 1) ∧
      world.pool.itemCount = .ok 6 := by
  intro world
  have run : Run (history Sample.arena Sample.punctured) world :=
    run_history Sample.arena Sample.punctured
  have listed :
      world.pool.walk.toList =
        .ok [Arena.origin + 48, Arena.origin + 64] := by
    decide +kernel
  have retired : world.pool.shelf.retiredItems = .ok 4 := by decide +kernel
  rcases iteration_of_run run with
    ⟨addresses, visited, -, -, -, -, later, retiredItems, counted, total⟩
  cases listed.symm.trans visited
  cases retired.symm.trans counted
  rcases later 1 with ⟨-, hint, rest, -⟩
  exact ⟨listed, rest, hint, total⟩

end Pool

end SlabPool
