import SlabPool.Pool.Growth
import SlabPool.Proofs.Audit
import SlabPool.Proofs.Demotion

/-!
# What growth can lead to

`Growth` lists the ways in which growth of a pool can end: too many slots were
asked for, a request was refused, or there is a new active slab.  `growth_spec`
says that growth of a balanced pool always ends in one of these ways, and
`Growth.balanced` that the pool is balanced again.
-/

namespace SlabPool

variable {σ : Type} [Provider σ]

/-- A slab is furnished with a block apart from all others, or nothing is held. -/
theorem Slab.furnish_cases
    [SeparatingProvider σ]
    {geometry : Geometry}
    {capacity : Nat}
    (bounded : capacity ≤ geometry.limit)
    (memory : Memory σ) :
    (∃ (slab : Slab geometry) (after : Memory σ),
      furnish geometry capacity memory =
          (.ok (slab, Vacancies.blank capacity), after) ∧
        slab.capacity = capacity ∧ slab.live = 0 ∧
          Granted σ memory.held slab.block ∧
            after.held = slab.block :: memory.held ∧
              after.journal = memory.journal) ∨
    (∃ size align after,
      furnish geometry capacity memory =
          (.error (.allocationFailed size align), after) ∧
        memory.Undisturbed after) := by
  unfold furnish
  rcases Slab.acquire_cases bounded memory with
    ⟨slab, placed, acquired, capacity, untouched, granted, held, journal⟩ |
    ⟨size, align, placed, acquired, undisturbed⟩
  case inr =>
    rw [acquired]
    exact Or.inr ⟨size, align, placed, rfl, undisturbed⟩
  case inl =>
    rw [acquired]
    dsimp only
    rcases Vacancies.ofCapacity_cases _ placed with
      ⟨marked, made, undisturbed⟩ | ⟨size, align, marked, made, undisturbed⟩
    case inr =>
      -- The block is given back, so that the held blocks are as before.
      rw [made]
      refine Or.inr ⟨size, align, _, rfl, ?_, ?_⟩
      · show marked.held.erase slab.block = memory.held
        rw [undisturbed.held, held, List.erase_cons_head]
      · exact undisturbed.journal.trans journal
    case inl =>
      rw [made]
      exact
        Or.inl
          ⟨slab, marked, rfl, capacity, untouched, granted,
            undisturbed.held.trans held, undisturbed.journal.trans journal⟩

namespace Pool

variable {config : Config}

/-- The ways in which growth by `required` slots can end. -/
inductive Growth
    (pool : Pool config)
    (required : Nat)
    (memory : Memory σ) :
    Outcome (Pool config) σ Unit → Prop where
  /-- No slab has so many slots. -/
  | excessive (beyond : config.limit < required) :
      Growth pool required memory
        ⟨.error (.fault (.capacityOverflow required config.limit)),
          pool, memory⟩
  /-- A request was refused; room on the shelf may have been granted. -/
  | refused
      {size align room : Nat}
      {after : Memory σ}
      (bounded : required ≤ config.limit)
      (fits : pool.shelf.retired.length ≤ room)
      (undisturbed : memory.Undisturbed after) :
      Growth pool required memory
        ⟨.error (.fault (.allocationFailed size align)),
          { pool with shelf := { pool.shelf with room } }, after⟩
  /-- A new slab serves allocations. -/
  | replaced
      {slab : Slab config.geometry}
      {retired : List (Slab config.geometry)}
      {events : List Event}
      {room : Nat}
      {after : Memory σ}
      (bounded : required ≤ config.limit)
      (capacity : slab.capacity = pool.grownCapacity required)
      (untouched : slab.live = 0)
      (granted : Granted σ memory.held slab.block)
      (demotion :
        pool.Demotion (slab.block :: memory.held) retired after.held events)
      (fits : retired.length ≤ room)
      (journal :
        after.journal =
          .grew slab.capacity (config.capacityAfter slab.capacity)
              (retired.length + 1) config.geometry.item.size ::
            (events ++ .activated slab.capacity :: memory.journal)) :
      Growth pool required memory
        ⟨.ok (), renewed slab retired room, after⟩

theorem Sound.grownCapacity_le
    {pool : Pool config}
    (sound : pool.Sound)
    {required : Nat}
    (bounded : required ≤ config.limit) :
    pool.grownCapacity required ≤ config.limit :=
  Nat.max_le.2 ⟨bounded, sound.hint_le_limit⟩

theorem Sound.grownCapacity_pos
    {pool : Pool config}
    (sound : pool.Sound)
    (required : Nat) :
    0 < pool.grownCapacity required :=
  Nat.lt_of_lt_of_le sound.hint_pos (Nat.le_max_right _ _)

/-- A block granted to a balanced pool makes a slab apart from all others. -/
theorem Balanced.apart_of_granted
    [SeparatingProvider σ]
    {pool : Pool config}
    {memory : Memory σ}
    (balanced : pool.Balanced memory)
    {block : Block}
    (granted : Granted σ memory.held block) :
    ∀ other ∈ pool.shelf.slabs.map Slab.block, Block.Apart block other :=
  fun _ member => granted.apart (balanced.held.mem_iff.2 member)

/-- A new slab of the capacity that growth asks for is sited. -/
theorem Balanced.sited_of_granted
    [SeparatingProvider σ]
    {pool : Pool config}
    {memory : Memory σ}
    (balanced : pool.Balanced memory)
    {required : Nat}
    (bounded : required ≤ config.limit)
    {slab : Slab config.geometry}
    (capacity : slab.capacity = pool.grownCapacity required)
    (granted : Granted σ memory.held slab.block) :
    slab.Sited where
  capacity_pos := by
    rw [capacity]
    exact balanced.sound.grownCapacity_pos required
  capacity_le := by
    rw [capacity]
    exact balanced.sound.grownCapacity_le bounded
  finish_lt := granted.finish_lt

/-! ## Growth does what it should -/

omit [Provider σ] in
/-- Activation of a new slab demotes the slab before it. -/
theorem Sound.activate_spec
    {pool : Pool config}
    (sound : pool.Sound)
    (room : Nat)
    (slab : Slab config.geometry)
    (memory : Memory σ) :
    ∃ retired events after,
      ({ pool.shelf with room } : Shelf config.geometry).activate slab
          pool.activeItems memory =
        (.ok (), ⟨some slab, retired, room⟩, after) ∧
      pool.Demotion memory.held retired after.held events ∧
      after.journal =
        events ++ .activated slab.capacity :: memory.journal := by
  rw [sound.activeItems_eq]
  unfold Shelf.activate
  dsimp only
  cases serving : pool.shelf.active with
  | none => exact ⟨_, [], _, rfl, .absent serving, rfl⟩
  | some previous =>
    dsimp only
    split
    case isTrue empty =>
      have unused : pool.inUse = ∅ := Finset.card_eq_zero.1 empty
      exact ⟨_, [_], _, rfl, .released serving unused, rfl⟩
    case isFalse nonempty =>
      have used : pool.inUse.Nonempty :=
        Finset.card_pos.1 (Nat.pos_of_ne_zero nonempty)
      have split := sound.card_inUse
      have marked := sound.settled.mark_le
      rw [activeCapacity_of_active serving] at marked
      have counted :
          previous.withLive pool.inUse.card =
            .ok { previous with live := pool.inUse.card } :=
        if_pos (by omega)
      rw [counted]
      refine ⟨_, [_], _, rfl, .retired serving used ?_ ?_, rfl⟩
      · exact Shelf.leading_le _
      · exact fun index other found =>
          sound.orderly.lt_leading_base_iff found

omit [Provider σ] in
/-- An installation that the audit passes succeeds. -/
theorem install_of_activate
    {pool : Pool config}
    {slab : Slab config.geometry}
    {retired : List (Slab config.geometry)}
    {room : Nat}
    {memory after : Memory σ}
    (activated :
      pool.shelf.activate slab pool.activeItems memory =
        (.ok (), ⟨some slab, retired, room⟩, after))
    (sound : (renewed slab retired room : Pool config).Sound) :
    pool.install slab (.blank slab.capacity) memory =
      ⟨.ok (), renewed slab retired room,
        after.note
          (.grew slab.capacity (config.capacityAfter slab.capacity)
            (retired.length + 1) config.geometry.item.size)⟩ := by
  have audited := sound.audit_eq_none
  have counted := sound.orderly.slabCount_eq
  unfold renewed at audited counted
  rw [Shelf.slabs_of_active rfl, List.length_cons] at counted
  rw [install, activated]
  dsimp only
  rw [audited, counted]
  rfl

/-- Growth of a balanced pool ends in one of the ways listed. -/
theorem growth_spec
    [SeparatingProvider σ]
    {pool : Pool config}
    {memory : Memory σ}
    (balanced : pool.Balanced memory)
    (required : Nat) :
    pool.Growth required memory (pool.grow required memory) := by
  have sound := balanced.sound
  unfold grow
  split
  case isTrue beyond => exact .excessive beyond
  case isFalse notOver =>
    have bounded : required ≤ config.limit := Nat.le_of_not_lt notOver
    unfold prepare
    rcases pool.shelf.reserveRetirement_cases sound.fits memory with
      ⟨room, roomy, reserved, fits, roomUndisturbed⟩ |
      ⟨roomy, reserved, roomUndisturbed⟩
    case inr =>
      rw [reserved]
      exact .refused bounded sound.fits roomUndisturbed
    case inl =>
      rw [reserved]
      dsimp only
      rcases Slab.furnish_cases (sound.grownCapacity_le bounded) roomy with
        ⟨slab, placed, made, capacity, untouched, granted, held, journal⟩ |
        ⟨size, align, placed, made, undisturbed⟩
      case inr =>
        rw [made]
        exact .refused bounded (Nat.le_of_lt fits)
          (roomUndisturbed.trans undisturbed)
      case inl =>
        rw [roomUndisturbed.held] at granted held
        rw [roomUndisturbed.journal] at journal
        rw [made]
        dsimp only
        rcases sound.activate_spec room slab placed with
          ⟨retired, events, after, activated, demotion, told⟩
        rw [held] at demotion
        rw [journal] at told
        have fitting : retired.length ≤ room :=
          Nat.le_trans demotion.length_le fits
        have renewedSound : (renewed slab retired room).Sound :=
          demotion.sound_renewed sound
            (balanced.sited_of_granted bounded capacity granted)
            untouched (balanced.apart_of_granted granted) fitting
        rw [← capacity, install_of_activate activated renewedSound]
        exact .replaced bounded capacity untouched granted demotion fitting
          (congrArg _ told)

/-- A reservation grows the pool exactly if too few slots are available. -/
theorem reserve_cases
    [SeparatingProvider σ]
    {pool : Pool config}
    {memory : Memory σ}
    (balanced : pool.Balanced memory)
    (additional : Nat) :
    (additional ≤ pool.available ∧
      pool.reserve additional memory = ⟨.ok (), pool, memory⟩) ∨
    (pool.available < additional ∧
      pool.Growth additional memory (pool.reserve additional memory)) := by
  unfold reserve
  split
  case isTrue enough => exact Or.inl ⟨enough, rfl⟩
  case isFalse short =>
    exact Or.inr ⟨Nat.lt_of_not_le short, growth_spec balanced additional⟩

omit [Provider σ] in
/-- Room for retired slabs that was granted leaves the pool balanced. -/
theorem Balanced.withRoom
    {pool : Pool config}
    {memory after : Memory σ}
    (balanced : pool.Balanced memory)
    {room : Nat}
    (fits : pool.shelf.retired.length ≤ room)
    (undisturbed : memory.Undisturbed after) :
    ({ pool with shelf := { pool.shelf with room } } :
      Pool config).Balanced after where
  sound :=
    ⟨balanced.sound.orderly.withRoom room, balanced.sound.settled, fits,
      balanced.sound.hinted⟩
  held := by
    rw [undisturbed.held]
    exact balanced.held

/-- However growth ends, the pool is balanced again. -/
theorem Growth.balanced
    [SeparatingProvider σ]
    {pool : Pool config}
    {required : Nat}
    {memory : Memory σ}
    {outcome : Outcome (Pool config) σ Unit}
    (balanced : pool.Balanced memory)
    (growth : pool.Growth required memory outcome) :
    outcome.pool.Balanced outcome.memory := by
  have sound := balanced.sound
  cases growth with
  | excessive beyond => exact balanced
  | refused bounded fits undisturbed =>
    exact balanced.withRoom fits undisturbed
  | replaced bounded capacity untouched granted demotion fits journal =>
    refine ⟨?_, ?_⟩
    · exact
        demotion.sound_renewed sound
          (balanced.sited_of_granted bounded capacity granted)
          untouched (balanced.apart_of_granted granted) fits
    · exact demotion.held_perm balanced.held

end Pool

end SlabPool
