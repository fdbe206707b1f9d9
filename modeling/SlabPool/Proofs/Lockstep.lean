import SlabPool.Proofs.Canonical
import SlabPool.Proofs.Concurrence
import SlabPool.Proofs.Refinement
import SlabPool.Proofs.Reservation
import SlabPool.Proofs.Sketch

/-!
# Two worlds in step

Two worlds are `Abreast` if their pools are laid out after one sketch and their
providers were asked for the same.  If the providers decide alike, two requests
for the same thing leave the worlds abreast and are answered alike: growth,
allocation, reservation, removal of a slot from both of its slabs, clearing and
destroying.
-/

namespace SlabPool

open Pool

variable {config : Config} {σ τ : Type} [Provider σ] [Provider τ]

/-- Two worlds but for the addresses of slabs. -/
structure Abreast
    (sketch : Sketch)
    (left : World config σ)
    (right : World config τ) :
    Prop where
  leftLaid : sketch.Laid Plot.left left.pool
  rightLaid : sketch.Laid Plot.right right.pool
  queries : left.memory.queries = right.memory.queries

/-! ## One side -/

section Side

variable {sketch : Sketch} {side : Plot → Nat} {pool : Pool config}
variable {memory : Memory σ} {live : Finset Nat}

/-- A growth that is not refused succeeds, and there is a new slab. -/
theorem Pool.Growth.eq_ok
    {required : Nat}
    {outcome : Outcome (Pool config) σ Unit}
    (growth : pool.Growth required memory outcome)
    (granted : ∀ fault, outcome.answer ≠ .error (.fault fault)) :
    ∃ grown after base,
      outcome = ⟨.ok (), grown, after⟩ ∧
        grown.shelf.active.map Slab.base = some base := by
  cases growth with
  | excessive beyond => exact (granted _ rfl).elim
  | refused bounded fits undisturbed => exact (granted _ rfl).elim
  | replaced bounded capacity untouched placed demotion fits journal =>
    exact ⟨_, _, _, rfl, rfl⟩

/-- A growth activates a slab just if it succeeds. -/
theorem Pool.Growth.activates_eq
    {required : Nat}
    {outcome : Outcome (Pool config) σ Unit}
    (growth : pool.Growth required memory outcome) :
    memory.activates outcome.memory = outcome.answer.isOk := by
  rcases outcome with ⟨answer, grown, after⟩
  cases growth with
  | excessive beyond => exact activates_of_undisturbed (.refl memory)
  | refused bounded fits undisturbed => exact activates_of_undisturbed undisturbed
  | replaced bounded capacity untouched placed demotion fits journal =>
    exact
      Growth.activates
        (.replaced bounded capacity untouched placed demotion fits journal)

/-- An allocation activates a slab just if it needs one and gets it. -/
theorem Pool.Balanced.activates_allocate
    [SeparatingProvider σ]
    (balanced : pool.Balanced memory) :
    memory.activates (pool.allocate memory).memory =
      (decide (pool.available = 0) && (pool.allocate memory).answer.isOk) := by
  have sound := balanced.sound
  rcases Nat.eq_zero_or_pos pool.available with unavailable | enough
  · have growth := growth_spec balanced 1
    rw [sound.memory_allocate unavailable, growth.activates_eq, unavailable,
      sound.allocate_of_unavailable unavailable]
    generalize pool.grow 1 memory = outcome at growth ⊢
    rcases outcome with ⟨stop | done, grown, after⟩
    · rfl
    · dsimp only
      have grownBalanced := growth.balanced balanced
      rcases (allocate_spec grownBalanced).of_available grownBalanced.sound
          (growth.le_available balanced) with
        ⟨⟨address, answer⟩, -⟩
      rw [growth.extend_eq balanced, answer]
      rfl
  · have kept :=
      ((allocate_spec balanced).of_available sound enough).2.1
    rw [kept, activates_of_undisturbed (.refl memory),
      decide_eq_false (Nat.ne_of_gt enough), Bool.false_and]

/-- A reservation activates a slab just if it needs one and gets it. -/
theorem Pool.Balanced.activates_reserve
    [SeparatingProvider σ]
    (balanced : pool.Balanced memory)
    (additional : Nat) :
    memory.activates (pool.reserve additional memory).memory =
      (decide (pool.available < additional) &&
        (pool.reserve additional memory).answer.isOk) := by
  rcases reserve_cases balanced additional with
    ⟨enough, same⟩ | ⟨short, growth⟩
  · rw [same, activates_of_undisturbed (.refl memory),
      decide_eq_false (Nat.not_lt.2 enough), Bool.false_and]
  · rw [growth.activates_eq, decide_eq_true short, Bool.true_and]

namespace Sketch.Laid

/-- While slots are available, the active slab serves one. -/
theorem served
    [SeparatingProvider σ]
    (laid : sketch.Laid side pool)
    (balanced : pool.Balanced memory)
    (enough : 0 < pool.available) :
    ∃ active index mark vacancies,
      sketch.active = some active ∧
        pool.Service (active.slab config.geometry side) index mark vacancies ∧
          pool.allocate memory =
            ⟨.ok ((active.slab config.geometry side).slotAt index),
              pool.withRecord (active.slab config.geometry side) mark vacancies, memory⟩ := by
  have whole := balanced.sound.available_add_card
  have allocation := allocate_spec balanced
  generalize pool.allocate memory = outcome at allocation ⊢
  cases allocation with
  | refused full growth => omega
  | grown full growth serving service => omega
  | served serving service =>
    rw [laid.active] at serving
    rcases Option.map_eq_some_iff.1 serving with ⟨active, same, rfl⟩
    exact ⟨active, _, _, _, same, service, rfl⟩

/-- A live slot of the active slab is in use. -/
theorem mem_inUse
    (laid : sketch.Laid side pool)
    (coupled : pool.Coupled live)
    {active : Twin}
    (serving : sketch.active = some active)
    {spot : Spot}
    (has : sketch.Has spot)
    (plot : active.plot = spot.plot)
    (member : spot.address config.geometry side ∈ live) :
    spot.index ∈ sketch.inUse := by
  have serves := laid.serving serving
  have starts : (active.slab config.geometry side).Starts _ :=
    has.starts plot _ side
  have inside :=
    Slab.mem_occupants.2 ⟨member, starts.mem_extent⟩
  rw [coupled.active _ serves, Spot.address_eq plot,
    slotAt_mem_addresses_iff serves, laid.inUse_eq] at inside
  exact inside

/-- The pool knows which slots of the active slab are in use. -/
theorem contains_active_iff
    (laid : sketch.Laid side pool)
    (sound : pool.Sound)
    {active : Twin}
    (serving : sketch.active = some active)
    {spot : Spot}
    (has : sketch.Has spot)
    (plot : active.plot = spot.plot) :
    pool.contains (spot.address config.geometry side) = true ↔
      spot.index ∈ sketch.inUse := by
  have serves := laid.serving serving
  have starts : (active.slab config.geometry side).Starts _ :=
    has.starts plot _ side
  have unretired :
      ¬ ∃ slab ∈ pool.shelf.retired,
        slab.Starts (spot.address config.geometry side) := by
    rintro ⟨slab, retired, startsThere⟩
    exact
      sound.orderly.not_starts_of_retired serves retired startsThere starts
  rw [sound.contains_iff, or_iff_left unretired, Spot.address_eq plot,
    slotAt_mem_addresses_iff serves, laid.inUse_eq]

/-- The pool takes all slots of a retired slab for slots in use. -/
theorem contains_retired
    (laid : sketch.Laid side pool)
    (sound : pool.Sound)
    {twin : Twin}
    (retired : twin ∈ sketch.retired)
    {spot : Spot}
    (has : sketch.Has spot)
    (plot : twin.plot = spot.plot) :
    pool.contains (spot.address config.geometry side) = true :=
  sound.contains_iff.2
    (Or.inr ⟨_, laid.retired_mem retired, has.starts plot _ side⟩)

/-- A retired slab with a single item has a single live slot. -/
theorem address_eq_of_last
    (laid : sketch.Laid side pool)
    (coupled : pool.Coupled live)
    {twin : Twin}
    (retired : twin ∈ sketch.retired)
    (last : twin.live ≤ 1)
    {spot other : Spot}
    (has : sketch.Has spot)
    (otherHas : sketch.Has other)
    (plot : twin.plot = spot.plot)
    (otherPlot : twin.plot = other.plot)
    (member : spot.address config.geometry side ∈ live)
    (otherMember : other.address config.geometry side ∈ live) :
    other.address config.geometry side = spot.address config.geometry side := by
  have counted := coupled.counted _ (laid.retired_mem retired)
  have few : ((twin.slab config.geometry side).occupants live).card ≤ 1 := by
    rw [counted]
    exact last
  exact
    Finset.card_le_one.1 few _
      (Slab.mem_occupants.2
        ⟨otherMember, (otherHas.starts otherPlot _ side).mem_extent⟩)
      _
      (Slab.mem_occupants.2 ⟨member, (has.starts plot _ side).mem_extent⟩)

/-- A slot of a retired slab is given back without a request. -/
theorem remove_retired
    (laid : sketch.Laid side pool)
    (sound : pool.Sound)
    {twin : Twin}
    (retired : twin ∈ sketch.retired)
    {spot : Spot}
    (has : sketch.Has spot)
    (plot : twin.plot = spot.plot)
    (memory : Memory σ) :
    ∃ left after,
      pool.remove (spot.address config.geometry side) memory =
          ⟨.ok (), left, after⟩ ∧
        (sketch.lessened twin).Laid side left ∧
          after.queries = memory.queries := by
  have listed :
      (twin.slab config.geometry side) ∈ pool.shelf.retired :=
    laid.retired_mem retired
  have starts : (twin.slab config.geometry side).Starts _ :=
    has.starts plot _ side
  -- The slot starts in no other slab.
  have inactive
      {active : Slab config.geometry}
      {index : Nat}
      (serving : pool.shelf.active = some active)
      (addressed :
        spot.address config.geometry side = active.slotAt index)
      (inside : index < active.capacity) :
      False :=
    sound.orderly.not_starts_of_retired serving listed starts
      ⟨index, inside, addressed⟩
  have unique
      {position : Nat}
      {slab : Slab config.geometry}
      (found : pool.shelf.retired[position]? = some slab)
      (startsThere : slab.Starts (spot.address config.geometry side)) :
      slab = twin.slab config.geometry side :=
    sound.orderly.eq_of_mem_extent
      (Shelf.mem_slabs.2 (Or.inr (List.mem_of_getElem? found)))
      (Shelf.mem_slabs.2 (Or.inr listed)) startsThere.mem_extent
      starts.mem_extent
  have within
      {active : Slab config.geometry}
      {index : Nat}
      (serving : pool.shelf.active = some active)
      (used : index ∈ pool.inUse) :
      index < active.capacity := by
    rw [inUse_of_active serving] at used
    exact (sound.settled_active serving).lt_of_mem_inUse used
  have removal :=
    remove_spec sound (spot.address config.geometry side) memory
  generalize pool.remove (spot.address config.geometry side) memory = outcome
    at removal ⊢
  cases removal with
  | foreign nowhere =>
    exact (nowhere _ (Shelf.mem_slabs.2 (Or.inr listed)) starts).elim
  | vacant serving inside addressed unused =>
    exact (inactive serving addressed inside).elim
  | refused serving addressed used below undisturbed =>
    exact (inactive serving addressed (within serving used)).elim
  | released serving addressed release undisturbed =>
    have used := release.mem_inUse sound serving
    exact (inactive serving addressed (within serving used)).elim
  | counted found startsThere several =>
    cases unique found startsThere
    have more : 1 < twin.live := several
    refine ⟨_, _, rfl, ?_, rfl⟩
    rw [lessened, if_pos more]
    exact laid.drained retired found
  | emptied found startsThere last =>
    cases unique found startsThere
    have single : ¬ 1 < twin.live := Nat.not_lt.2 (Nat.le_of_eq last)
    refine ⟨_, _, rfl, ?_, rfl⟩
    rw [lessened, if_neg single]
    exact laid.relieved retired found

end Sketch.Laid

end Side

/-! ## Both sides -/

/-- The record after a slot is served is told from the record before. -/
theorem Pool.Service.agree
    {left right : Pool config}
    (same : left.vacancies = right.vacancies)
    {active : Twin}
    {leftSide rightSide : Plot → Nat}
    {index otherIndex mark otherMark : Nat}
    {vacancies otherVacancies : Vacancies}
    (service :
      left.Service (active.slab config.geometry leftSide) index mark vacancies)
    (other :
      right.Service (active.slab config.geometry rightSide) otherIndex otherMark
        otherVacancies) :
    index = otherIndex ∧ mark = otherMark ∧ vacancies = otherVacancies := by
  cases service with
  | reused highest settled =>
    rw [same] at highest settled ⊢
    cases other with
    | reused otherHighest otherSettled =>
      cases highest.symm.trans otherHighest
      have marks := settled.marks_eq.trans otherSettled.marks_eq.symm
      dsimp only at marks
      rw [marks]
      exact ⟨rfl, rfl, rfl⟩
    | extended compact room => cases highest.symm.trans compact
  | extended compact room =>
    rw [same] at compact ⊢
    cases other with
    | reused highest settled => cases compact.symm.trans highest
    | extended otherCompact otherRoom => exact ⟨rfl, rfl, rfl⟩

namespace Abreast

variable [SeparatingProvider σ] [SeparatingProvider τ]
variable {sketch : Sketch} {left : World config σ} {right : World config τ}

omit [Provider σ] [Provider τ] [SeparatingProvider σ] [SeparatingProvider τ] in
theorem available_eq
    (abreast : Abreast sketch left right)
    (leftSound : left.pool.Sound)
    (rightSound : right.pool.Sound) :
    left.pool.available = right.pool.available := by
  rw [abreast.leftLaid.available_eq leftSound,
    abreast.rightLaid.available_eq rightSound]

/-- Both pools grow, or growth is refused to both. -/
theorem grow
    (abreast : Abreast sketch left right)
    (leftBalanced : left.pool.Balanced left.memory)
    (rightBalanced : right.pool.Balanced right.memory)
    {required : Nat}
    (concur :
      Concur (left.pool.grow required left.memory).memory.queries
        (right.pool.grow required right.memory).memory.queries) :
    ∃ next, sketch.Grows config next ∧
      (left.pool.grow required left.memory).answer =
          (right.pool.grow required right.memory).answer ∧
        Abreast next (.ofOutcome (left.pool.grow required left.memory))
          (.ofOutcome (right.pool.grow required right.memory)) := by
  have leftLaid := abreast.leftLaid
  have rightLaid := abreast.rightLaid
  have room := leftLaid.room.trans rightLaid.room.symm
  have hint := leftLaid.hint.trans rightLaid.hint.symm
  have count : left.pool.shelf.retiredCount = right.pool.shelf.retiredCount := by
    rw [Shelf.retiredCount, Shelf.retiredCount, leftLaid.retired.length_eq,
      rightLaid.retired.length_eq, List.length_map, List.length_map]
  rcases grow_concur room count hint abreast.queries concur with
    ⟨queries, refused | granted⟩
  · rcases refused with
      ⟨fault, room, leftAnswer, rightAnswer, leftPool, rightPool⟩
    refine
      ⟨_, .kept room, leftAnswer.trans rightAnswer.symm, ?_, ?_, queries⟩
    · rw [World.ofOutcome, leftPool]
      exact leftLaid.withRoom room
    · rw [World.ofOutcome, rightPool]
      exact rightLaid.withRoom room
  · rcases granted with ⟨leftGranted, rightGranted, rooms⟩
    have leftGrowth := growth_spec leftBalanced required
    have rightGrowth := growth_spec rightBalanced required
    rcases leftGrowth.eq_ok leftGranted with
      ⟨leftGrown, leftAfter, leftBase, leftEnd, leftActive⟩
    rcases rightGrowth.eq_ok rightGranted with
      ⟨rightGrown, rightAfter, rightBase, rightEnd, rightActive⟩
    rw [leftEnd] at leftGrowth queries rooms ⊢
    rw [rightEnd] at rightGrowth queries rooms ⊢
    let plot : Plot := ⟨leftBase, rightBase, max required sketch.hint⟩
    have rightRenewed :
        (sketch.renewed config plot rightGrown.shelf.room).Laid Plot.right
          rightGrown :=
      rightLaid.renewed rightGrowth rfl rightActive
    rw [← rooms] at rightRenewed
    exact
      ⟨_, .renewed plot leftGrown.shelf.room, rfl,
        leftLaid.renewed leftGrowth rfl leftActive, rightRenewed, queries⟩

/-- Both pools keep their slabs, or they grow alike. -/
theorem reserve
    (abreast : Abreast sketch left right)
    (leftBalanced : left.pool.Balanced left.memory)
    (rightBalanced : right.pool.Balanced right.memory)
    {additional : Nat}
    (concur :
      Concur (left.pool.reserve additional left.memory).memory.queries
        (right.pool.reserve additional right.memory).memory.queries) :
    ∃ next, sketch.Grows config next ∧
      (left.pool.reserve additional left.memory).answer =
          (right.pool.reserve additional right.memory).answer ∧
        Abreast next
          (.ofOutcome (left.pool.reserve additional left.memory))
          (.ofOutcome (right.pool.reserve additional right.memory)) := by
  have available := abreast.available_eq leftBalanced.sound rightBalanced.sound
  unfold Pool.reserve at concur ⊢
  rw [← available] at concur ⊢
  split
  case isTrue enough =>
    exact
      ⟨sketch, .kept sketch.room, rfl, abreast.leftLaid, abreast.rightLaid,
        abreast.queries⟩
  case isFalse short =>
    rw [if_neg short, if_neg short] at concur
    exact abreast.grow leftBalanced rightBalanced concur

/-- While slots are available, both pools serve the same slot. -/
theorem serve
    (abreast : Abreast sketch left right)
    (leftBalanced : left.pool.Balanced left.memory)
    (rightBalanced : right.pool.Balanced right.memory)
    (enough : 0 < left.pool.available) :
    ∃ active index mark vacancies,
      sketch.active = some active ∧ index < active.plot.capacity ∧
        left.pool.allocate left.memory =
            ⟨.ok ((active.slab config.geometry Plot.left).slotAt index),
              left.pool.withRecord (active.slab config.geometry Plot.left) mark
                vacancies,
              left.memory⟩ ∧
          right.pool.allocate right.memory =
              ⟨.ok ((active.slab config.geometry Plot.right).slotAt index),
                right.pool.withRecord (active.slab config.geometry Plot.right)
                  mark vacancies,
                right.memory⟩ ∧
            Abreast (sketch.withRecord active mark vacancies)
              (.ofOutcome (left.pool.allocate left.memory))
              (.ofOutcome (right.pool.allocate right.memory)) := by
  have leftLaid := abreast.leftLaid
  have rightLaid := abreast.rightLaid
  have available := abreast.available_eq leftBalanced.sound rightBalanced.sound
  have enoughRight : 0 < right.pool.available := by rwa [← available]
  rcases leftLaid.served leftBalanced enough with
    ⟨active, index, mark, vacancies, serving, service, leftServed⟩
  rcases rightLaid.served rightBalanced enoughRight with
    ⟨other, otherIndex, otherMark, otherVacancies, otherServing, otherService,
      rightServed⟩
  cases serving.symm.trans otherServing
  rcases Service.agree (leftLaid.vacancies.trans rightLaid.vacancies.symm)
      service otherService with
    ⟨rfl, rfl, rfl⟩
  have inside :=
    service.lt_capacity leftBalanced.sound (leftLaid.serving serving)
  refine
    ⟨active, index, mark, vacancies, serving, inside, leftServed, rightServed,
      ?_⟩
  rw [leftServed, rightServed]
  exact
    ⟨leftLaid.withRecord active mark vacancies,
      rightLaid.withRecord active mark vacancies, abreast.queries⟩

/-- Both pools serve the same slot, after a growth or without, or growth is refused to both. -/
theorem allocate
    (abreast : Abreast sketch left right)
    (leftBalanced : left.pool.Balanced left.memory)
    (rightBalanced : right.pool.Balanced right.memory)
    (concur :
      Concur (left.pool.allocate left.memory).memory.queries
        (right.pool.allocate right.memory).memory.queries) :
    ∃ next, sketch.Grows config next ∧
      ((∃ stop,
        (left.pool.allocate left.memory).answer = .error stop ∧
          (right.pool.allocate right.memory).answer = .error stop ∧
            Abreast next (.ofOutcome (left.pool.allocate left.memory))
              (.ofOutcome (right.pool.allocate right.memory))) ∨
      (∃ active index mark vacancies,
        next.active = some active ∧ index < active.plot.capacity ∧
          (left.pool.allocate left.memory).answer =
              .ok ((active.slab config.geometry Plot.left).slotAt index) ∧
            (right.pool.allocate right.memory).answer =
                .ok ((active.slab config.geometry Plot.right).slotAt index) ∧
              Abreast (next.withRecord active mark vacancies)
                (.ofOutcome (left.pool.allocate left.memory))
                (.ofOutcome (right.pool.allocate right.memory)))) := by
  have available := abreast.available_eq leftBalanced.sound rightBalanced.sound
  rcases Nat.eq_zero_or_pos left.pool.available with unavailable | enough
  · have unavailableRight : right.pool.available = 0 := by rwa [← available]
    rw [leftBalanced.sound.memory_allocate unavailable,
      rightBalanced.sound.memory_allocate unavailableRight] at concur
    rcases abreast.grow leftBalanced rightBalanced concur with
      ⟨next, grows, answers, grown⟩
    refine ⟨next, grows, ?_⟩
    have leftGrowth := growth_spec leftBalanced 1
    have rightGrowth := growth_spec rightBalanced 1
    rw [leftBalanced.sound.allocate_of_unavailable unavailable,
      rightBalanced.sound.allocate_of_unavailable unavailableRight]
    generalize left.pool.grow 1 left.memory = leftEnd
      at answers grown leftGrowth ⊢
    generalize right.pool.grow 1 right.memory = rightEnd
      at answers grown rightGrowth ⊢
    rcases leftEnd with ⟨answer, leftGrown, leftAfter⟩
    rcases rightEnd with ⟨_, rightGrown, rightAfter⟩
    cases answers
    cases answer with
    | error stop => exact Or.inl ⟨stop, rfl, rfl, grown⟩
    | ok _ =>
      dsimp only
      rw [leftGrowth.extend_eq leftBalanced, rightGrowth.extend_eq rightBalanced]
      rcases grown.serve (leftGrowth.balanced leftBalanced)
          (rightGrowth.balanced rightBalanced)
          (leftGrowth.le_available leftBalanced) with
        ⟨active, index, mark, vacancies, serving, inside, leftServed,
          rightServed, after⟩
      exact
        Or.inr
          ⟨active, index, mark, vacancies, serving, inside,
            congrArg Outcome.answer leftServed,
            congrArg Outcome.answer rightServed, after⟩
  · rcases abreast.serve leftBalanced rightBalanced enough with
      ⟨active, index, mark, vacancies, serving, inside, leftServed,
        rightServed, after⟩
    exact
      ⟨sketch, .kept sketch.room,
        Or.inr
          ⟨active, index, mark, vacancies, serving, inside,
            congrArg Outcome.answer leftServed,
            congrArg Outcome.answer rightServed, after⟩⟩

section Active

variable {active : Twin} {index : Nat}
variable {leftEnd : Outcome (Pool config) σ Unit}
variable {rightEnd : Outcome (Pool config) τ Unit}

omit [SeparatingProvider σ] [SeparatingProvider τ] in
/-- The highest slot in use of both active slabs is given back. -/
theorem remove_top
    (abreast : Abreast sketch left right)
    (leftSound : left.pool.Sound)
    (rightSound : right.pool.Sound)
    (serving : sketch.active = some active)
    (used : index ∈ sketch.inUse)
    (top : index + 1 = active.live)
    (leftEnds :
      left.pool.remove
          ((active.slab config.geometry Plot.left).slotAt index) left.memory =
        leftEnd)
    (rightEnds :
      right.pool.remove
          ((active.slab config.geometry Plot.right).slotAt index)
          right.memory =
        rightEnd) :
    ∃ mark vacancies,
      leftEnd.answer = .ok () ∧ rightEnd.answer = .ok () ∧
        Abreast (sketch.withRecord active mark vacancies)
          (.ofOutcome leftEnd) (.ofOutcome rightEnd) := by
  have leftLaid := abreast.leftLaid
  have rightLaid := abreast.rightLaid
  have leftServing := leftLaid.serving serving
  have rightServing := rightLaid.serving serving
  have leftUsed : index ∈ left.pool.inUse := by rwa [leftLaid.inUse_eq]
  have rightUsed : index ∈ right.pool.inUse := by rwa [rightLaid.inUse_eq]
  rcases leftSound.remove_top leftServing leftUsed top left.memory with
    ⟨mark, vacancies, leftRemoved, leftRelease, leftRoom⟩
  rcases rightSound.remove_top rightServing rightUsed top right.memory with
    ⟨otherMark, otherVacancies, rightRemoved, rightRelease, rightRoom⟩
  -- The marks and the vacancies are told by the slots left in use.
  have freed :
      vacancies.inUse mark = otherVacancies.inUse otherMark := by
    rw [leftRelease.inUse_eq leftServing, rightRelease.inUse_eq rightServing,
      leftLaid.inUse_eq, rightLaid.inUse_eq]
  have room : vacancies.room = otherVacancies.room := by
    rw [leftRoom, rightRoom, leftLaid.vacancies, rightLaid.vacancies]
  rcases leftRelease.settled.eq_of_inUse_eq rightRelease.settled freed with
    ⟨rfl, same⟩
  rw [room] at same
  subst same leftEnds rightEnds
  rw [leftRemoved, rightRemoved]
  exact
    ⟨mark, _, rfl, rfl, leftLaid.withRecord active mark _,
      rightLaid.withRecord active mark _, abreast.queries⟩

omit [SeparatingProvider σ] [SeparatingProvider τ] in
/-- A lower slot is given back, unless the room for its vacancy is refused to both. -/
theorem remove_below
    (abreast : Abreast sketch left right)
    (leftSound : left.pool.Sound)
    (rightSound : right.pool.Sound)
    (serving : sketch.active = some active)
    (used : index ∈ sketch.inUse)
    (below : index + 1 < active.live)
    (leftEnds :
      left.pool.remove
          ((active.slab config.geometry Plot.left).slotAt index) left.memory =
        leftEnd)
    (rightEnds :
      right.pool.remove
          ((active.slab config.geometry Plot.right).slotAt index)
          right.memory =
        rightEnd)
    (concur : Concur leftEnd.memory.queries rightEnd.memory.queries) :
    (∃ fault,
      leftEnd.answer = .error (.fault fault) ∧
        rightEnd.answer = .error (.fault fault) ∧
          Abreast sketch (.ofOutcome leftEnd) (.ofOutcome rightEnd)) ∨
    (∃ vacancies,
      leftEnd.answer = .ok () ∧ rightEnd.answer = .ok () ∧
        Abreast (sketch.withRecord active active.live vacancies)
          (.ofOutcome leftEnd) (.ofOutcome rightEnd)) := by
  have leftLaid := abreast.leftLaid
  have rightLaid := abreast.rightLaid
  have leftServing := leftLaid.serving serving
  have rightServing := rightLaid.serving serving
  have leftUsed : index ∈ left.pool.inUse := by rwa [leftLaid.inUse_eq]
  have rightUsed : index ∈ right.pool.inUse := by rwa [rightLaid.inUse_eq]
  have leftMemory :=
    leftSound.memory_remove_below leftServing leftUsed below left.memory
  have rightMemory :=
    rightSound.memory_remove_below rightServing rightUsed below right.memory
  have leftCases :=
    leftSound.remove_below leftServing leftUsed below left.memory
  have rightCases :=
    rightSound.remove_below rightServing rightUsed below right.memory
  rw [leftEnds, leftLaid.vacancies] at leftMemory leftCases
  rw [rightEnds, rightLaid.vacancies] at rightMemory rightCases
  rw [leftMemory, rightMemory] at concur
  rcases Vacancies.reserve_concur abreast.queries concur with
    ⟨queries, decision⟩
  rw [← leftMemory, ← rightMemory] at queries
  rcases leftCases with
    ⟨fault, after, refused, rfl⟩ |
    ⟨roomy, after, vacancies, granted, recorded, rfl, -⟩
  all_goals
    rcases rightCases with
      ⟨otherFault, otherAfter, otherRefused, rfl⟩ |
      ⟨otherRoomy, otherAfter, otherVacancies, otherGranted, otherRecorded,
        rfl, -⟩
  · rw [refused, otherRefused] at decision
    cases decision
    exact Or.inl ⟨fault, rfl, rfl, leftLaid, rightLaid, queries⟩
  · rw [refused, otherGranted] at decision
    cases decision
  · rw [granted, otherRefused] at decision
    cases decision
  · rw [granted, otherGranted] at decision
    cases decision
    cases recorded.symm.trans otherRecorded
    exact
      Or.inr
        ⟨vacancies, rfl, rfl,
          leftLaid.withRecord active active.live vacancies,
          rightLaid.withRecord active active.live vacancies, queries⟩

omit [SeparatingProvider σ] [SeparatingProvider τ] in
/-- A slot of both active slabs is given back, or its vacancy is refused to both. -/
theorem remove_active
    (abreast : Abreast sketch left right)
    (leftSound : left.pool.Sound)
    (rightSound : right.pool.Sound)
    (serving : sketch.active = some active)
    (used : index ∈ sketch.inUse)
    (leftEnds :
      left.pool.remove
          ((active.slab config.geometry Plot.left).slotAt index) left.memory =
        leftEnd)
    (rightEnds :
      right.pool.remove
          ((active.slab config.geometry Plot.right).slotAt index)
          right.memory =
        rightEnd)
    (concur : Concur leftEnd.memory.queries rightEnd.memory.queries) :
    (∃ fault,
      leftEnd.answer = .error (.fault fault) ∧
        rightEnd.answer = .error (.fault fault) ∧
          Abreast sketch (.ofOutcome leftEnd) (.ofOutcome rightEnd)) ∨
    (∃ mark vacancies,
      leftEnd.answer = .ok () ∧ rightEnd.answer = .ok () ∧
        Abreast (sketch.withRecord active mark vacancies)
          (.ofOutcome leftEnd) (.ofOutcome rightEnd)) := by
  have within : index < active.live := by
    rw [Sketch.inUse, Vacancies.mem_inUse, Sketch.highWater, serving] at used
    exact used.1
  rcases Nat.lt_or_eq_of_le within with below | top
  · rcases abreast.remove_below leftSound rightSound serving used below leftEnds
        rightEnds concur with
      refused | ⟨vacancies, done⟩
    · exact Or.inl refused
    · exact Or.inr ⟨active.live, vacancies, done⟩
  · exact
      Or.inr
        (abreast.remove_top leftSound rightSound serving used top leftEnds
          rightEnds)

end Active

omit [SeparatingProvider σ] [SeparatingProvider τ] in
/--
A live slot is given back on both sides, or on neither; the other live slots
stay.
-/
theorem remove
    (abreast : Abreast sketch left right)
    (leftSound : left.pool.Sound)
    (rightSound : right.pool.Sound)
    {live : Finset Nat}
    (coupled : left.pool.Coupled live)
    {spot : Spot}
    (has : sketch.Has spot)
    (member : spot.address config.geometry Plot.left ∈ live)
    {leftEnd : Outcome (Pool config) σ Unit}
    (leftEnds :
      left.pool.remove (spot.address config.geometry Plot.left) left.memory =
        leftEnd)
    {rightEnd : Outcome (Pool config) τ Unit}
    (rightEnds :
      right.pool.remove (spot.address config.geometry Plot.right)
          right.memory =
        rightEnd)
    (concur : Concur leftEnd.memory.queries rightEnd.memory.queries) :
    (∃ fault,
      leftEnd.answer = .error (.fault fault) ∧
        rightEnd.answer = .error (.fault fault) ∧
          Abreast sketch (.ofOutcome leftEnd) (.ofOutcome rightEnd)) ∨
    (∃ next,
      leftEnd.answer = .ok () ∧ rightEnd.answer = .ok () ∧
        Abreast next (.ofOutcome leftEnd) (.ofOutcome rightEnd) ∧
          ∀ other, sketch.Has other →
            other.address config.geometry Plot.left ∈ live →
              other.address config.geometry Plot.left ≠
                  spot.address config.geometry Plot.left →
                next.Has other) := by
  have leftLaid := abreast.leftLaid
  have rightLaid := abreast.rightLaid
  rcases has.cases with ⟨twin, plot, serving | retired⟩
  · have used := leftLaid.mem_inUse coupled serving has plot member
    rw [Spot.address_eq plot] at leftEnds rightEnds
    rcases abreast.remove_active leftSound rightSound serving used leftEnds
        rightEnds concur with
      refused | ⟨mark, vacancies, leftDone, rightDone, after⟩
    · exact Or.inl refused
    · exact
        Or.inr
          ⟨_, leftDone, rightDone, after,
            fun other otherHas _ _ =>
              otherHas.withRecord serving mark vacancies⟩
  · rcases leftLaid.remove_retired leftSound retired has plot left.memory with
      ⟨leftPool, leftAfter, leftRemoved, leftLeft, leftQueries⟩
    rcases rightLaid.remove_retired rightSound retired has plot
        right.memory with
      ⟨rightPool, rightAfter, rightRemoved, rightLeft, rightQueries⟩
    subst leftEnds rightEnds
    rw [leftRemoved, rightRemoved]
    refine Or.inr ⟨_, rfl, rfl, ⟨leftLeft, rightLeft, ?_⟩, ?_⟩
    · exact leftQueries.trans (abreast.queries.trans rightQueries.symm)
    · intro other otherHas otherMember differs
      apply otherHas.lessened retired
      intro single otherPlot
      exact
        differs
          (leftLaid.address_eq_of_last coupled retired single has otherHas plot
            otherPlot member otherMember)

omit [SeparatingProvider σ] [SeparatingProvider τ] [Provider σ] [Provider τ] in
/-- Both pools take a slot of a slab that is there for one in use, or neither. -/
theorem contains_eq
    (abreast : Abreast sketch left right)
    (leftSound : left.pool.Sound)
    (rightSound : right.pool.Sound)
    {spot : Spot}
    (has : sketch.Has spot) :
    left.pool.contains (spot.address config.geometry Plot.left) =
      right.pool.contains (spot.address config.geometry Plot.right) := by
  rcases has.cases with ⟨twin, plot, serving | retired⟩
  · rw [Bool.eq_iff_iff,
      abreast.leftLaid.contains_active_iff leftSound serving has plot,
      abreast.rightLaid.contains_active_iff rightSound serving has plot]
  · rw [abreast.leftLaid.contains_retired leftSound retired has plot,
      abreast.rightLaid.contains_retired rightSound retired has plot]

omit [SeparatingProvider σ] [SeparatingProvider τ] [Provider σ] [Provider τ] in
theorem clear
    (abreast : Abreast sketch left right) :
    Abreast sketch.cleared
      ⟨(left.pool.clear left.memory).1, (left.pool.clear left.memory).2⟩
      ⟨(right.pool.clear right.memory).1,
        (right.pool.clear right.memory).2⟩ where
  leftLaid := abreast.leftLaid.cleared left.memory
  rightLaid := abreast.rightLaid.cleared right.memory
  queries := by
    rw [queries_clear, queries_clear]
    exact abreast.queries

omit [SeparatingProvider σ] [SeparatingProvider τ] [Provider σ] [Provider τ] in
theorem destroy
    (abreast : Abreast sketch left right)
    (leftBalanced : left.pool.Balanced left.memory)
    (rightBalanced : right.pool.Balanced right.memory) :
    Abreast (sketch.razed config)
      ⟨(left.pool.destroy left.memory).1, (left.pool.destroy left.memory).2⟩
      ⟨(right.pool.destroy right.memory).1,
        (right.pool.destroy right.memory).2⟩ where
  leftLaid := abreast.leftLaid.razed leftBalanced
  rightLaid := abreast.rightLaid.razed rightBalanced
  queries := by
    rw [queries_destroy, queries_destroy]
    exact abreast.queries

end Abreast

end SlabPool
