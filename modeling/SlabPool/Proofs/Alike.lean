import SlabPool.Proofs.Concurrence
import SlabPool.Proofs.Petition

/-!
# Pools that are alike but for their storage

How much storage was granted for the lists of a pool decides when it asks for
more, and nothing else.  Two pools are `Alike` if they differ in that alone.  As
long as no request is refused and new blocks are placed alike, one request after
another is replied to alike, the log is told the same, and the pools stay alike:
`World.Alike.after` says so of one request and `World.Alike.reports` of all.

A request is made of two worlds at once, whose memory may come from different
providers: where it changes the provider it names one for each.
-/

namespace SlabPool

/-! ## What was granted -/

/-- The base of the block that was granted, if one was. -/
def Transaction.base? : Transaction → Option Nat
  | .block _ _ base => base
  | .storage _ _ _ => none
  | .returned _ => none

namespace Memory

variable {σ τ : Type}

/-- The bases of all blocks that were granted, the newest first. -/
def bases (memory : Memory σ) : List Nat :=
  memory.ledger.filterMap Transaction.base?

/-- Every request made meanwhile was granted. -/
def Granting (before after : Memory σ) : Prop :=
  ∃ decisions,
    after.queries = decisions ++ before.queries ∧
      ∀ decision ∈ decisions, decision.2 = true

/-- If both got one block meanwhile, the two are at the same place. -/
def PlacedAlike
    (left leftAfter : Memory σ)
    (right rightAfter : Memory τ) :
    Prop :=
  ∀ base other,
    leftAfter.bases = base :: left.bases →
      rightAfter.bases = other :: right.bases → base = other

/-- The last request was granted like all others. -/
theorem Granting.granted
    {before after : Memory σ}
    (granting : before.Granting after)
    {decision : Query × Bool}
    (asked : after.queries = decision :: before.queries) :
    decision.2 = true := by
  rcases granting with ⟨decisions, told, all⟩
  have same : [decision] = decisions :=
    List.append_cancel_right (asked.symm.trans told)
  apply all
  rw [← same]
  exact List.mem_cons_self

theorem bases_acquire
    [Provider σ]
    {memory after : Memory σ}
    {layout : Layout}
    {base : Nat}
    (granted : memory.acquire layout = (some base, after)) :
    after.bases = base :: memory.bases := by
  have ledger :
      (memory.acquire layout).2.ledger =
        .block layout.size layout.align (memory.acquire layout).1 ::
          memory.ledger :=
    rfl
  rw [granted] at ledger
  rw [bases, ledger]
  rfl

theorem Asked.bases_eq
    [Provider σ]
    {memory after : Memory σ}
    {resource : Resource}
    (asked : memory.Asked resource after) :
    after.bases = memory.bases := by
  cases asked with
  | spared => rfl
  | secured bytes => rfl

end Memory

namespace Shelf

variable {geometry : Geometry} {σ : Type}

/-- A new slab serves, and no block is granted for it any more. -/
theorem activate_new
    (shelf : Shelf geometry)
    (slab : Slab geometry)
    (previousItems : Nat)
    (memory : Memory σ) :
    (shelf.activate slab previousItems memory).2.1.active = some slab ∧
      (shelf.activate slab previousItems memory).2.2.bases =
        memory.bases := by
  unfold activate
  cases shelf.active with
  | none => exact ⟨rfl, rfl⟩
  | some previous =>
    dsimp only
    split
    case isTrue empty => exact ⟨rfl, rfl⟩
    case isFalse nonempty =>
      cases previous.withLive previousItems <;> exact ⟨rfl, rfl⟩

end Shelf

/-- If everything is granted, so is room for a vacancy. -/
theorem Vacancies.reserve_of_granting
    {σ : Type}
    [Provider σ]
    {vacancies : Vacancies}
    {memory : Memory σ}
    (granting : memory.Granting (vacancies.reserve memory).2) :
    ∃ room after,
      vacancies.reserve memory = (.ok { vacancies with room }, after) ∧
        after.journal = memory.journal := by
  rw [answer_reserve] at granting ⊢
  split
  case isTrue full =>
    rw [if_pos full] at granting
    have granted := granting.granted (memory.queries_secure .vacancies _)
    dsimp only at granted
    rw [if_pos granted]
    exact ⟨_, _, rfl, rfl⟩
  case isFalse roomy => exact ⟨vacancies.room, memory, rfl, rfl⟩

namespace Pool

variable {config : Config} {σ τ : Type}

/-! ## Alike pools -/

/-- The pool with storage for other numbers of retired slabs and vacancies. -/
def withRooms
    (pool : Pool config)
    (shelfRoom vacancyRoom : Nat) :
    Pool config :=
  { pool with
    shelf := { pool.shelf with room := shelfRoom }
    vacancies := { pool.vacancies with room := vacancyRoom } }

/-- The pools differ at most in the storage granted for their lists. -/
structure Alike (left right : Pool config) : Prop where
  active : left.shelf.active = right.shelf.active
  retired : left.shelf.retired = right.shelf.retired
  stack : left.vacancies.stack = right.vacancies.stack
  marks : left.vacancies.marks = right.vacancies.marks
  hint : left.hint = right.hint

namespace Alike

variable {left right : Pool config}

theorem exists_withRooms
    (alike : left.Alike right) :
    ∃ shelfRoom vacancyRoom,
      right = left.withRooms shelfRoom vacancyRoom := by
  refine ⟨right.shelf.room, right.vacancies.room, ?_⟩
  rcases right with ⟨⟨active, retired, room⟩, ⟨stack, marks, storage⟩, hint⟩
  rcases alike with ⟨rfl, rfl, rfl, rfl, rfl⟩
  rfl

/-- What does not depend on the storage for lists is the same of both. -/
theorem view_eq
    {α : Type}
    (alike : left.Alike right)
    (view : Pool config → α)
    (blind :
      ∀ shelfRoom vacancyRoom,
        view (left.withRooms shelfRoom vacancyRoom) = view left) :
    view left = view right := by
  rcases alike.exists_withRooms with ⟨shelfRoom, vacancyRoom, rfl⟩
  exact (blind shelfRoom vacancyRoom).symm

theorem available_eq
    (alike : left.Alike right) :
    left.available = right.available :=
  alike.view_eq available fun _ _ => rfl

theorem inUse_eq
    (alike : left.Alike right) :
    left.inUse = right.inUse :=
  alike.view_eq inUse fun _ _ => rfl

theorem slabCount_eq
    (alike : left.Alike right) :
    left.shelf.slabCount = right.shelf.slabCount :=
  alike.view_eq (fun pool => pool.shelf.slabCount) fun _ _ => rfl

theorem activeCapacity_eq
    (alike : left.Alike right) :
    left.activeCapacity = right.activeCapacity :=
  alike.view_eq activeCapacity fun _ _ => rfl

theorem isExhausted_eq
    (alike : left.Alike right) :
    left.isExhausted = right.isExhausted :=
  alike.view_eq isExhausted fun _ _ => rfl

theorem itemCount_eq
    (alike : left.Alike right) :
    left.itemCount = right.itemCount := by
  have active : left.activeItems = right.activeItems :=
    alike.view_eq activeItems fun _ _ => rfl
  rw [itemCount, itemCount, active, Shelf.retiredItems, Shelf.retiredItems,
    alike.retired]

/-- Alike pools describe themselves alike. -/
theorem statistics_eq
    (alike : left.Alike right) :
    left.statistics = right.statistics := by
  have items := alike.itemCount_eq
  rcases alike.exists_withRooms with ⟨shelfRoom, vacancyRoom, rfl⟩
  rw [statistics, statistics, ← items]
  rfl

theorem contains_eq
    (alike : left.Alike right)
    (address : Nat) :
    left.contains address = right.contains address :=
  alike.view_eq (contains · address) fun _ _ => rfl

theorem walk_eq
    (alike : left.Alike right) :
    left.walk = right.walk :=
  alike.view_eq walk fun _ _ => rfl

/-- Slots start in alike pools at the same places. -/
theorem locate_eq
    (alike : left.Alike right)
    (address : Nat) :
    left.shelf.locate address = right.shelf.locate address :=
  alike.view_eq (fun pool => pool.shelf.locate address) fun _ _ => rfl

/-- Of alike pools the same slab retires in the same place, or none. -/
theorem demotion_agree
    (alike : left.Alike right)
    {held otherHeld after otherAfter : List Block}
    {retired otherRetired : List (Slab config.geometry)}
    {events otherEvents : List Event}
    (demotion : left.Demotion held retired after events)
    (other : right.Demotion otherHeld otherRetired otherAfter otherEvents) :
    retired = otherRetired ∧ events = otherEvents := by
  have active := alike.active
  have retiredSame := alike.retired
  have used := alike.inUse_eq
  cases demotion with
  | absent inactive =>
    rw [inactive] at active
    cases other with
    | absent _ => exact ⟨retiredSame, rfl⟩
    | released serving _ => cases active.trans serving
    | retired serving _ _ _ => cases active.trans serving
  | released serving unused =>
    rw [serving] at active
    cases other with
    | absent inactive => cases active.trans inactive
    | released otherServing _ =>
      cases active.trans otherServing
      exact ⟨retiredSame, rfl⟩
    | retired _ some _ _ => exact absurd (used.symm.trans unused) some.ne_empty
  | @retired previous position serving some inside ordered =>
    rw [serving] at active
    cases other with
    | absent inactive => cases active.trans inactive
    | released _ unused => exact absurd (used.trans unused) some.ne_empty
    | @retired _ otherPosition otherServing _ otherInside otherOrdered =>
      cases active.trans otherServing
      rw [← retiredSame] at otherInside otherOrdered ⊢
      -- The slab at the lower of two places would lie on both sides.
      have place : position = otherPosition := by
        by_contra differ
        rcases Nat.lt_or_gt_of_ne differ with lower | higher
        · have found :=
            List.getElem?_eq_getElem (Nat.lt_of_lt_of_le lower otherInside)
          have below := (otherOrdered _ _ found).1 lower
          exact Nat.lt_irrefl _ ((ordered _ _ found).2 below)
        · have found :=
            List.getElem?_eq_getElem (Nat.lt_of_lt_of_le higher inside)
          have below := (ordered _ _ found).1 higher
          exact Nat.lt_irrefl _ ((otherOrdered _ _ found).2 below)
      rw [place, used]
      exact ⟨rfl, rfl⟩

end Alike

end Pool

/-- Both outcomes show the same and leave alike pools, and the log is the same. -/
structure Outcome.Alike
    {config : Config}
    {α σ τ : Type}
    (left : Outcome (Pool config) σ α)
    (right : Outcome (Pool config) τ α) :
    Prop where
  answer : left.answer = right.answer
  pools : left.pool.Alike right.pool
  journal : left.memory.journal = right.memory.journal

namespace Pool

variable {config : Config} {σ τ : Type}

/-! ## Growth -/

section Granting

variable [Provider σ] {pool : Pool config} {memory : Memory σ}

/-- What is prepared has one block, which was granted meanwhile. -/
theorem Preparation.bases_eq
    {capacity : Nat}
    {slab : Slab config.geometry}
    {vacancies : Vacancies}
    {shelf : Shelf config.geometry}
    {after : Memory σ}
    (preparation :
      pool.Preparation capacity memory (.ok (slab, vacancies)) shelf after) :
    after.bases = slab.base :: memory.bases := by
  cases preparation with
  | prepared acquired asked =>
    cases acquired with
    | granted size align granted =>
      have room := pool.shelf.asked_reserveRetirement memory
      rw [asked.bases_eq, Memory.bases_acquire granted, room.bases_eq]

/-- A growth that succeeds was granted one block, that of the new slab. -/
theorem bases_grow
    {required : Nat}
    (grown : (pool.grow required memory).answer = .ok ()) :
    ∃ slab,
      (pool.grow required memory).pool.shelf.active = some slab ∧
        (pool.grow required memory).memory.bases =
          slab.base :: memory.bases := by
  rcases pool.grow_cases required memory with
    ⟨-, same⟩ | ⟨-, fault, shelf, after, -, same⟩ |
    ⟨-, slab, vacancies, shelf, after, preparation, same⟩
  · rw [same] at grown
    cases grown
  · rw [same] at grown
    cases grown
  · rcases install_cases ({ pool with shelf } : Pool config) slab vacancies
        after with
      ⟨answer, activated, left, made, shown, told⟩
    rcases shelf.activate_new slab
        ({ pool with shelf } : Pool config).activeItems after with
      ⟨active, bases⟩
    rw [made] at active bases
    rw [same]
    refine ⟨slab, by rw [shown]; exact active, ?_⟩
    rw [← preparation.bases_eq]
    rcases told with told | ⟨event, told⟩ <;> rw [told] <;> exact bases

/-- A growth within the limit succeeds if everything is granted. -/
theorem Balanced.grow_of_granting
    [SeparatingProvider σ]
    (balanced : pool.Balanced memory)
    {required : Nat}
    (bounded : required ≤ config.limit)
    (granting : memory.Granting (pool.grow required memory).memory) :
    (pool.grow required memory).answer = .ok () := by
  rcases balanced.petitioned_grow bounded with
    ⟨answer, ⟨decisions, told, petition⟩, ends⟩
  rcases granting with ⟨granted, asked, all⟩
  have same : granted = decisions.reverse :=
    List.append_cancel_right (asked.symm.trans told)
  have satisfied : answer = .ok () := by
    rw [petition.ok_iff]
    intro decision member
    apply all
    rw [same]
    exact List.mem_reverse.2 member
  rw [ends, satisfied]
  rfl

/-- If everything is granted, there is room to record the vacancy of a slot. -/
theorem reserve_of_granting
    {active : Slab config.geometry}
    {index address : Nat}
    {β : Type}
    {act : Nat → β → β}
    {here : β}
    (used : ¬ (active.live ≤ index ∨ pool.vacancies.contains index = true))
    (buried : ¬ index = Word.sub active.live 1)
    (granting :
      memory.Granting
        (pool.removeActive active index address act here memory).1.memory) :
    ∃ room after,
      pool.vacancies.reserve memory =
          (.ok { pool.vacancies with room }, after) ∧
        after.journal = memory.journal := by
  apply Vacancies.reserve_of_granting
  unfold removeActive at granting
  rw [if_neg used, if_neg buried] at granting
  -- Whatever becomes of the record, memory is as after the request.
  generalize pool.vacancies.reserve memory = answer at granting ⊢
  rcases answer with ⟨fault | vacancies, after⟩
  · exact granting
  · exact granting

end Granting

namespace Alike

variable {left right : Pool config}
variable {leftMemory : Memory σ} {rightMemory : Memory τ}

section Requests

variable [Provider σ] [Provider τ]

/-- Alike pools grow alike. -/
theorem grow
    [SeparatingProvider σ]
    [SeparatingProvider τ]
    (alike : left.Alike right)
    (journal : leftMemory.journal = rightMemory.journal)
    (leftBalanced : left.Balanced leftMemory)
    (rightBalanced : right.Balanced rightMemory)
    (required : Nat)
    (leftGranting :
      leftMemory.Granting (left.grow required leftMemory).memory)
    (rightGranting :
      rightMemory.Granting (right.grow required rightMemory).memory)
    (placed :
      leftMemory.PlacedAlike (left.grow required leftMemory).memory
        rightMemory (right.grow required rightMemory).memory) :
    (left.grow required leftMemory).Alike
      (right.grow required rightMemory) := by
  by_cases bounded : required ≤ config.limit
  · have leftDone := leftBalanced.grow_of_granting bounded leftGranting
    have rightDone := rightBalanced.grow_of_granting bounded rightGranting
    have leftGrowth := growth_spec leftBalanced required
    have rightGrowth := growth_spec rightBalanced required
    rcases bases_grow leftDone with ⟨slab, serving, bases⟩
    rcases bases_grow rightDone with ⟨other, otherServing, otherBases⟩
    have base := placed _ _ bases otherBases
    generalize left.grow required leftMemory = leftEnd
      at leftDone leftGrowth serving ⊢
    generalize right.grow required rightMemory = rightEnd
      at rightDone rightGrowth otherServing ⊢
    cases leftGrowth with
    | excessive beyond => cases leftDone
    | refused bounded fits undisturbed => cases leftDone
    | replaced _ capacity untouched _ demotion _ told =>
      cases rightGrowth with
      | excessive beyond => cases rightDone
      | refused bounded fits undisturbed => cases rightDone
      | replaced _ otherCapacity otherUntouched _ otherDemotion _ otherTold =>
        cases serving
        cases otherServing
        have wanted :
            left.grownCapacity required = right.grownCapacity required := by
          rw [grownCapacity, grownCapacity, alike.hint]
        have same : slab = other := by
          rcases slab with ⟨slabBase, slabCapacity, slabLive⟩
          rcases other with ⟨otherBase, otherCapacity, otherLive⟩
          dsimp only at *
          subst base capacity otherCapacity untouched otherUntouched
          rw [wanted]
        subst same
        rcases alike.demotion_agree demotion otherDemotion with ⟨rfl, rfl⟩
        refine ⟨rfl, ⟨rfl, rfl, rfl, rfl, rfl⟩, ?_⟩
        rw [told, otherTold, journal]
  · have beyond := Nat.lt_of_not_le bounded
    rw [Pool.grow, Pool.grow, if_pos beyond, if_pos beyond]
    exact ⟨rfl, alike, journal⟩

theorem reserve
    [SeparatingProvider σ]
    [SeparatingProvider τ]
    (alike : left.Alike right)
    (journal : leftMemory.journal = rightMemory.journal)
    (leftBalanced : left.Balanced leftMemory)
    (rightBalanced : right.Balanced rightMemory)
    (additional : Nat)
    (leftGranting :
      leftMemory.Granting (left.reserve additional leftMemory).memory)
    (rightGranting :
      rightMemory.Granting (right.reserve additional rightMemory).memory)
    (placed :
      leftMemory.PlacedAlike (left.reserve additional leftMemory).memory
        rightMemory (right.reserve additional rightMemory).memory) :
    (left.reserve additional leftMemory).Alike
      (right.reserve additional rightMemory) := by
  unfold Pool.reserve at leftGranting rightGranting placed ⊢
  rw [← alike.available_eq] at rightGranting placed ⊢
  split
  case isTrue enough => exact ⟨rfl, alike, journal⟩
  case isFalse short =>
    rw [if_neg short] at leftGranting
    rw [if_neg short] at rightGranting
    rw [if_neg short, if_neg short] at placed
    exact
      alike.grow journal leftBalanced rightBalanced additional leftGranting
        rightGranting placed

end Requests

/-! ## Allocation -/

theorem extend
    (alike : left.Alike right)
    (journal : leftMemory.journal = rightMemory.journal) :
    (left.extend leftMemory).Alike (right.extend rightMemory) := by
  unfold Pool.extend
  rw [← alike.active]
  cases left.shelf.active with
  | none => exact ⟨rfl, alike, journal⟩
  | some active =>
    dsimp only
    cases active.bump with
    | error breach => exact ⟨rfl, alike, journal⟩
    | ok bumped =>
      exact
        ⟨rfl, ⟨rfl, alike.retired, alike.stack, alike.marks, alike.hint⟩,
          journal⟩

theorem refill
    (alike : left.Alike right)
    (journal : leftMemory.journal = rightMemory.journal)
    (index : Nat) :
    (left.refill index leftMemory).Alike (right.refill index rightMemory) := by
  unfold Pool.refill
  rw [← alike.active]
  cases left.shelf.active with
  | none => exact ⟨rfl, alike, journal⟩
  | some active => exact ⟨rfl, alike, journal⟩

/-- Alike pools take the same slot off the record. -/
theorem takeHighest
    (alike : left.Alike right)
    {index : Nat}
    {rest : List Nat}
    (listed : left.vacancies.stack = index :: rest) :
    ∃ answer vacancies others,
      left.vacancies.takeHighest = (answer, vacancies) ∧
        right.vacancies.takeHighest = (answer, others) ∧
          answer ≠ .ok none ∧
            ({ left with vacancies } : Pool config).Alike
              { right with vacancies := others } := by
  unfold Vacancies.takeHighest
  rw [← alike.stack, ← alike.marks, listed]
  dsimp only
  cases left.vacancies.marks.write? index false with
  | none =>
    exact
      ⟨_, _, _, rfl, rfl, nofun, alike.active, alike.retired, rfl, rfl,
        alike.hint⟩
  | some marks =>
    exact
      ⟨_, _, _, rfl, rfl, nofun, alike.active, alike.retired, rfl, rfl,
        alike.hint⟩

theorem allocate
    [Provider σ]
    [Provider τ]
    [SeparatingProvider σ]
    [SeparatingProvider τ]
    (alike : left.Alike right)
    (journal : leftMemory.journal = rightMemory.journal)
    (leftBalanced : left.Balanced leftMemory)
    (rightBalanced : right.Balanced rightMemory)
    (leftGranting : leftMemory.Granting (left.allocate leftMemory).memory)
    (rightGranting : rightMemory.Granting (right.allocate rightMemory).memory)
    (placed :
      leftMemory.PlacedAlike (left.allocate leftMemory).memory
        rightMemory (right.allocate rightMemory).memory) :
    (left.allocate leftMemory).Alike (right.allocate rightMemory) := by
  have available := alike.available_eq
  rcases Nat.eq_zero_or_pos left.available with unavailable | enough
  · have otherUnavailable := available.symm.trans unavailable
    have leftSound := leftBalanced.sound
    have rightSound := rightBalanced.sound
    rw [leftSound.memory_allocate unavailable] at leftGranting placed
    rw [rightSound.memory_allocate otherUnavailable] at rightGranting placed
    rw [leftSound.allocate_of_unavailable unavailable,
      rightSound.allocate_of_unavailable otherUnavailable]
    have grown :=
      alike.grow journal leftBalanced rightBalanced 1 leftGranting
        rightGranting placed
    generalize left.grow 1 leftMemory = leftEnd at grown ⊢
    generalize right.grow 1 rightMemory = rightEnd at grown ⊢
    rcases leftEnd with ⟨leftAnswer, leftGrown, leftAfter⟩
    rcases rightEnd with ⟨rightAnswer, rightGrown, rightAfter⟩
    rcases grown with ⟨answers, pools, journals⟩
    dsimp only at answers pools journals
    subst answers
    cases leftAnswer with
    | error stop => exact ⟨rfl, pools, journals⟩
    | ok done => exact pools.extend journals
  · unfold Pool.allocate
    cases listed : left.vacancies.stack with
    | nil =>
      have whole := leftBalanced.sound.available_add_card
      have roomy : ¬ left.isExhausted = true := by
        intro exhausted
        have full :=
          leftBalanced.sound.card_inUse_of_exhausted listed exhausted
        omega
      rw [Vacancies.takeHighest, Vacancies.takeHighest, ← alike.stack, listed]
      dsimp only
      rw [← alike.isExhausted_eq, if_neg roomy, if_neg roomy]
      exact alike.extend journal
    | cons index rest =>
      rcases alike.takeHighest listed with
        ⟨answer, vacancies, others, leftTaken, rightTaken, taken, pools⟩
      rw [leftTaken, rightTaken]
      rcases answer with breach | _ | index
      · exact ⟨rfl, pools, journal⟩
      · exact absurd rfl taken
      · exact pools.refill journal index

/-! ## Removal -/

theorem lower
    (alike : left.Alike right)
    (active : Slab config.geometry) :
    (left.lower active).1 = (right.lower active).1 ∧
      (left.lower active).2.Alike (right.lower active).2 := by
  unfold Pool.lower
  rw [← alike.stack, ← alike.marks]
  cases active.decrement with
  | error breach => exact ⟨rfl, alike⟩
  | ok active => exact ⟨rfl, rfl, alike.retired, rfl, rfl, alike.hint⟩

/-- A vacancy is recorded alike, whatever room there is. -/
theorem record
    (alike : left.Alike right)
    (room otherRoom index : Nat) :
    ∃ answer vacancies others,
      ({ left.vacancies with room } : Vacancies).record index =
          (answer, vacancies) ∧
        ({ right.vacancies with room := otherRoom } : Vacancies).record index =
            (answer, others) ∧
          ({ left with vacancies } : Pool config).Alike
            { right with vacancies := others } := by
  rcases alike.exists_withRooms with ⟨shelfRoom, vacancyRoom, rfl⟩
  unfold Vacancies.record Vacancies.contains withRooms
  dsimp only
  by_cases recorded : left.vacancies.marks.has index = true
  · rw [if_pos recorded, if_pos recorded]
    exact ⟨_, _, _, rfl, rfl, rfl, rfl, rfl, rfl, rfl⟩
  · rw [if_neg recorded, if_neg recorded]
    cases left.vacancies.marks.write? index true with
    | none => exact ⟨_, _, _, rfl, rfl, rfl, rfl, rfl, rfl, rfl⟩
    | some marks => exact ⟨_, _, _, rfl, rfl, rfl, rfl, rfl, rfl, rfl⟩

/-- Alike pools take back a slot of the active slab alike. -/
theorem removeActive
    [Provider σ]
    [Provider τ]
    (alike : left.Alike right)
    (journal : leftMemory.journal = rightMemory.journal)
    (active : Slab config.geometry)
    (index address : Nat)
    {β : Type}
    (act : Nat → β → β)
    (here : β)
    (leftGranting :
      leftMemory.Granting
        (left.removeActive active index address act here
          leftMemory).1.memory)
    (rightGranting :
      rightMemory.Granting
        (right.removeActive active index address act here
          rightMemory).1.memory) :
    (left.removeActive active index address act here leftMemory).1.Alike
      (right.removeActive active index address act here rightMemory).1 := by
  have contains :
      left.vacancies.contains index = right.vacancies.contains index := by
    rw [Vacancies.contains, Vacancies.contains, alike.marks]
  by_cases unused :
      active.live ≤ index ∨ left.vacancies.contains index = true
  · unfold Pool.removeActive
    rw [← contains, if_pos unused, if_pos unused]
    exact ⟨rfl, alike, journal⟩
  · by_cases top : index = Word.sub active.live 1
    · unfold Pool.removeActive
      rw [← contains, if_neg unused, if_neg unused, if_pos top, if_pos top]
      rcases alike.lower active with ⟨answers, pools⟩
      exact ⟨congrArg (Except.mapError Stop.breach) answers, pools, journal⟩
    · have otherUnused := unused
      rw [contains] at otherUnused
      rcases reserve_of_granting unused top leftGranting with
        ⟨room, after, leftReserved, leftJournal⟩
      rcases reserve_of_granting otherUnused top rightGranting with
        ⟨otherRoom, otherAfter, rightReserved, rightJournal⟩
      have journals : after.journal = otherAfter.journal := by
        rw [leftJournal, rightJournal, journal]
      unfold Pool.removeActive
      rw [← contains, if_neg unused, if_neg unused, if_neg top, if_neg top,
        leftReserved, rightReserved]
      rcases alike.record room otherRoom index with
        ⟨answer, vacancies, others, leftRecord, rightRecord, pools⟩
      dsimp only
      rw [leftRecord, rightRecord]
      exact ⟨rfl, pools, journals⟩

theorem removeRetiredItem
    (alike : left.Alike right)
    (journal : leftMemory.journal = rightMemory.journal)
    (position : Nat) :
    ∃ answer shelf other after otherAfter,
      left.shelf.removeRetiredItem position leftMemory =
          (answer, shelf, after) ∧
        right.shelf.removeRetiredItem position rightMemory =
          (answer, other, otherAfter) ∧
        ({ left with shelf } : Pool config).Alike { right with shelf := other } ∧
          after.journal = otherAfter.journal := by
  unfold Shelf.removeRetiredItem
  rw [← alike.retired]
  cases left.shelf.retired[position]? with
  | none => exact ⟨_, _, _, _, _, rfl, rfl, alike, journal⟩
  | some slab =>
    dsimp only
    cases slab.decrement with
    | error breach => exact ⟨_, _, _, _, _, rfl, rfl, alike, journal⟩
    | ok drained =>
      dsimp only
      split
      case isTrue several =>
        exact
          ⟨_, _, _, _, _, rfl, rfl,
            ⟨alike.active, rfl, alike.stack, alike.marks, alike.hint⟩,
            congrArg _ journal⟩
      case isFalse last =>
        exact
          ⟨_, _, _, _, _, rfl, rfl,
            ⟨alike.active, rfl, alike.stack, alike.marks, alike.hint⟩,
            congrArg (fun journal => _ :: _ :: journal) journal⟩

/-- Alike pools take back a slot alike. -/
theorem remove
    [Provider σ]
    [Provider τ]
    (alike : left.Alike right)
    (journal : leftMemory.journal = rightMemory.journal)
    (address : Nat)
    (leftGranting : leftMemory.Granting (left.remove address leftMemory).memory)
    (rightGranting :
      rightMemory.Granting (right.remove address rightMemory).memory) :
    (left.remove address leftMemory).Alike
      (right.remove address rightMemory) := by
  unfold Pool.remove Pool.removeWith at leftGranting rightGranting ⊢
  rw [← alike.locate_eq, ← alike.active] at rightGranting ⊢
  generalize left.shelf.locate address = place
    at leftGranting rightGranting ⊢
  rcases place with _ | index | position
  · exact ⟨rfl, alike, journal⟩
  · dsimp only at leftGranting rightGranting ⊢
    generalize left.shelf.active = serving at leftGranting rightGranting ⊢
    cases serving with
    | none => exact ⟨rfl, alike, journal⟩
    | some active =>
      exact
        alike.removeActive journal active index address _ () leftGranting
          rightGranting
  · dsimp only
    rcases alike.removeRetiredItem journal position with
      ⟨answer, shelf, other, after, otherAfter, leftEnd, rightEnd, pools,
        journals⟩
    rw [leftEnd, rightEnd]
    cases answer <;> exact ⟨rfl, pools, journals⟩

/-! ## Clearing and destroying -/

theorem journal_releaseRetired
    (alike : left.Alike right)
    (journal : leftMemory.journal = rightMemory.journal) :
    (left.shelf.releaseRetired leftMemory).2.journal =
      (right.shelf.releaseRetired rightMemory).2.journal := by
  rw [Shelf.journal_releaseRetired, Shelf.journal_releaseRetired,
    Shelf.retiredCount, Shelf.retiredCount, alike.retired, journal]

theorem clear
    (alike : left.Alike right)
    (journal : leftMemory.journal = rightMemory.journal) :
    (left.clear leftMemory).1.Alike (right.clear rightMemory).1 ∧
      (left.clear leftMemory).2.journal =
        (right.clear rightMemory).2.journal := by
  constructor
  · exact
      { active := congrArg (Option.map _) alike.active
        retired := rfl
        stack := rfl
        marks := congrArg Marks.wiped alike.marks
        hint := alike.hint }
  · rw [journal_clear, journal_clear, alike.activeCapacity_eq,
      alike.journal_releaseRetired journal]

theorem destroy
    (alike : left.Alike right)
    (journal : leftMemory.journal = rightMemory.journal) :
    (left.destroy leftMemory).1.Alike (right.destroy rightMemory).1 ∧
      (left.destroy leftMemory).2.journal =
        (right.destroy rightMemory).2.journal := by
  unfold Pool.destroy
  rw [← alike.slabCount_eq]
  split
  case isTrue none => exact ⟨alike, journal⟩
  case isFalse some =>
    dsimp only
    generalize
      Event.destroyed left.shelf.slabCount config.geometry.item.size = event
    have noted :
        (leftMemory.note event).journal = (rightMemory.note event).journal :=
      congrArg _ journal
    rw [Shelf.releaseAll_fst, Shelf.releaseAll_fst, Shelf.journal_releaseAll,
      Shelf.journal_releaseAll, alike.active,
      alike.journal_releaseRetired noted]
    exact ⟨⟨rfl, rfl, rfl, rfl, rfl⟩, rfl⟩

end Alike

end Pool

end SlabPool
