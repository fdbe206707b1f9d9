import SlabPool.Arena
import SlabPool.Proofs.Lifecycle
import SlabPool.Reply

/-!
# Runs of requests

A world is a pool with its memory.  A request changes the world and is replied
to; a `Deal` is a request with the world it was made in, and a `Run` the deals
since a pool was set up, the newest first.  Nothing is asked of the addresses
in requests, and the provider may refuse whatever it likes.

Two sets can be told from the deals alone: the addresses that are `live`, and
those `issued` from the newest slab.  `Abiding` says that only live addresses
were given back.

`Run.balanced` says that the invariant holds in every world of a run.
-/

namespace SlabPool

/-- The reply of an operation whose answer is shown in some way. -/
def Reply.ofAnswer
    {α : Type}
    (shown : α → Reply) :
    Except Stop α → Reply
  | .ok answer => shown answer
  | .error stop => .stopped stop

/-- A new slab serves allocations from now on. -/
def Event.activates : Event → Bool
  | .activated _ => true
  | _ => false

namespace Memory

variable {σ : Type}

/-- What the log was told meanwhile, the newest first. -/
def newsTo (before after : Memory σ) : List Event :=
  after.journal.take (after.journal.length - before.journal.length)

/-- Meanwhile a new slab began to serve allocations. -/
def activates (before after : Memory σ) : Bool :=
  (before.newsTo after).any Event.activates

theorem newsTo_eq
    {before after : Memory σ}
    {news : List Event}
    (journal : after.journal = news ++ before.journal) :
    before.newsTo after = news := by
  rw [newsTo, journal, List.length_append, Nat.add_sub_cancel]
  exact List.take_left

/-- What the log was told meanwhile activates no slab. -/
def Quiet (before after : Memory σ) : Prop :=
  ∃ news, after.journal = news ++ before.journal ∧
    ∀ event ∈ news, ∀ capacity, event ≠ .activated capacity

namespace Quiet

variable {before after : Memory σ}

theorem refl (memory : Memory σ) : memory.Quiet memory :=
  ⟨[], rfl, nofun⟩

/-- Another word of another kind makes no difference. -/
theorem note
    (quiet : before.Quiet after)
    {event : Event}
    (silent : ∀ capacity, event ≠ .activated capacity) :
    before.Quiet (after.note event) := by
  rcases quiet with ⟨news, journal, none⟩
  exact
    ⟨event :: news, congrArg _ journal, List.forall_mem_cons.2 ⟨silent, none⟩⟩

theorem releaseEach
    {geometry : Geometry}
    (slabs : List (Slab geometry))
    (quiet : before.Quiet after) :
    before.Quiet (Shelf.releaseEach slabs after) := by
  induction slabs generalizing after with
  | nil => exact quiet
  | cons slab slabs ih => exact ih quiet

theorem releaseRetired
    {geometry : Geometry}
    (quiet : before.Quiet after)
    (shelf : Shelf geometry) :
    before.Quiet (shelf.releaseRetired after).2 := by
  unfold Shelf.releaseRetired
  dsimp only
  apply releaseEach
  split
  · exact quiet
  · exact quiet.note nofun

theorem releaseAll
    {geometry : Geometry}
    (quiet : before.Quiet after)
    (shelf : Shelf geometry) :
    before.Quiet (shelf.releaseAll after).2 := by
  have retired := quiet.releaseRetired shelf
  cases serving : shelf.active with
  | none =>
    rw [Shelf.releaseAll_of_inactive serving]
    exact retired
  | some active =>
    rw [Shelf.releaseAll_of_active serving]
    exact retired.note (by nofun)

theorem activates_eq
    (quiet : before.Quiet after) :
    before.activates after = false := by
  rcases quiet with ⟨news, journal, none⟩
  rw [activates, newsTo_eq journal, List.any_eq_false]
  intro event member
  cases event with
  | activated capacity => exact (none _ member capacity rfl).elim
  | _ => exact Bool.false_ne_true

end Quiet

end Memory

namespace Pool

variable {config : Config} {σ : Type}

/-- A request to a pool, or a change of the source of its memory. -/
inductive Request (σ : Type) where
  | allocate
  | reserve (additional : Nat)
  | remove (address : Nat)
  | contains (address : Nat)
  | clear
  | destroy
  | slotsInUse
  /-- From now on memory comes from this provider. -/
  | supply (provider : σ)
  deriving DecidableEq, Repr

/-- The addresses in use, told from those before, the request and the reply. -/
def Request.track
    (request : Request σ)
    (reply : Reply)
    (addresses : Finset Nat) :
    Finset Nat :=
  match request, reply with
  | .allocate, .number (some address) => insert address addresses
  | .remove address, .done => addresses.erase address
  | .clear, _ => ∅
  | .destroy, _ => ∅
  | _, _ => addresses

/-- The request gives back no address but a live one. -/
def Request.Permitted
    (live : Finset Nat) :
    Request σ → Prop
  | .remove address => address ∈ live
  | _ => True

instance
    (request : Request σ)
    (live : Finset Nat) :
    Decidable (request.Permitted live) :=
  match request with
  | .remove address => inferInstanceAs (Decidable (address ∈ live))
  | .allocate | .reserve _ | .contains _ | .clear | .destroy | .slotsInUse
  | .supply _ => isTrue trivial

/-- A pool with its memory. -/
structure World (config : Config) (σ : Type) where
  /-- The pool. -/
  pool : Pool config
  /-- The memory it gets its slabs from. -/
  memory : Memory σ

/-- The world after an operation. -/
def World.ofOutcome
    {α : Type}
    (outcome : Outcome (Pool config) σ α) :
    World config σ :=
  ⟨outcome.pool, outcome.memory⟩

variable [Provider σ]

/-- The reply to a request, with the world after it. -/
def World.perform
    (world : World config σ) :
    Request σ → Reply × World config σ
  | .allocate =>
    let outcome := world.pool.allocate world.memory
    (.ofAnswer (fun address => .number (some address)) outcome.answer,
      .ofOutcome outcome)
  | .reserve additional =>
    let outcome := world.pool.reserve additional world.memory
    (.ofAnswer (fun _ => .done) outcome.answer, .ofOutcome outcome)
  | .remove address =>
    let outcome := world.pool.remove address world.memory
    (.ofAnswer (fun _ => .done) outcome.answer, .ofOutcome outcome)
  | .contains address => (.flag (world.pool.contains address), world)
  | .clear =>
    let (pool, memory) := world.pool.clear world.memory
    (.done, ⟨pool, memory⟩)
  | .destroy =>
    let (pool, memory) := world.pool.destroy world.memory
    (.done, ⟨pool, memory⟩)
  | .slotsInUse =>
    (.ofAnswer .numbers (world.pool.walk.toList.mapError Stop.breach), world)
  | .supply provider =>
    (.done, { world with memory := { world.memory with provider } })

/-- A request with the world it was made in. -/
structure Deal (config : Config) (σ : Type) where
  /-- The world before the request. -/
  before : World config σ
  /-- The request. -/
  request : Request σ

namespace Deal

/-- What was replied. -/
def reply (deal : Deal config σ) : Reply :=
  (deal.before.perform deal.request).1

/-- The world after the request. -/
def after (deal : Deal config σ) : World config σ :=
  (deal.before.perform deal.request).2

/-- A new slab serves allocations since. -/
def renews (deal : Deal config σ) : Bool :=
  deal.before.memory.activates deal.after.memory

theorem reply_allocate (world : World config σ) :
    reply ⟨world, .allocate⟩ =
      .ofAnswer (fun address => .number (some address))
        (world.pool.allocate world.memory).answer :=
  rfl

theorem reply_reserve
    (world : World config σ)
    (additional : Nat) :
    reply ⟨world, .reserve additional⟩ =
      .ofAnswer (fun _ => .done)
        (world.pool.reserve additional world.memory).answer :=
  rfl

theorem reply_remove
    (world : World config σ)
    (address : Nat) :
    reply ⟨world, .remove address⟩ =
      .ofAnswer (fun _ => .done)
        (world.pool.remove address world.memory).answer :=
  rfl

theorem reply_slotsInUse (world : World config σ) :
    reply ⟨world, .slotsInUse⟩ =
      .ofAnswer .numbers (world.pool.walk.toList.mapError Stop.breach) :=
  rfl

/-- The addresses in use after the deal. -/
def track
    (deal : Deal config σ)
    (addresses : Finset Nat) :
    Finset Nat :=
  deal.request.track deal.reply addresses

end Deal

/-- The deals since a pool was set up, the newest first, and the world they led to. -/
inductive Run : List (Deal config σ) → World config σ → Prop where
  /-- The pool was just set up. -/
  | start (provider : σ) : Run [] ⟨idle, Memory.fresh provider⟩
  /-- One more request was made. -/
  | next
      {deals : List (Deal config σ)}
      {world : World config σ}
      (run : Run deals world)
      (request : Request σ) :
      Run (⟨world, request⟩ :: deals) (Deal.after ⟨world, request⟩)

/-- The world after these requests, the newest first. -/
def reached (provider : σ) : List (Request σ) → World config σ
  | [] => ⟨idle, Memory.fresh provider⟩
  | request :: earlier => Deal.after ⟨reached provider earlier, request⟩

/-- The deals of these requests, the newest first. -/
def history (provider : σ) : List (Request σ) → List (Deal config σ)
  | [] => []
  | request :: earlier =>
    ⟨reached provider earlier, request⟩ :: history provider earlier

/-- Any requests make a run. -/
theorem run_history
    (provider : σ)
    (requests : List (Request σ)) :
    Run (history provider requests)
      (reached provider requests : World config σ) := by
  induction requests with
  | nil => exact .start provider
  | cons request earlier ih => exact .next ih request

/--
The live addresses: allocated and not removed since, without a clearing or a
destruction in between.
-/
def live : List (Deal config σ) → Finset Nat
  | [] => ∅
  | deal :: earlier => deal.track (live earlier)

/--
The addresses allocated from the newest slab and not removed since, without a
clearing or a destruction in between.
-/
def issued : List (Deal config σ) → Finset Nat
  | [] => ∅
  | deal :: earlier => deal.track (if deal.renews then ∅ else issued earlier)

/-- Only live addresses were given back. -/
def Abiding : List (Deal config σ) → Prop
  | [] => True
  | deal :: earlier =>
    Abiding earlier ∧ deal.request.Permitted (live earlier)

instance decidableAbiding :
    (deals : List (Deal config σ)) → Decidable (Abiding deals)
  | [] => isTrue trivial
  | _ :: earlier =>
    have := decidableAbiding earlier
    inferInstanceAs (Decidable (_ ∧ _))

/-! ## What one deal can lead to -/

/-- The ways in which a request can change the world. -/
inductive Effect
    (before : World config σ) :
    Request σ → Reply → World config σ → Prop where
  /-- All slots are as they were; room on the shelf may have been granted. -/
  | kept
      {request : Request σ}
      {reply : Reply}
      {room : Nat}
      {after : Memory σ}
      (unbroken : ∀ breach, reply ≠ .ofBreach breach)
      (idle : ∀ addresses, request.track reply addresses = addresses)
      (fits : before.pool.shelf.retired.length ≤ room)
      (undisturbed : before.memory.Undisturbed after) :
      Effect before request reply
        ⟨{ before.pool with shelf := { before.pool.shelf with room } }, after⟩
  /-- The active slab served a slot. -/
  | served
      {active : Slab config.geometry}
      {index mark : Nat}
      {vacancies : Vacancies}
      (serving : before.pool.shelf.active = some active)
      (service : before.pool.Service active index mark vacancies) :
      Effect before .allocate (.number (some (active.slotAt index)))
        ⟨before.pool.withRecord active mark vacancies, before.memory⟩
  /-- The pool grew. -/
  | grown
      {additional : Nat}
      {grown : Pool config}
      {after : Memory σ}
      (growth :
        before.pool.Growth additional before.memory ⟨.ok (), grown, after⟩) :
      Effect before (.reserve additional) .done ⟨grown, after⟩
  /-- The pool grew, and the new slab served a slot. -/
  | grownServed
      {grown : Pool config}
      {slab : Slab config.geometry}
      {index mark : Nat}
      {vacancies : Vacancies}
      {after : Memory σ}
      (growth : before.pool.Growth 1 before.memory ⟨.ok (), grown, after⟩)
      (serving : grown.shelf.active = some slab)
      (service : grown.Service slab index mark vacancies) :
      Effect before .allocate (.number (some (slab.slotAt index)))
        ⟨grown.withRecord slab mark vacancies, after⟩
  /-- The active slab released a slot. -/
  | released
      {active : Slab config.geometry}
      {index mark : Nat}
      {vacancies : Vacancies}
      {after : Memory σ}
      (serving : before.pool.shelf.active = some active)
      (release : before.pool.Release active index mark vacancies)
      (undisturbed : before.memory.Undisturbed after) :
      Effect before (.remove (active.slotAt index)) .done
        ⟨before.pool.withRecord active mark vacancies, after⟩
  /-- A retired slab lost one of several items. -/
  | counted
      {address position : Nat}
      {slab : Slab config.geometry}
      (found : before.pool.shelf.retired[position]? = some slab)
      (starts : slab.Starts address)
      (several : 1 < slab.live) :
      Effect before (.remove address) .done
        ⟨before.pool.drained position slab,
          before.memory.note (.retiredItemRemoved position (slab.live - 1))⟩
  /-- A retired slab lost its last item and was given back. -/
  | emptied
      {address position : Nat}
      {slab : Slab config.geometry}
      (found : before.pool.shelf.retired[position]? = some slab)
      (starts : slab.Starts address)
      (last : slab.live = 1) :
      Effect before (.remove address) .done
        ⟨before.pool.relieved position,
          slab.release
            ((before.memory.note (.retiredItemRemoved position 0)).note
              (.retiredEmptied slab.capacity))⟩
  /-- All items were forgotten. -/
  | cleared :
      Effect before .clear .done
        ⟨(before.pool.clear before.memory).1,
          (before.pool.clear before.memory).2⟩
  /-- All memory was given back. -/
  | destroyed :
      Effect before .destroy .done
        ⟨(before.pool.destroy before.memory).1,
          (before.pool.destroy before.memory).2⟩

namespace Effect

variable {before : World config σ} {request : Request σ} {reply : Reply}

/-- The pool is as it was. -/
theorem unchanged
    {after : Memory σ}
    (unbroken : ∀ breach, reply ≠ .ofBreach breach)
    (idle : ∀ addresses, request.track reply addresses = addresses)
    (fits : before.pool.shelf.retired.length ≤ before.pool.shelf.room)
    (undisturbed : before.memory.Undisturbed after) :
    Effect before request reply ⟨before.pool, after⟩ :=
  .kept unbroken idle fits undisturbed

theorem unbroken
    {after : World config σ}
    (effect : Effect before request reply after)
    (breach : Breach) :
    reply ≠ .ofBreach breach := by
  cases effect with
  | kept unbroken idle fits undisturbed => exact unbroken breach
  | served serving service => exact nofun
  | grown growth => exact nofun
  | grownServed growth serving service => exact nofun
  | released serving release undisturbed => exact nofun
  | counted found starts several => exact nofun
  | emptied found starts last => exact nofun
  | cleared => exact nofun
  | destroyed => exact nofun

end Effect

/-- A request in a balanced world has one of the effects listed. -/
theorem Deal.effect
    [SeparatingProvider σ]
    (deal : Deal config σ)
    (balanced : deal.before.pool.Balanced deal.before.memory) :
    Effect deal.before deal.request deal.reply deal.after := by
  rcases deal with ⟨⟨pool, memory⟩, request⟩
  have sound := balanced.sound
  cases request with
  | allocate =>
    have allocation := allocate_spec balanced
    unfold reply after World.perform
    dsimp only at allocation ⊢
    generalize pool.allocate memory = outcome at allocation
    cases allocation with
    | served serving service => exact .served serving service
    | refused full growth =>
      cases growth with
      | excessive beyond =>
        exact .unchanged nofun (fun _ => rfl) sound.fits (.refl memory)
      | refused bounded fits undisturbed =>
        exact .kept nofun (fun _ => rfl) fits undisturbed
    | grown full growth serving service =>
      exact .grownServed growth serving service
  | reserve additional =>
    have reservation := reserve_cases balanced additional
    unfold reply after World.perform
    dsimp only at reservation ⊢
    generalize pool.reserve additional memory = outcome at reservation
    rcases reservation with ⟨-, rfl⟩ | ⟨-, growth⟩
    · exact .unchanged nofun (fun _ => rfl) sound.fits (.refl memory)
    · rcases outcome with ⟨answer, grown, after⟩
      cases growth with
      | excessive beyond =>
        exact .unchanged nofun (fun _ => rfl) sound.fits (.refl memory)
      | refused bounded fits undisturbed =>
        exact .kept nofun (fun _ => rfl) fits undisturbed
      | replaced bounded capacity untouched granted demotion fits journal =>
        exact
          .grown
            (.replaced bounded capacity untouched granted demotion fits
              journal)
  | remove address =>
    have removal := remove_spec sound address memory
    unfold reply after World.perform
    dsimp only at removal ⊢
    generalize pool.remove address memory = outcome at removal
    cases removal with
    | foreign nowhere =>
      exact .unchanged nofun (fun _ => rfl) sound.fits (.refl memory)
    | vacant serving inside addressed unused =>
      exact .unchanged nofun (fun _ => rfl) sound.fits (.refl memory)
    | refused serving addressed used below undisturbed =>
      exact .unchanged nofun (fun _ => rfl) sound.fits undisturbed
    | released serving addressed release undisturbed =>
      subst addressed
      exact .released serving release undisturbed
    | counted found starts several => exact .counted found starts several
    | emptied found starts last => exact .emptied found starts last
  | contains address =>
    exact .unchanged nofun (fun _ => rfl) sound.fits (.refl memory)
  | clear => exact .cleared
  | destroy => exact .destroyed
  | slotsInUse =>
    rcases sound.exists_walk_toList_eq with ⟨addresses, walked⟩
    unfold reply after World.perform
    dsimp only
    rw [walked]
    exact .unchanged nofun (fun _ => rfl) sound.fits (.refl memory)
  | supply provider =>
    exact .unchanged nofun (fun _ => rfl) sound.fits ⟨rfl, rfl⟩

/-! ## The invariant holds throughout a run -/

theorem Effect.balanced
    [SeparatingProvider σ]
    {before after : World config σ}
    {request : Request σ}
    {reply : Reply}
    (balanced : before.pool.Balanced before.memory)
    (effect : Effect before request reply after) :
    after.pool.Balanced after.memory := by
  cases effect with
  | kept unbroken idle fits undisturbed =>
    exact balanced.withRoom fits undisturbed
  | served serving service =>
    exact
      balanced.withRecord serving (service.settled balanced.sound serving) rfl
  | grown growth => exact growth.balanced balanced
  | grownServed growth serving service =>
    have grown := growth.balanced balanced
    exact grown.withRecord serving (service.settled grown.sound serving) rfl
  | released serving release undisturbed =>
    exact balanced.withRecord serving release.settled undisturbed.held
  | counted found starts several =>
    exact balanced.drained found several rfl
  | emptied found starts last => exact balanced.relieved found rfl
  | cleared => exact balanced.clear
  | destroyed => exact balanced.destroy

/-- In every world of a run the pool is balanced. -/
theorem Run.balanced
    [SeparatingProvider σ]
    {deals : List (Deal config σ)}
    {world : World config σ}
    (run : Run deals world) :
    world.pool.Balanced world.memory := by
  induction run with
  | start provider => exact ⟨sound_idle, List.Perm.nil⟩
  | @next deals world run request ih =>
    exact (Deal.effect ⟨world, request⟩ ih).balanced ih

/-- The next request of a run has one of the effects listed. -/
theorem Run.effect
    [SeparatingProvider σ]
    {deals : List (Deal config σ)}
    {world : World config σ}
    (run : Run deals world)
    (request : Request σ) :
    Effect world request
      (Deal.reply ⟨world, request⟩) (Deal.after ⟨world, request⟩) :=
  Deal.effect ⟨world, request⟩ run.balanced

/-! ## Where the slabs come from -/

theorem Growth.origin
    {pool grown : Pool config}
    {required : Nat}
    {memory after : Memory σ}
    (growth : pool.Growth required memory ⟨.ok (), grown, after⟩)
    {block : Block}
    (member : block ∈ grown.shelf.slabs.map Slab.block) :
    block ∈ pool.shelf.slabs.map Slab.block ∨
      Granted σ memory.held block := by
  cases growth with
  | replaced bounded capacity untouched granted demotion fits journal =>
    rw [renewed, Shelf.slabs_of_active rfl, List.map_cons,
      List.mem_cons] at member
    rcases member with rfl | retired
    · exact Or.inr granted
    · exact Or.inl (demotion.subperm.subset retired)

/-- The block of a slab was one before, or it was granted meanwhile. -/
theorem Effect.origin
    [SeparatingProvider σ]
    {before after : World config σ}
    {request : Request σ}
    {reply : Reply}
    (balanced : before.pool.Balanced before.memory)
    (effect : Effect before request reply after)
    {block : Block}
    (member : block ∈ after.pool.shelf.slabs.map Slab.block) :
    block ∈ before.pool.shelf.slabs.map Slab.block ∨
      Granted σ before.memory.held block := by
  cases effect with
  | kept unbroken idle fits undisturbed => exact Or.inl member
  | served serving service =>
    rw [blocks_withRecord serving] at member
    exact Or.inl member
  | grown growth => exact growth.origin member
  | grownServed growth serving service =>
    rw [blocks_withRecord serving] at member
    exact growth.origin member
  | released serving release undisturbed =>
    rw [blocks_withRecord serving] at member
    exact Or.inl member
  | counted found starts several =>
    rw [blocks_drained found] at member
    exact Or.inl member
  | emptied found starts last =>
    have moved := (Shelf.slabs_perm_eraseIdx found).map Slab.block
    exact Or.inl (moved.mem_iff.2 (List.mem_cons_of_mem _ member))
  | cleared =>
    rw [blocks_clear] at member
    rw [Shelf.slabs, List.map_append]
    exact Or.inl (List.mem_append_left _ member)
  | destroyed =>
    rw [balanced.slabs_destroy] at member
    cases member

/-- Every slab is aligned as its slots need it. -/
theorem Run.aligned
    [LawfulProvider σ]
    {deals : List (Deal config σ)}
    {world : World config σ}
    (run : Run deals world) :
    ∀ block ∈ world.pool.shelf.slabs.map Slab.block,
      block.base % block.align = 0 := by
  induction run with
  | start provider =>
    intro block member
    cases member
  | next run request ih =>
    intro block member
    rcases (run.effect request).origin run.balanced member with
      earlier | granted
    · exact ih block earlier
    · exact granted.aligned

end Pool

/-! ## A small pool -/

namespace Sample

/-- A pool for items of eight bytes, with two slots in its first slab. -/
def config : Config :=
  ⟨⟨⟨8, 8, by decide, by decide⟩, by decide⟩, 2, by decide, .mayHoldItems⟩

/-- An arena that places each block above the earlier ones. -/
def arena : Arena :=
  { length := 0x1000, placement := .up }

end Sample

end SlabPool
