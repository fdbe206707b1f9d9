import SlabPool.Proofs.Client
import SlabPool.Proofs.Lockstep

/-!
# Where blocks are placed makes no difference

Two clients are run on the same errands.  Their providers decide alike on each
request but place the granted blocks wherever they like, so that the slabs of
the one pool and their counterparts come in different orders, and searches and
shifts among them differ at every step.  Still both clients see the same
(`Sight`), and each handle names a slot of the one pool and its counterpart of
the other: they are `Paired` after every errand (`Paired.errand`), and so after
all of them (`placement_of_run`).
-/

namespace SlabPool

open Pool

/-! ## What a sketch tells of replies -/

/-- The slots in use of the active slab, the lowest first. -/
def Sketch.listed (sketch : Sketch) : List Nat :=
  match sketch.active with
  | none => []
  | some active =>
    Walk.indices active.live active.live 0 sketch.vacancies.ascending

namespace Sketch.Laid

variable {config : Config} {sketch : Sketch} {side : Plot → Nat}
variable {pool : Pool config}

/-- The address of a slot of the active slab tells its index. -/
theorem slotOf?_eq
    (laid : sketch.Laid side pool)
    (sound : pool.Sound)
    {active : Twin}
    (serving : sketch.active = some active)
    {index : Nat}
    (inside : index < active.plot.capacity) :
    pool.slotOf? ((active.slab config.geometry side).slotAt index) =
      some index := by
  have serves := laid.serving serving
  rw [slotOf?, serves, Option.bind_some,
    Slab.indexOf?_eq_some_iff (sound.orderly.sited_active serves)]
  exact ⟨inside, rfl⟩

/-- The slots that a pool lists are those that the sketch tells. -/
theorem exists_walk_toList_eq
    (laid : sketch.Laid side pool)
    (sound : pool.Sound) :
    ∃ addresses,
      pool.walk.toList = .ok addresses ∧
        addresses.map pool.slotOf? = sketch.listed.map some := by
  rw [listed]
  cases serving : sketch.active with
  | none =>
    have inactive : pool.shelf.active = none := by
      rw [laid.active, serving, Option.map_none]
    exact ⟨[], walk_toList_of_inactive inactive, rfl⟩
  | some active =>
    have serves := laid.serving serving
    have marked := (sound.settled_active serves).mark_le
    refine ⟨_, sound.walk_toList_eq serves, ?_⟩
    rw [laid.vacancies, List.map_map]
    apply List.map_congr_left
    intro index member
    have below := Walk.lt_of_mem_indices member
    exact laid.slotOf?_eq sound serving (Nat.lt_of_lt_of_le below marked)

end Sketch.Laid

namespace Pool

variable {config : Config} {σ τ : Type} [Provider σ] [Provider τ]

/-! ## Handles -/

/-- The handles of two clients name slots of a sketch and their counterparts. -/
structure Named
    (config : Config)
    (sketch : Sketch)
    (spots : Nat → Option Spot)
    (left right : Nat → Option Nat) :
    Prop where
  leftNames :
    ∀ handle,
      left handle =
        (spots handle).map (Spot.address config.geometry Plot.left)
  rightNames :
    ∀ handle,
      right handle =
        (spots handle).map (Spot.address config.geometry Plot.right)
  has : ∀ handle spot, spots handle = some spot → sketch.Has spot

namespace Named

variable {sketch next : Sketch} {spots : Nat → Option Spot}
variable {left right : Nat → Option Nat}

theorem none (config : Config) (sketch : Sketch) :
    Named config sketch (fun _ => .none) (fun _ => .none) (fun _ => .none) :=
  ⟨fun _ => rfl, fun _ => rfl, nofun⟩

/-- The handles name the same slots as long as these are there. -/
theorem mono
    (named : Named config sketch spots left right)
    (kept :
      ∀ handle spot, spots handle = some spot → sketch.Has spot →
        next.Has spot) :
    Named config next spots left right :=
  ⟨named.leftNames, named.rightNames,
    fun handle spot known => kept handle spot known (named.has handle spot known)⟩

/-- Names of slots are updated with the slots they name. -/
theorem update_names
    {names : Nat → Option Nat}
    {address : Spot → Nat}
    (told : ∀ handle, names handle = (spots handle).map address)
    (handle : Nat)
    (spot : Option Spot)
    (other : Nat) :
    Function.update names handle (spot.map address) other =
      (Function.update spots handle spot other).map address := by
  rcases eq_or_ne other handle with rfl | another
  · rw [Function.update_self, Function.update_self]
  · rw [Function.update_of_ne another, Function.update_of_ne another]
    exact told other

/-- One more slot gets a handle. -/
theorem give
    (named : Named config sketch spots left right)
    {spot : Spot}
    (has : sketch.Has spot)
    (handle : Nat) :
    Named config sketch (Function.update spots handle (some spot))
      (Function.update left handle
        (some (spot.address config.geometry Plot.left)))
      (Function.update right handle
        (some (spot.address config.geometry Plot.right))) := by
  refine
    ⟨update_names named.leftNames handle (some spot),
      update_names named.rightNames handle (some spot), ?_⟩
  intro other tested
  rcases eq_or_ne other handle with rfl | another
  · rw [Function.update_self]
    rintro ⟨⟩
    exact has
  · rw [Function.update_of_ne another]
    exact named.has other tested

/-- A handle is lost, and the slots of the others are there still. -/
theorem drop
    (named : Named config sketch spots left right)
    (handle : Nat)
    (kept :
      ∀ other spot, other ≠ handle → spots other = some spot →
        sketch.Has spot → next.Has spot) :
    Named config next (Function.update spots handle .none)
      (Function.update left handle .none)
      (Function.update right handle .none) := by
  refine
    ⟨update_names named.leftNames handle .none,
      update_names named.rightNames handle .none, ?_⟩
  intro other tested
  rcases eq_or_ne other handle with rfl | another
  · rw [Function.update_self]
    rintro ⟨⟩
  · rw [Function.update_of_ne another]
    intro known
    exact kept other tested another known (named.has other tested known)

end Named

/-! ## Two clients -/

/-- Two clients that saw the same, and whose handles name counterparts. -/
structure Paired
    (sketch : Sketch)
    (spots : Nat → Option Spot)
    (left : Client config σ)
    (right : Client config τ) :
    Prop where
  abreast : Abreast sketch left.world right.world
  named : Named config sketch spots left.register right.register
  given : left.given = right.given
  made : left.deals.countP Deal.renews = right.deals.countP Deal.renews
  sights : left.sights = right.sights

theorem paired_start (left : σ) (right : τ) :
    Paired (.idle config) (fun _ => .none)
      (Client.start left : Client config σ)
      (Client.start right : Client config τ) where
  abreast := ⟨Sketch.laid_idle _, Sketch.laid_idle _, rfl⟩
  named := .none config _
  given := rfl
  made := rfl
  sights := rfl

namespace Paired

variable [SeparatingProvider σ] [SeparatingProvider τ]
variable {sketch : Sketch} {spots : Nat → Option Spot}
variable {left : Client config σ} {right : Client config τ}

/-- Deals that lead to worlds abreast and are replied to alike look the same. -/
theorem deal
    (paired : Paired sketch spots left right)
    {errand : Errand}
    {leftRequest : Request σ}
    {rightRequest : Request τ}
    (leftHonest : (left.deal errand leftRequest).Honest)
    (rightHonest : (right.deal errand rightRequest).Honest)
    {leftReply rightReply : Reply}
    (leftReplied : Deal.reply ⟨left.world, leftRequest⟩ = leftReply)
    (rightReplied : Deal.reply ⟨right.world, rightRequest⟩ = rightReply)
    {next : Sketch}
    (abreast :
      Abreast next (Deal.after ⟨left.world, leftRequest⟩)
        (Deal.after ⟨right.world, rightRequest⟩))
    (renews :
      Deal.renews ⟨left.world, leftRequest⟩ =
        Deal.renews ⟨right.world, rightRequest⟩)
    (told :
      (Deal.after ⟨left.world, leftRequest⟩).pool.tell leftReply =
        (Deal.after ⟨right.world, rightRequest⟩).pool.tell rightReply)
    {later : Nat → Option Spot}
    (named :
      Named config next later (left.registered errand leftReply)
        (right.registered errand rightReply))
    (given :
      left.numbered errand leftReply = right.numbered errand rightReply) :
    Paired next later (left.deal errand leftRequest)
      (right.deal errand rightRequest) := by
  subst leftReplied rightReplied
  have made :
      (left.deal errand leftRequest).deals.countP Deal.renews =
        (right.deal errand rightRequest).deals.countP Deal.renews := by
    show List.countP _ (_ :: _) = List.countP _ (_ :: _)
    rw [List.countP_cons, List.countP_cons, paired.made, renews]
  have asked :
      Deal.queries ⟨left.world, leftRequest⟩ =
        Deal.queries ⟨right.world, rightRequest⟩ := by
    have queries := abreast.queries
    rw [Deal.queries_after, Deal.queries_after] at queries
    dsimp only at queries
    rw [paired.abreast.queries] at queries
    exact List.append_cancel_right queries
  have statistics :
      (Deal.after ⟨left.world, leftRequest⟩).pool.statistics =
        (Deal.after ⟨right.world, rightRequest⟩).pool.statistics :=
    (abreast.leftLaid.statistics_eq leftHonest.run.balanced.sound).trans
      (abreast.rightLaid.statistics_eq
        rightHonest.run.balanced.sound).symm
  have sight :
      left.sight ⟨left.world, leftRequest⟩ =
        right.sight ⟨right.world, rightRequest⟩ := by
    change List.countP _ (_ :: _) = List.countP _ (_ :: _) at made
    rw [Client.sight, Client.sight, made, told, asked, statistics]
  refine ⟨abreast, named, given, made, ?_⟩
  show left.sight _ :: left.sights = right.sight _ :: right.sights
  rw [sight, paired.sights]

omit [SeparatingProvider σ] [SeparatingProvider τ] in
/-- The addresses of the handles are live. -/
theorem mem_live
    (paired : Paired sketch spots left right)
    (honest : left.Honest)
    {handle : Nat}
    {spot : Spot}
    (known : spots handle = some spot) :
    spot.address config.geometry Plot.left ∈ Pool.live left.deals := by
  have named :
      left.register handle =
        some (spot.address config.geometry Plot.left) := by
    rw [paired.named.leftNames, known, Option.map_some]
  exact honest.mem_live named

omit [SeparatingProvider σ] [SeparatingProvider τ] in
/-- A handle names a slot and its counterpart, or nothing on either side. -/
theorem handle_cases
    (paired : Paired sketch spots left right)
    (handle : Nat) :
    (left.register handle = none ∧ right.register handle = none) ∨
    ∃ spot, spots handle = some spot ∧
      left.register handle =
          some (spot.address config.geometry Plot.left) ∧
        right.register handle =
          some (spot.address config.geometry Plot.right) := by
  rw [paired.named.leftNames, paired.named.rightNames]
  cases spots handle with
  | none => exact Or.inl ⟨rfl, rfl⟩
  | some spot => exact Or.inr ⟨spot, rfl, rfl, rfl⟩

omit [SeparatingProvider τ] in
/-- No slot with a handle is lost by a growth. -/
theorem named_grows
    (paired : Paired sketch spots left right)
    (honest : left.Honest)
    {next : Sketch}
    (grows : sketch.Grows config next) :
    Named config next spots left.register right.register := by
  have coupled := honest.run.coupled honest.abiding
  apply paired.named.mono
  intro handle spot known has
  apply has.grows ?_ grows
  intro twin serving plot
  exact
    ⟨spot.index,
      paired.abreast.leftLaid.mem_inUse coupled serving has plot
        (paired.mem_live honest known)⟩

section Errands

variable (paired : Paired sketch spots left right)
variable (leftHonest : left.Honest) (rightHonest : right.Honest)

include paired leftHonest rightHonest

theorem allocate
    (concur :
      Concur (left.run .allocate).world.memory.queries
        (right.run .allocate).world.memory.queries) :
    ∃ next later,
      Paired next later (left.run .allocate) (right.run .allocate) := by
  have leftBalanced := leftHonest.run.balanced
  have rightBalanced := rightHonest.run.balanced
  have leftAfter := leftHonest.errand .allocate
  have rightAfter := rightHonest.errand .allocate
  have available :=
    paired.abreast.available_eq leftBalanced.sound rightBalanced.sound
  have leftReply := Deal.reply_allocate left.world
  have rightReply := Deal.reply_allocate right.world
  rcases paired.abreast.allocate leftBalanced rightBalanced concur with
    ⟨next, grows,
      ⟨stop, leftAnswer, rightAnswer, abreast⟩ |
      ⟨active, index, mark, vacancies, serving, inside, leftAnswer,
        rightAnswer, abreast⟩⟩
  all_goals
    have renews :
        Deal.renews ⟨left.world, .allocate⟩ =
          Deal.renews ⟨right.world, .allocate⟩ := by
      have leftRenews := leftBalanced.activates_allocate
      have rightRenews := rightBalanced.activates_allocate
      rw [leftAnswer] at leftRenews
      rw [rightAnswer, ← available] at rightRenews
      exact leftRenews.trans rightRenews.symm
    rw [leftAnswer] at leftReply
    rw [rightAnswer] at rightReply
    have named := paired.named_grows leftHonest grows
  · exact
      ⟨next, spots,
        paired.deal leftAfter rightAfter leftReply rightReply abreast renews
          rfl named paired.given⟩
  · have has : next.Has ⟨active.plot, index⟩ :=
      ⟨List.mem_map_of_mem (Sketch.mem_slabs.2 (Or.inl serving)), inside⟩
    have given :=
      (named.give has left.given).mono fun _ _ _ stays =>
        stays.withRecord serving mark vacancies
    have leftSlot :=
      abreast.leftLaid.slotOf?_eq leftAfter.run.balanced.sound rfl inside
    have rightSlot :=
      abreast.rightLaid.slotOf?_eq rightAfter.run.balanced.sound rfl inside
    refine
      ⟨next.withRecord active mark vacancies,
        Function.update spots left.given (some ⟨active.plot, index⟩),
        paired.deal leftAfter rightAfter leftReply rightReply abreast renews
          ?_ ?_ (congrArg (· + 1) paired.given)⟩
    · exact
        congrArg (fun slot => Told.slots [slot]) (leftSlot.trans rightSlot.symm)
    · show Named _ _ _ _ (Function.update right.register right.given _)
      rw [← paired.given]
      exact given

theorem reserve
    {additional : Nat}
    (concur :
      Concur (left.run (.reserve additional)).world.memory.queries
        (right.run (.reserve additional)).world.memory.queries) :
    ∃ next later,
      Paired next later (left.run (.reserve additional))
        (right.run (.reserve additional)) := by
  have leftBalanced := leftHonest.run.balanced
  have rightBalanced := rightHonest.run.balanced
  have available :=
    paired.abreast.available_eq leftBalanced.sound rightBalanced.sound
  have leftReply := Deal.reply_reserve left.world additional
  have rightReply := Deal.reply_reserve right.world additional
  rcases paired.abreast.reserve leftBalanced rightBalanced concur with
    ⟨next, grows, answers, abreast⟩
  have renews :
      Deal.renews ⟨left.world, .reserve additional⟩ =
        Deal.renews ⟨right.world, .reserve additional⟩ := by
    have leftRenews := leftBalanced.activates_reserve additional
    have rightRenews := rightBalanced.activates_reserve additional
    rw [← available, ← answers] at rightRenews
    exact leftRenews.trans rightRenews.symm
  rw [← answers] at rightReply
  refine
    ⟨next, spots,
      paired.deal (leftHonest.errand (.reserve additional))
        (rightHonest.errand (.reserve additional)) leftReply rightReply
        abreast renews ?_ (paired.named_grows leftHonest grows) paired.given⟩
  rw [tell_ofAnswer_done, tell_ofAnswer_done]

theorem remove
    {handle : Nat}
    (concur :
      Concur (left.run (.remove handle)).world.memory.queries
        (right.run (.remove handle)).world.memory.queries) :
    ∃ next later,
      Paired next later (left.run (.remove handle))
        (right.run (.remove handle)) := by
  have leftAfter := leftHonest.errand (.remove handle)
  have rightAfter := rightHonest.errand (.remove handle)
  rcases paired.handle_cases handle with
    ⟨leftName, rightName⟩ | ⟨spot, known, leftName, rightName⟩
  · rw [Client.run_remove_of_unnamed leftName,
      Client.run_remove_of_unnamed rightName]
    exact ⟨sketch, spots, paired⟩
  · rw [Client.run_remove leftName] at leftAfter concur ⊢
    rw [Client.run_remove rightName] at rightAfter concur ⊢
    have leftSound := leftHonest.run.balanced.sound
    have rightSound := rightHonest.run.balanced.sound
    have member := paired.mem_live leftHonest known
    have has := paired.named.has handle spot known
    have renews :
        Deal.renews
            ⟨left.world,
              .remove (spot.address config.geometry Plot.left)⟩ =
          Deal.renews
            ⟨right.world,
              .remove (spot.address config.geometry Plot.right)⟩ :=
      ((remove_spec leftSound _ left.world.memory).regained
        leftSound).1.trans
        ((remove_spec rightSound _ right.world.memory).regained
          rightSound).1.symm
    have leftReply :=
      Deal.reply_remove left.world
        (spot.address config.geometry Plot.left)
    have rightReply :=
      Deal.reply_remove right.world
        (spot.address config.geometry Plot.right)
    rcases paired.abreast.remove leftSound rightSound
        (leftHonest.run.coupled leftHonest.abiding) has member rfl rfl
        concur with
      ⟨fault, leftAnswer, rightAnswer, abreast⟩ |
      ⟨next, leftAnswer, rightAnswer, abreast, kept⟩
    · rw [leftAnswer] at leftReply
      rw [rightAnswer] at rightReply
      exact
        ⟨sketch, spots,
          paired.deal leftAfter rightAfter leftReply rightReply abreast
            renews rfl paired.named paired.given⟩
    · rw [leftAnswer] at leftReply
      rw [rightAnswer] at rightReply
      refine
        ⟨next, Function.update spots handle none,
          paired.deal leftAfter rightAfter leftReply rightReply abreast
            renews rfl (paired.named.drop handle ?_) paired.given⟩
      -- Handles of one client name different addresses.
      intro other otherSpot differs otherKnown otherHas
      apply kept otherSpot otherHas (paired.mem_live leftHonest otherKnown)
      intro same
      apply differs
      apply leftHonest.registers.distinct other handle
        (spot.address config.geometry Plot.left)
      · rw [paired.named.leftNames, otherKnown, Option.map_some, same]
      · exact leftName

theorem contains
    (handle : Nat) :
    Paired sketch spots (left.run (.contains handle))
      (right.run (.contains handle)) := by
  have leftAfter := leftHonest.errand (.contains handle)
  have rightAfter := rightHonest.errand (.contains handle)
  rcases paired.handle_cases handle with
    ⟨leftName, rightName⟩ | ⟨spot, known, leftName, rightName⟩
  · rw [Client.run_contains_of_unnamed leftName,
      Client.run_contains_of_unnamed rightName]
    exact paired
  · rw [Client.run_contains leftName] at leftAfter ⊢
    rw [Client.run_contains rightName] at rightAfter ⊢
    have same :=
      paired.abreast.contains_eq leftHonest.run.balanced.sound
        rightHonest.run.balanced.sound (paired.named.has handle spot known)
    exact
      paired.deal leftAfter rightAfter rfl rfl paired.abreast
        ((activates_of_undisturbed (.refl _)).trans
          (activates_of_undisturbed (.refl _)).symm)
        (congrArg (fun known => Told.plain (.flag known)) same) paired.named
        paired.given

theorem clear :
    Paired sketch.cleared (fun _ => .none) (left.run .clear)
      (right.run .clear) :=
  paired.deal (leftHonest.errand .clear) (rightHonest.errand .clear) rfl rfl
    paired.abreast.clear
    ((activates_clear _ _).trans (activates_clear _ _).symm) rfl
    (.none config _) paired.given

theorem destroy :
    Paired (sketch.razed config) (fun _ => .none) (left.run .destroy)
      (right.run .destroy) :=
  paired.deal (leftHonest.errand .destroy) (rightHonest.errand .destroy)
    rfl rfl
    (paired.abreast.destroy leftHonest.run.balanced
      rightHonest.run.balanced)
    ((activates_destroy _ _).trans (activates_destroy _ _).symm) rfl
    (.none config _) paired.given

theorem slotsInUse :
    Paired sketch spots (left.run .slotsInUse) (right.run .slotsInUse) := by
  have leftReply := Deal.reply_slotsInUse left.world
  have rightReply := Deal.reply_slotsInUse right.world
  rcases paired.abreast.leftLaid.exists_walk_toList_eq
      leftHonest.run.balanced.sound with
    ⟨leftAddresses, leftWalked, leftSlots⟩
  rcases paired.abreast.rightLaid.exists_walk_toList_eq
      rightHonest.run.balanced.sound with
    ⟨rightAddresses, rightWalked, rightSlots⟩
  rw [leftWalked] at leftReply
  rw [rightWalked] at rightReply
  exact
    paired.deal (leftHonest.errand .slotsInUse)
      (rightHonest.errand .slotsInUse) leftReply rightReply paired.abreast
      ((activates_of_undisturbed (.refl _)).trans
        (activates_of_undisturbed (.refl _)).symm)
      (congrArg Told.slots (leftSlots.trans rightSlots.symm)) paired.named
      paired.given

/-- Whatever the errand is, the clients stay paired. -/
theorem errand
    (errand : Errand)
    (concur :
      Concur (left.run errand).world.memory.queries
        (right.run errand).world.memory.queries) :
    ∃ next later,
      Paired next later (left.run errand) (right.run errand) := by
  cases errand with
  | allocate => exact paired.allocate leftHonest rightHonest concur
  | reserve additional => exact paired.reserve leftHonest rightHonest concur
  | remove handle => exact paired.remove leftHonest rightHonest concur
  | contains handle =>
    exact ⟨_, _, paired.contains leftHonest rightHonest handle⟩
  | clear => exact ⟨_, _, paired.clear leftHonest rightHonest⟩
  | destroy => exact ⟨_, _, paired.destroy leftHonest rightHonest⟩
  | slotsInUse => exact ⟨_, _, paired.slotsInUse leftHonest rightHonest⟩

end Errands

end Paired

/-- After any errands the clients are paired, if their providers decided alike. -/
theorem exists_paired
    [SeparatingProvider σ]
    [SeparatingProvider τ]
    (left : σ)
    (right : τ)
    {errands : List Errand}
    (concur :
      Concur
        (Client.after left errands : Client config σ).world.memory.queries
        (Client.after right errands : Client config τ).world.memory.queries) :
    ∃ sketch spots,
      Paired sketch spots (Client.after left errands : Client config σ)
        (Client.after right errands : Client config τ) := by
  induction errands with
  | nil => exact ⟨_, _, paired_start left right⟩
  | cons errand earlier ih =>
    have past :=
      concur.earlier (Client.queries_suffix _ errand)
        (Client.queries_suffix _ errand)
    rcases ih past with ⟨sketch, spots, paired⟩
    exact
      paired.errand (Client.honest_after left earlier)
        (Client.honest_after right earlier) errand concur

/--
Two clients are run on the same errands with two providers, which decide alike
on each request and place blocks wherever they like.  Both runs give back
nothing but live slots, both clients see the same after every errand, and both
providers were asked for the same.  At the end the pools are the same but for
the addresses of their slabs and the order of the retired ones, each handle
names a slot of the one pool and its counterpart of the other, and the pools
agree on which slots of their slabs are in use.
-/
theorem placement_of_run
    [SeparatingProvider σ]
    [SeparatingProvider τ]
    (left : σ)
    (right : τ)
    (errands : List Errand)
    (concur :
      Concur
        (Client.after left errands : Client config σ).world.memory.queries
        (Client.after right errands : Client config τ).world.memory.queries) :
    let first : Client config σ := .after left errands
    let second : Client config τ := .after right errands
    (Run first.deals first.world ∧ Abiding first.deals) ∧
    (Run second.deals second.world ∧ Abiding second.deals) ∧
    first.sights = second.sights ∧
    first.world.memory.queries = second.world.memory.queries ∧
    ∃ sketch spots,
      sketch.Laid Plot.left first.world.pool ∧
      sketch.Laid Plot.right second.world.pool ∧
      Named config sketch spots first.register second.register ∧
      ∀ spot, sketch.Has spot →
        first.world.pool.contains
            (spot.address config.geometry Plot.left) =
          second.world.pool.contains
            (spot.address config.geometry Plot.right) := by
  intro first second
  have leftHonest : first.Honest := Client.honest_after left errands
  have rightHonest : second.Honest := Client.honest_after right errands
  rcases exists_paired left right concur with ⟨sketch, spots, paired⟩
  refine
    ⟨⟨leftHonest.run, leftHonest.abiding⟩,
      ⟨rightHonest.run, rightHonest.abiding⟩, paired.sights,
      paired.abreast.queries, sketch, spots, paired.abreast.leftLaid,
      paired.abreast.rightLaid, paired.named, ?_⟩
  exact fun spot has =>
    paired.abreast.contains_eq leftHonest.run.balanced.sound
      rightHonest.run.balanced.sound has

/-- An arena that places each block below the earlier ones. -/
def Sample.downwards : Arena :=
  { length := 0x1000, placement := .down }

/--
Six slots in three slabs; one of the first slab is given back, and a slab that
is larger than the arena is refused.
-/
def Sample.errands : List Errand :=
  [.slotsInUse, .reserve 600, .remove 0, .allocate, .allocate, .allocate,
    .allocate, .allocate, .allocate]

theorem placement_of_downwards :
    let first : Client Sample.config Arena :=
      .after Sample.arena Sample.errands
    let second : Client Sample.config Arena :=
      .after Sample.downwards Sample.errands
    first.world.pool.shelf.retired.map Slab.capacity = [2, 3] ∧
      second.world.pool.shelf.retired.map Slab.capacity = [3, 2] ∧
        first.register 1 ≠ second.register 1 ∧
          first.sights.length = 9 ∧ first.sights = second.sights := by
  intro first second
  refine
    ⟨by decide +kernel, by decide +kernel, by decide +kernel,
      by decide +kernel, ?_⟩
  exact
    (placement_of_run Sample.arena Sample.downwards Sample.errands
      (by decide +kernel)).2.2.1

end Pool

end SlabPool
