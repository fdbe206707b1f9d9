import SlabPool.Proofs.Issued

/-!
# A pool counts its items exactly

No pool stores how many items it has: the number is the high-water mark less the
vacancies, with the counts of the retired slabs added.  It is nevertheless what
a client would count who looks at replies only: the allocations that succeeded
less the removals that did, since all items were last forgotten.

Nothing is asked of the removals.  One that is repeated, or that is meant for an
item removed long ago, counts like any other if a retired slab accepts it.

`Effect.items_eq` says so of one request, and `tally_of_run` of all of them.
-/

namespace SlabPool

namespace Slab

variable {geometry : Geometry} {slabs : List (Slab geometry)}
variable {position : Nat} {slab : Slab geometry}

/-- The count of one slab changes the sum of the counts with it. -/
theorem sum_live_set
    (found : slabs[position]? = some slab)
    (live : Nat) :
    ((slabs.set position { slab with live }).map Slab.live).sum + slab.live =
      (slabs.map Slab.live).sum + live := by
  induction slabs generalizing position with
  | nil => cases found
  | cons first rest ih =>
    cases position with
    | zero =>
      cases found
      simp only [List.set_cons_zero, List.map_cons, List.sum_cons]
      omega
    | succ position =>
      have left := ih found
      simp only [List.set_cons_succ, List.map_cons, List.sum_cons]
      omega

/-- The count of a slab that goes is missing from the sum of the counts. -/
theorem sum_live_eraseIdx
    (found : slabs[position]? = some slab) :
    ((slabs.eraseIdx position).map Slab.live).sum + slab.live =
      (slabs.map Slab.live).sum := by
  rcases List.getElem?_eq_some_iff.1 found with ⟨inside, rfl⟩
  have moved := (List.getElem_cons_eraseIdx_perm inside).map Slab.live
  rw [← moved.sum_eq, List.map_cons, List.sum_cons, Nat.add_comm]

end Slab

namespace Pool

variable {config : Config}

/-- The items of the active slab and those that the retired slabs count. -/
def items (pool : Pool config) : Nat :=
  pool.inUse.card + (pool.shelf.retired.map Slab.live).sum

theorem Sound.itemCount_eq_items
    {pool : Pool config}
    (sound : pool.Sound) :
    pool.itemCount = .ok pool.items :=
  sound.itemCount_eq

theorem Sound.isEmpty_eq
    {pool : Pool config}
    (sound : pool.Sound) :
    pool.isEmpty = .ok (decide (pool.items = 0)) := by
  rw [isEmpty, sound.itemCount_eq_items]
  rfl

/-! ## How the items change -/

section Change

variable {pool : Pool config} {active : Slab config.geometry}
variable {index mark position : Nat} {vacancies : Vacancies}
variable {slab : Slab config.geometry}

theorem Service.items_eq
    (sound : pool.Sound)
    (serving : pool.shelf.active = some active)
    (service : pool.Service active index mark vacancies) :
    (pool.withRecord active mark vacancies).items = pool.items + 1 := by
  rw [items, service.card_inUse sound serving, Nat.add_right_comm]
  rfl

theorem Release.items_eq
    (sound : pool.Sound)
    (serving : pool.shelf.active = some active)
    (release : pool.Release active index mark vacancies) :
    (pool.withRecord active mark vacancies).items + 1 = pool.items := by
  rw [items, items, ← release.card_inUse sound serving, Nat.add_right_comm]
  rfl

theorem items_drained
    (found : pool.shelf.retired[position]? = some slab)
    (several : 1 < slab.live) :
    (pool.drained position slab).items + 1 = pool.items := by
  have left := Slab.sum_live_set found (slab.live - 1)
  have after :
      (pool.drained position slab).items =
        pool.inUse.card +
          ((pool.shelf.retired.set position
            { slab with live := slab.live - 1 }).map Slab.live).sum :=
    rfl
  rw [after, items]
  omega

theorem items_relieved
    (found : pool.shelf.retired[position]? = some slab)
    (last : slab.live = 1) :
    (pool.relieved position).items + 1 = pool.items := by
  have left := Slab.sum_live_eraseIdx found
  have after :
      (pool.relieved position).items =
        pool.inUse.card +
          ((pool.shelf.retired.eraseIdx position).map Slab.live).sum :=
    rfl
  rw [after, items]
  omega

/-- The items of the slab before a new one are counted among the retired. -/
theorem Demotion.sum_live_eq
    {before after : List Block}
    {retired : List (Slab config.geometry)}
    {events : List Event}
    (sound : pool.Sound)
    (demotion : pool.Demotion before retired after events) :
    (retired.map Slab.live).sum = pool.items := by
  cases demotion with
  | absent inactive =>
    have split := sound.card_inUse
    rw [(sound.idle_of_inactive inactive).1] at split
    rw [items, Nat.eq_zero_of_add_eq_zero_right split, Nat.zero_add]
  | released serving unused =>
    rw [items, unused, Finset.card_empty, Nat.zero_add]
  | @retired previous position serving used inside ordered =>
    rw [((List.perm_insertIdx _ _ inside).map Slab.live).sum_eq,
      List.map_cons, List.sum_cons]
    rfl

theorem items_clear
    {σ : Type}
    (pool : Pool config)
    (memory : Memory σ) :
    (pool.clear memory).1.items = 0 := by
  rw [items, inUse_clear]
  rfl

theorem Balanced.items_destroy
    {σ : Type}
    {memory : Memory σ}
    (balanced : pool.Balanced memory) :
    (pool.destroy memory).1.items = 0 := by
  have gone := List.append_eq_nil_iff.1 balanced.slabs_destroy
  have unused := card_addresses balanced.destroy.sound
  rw [balanced.addresses_destroy, Finset.card_empty] at unused
  rw [items, ← unused, gone.2]
  rfl

end Change

section Growth

variable {σ : Type} [Provider σ] {pool grown : Pool config}
variable {required : Nat} {memory after : Memory σ}

/-- However growth ends, there are as many items as before. -/
theorem Growth.items_eq
    {outcome : Outcome (Pool config) σ Unit}
    (sound : pool.Sound)
    (growth : pool.Growth required memory outcome) :
    outcome.pool.items = pool.items := by
  cases growth with
  | excessive beyond => rfl
  | refused bounded fits undisturbed => rfl
  | replaced bounded capacity untouched granted demotion fits journal =>
    rw [items, inUse_renewed untouched, Finset.card_empty, Nat.zero_add]
    exact demotion.sum_live_eq sound

end Growth

variable {σ : Type}

/-! ## What a client counts -/

/-- An allocation that succeeded. -/
def Request.serves (request : Request σ) (reply : Reply) : Bool :=
  match request, reply with
  | .allocate, .number (some _) => true
  | _, _ => false

/-- A removal that succeeded. -/
def Request.frees (request : Request σ) (reply : Reply) : Bool :=
  match request, reply with
  | .remove _, .done => true
  | _, _ => false

/-- The request forgets all items. -/
def Request.resets : Request σ → Bool
  | .clear | .destroy => true
  | _ => false

/-- What leaves the live addresses alone is none of these. -/
theorem Request.uncounted_of_idle
    {request : Request σ}
    {reply : Reply}
    (idle : ∀ addresses, request.track reply addresses = addresses) :
    request.serves reply = false ∧ request.frees reply = false ∧
      request.resets = false := by
  cases request with
  | allocate =>
    cases reply with
    | number slot =>
      cases slot with
      | none => exact ⟨rfl, rfl, rfl⟩
      | some address =>
        exact (Finset.insert_ne_empty address ∅ (idle ∅)).elim
    | _ => exact ⟨rfl, rfl, rfl⟩
  | remove address =>
    cases reply with
    | done =>
      have erased : ({address} : Finset Nat).erase address = {address} := idle _
      simp at erased
    | _ => exact ⟨rfl, rfl, rfl⟩
  | clear => exact (Finset.singleton_ne_empty 0 (idle {0}).symm).elim
  | destroy => exact (Finset.singleton_ne_empty 0 (idle {0}).symm).elim
  | _ => exact ⟨rfl, rfl, rfl⟩

variable [Provider σ]

/-- The items change as the request and the reply tell. -/
theorem Effect.items_eq
    [SeparatingProvider σ]
    {before after : World config σ}
    {request : Request σ}
    {reply : Reply}
    (balanced : before.pool.Balanced before.memory)
    (effect : Effect before request reply after) :
    after.pool.items + (request.frees reply).toNat =
      if request.resets then 0
      else before.pool.items + (request.serves reply).toNat := by
  have sound := balanced.sound
  cases effect with
  | kept unbroken idle fits undisturbed =>
    rcases Request.uncounted_of_idle idle with ⟨serves, frees, resets⟩
    rw [serves, frees, resets]
    rfl
  | served serving service => exact service.items_eq sound serving
  | grown growth => exact growth.items_eq sound
  | grownServed growth serving service =>
    have grown := (growth.balanced balanced).sound
    rw [← growth.items_eq sound]
    exact service.items_eq grown serving
  | released serving release undisturbed =>
    exact release.items_eq sound serving
  | counted found starts several => exact items_drained found several
  | emptied found starts last => exact items_relieved found last
  | cleared => exact items_clear before.pool before.memory
  | destroyed => exact balanced.items_destroy

/-- The deals since all items were last forgotten. -/
def latest (deals : List (Deal config σ)) : List (Deal config σ) :=
  deals.takeWhile fun deal => !deal.request.resets

/-- How many allocations succeeded since all items were last forgotten. -/
def servedCount (deals : List (Deal config σ)) : Nat :=
  (latest deals).countP fun deal => deal.request.serves deal.reply

/-- How many removals succeeded since all items were last forgotten. -/
def freedCount (deals : List (Deal config σ)) : Nat :=
  (latest deals).countP fun deal => deal.request.frees deal.reply

omit [Provider σ] in
theorem countP_latest_cons
    (counts : Deal config σ → Bool)
    (deal : Deal config σ)
    (deals : List (Deal config σ)) :
    (latest (deal :: deals)).countP counts =
      if deal.request.resets then 0
      else (latest deals).countP counts + (counts deal).toNat := by
  unfold latest
  cases resets : deal.request.resets with
  | true => simp [resets]
  | false => cases counted : counts deal <;> simp [resets, counted]

/-- The invariant: items and removals together make up the allocations. -/
theorem Run.items_add
    [SeparatingProvider σ]
    {deals : List (Deal config σ)}
    {world : World config σ}
    (run : Run deals world) :
    world.pool.items + freedCount deals = servedCount deals := by
  induction run with
  | start provider => rfl
  | @next deals world run request ih =>
    have step := (run.effect request).items_eq run.balanced
    unfold freedCount servedCount at ih ⊢
    rw [countP_latest_cons, countP_latest_cons]
    cases resets : request.resets with
    | true =>
      simp only [resets, if_true] at step ⊢
      omega
    | false =>
      simp only [resets, Bool.false_eq_true, if_false] at step ⊢
      omega

/-- The items of a pool are the allocations that succeeded less the removals. -/
theorem tally_of_run
    [SeparatingProvider σ]
    {deals : List (Deal config σ)}
    {world : World config σ}
    (run : Run deals world) :
    freedCount deals ≤ servedCount deals ∧
      world.pool.itemCount = .ok (servedCount deals - freedCount deals) ∧
      world.pool.isEmpty =
        .ok (decide (servedCount deals - freedCount deals = 0)) ∧
      ∀ required,
        (world.pool.grow required world.memory).pool.itemCount =
          world.pool.itemCount := by
  have sound := run.balanced.sound
  have whole := run.items_add
  have left : world.pool.items = servedCount deals - freedCount deals := by
    omega
  refine ⟨by omega, ?_, ?_, ?_⟩
  · rw [sound.itemCount_eq_items, left]
  · rw [sound.isEmpty_eq, left]
  · intro required
    have growth := growth_spec run.balanced required
    have grown := (growth.balanced run.balanced).sound
    rw [grown.itemCount_eq_items, growth.items_eq sound,
      sound.itemCount_eq_items]

/-- The slots of a retired slab are given back although one is in use. -/
def Sample.misused : List (Request Arena) :=
  [.remove (Arena.origin + 4), .remove Arena.origin, .remove Arena.origin,
    .allocate, .allocate, .allocate, .clear, .allocate]

/-- Of three allocations since the clearing, two count as undone. -/
theorem tally_of_misused :
    let deals : List (Deal Sample.config Arena) :=
      history Sample.arena Sample.misused
    let world : World Sample.config Arena :=
      reached Sample.arena Sample.misused
    servedCount deals = 3 ∧ freedCount deals = 2 ∧
      world.pool.itemCount = .ok 1 ∧ world.pool.isEmpty = .ok false := by
  intro deals world
  have run : Run deals world := run_history Sample.arena Sample.misused
  have served : servedCount deals = 3 := by decide +kernel
  have freed : freedCount deals = 2 := by decide +kernel
  rcases tally_of_run run with ⟨-, counted, empty, -⟩
  rw [served, freed] at counted empty
  exact ⟨served, freed, counted, empty⟩

end Pool

end SlabPool
