import SlabPool.Proofs.LiveSet

/-!
# When slabs are given back

While only live addresses are given back, a retired slab counts the live
addresses inside it.  `Fate` lists what can become of a retired slab at one
request, and `Succession` what becomes of the active slab that another one
replaces: whether it retires or is given back is decided by the live addresses
inside it alone.  `Timely` gathers both for a deal, and says that no other slab
retires and that no block is given back under a live address.

`retirement_of_run` says that retired slabs count right and that every deal is
timely.
-/

namespace SlabPool.Pool

variable {config : Config} {σ : Type}

/-- No block is held twice. -/
theorem Balanced.nodup_held
    {pool : Pool config}
    {memory : Memory σ}
    (balanced : pool.Balanced memory) :
    memory.held.Nodup := by
  rw [balanced.held.nodup_iff]
  apply balanced.sound.orderly.apart.imp_of_mem
  intro left right leftMember _ apart
  rcases List.mem_map.1 leftMember with ⟨slab, member, rfl⟩
  exact apart.ne (Slab.bytes_pos (balanced.sound.orderly.sited slab member))

/-- A block is held exactly if a slab of the pool lies there. -/
theorem Balanced.mem_held_iff
    {pool : Pool config}
    {memory : Memory σ}
    (balanced : pool.Balanced memory)
    {block : Block} :
    block ∈ memory.held ↔
      ∃ slab ∈ pool.shelf.slabs, slab.block = block := by
  rw [balanced.held.mem_iff, List.mem_map]

/-- What can become of a retired slab at a request. -/
inductive Fate
    (live : Finset Nat)
    (request : Request σ)
    (reply : Reply)
    (after : World config σ)
    (slab : Slab config.geometry) :
    Prop where
  /-- It stays as it is, and no address inside it was given back. -/
  | kept
      (stays : slab ∈ after.pool.shelf.retired)
      (untouched :
        ∀ address ∈ slab.block.extent,
          request = .remove address → reply ≠ .done)
  /-- One of several live addresses inside it was given back. -/
  | counted
      {address : Nat}
      (inside : address ∈ slab.block.extent)
      (removed : request = .remove address)
      (done : reply = .done)
      (several : 1 < (slab.occupants live).card)
      (stays :
        { slab with live := slab.live - 1 } ∈ after.pool.shelf.retired)
  /-- The last live address inside it was given back, and its block with it. -/
  | emptied
      {address : Nat}
      (last : slab.occupants live = {address})
      (removed : request = .remove address)
      (done : reply = .done)
      (gone : slab.block ∉ after.memory.held)
  /-- All items were forgotten, and its block was given back. -/
  | forgotten
      (all : request = .clear ∨ request = .destroy)
      (gone : slab.block ∉ after.memory.held)

/-- What can become of the active slab when another one replaces it. -/
inductive Succession
    (live : Finset Nat)
    (after : World config σ)
    (previous : Slab config.geometry) :
    Prop where
  /-- Nothing inside it was live, and its block was given back. -/
  | released
      (unused : previous.occupants live = ∅)
      (gone : previous.block ∉ after.memory.held)
  /-- It retired, with the number of the live addresses inside it. -/
  | retired
      (used : (previous.occupants live).Nonempty)
      (stays :
        { previous with live := (previous.occupants live).card } ∈
          after.pool.shelf.retired)

variable {pool : Pool config} {live : Finset Nat}

/-! ## Retired slabs beside a new one -/

section Demotion

variable {before after : List Block}
variable {retired : List (Slab config.geometry)} {events : List Event}

/-- Slabs that were retired stay as they are. -/
theorem Demotion.mem_of_retired
    (demotion : pool.Demotion before retired after events)
    {slab : Slab config.geometry}
    (member : slab ∈ pool.shelf.retired) :
    slab ∈ retired := by
  cases demotion with
  | absent inactive => exact member
  | released serving unused => exact member
  | retired serving used inside ordered =>
    exact (List.mem_insertIdx inside).2 (Or.inr member)

/-- A slab that is retired was so before, or it was the active one. -/
theorem Demotion.exists_of_mem
    (demotion : pool.Demotion before retired after events)
    {slab : Slab config.geometry}
    (member : slab ∈ retired) :
    slab ∈ pool.shelf.retired ∨
      ∃ previous, pool.shelf.active = some previous ∧
        slab.block = previous.block := by
  cases demotion with
  | absent inactive => exact Or.inl member
  | released serving unused => exact Or.inl member
  | retired serving used inside ordered =>
    rcases List.eq_or_mem_of_mem_insertIdx member with rfl | earlier
    · exact Or.inr ⟨_, serving, rfl⟩
    · exact Or.inl earlier

/-- Whether the active slab retires is decided by the live addresses inside. -/
theorem Demotion.succession_cases
    (sound : pool.Sound)
    (coupled : pool.Coupled live)
    (nodup : before.Nodup)
    {previous : Slab config.geometry}
    (serving : pool.shelf.active = some previous)
    (demotion : pool.Demotion before retired after events) :
    (previous.occupants live = ∅ ∧ previous.block ∉ after) ∨
    ((previous.occupants live).Nonempty ∧
      { previous with live := (previous.occupants live).card } ∈ retired) := by
  have counted := coupled.card_occupants_active sound serving
  cases demotion with
  | absent inactive =>
    rw [inactive] at serving
    cases serving
  | released same unused =>
    rw [serving] at same
    cases same
    rw [unused, Finset.card_empty, Finset.card_eq_zero] at counted
    exact Or.inl ⟨counted, nodup.not_mem_erase⟩
  | retired same used inside ordered =>
    rw [serving] at same
    cases same
    rw [counted]
    refine Or.inr ⟨?_, (List.mem_insertIdx inside).2 (Or.inl rfl)⟩
    rw [← Finset.card_pos, counted]
    exact Finset.card_pos.2 used

end Demotion

section Growth

variable [Provider σ]
variable {memory after : Memory σ} {required : Nat} {grown : Pool config}

theorem Growth.mem_of_retired
    (growth : pool.Growth required memory ⟨.ok (), grown, after⟩)
    {slab : Slab config.geometry}
    (member : slab ∈ pool.shelf.retired) :
    slab ∈ grown.shelf.retired := by
  cases growth with
  | replaced bounded capacity untouched granted demotion fits journal =>
    exact demotion.mem_of_retired member

theorem Growth.exists_of_mem
    (growth : pool.Growth required memory ⟨.ok (), grown, after⟩)
    {slab : Slab config.geometry}
    (member : slab ∈ grown.shelf.retired) :
    slab ∈ pool.shelf.retired ∨
      ∃ previous, pool.shelf.active = some previous ∧
        slab.block = previous.block := by
  cases growth with
  | replaced bounded capacity untouched granted demotion fits journal =>
    exact demotion.exists_of_mem member

theorem Growth.succession
    [SeparatingProvider σ]
    (balanced : pool.Balanced memory)
    (coupled : pool.Coupled live)
    (growth : pool.Growth required memory ⟨.ok (), grown, after⟩)
    {previous : Slab config.geometry}
    (serving : pool.shelf.active = some previous) :
    Succession live ⟨grown, after⟩ previous := by
  cases growth with
  | @replaced slab _ _ _ _ bounded capacity untouched granted demotion fits
      journal =>
    have sited := balanced.sited_of_granted bounded capacity granted
    have nodup : (slab.block :: memory.held).Nodup := by
      rw [List.nodup_cons]
      refine ⟨fun held => ?_, balanced.nodup_held⟩
      exact (granted.apart held).ne (Slab.bytes_pos sited) rfl
    rcases demotion.succession_cases balanced.sound coupled nodup serving with
      ⟨unused, gone⟩ | ⟨used, stays⟩
    · exact .released unused gone
    · exact .retired used stays

end Growth

/-! ## Retired slabs at a request -/

variable {before after : World config σ} {request : Request σ} {reply : Reply}

/-- A request that takes no address out of use gives none back. -/
theorem ne_done_of_idle
    (idle : ∀ addresses, request.track reply addresses = addresses)
    {address : Nat}
    (removed : request = .remove address) :
    reply ≠ .done := by
  rintro rfl
  subst removed
  have same : ({address} : Finset Nat).erase address = {address} :=
    idle {address}
  rw [Finset.erase_eq_self] at same
  exact same (Finset.mem_singleton_self address)

/-- A removal from a slab that does not reach it leaves a retired slab alone. -/
theorem Fate.kept_of_outside
    {slab : Slab config.geometry}
    (stays : slab ∈ after.pool.shelf.retired)
    {address : Nat}
    (outside : address ∉ slab.block.extent) :
    Fate live (.remove address : Request σ) .done after slab :=
  .kept stays fun _ inside removed =>
    (outside (Request.remove.inj removed ▸ inside)).elim

/-- One of several items of a retired slab is removed. -/
theorem Coupled.fate_drained
    (coupled : before.pool.Coupled live)
    (sound : before.pool.Sound)
    {address position : Nat}
    {struck : Slab config.geometry}
    (found : before.pool.shelf.retired[position]? = some struck)
    (starts : struck.Starts address)
    (several : 1 < struck.live)
    (memory : Memory σ)
    {slab : Slab config.geometry}
    (member : slab ∈ before.pool.shelf.retired) :
    Fate live (.remove address) .done
      ⟨before.pool.drained position struck, memory⟩ slab := by
  rcases List.mem_iff_getElem?.1 member with ⟨index, listed⟩
  by_cases same : position = index
  · subst same
    rw [found] at listed
    cases listed
    have counted := coupled.counted struck member
    have inside := (List.getElem?_eq_some_iff.1 found).1
    refine .counted starts.mem_extent rfl rfl (by omega) ?_
    exact List.mem_iff_getElem?.2 ⟨position, List.getElem?_set_self inside⟩
  · refine .kept_of_outside (List.mem_iff_getElem?.2 ⟨index, ?_⟩) ?_
    · rw [Pool.drained, List.getElem?_set_ne same]
      exact listed
    · exact
        sound.orderly.outside_of_ne found listed same starts.mem_extent

/-- The last item of a retired slab is removed. -/
theorem Coupled.fate_relieved
    (coupled : before.pool.Coupled live)
    (balanced : before.pool.Balanced before.memory)
    {address position : Nat}
    {struck : Slab config.geometry}
    (found : before.pool.shelf.retired[position]? = some struck)
    (starts : struck.Starts address)
    (last : struck.live = 1)
    (current : address ∈ live)
    {memory : Memory σ}
    (held : memory.held = before.memory.held.erase struck.block)
    {slab : Slab config.geometry}
    (member : slab ∈ before.pool.shelf.retired) :
    Fate live (.remove address) .done
      ⟨before.pool.relieved position, memory⟩ slab := by
  rcases List.mem_iff_getElem?.1 member with ⟨index, listed⟩
  by_cases same : position = index
  · subst same
    rw [found] at listed
    cases listed
    have counted := coupled.counted struck member
    rw [last, Finset.card_eq_one] at counted
    rcases counted with ⟨only, occupants⟩
    have inside : address ∈ struck.occupants live :=
      Slab.mem_occupants.2 ⟨current, starts.mem_extent⟩
    rw [occupants, Finset.mem_singleton] at inside
    subst inside
    refine .emptied occupants rfl rfl ?_
    rw [held]
    exact balanced.nodup_held.not_mem_erase
  · refine .kept_of_outside ?_ ?_
    · exact List.mem_eraseIdx_iff_getElem?.2 ⟨index, Ne.symm same, listed⟩
    · exact
        balanced.sound.orderly.outside_of_ne found listed same
          starts.mem_extent

variable [Provider σ]

/-- A retired slab meets one of the fates listed. -/
theorem Effect.fate
    (balanced : before.pool.Balanced before.memory)
    (coupled : before.pool.Coupled live)
    (permitted : request.Permitted live)
    (effect : Effect before request reply after)
    {slab : Slab config.geometry}
    (member : slab ∈ before.pool.shelf.retired) :
    Fate live request reply after slab := by
  have orderly := balanced.sound.orderly
  cases effect with
  | kept unbroken idle fits undisturbed =>
    exact .kept member fun _ _ removed => ne_done_of_idle idle removed
  | served serving service => exact .kept member nofun
  | grown growth => exact .kept (growth.mem_of_retired member) nofun
  | grownServed growth serving service =>
    exact .kept (growth.mem_of_retired member) nofun
  | @released active index _ _ _ serving release undisturbed =>
    have used := release.mem_inUse balanced.sound serving
    rw [inUse_of_active serving] at used
    have bounded :=
      (balanced.sound.settled_active serving).lt_of_mem_inUse used
    have starts : active.Starts (active.slotAt index) :=
      ⟨index, bounded, rfl⟩
    refine .kept_of_outside ?_ ?_
    · exact member
    · exact orderly.outside_of_active serving member starts.mem_extent
  | counted found starts several =>
    exact coupled.fate_drained balanced.sound found starts several _ member
  | emptied found starts last =>
    exact
      coupled.fate_relieved balanced found starts last permitted rfl member
  | cleared =>
    refine .forgotten (Or.inl rfl) fun held => ?_
    have left := before.pool.shelf.held_releaseRetired balanced.held
    rcases List.mem_map.1 (left.mem_iff.1 held) with ⟨active, serving, same⟩
    rw [Option.mem_toList] at serving
    exact
      (orderly.active_apart serving member).ne
        (Slab.bytes_pos (orderly.sited_active serving)) same
  | destroyed =>
    refine .forgotten (Or.inr rfl) ?_
    rw [balanced.held_destroy]
    exact List.not_mem_nil

/-- A slab retires only where it was retired or served before. -/
theorem Effect.exists_of_retired
    (balanced : before.pool.Balanced before.memory)
    (effect : Effect before request reply after)
    {slab : Slab config.geometry}
    (member : slab ∈ after.pool.shelf.retired) :
    (∃ earlier ∈ before.pool.shelf.retired, slab.block = earlier.block) ∨
      ∃ previous, before.pool.shelf.active = some previous ∧
        slab.block = previous.block := by
  cases effect with
  | kept unbroken idle fits undisturbed => exact Or.inl ⟨slab, member, rfl⟩
  | served serving service => exact Or.inl ⟨slab, member, rfl⟩
  | grown growth =>
    rcases growth.exists_of_mem member with earlier | previous
    · exact Or.inl ⟨slab, earlier, rfl⟩
    · exact Or.inr previous
  | grownServed growth serving service =>
    rcases growth.exists_of_mem member with earlier | previous
    · exact Or.inl ⟨slab, earlier, rfl⟩
    · exact Or.inr previous
  | released serving release undisturbed => exact Or.inl ⟨slab, member, rfl⟩
  | @counted _ position struck found starts several =>
    have block :
        slab.block ∈
          (before.pool.drained position struck).shelf.retired.map
            Slab.block :=
      List.mem_map_of_mem member
    rw [Pool.drained, Slab.map_block_set found] at block
    rcases List.mem_map.1 block with ⟨earlier, earlierMember, same⟩
    exact Or.inl ⟨earlier, earlierMember, same.symm⟩
  | emptied found starts last =>
    exact Or.inl ⟨slab, List.mem_of_mem_eraseIdx member, rfl⟩
  | cleared => cases member
  | destroyed =>
    have none := balanced.slabs_destroy
    rw [Shelf.slabs, List.append_eq_nil_iff] at none
    rw [none.2] at member
    cases member

/-- The active slab that another one replaces is given back or retires. -/
theorem Effect.succession
    [SeparatingProvider σ]
    (balanced : before.pool.Balanced before.memory)
    (coupled : before.pool.Coupled live)
    (effect : Effect before request reply after)
    {previous successor : Slab config.geometry}
    (serving : before.pool.shelf.active = some previous)
    (replaced : after.pool.shelf.active = some successor)
    (differ : successor.block ≠ previous.block) :
    Succession live after previous := by
  have contrary :
      ∀ slab, after.pool.shelf.active = some slab →
        slab.block = previous.block → Succession live after previous := by
    intro slab still same
    rw [still] at replaced
    cases replaced
    exact (differ same).elim
  cases effect with
  | kept unbroken idle fits undisturbed => exact contrary _ serving rfl
  | served same service =>
    rw [serving] at same
    cases same
    exact contrary _ rfl rfl
  | grown growth => exact growth.succession balanced coupled serving
  | grownServed growth same service =>
    cases growth.succession balanced coupled serving with
    | released unused gone => exact .released unused gone
    | retired used stays => exact .retired used stays
  | released same release undisturbed =>
    rw [serving] at same
    cases same
    exact contrary _ rfl rfl
  | counted found starts several => exact contrary _ serving rfl
  | emptied found starts last => exact contrary _ serving rfl
  | cleared =>
    refine contrary { previous with live := 0 } ?_ rfl
    rw [shelf_clear, serving]
    rfl
  | destroyed =>
    have none := balanced.slabs_destroy
    rw [Shelf.slabs_of_active replaced] at none
    cases none

/-! ## Blocks that are given back -/

/-- No live address lies in a block that was given back. -/
theorem Run.outside_of_returned
    [SeparatingProvider σ]
    {deals : List (Deal config σ)}
    {world : World config σ}
    (run : Run deals world)
    {request : Request σ}
    (abiding : Abiding (⟨world, request⟩ :: deals))
    {block : Block}
    (held : block ∈ world.memory.held)
    (returned : block ∉ (Deal.after ⟨world, request⟩).memory.held)
    {address : Nat}
    (member : address ∈ Pool.live (⟨world, request⟩ :: deals)) :
    address ∉ block.extent := by
  have balanced := run.balanced
  have laterRun := run.next request
  have later := laterRun.balanced
  rcases (laterRun.coupled abiding).placed address member with
    ⟨slab, slabMember, starts⟩
  have differ : slab.block ≠ block := by
    rintro rfl
    exact returned (later.mem_held_iff.2 ⟨slab, slabMember, rfl⟩)
  have apart : Block.Apart slab.block block := by
    rcases (run.effect request).origin balanced
        (List.mem_map_of_mem slabMember) with
      earlier | granted
    · exact
        balanced.sound.orderly.apart.forall earlier
          (balanced.held.mem_iff.1 held) differ
    · exact granted.apart held
  exact Finset.disjoint_left.1 apart.disjoint starts.mem_extent

/-- What a deal does to the slabs of a pool, told from the live addresses. -/
structure Timely
    (live : Finset Nat)
    (deal : Deal config σ) :
    Prop where
  fate :
    ∀ slab ∈ deal.before.pool.shelf.retired,
      Fate live deal.request deal.reply deal.after slab
  succession :
    ∀ previous successor : Slab config.geometry,
      deal.before.pool.shelf.active = some previous →
        deal.after.pool.shelf.active = some successor →
          successor.block ≠ previous.block →
            Succession live deal.after previous
  /-- No slab retires but one that was retired or served before. -/
  origin :
    ∀ slab ∈ deal.after.pool.shelf.retired,
      (∃ earlier ∈ deal.before.pool.shelf.retired,
        slab.block = earlier.block) ∨
        ∃ previous, deal.before.pool.shelf.active = some previous ∧
          slab.block = previous.block
  /-- No block is given back under a live address. -/
  spared :
    ∀ block ∈ deal.before.memory.held,
      block ∉ deal.after.memory.held →
        ∀ address ∈ deal.track live, address ∉ block.extent

/--
Throughout an abiding run a retired slab holds a block and counts the live
addresses inside it, of which there is at least one; and the next request, if
it is permitted, gives slabs back in time.
-/
theorem retirement_of_run
    [SeparatingProvider σ]
    {deals : List (Deal config σ)}
    {world : World config σ}
    (run : Run deals world)
    (abiding : Abiding deals) :
    (∀ slab ∈ world.pool.shelf.retired,
      slab.block ∈ world.memory.held ∧
        slab.live = (slab.occupants (Pool.live deals)).card ∧
          1 ≤ slab.live) ∧
    ∀ request, Abiding (⟨world, request⟩ :: deals) →
      Timely (Pool.live deals) ⟨world, request⟩ := by
  have balanced := run.balanced
  have coupled := run.coupled abiding
  constructor
  · intro slab retired
    refine ⟨?_, (coupled.counted slab retired).symm, ?_⟩
    · have member := Shelf.mem_slabs.2 (Or.inr retired)
      exact balanced.mem_held_iff.2 ⟨slab, member, rfl⟩
    · exact (balanced.sound.orderly.counted slab retired).1
  · intro request permitted
    have effect := run.effect request
    exact
      { fate := fun _ member =>
          effect.fate balanced coupled permitted.2 member
        succession := fun _ _ serving replaced differ =>
          effect.succession balanced coupled serving replaced differ
        origin := fun _ member => effect.exists_of_retired balanced member
        spared := fun _ held returned _ member =>
          run.outside_of_returned permitted held returned member }

/-- A slab of two slots retires with a hole, and a larger one replaces it. -/
def Sample.oneHole : List (Request Arena) :=
  [.reserve 3, .remove Arena.origin, .allocate, .allocate]

theorem retirement_of_oneHole :
    let deals : List (Deal Sample.config Arena) :=
      history Sample.arena Sample.oneHole
    let world : World Sample.config Arena :=
      reached Sample.arena Sample.oneHole
    let next : Deal Sample.config Arena :=
      ⟨world, .remove (Arena.origin + 8)⟩
    let slab : Slab Sample.config.geometry := ⟨Arena.origin, 2, 1⟩
    world.pool.shelf.retired = [slab] ∧
      slab.block ∈ world.memory.held ∧
        slab.live = (slab.occupants (Pool.live deals)).card ∧
          Timely (Pool.live deals) next ∧
            slab.block ∉ next.after.memory.held := by
  intro deals world next slab
  have run : Run deals world := run_history Sample.arena Sample.oneHole
  have abiding : Abiding deals := by decide +kernel
  have permitted : Abiding (next :: deals) := by decide +kernel
  have retirement := retirement_of_run run abiding
  have retired : world.pool.shelf.retired = [slab] := by decide +kernel
  have member : slab ∈ world.pool.shelf.retired := by
    rw [retired]
    exact List.mem_singleton_self slab
  have counted := retirement.1 slab member
  refine
    ⟨retired, counted.1, counted.2.1, retirement.2 _ permitted, ?_⟩
  decide +kernel

end SlabPool.Pool
