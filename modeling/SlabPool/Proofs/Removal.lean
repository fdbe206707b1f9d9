import SlabPool.Pool.Removal
import SlabPool.Proofs.Allocation

/-!
# What removal can lead to

A slot of the active slab is released (`Release`) by lowering the mark to right
above the next slot in use, or by recording a vacancy.  `Removal` lists the
ways in which the removal of any address can end, and `removeWith_spec` says
that there are no others for a balanced pool.  What the caller does with the
slot happens exactly if the removal succeeds.
-/

namespace SlabPool

namespace Slab

variable {geometry : Geometry}

theorem decrement_eq
    {slab : Slab geometry}
    (positive : 0 < slab.live) :
    slab.decrement = .ok { slab with live := slab.live - 1 } :=
  if_neg (Nat.ne_of_gt positive)

/-- The block of a slab does not depend on its count. -/
theorem map_block_set
    {slabs : List (Slab geometry)}
    {position : Nat}
    {slab : Slab geometry}
    (found : slabs[position]? = some slab)
    (live : Nat) :
    (slabs.set position { slab with live }).map block = slabs.map block := by
  apply List.ext_getElem?
  intro index
  rw [List.getElem?_map, List.getElem?_map, List.getElem?_set]
  split
  case isFalse => rfl
  case isTrue same =>
    subst same
    rw [if_pos (List.getElem?_eq_some_iff.1 found).1, found]
    rfl


end Slab

/-- The slabs are those left when a retired one goes, and that one. -/
theorem Shelf.slabs_perm_eraseIdx
    {geometry : Geometry}
    {shelf : Shelf geometry}
    {position : Nat}
    {slab : Slab geometry}
    (found : shelf.retired[position]? = some slab) :
    shelf.slabs.Perm
      (slab ::
        ({ shelf with retired := shelf.retired.eraseIdx position } :
          Shelf geometry).slabs) := by
  rcases List.getElem?_eq_some_iff.1 found with ⟨inside, rfl⟩
  have moved := List.getElem_cons_eraseIdx_perm inside
  exact (moved.symm.append_left _).trans List.perm_middle

namespace Shelf.Orderly

variable {geometry : Geometry} {shelf : Shelf geometry}

/-- Some of the retired slabs in the same places, each in use, are in order. -/
theorem withRetired
    (orderly : shelf.Orderly)
    {retired : List (Slab geometry)}
    (blocks :
      (retired.map Slab.block).Sublist (shelf.retired.map Slab.block))
    (counted : ∀ slab ∈ retired, 0 < slab.live ∧ slab.live ≤ slab.capacity) :
    ({ shelf with retired } : Shelf geometry).Orderly where
  sited slab member := by
    rcases mem_slabs.1 member with serving | listed
    · exact orderly.sited_active serving
    · have placed := blocks.subset (List.mem_map_of_mem listed)
      rcases List.mem_map.1 placed with ⟨origin, originMember, same⟩
      exact (orderly.sited_retired originMember).of_block_eq same.symm
  apart := by
    refine List.Pairwise.sublist ?_ orderly.apart
    rw [slabs, slabs, List.map_append, List.map_append]
    exact blocks.append_left _
  ascending := by
    have bases := blocks.map Block.base
    rw [List.map_map, List.map_map] at bases
    exact orderly.ascending.sublist bases
  counted := counted
  led absent := by
    rw [orderly.led absent, List.map_nil, List.sublist_nil,
      List.map_eq_nil_iff] at blocks
    exact blocks

end Shelf.Orderly

namespace Pool

variable {config : Config}

/-! ## The mark falls to the next slot in use -/

/-- Settling stops right above a slot in use and vacates none. -/
theorem settle_spec
    {room : Nat}
    {stack : List Nat}
    {marks : Marks}
    {slab : Slab config.geometry}
    (faithful : Vacancies.Faithful ⟨stack, marks, room⟩ slab.capacity)
    (bounded : slab.live ≤ slab.capacity)
    (below : ∀ index ∈ stack, index < slab.live) :
    ∃ stack' marks' mark,
      settle stack marks slab =
          (.ok (), stack', marks', { slab with live := mark }) ∧
        Vacancies.Settled ⟨stack', marks', room⟩ slab.capacity mark ∧
          Vacancies.inUse ⟨stack', marks', room⟩ mark =
            Vacancies.inUse ⟨stack, marks, room⟩ slab.live := by
  induction stack generalizing marks slab with
  | nil =>
    refine ⟨[], marks, slab.live, rfl, ?_, rfl⟩
    exact
      { faithful with
        mark_le := bounded
        buried := by simp }
  | cons top rest ih =>
    have descending := List.pairwise_cons.1 faithful.descending
    have topBelow := below top List.mem_cons_self
    unfold settle
    split
    case isFalse inUseAbove =>
      refine ⟨top :: rest, marks, slab.live, rfl, ?_, rfl⟩
      exact
        { faithful with
          mark_le := bounded
          buried := fun index member => by
            rcases List.mem_cons.1 member with rfl | lower
            · omega
            · have := descending.1 index lower
              omega }
    case isTrue atTop =>
      rcases faithful.exists_write? (Nat.lt_of_lt_of_le topBelow bounded)
          false with ⟨written, success⟩
      have restBelow : ∀ index ∈ rest, index < slab.live - 1 := by
        intro index member
        have := descending.1 index member
        omega
      rcases @ih written { slab with live := slab.live - 1 }
          (faithful.drop rfl success)
          (Nat.le_trans (Nat.sub_le _ _) bounded) restBelow with
        ⟨stack', marks', mark, settled, record, same⟩
      have positive : 0 < slab.live := by omega
      refine ⟨stack', marks', mark, ?_, record, ?_⟩
      · dsimp only at success
        rw [success]
        dsimp only
        rw [Slab.decrement_eq positive]
        exact settled
      · rw [same]
        ext index
        simp only [Vacancies.mem_inUse, List.mem_cons, not_or]
        constructor
        · rintro ⟨lower, free⟩
          exact ⟨by omega, by omega, free⟩
        · rintro ⟨lower, differs, free⟩
          exact ⟨by omega, free⟩

/-! ## A slot of the active slab -/

/-- The active slab releases a slot; its mark and vacancies then are as given. -/
inductive Release
    (pool : Pool config)
    (active : Slab config.geometry) :
    Nat → Nat → Vacancies → Prop where
  /-- The highest slot in use lowers the mark. -/
  | lowered
      {mark : Nat}
      {vacancies : Vacancies}
      (positive : 0 < active.live)
      (settled : vacancies.Settled active.capacity mark)
      (left :
        vacancies.inUse mark = pool.inUse.erase (active.live - 1)) :
      Release pool active (active.live - 1) mark vacancies
  /-- Any other slot in use becomes a vacancy. -/
  | recorded
      {index room : Nat}
      {written : Marks}
      (used : index ∈ pool.inUse)
      (below : index + 1 < active.live)
      (settled :
        Vacancies.Settled
          ⟨Vacancies.insertDescending index pool.vacancies.stack, written,
            room⟩
          active.capacity active.live) :
      Release pool active index active.live
        ⟨Vacancies.insertDescending index pool.vacancies.stack, written, room⟩

namespace Release

variable {pool : Pool config} {active : Slab config.geometry}
variable {index mark : Nat} {vacancies : Vacancies}

theorem settled
    (release : pool.Release active index mark vacancies) :
    vacancies.Settled active.capacity mark := by
  cases release with
  | lowered positive settled left => exact settled
  | recorded used below settled => exact settled

/-- The slot that is released leaves those in use. -/
theorem inUse_eq
    (serving : pool.shelf.active = some active)
    (release : pool.Release active index mark vacancies) :
    vacancies.inUse mark = pool.inUse.erase index := by
  cases release with
  | lowered positive settled left => exact left
  | recorded used below settled =>
    rw [inUse_of_active serving]
    exact Vacancies.inUse_record _ _ _ _ _

/-- The slot that is released was in use. -/
theorem mem_inUse
    (sound : pool.Sound)
    (serving : pool.shelf.active = some active)
    (release : pool.Release active index mark vacancies) :
    index ∈ pool.inUse := by
  cases release with
  | lowered positive settled left =>
    rw [inUse_of_active serving]
    exact (sound.settled_active serving).top_mem_inUse positive
  | recorded used below settled => exact used

theorem card_inUse
    (sound : pool.Sound)
    (serving : pool.shelf.active = some active)
    (release : pool.Release active index mark vacancies) :
    (pool.withRecord active mark vacancies).inUse.card + 1 =
      pool.inUse.card := by
  rw [← Finset.card_erase_add_one (release.mem_inUse sound serving),
    ← release.inUse_eq serving]
  rfl

end Release

/-- Giving back the highest slot in use lowers the mark. -/
theorem Sound.lower_eq
    {pool : Pool config}
    (sound : pool.Sound)
    {active : Slab config.geometry}
    (serving : pool.shelf.active = some active)
    (positive : 0 < active.live) :
    ∃ mark vacancies,
      pool.lower active = (.ok (), pool.withRecord active mark vacancies) ∧
        pool.Release active (active.live - 1) mark vacancies := by
  have settled := sound.settled_active serving
  have below : ∀ index ∈ pool.vacancies.stack, index < active.live - 1 := by
    intro index vacant
    have := settled.buried index vacant
    omega
  have bounded : active.live - 1 ≤ active.capacity :=
    Nat.le_trans (Nat.sub_le _ _) settled.mark_le
  rcases @settle_spec _ _ _ _ { active with live := active.live - 1 }
      settled.toFaithful bounded below with
    ⟨stack, marks, mark, lowered, record, same⟩
  refine ⟨mark, ⟨stack, marks, pool.vacancies.room⟩, ?_, ?_⟩
  · rw [lower, Slab.decrement_eq positive]
    dsimp only
    rw [lowered]
    rfl
  · refine .lowered positive record ?_
    rw [same, inUse_of_active serving]
    ext index
    rw [Finset.mem_erase, Vacancies.mem_inUse, Vacancies.mem_inUse]
    dsimp only
    constructor
    · rintro ⟨lower, free⟩
      exact ⟨by omega, by omega, free⟩
    · rintro ⟨differs, lower, free⟩
      exact ⟨by omega, free⟩

/-- Giving back a lower slot makes it a vacancy, where there is room. -/
theorem Sound.record_eq
    {pool : Pool config}
    (sound : pool.Sound)
    {active : Slab config.geometry}
    (serving : pool.shelf.active = some active)
    {index : Nat}
    (used : index ∈ pool.inUse)
    (below : index + 1 < active.live)
    {room : Nat}
    (larger : pool.vacancies.size < room) :
    ∃ vacancies,
      Vacancies.record { pool.vacancies with room } index =
          (.ok (), vacancies) ∧
        { pool with vacancies } =
            pool.withRecord active active.live vacancies ∧
          pool.Release active index active.live vacancies := by
  have settled := sound.settled_active serving
  have roomy :
      Vacancies.Settled { pool.vacancies with room }
        active.capacity active.live :=
    { settled with fits := Nat.le_of_lt larger }
  have freed := used
  rw [inUse_of_active serving] at freed
  rcases Vacancies.record_inUse roomy freed below larger with
    ⟨written, recorded, record⟩
  refine ⟨_, recorded, ?_, .recorded used below record⟩
  rw [Pool.withRecord, ← serving]

/-- However far the mark falls, the room on record stays. -/
theorem room_lower
    (pool : Pool config)
    (active : Slab config.geometry) :
    (pool.lower active).2.vacancies.room = pool.vacancies.room := by
  unfold lower
  split <;> rfl

/-! ## An item of a retired slab -/

variable {σ : Type}

/-- The pool whose retired slab at this position has one item less. -/
def drained
    (pool : Pool config)
    (position : Nat)
    (slab : Slab config.geometry) :
    Pool config :=
  { pool with
    shelf := { pool.shelf with
      retired :=
        pool.shelf.retired.set position
          { slab with live := slab.live - 1 } } }

/-- The pool without the retired slab at this position. -/
def relieved
    (pool : Pool config)
    (position : Nat) :
    Pool config :=
  { pool with
    shelf := { pool.shelf with
      retired := pool.shelf.retired.eraseIdx position } }

/-- Retired slabs in the same places, each in use, leave the pool sound. -/
theorem Sound.withRetired
    {pool : Pool config}
    (sound : pool.Sound)
    {retired : List (Slab config.geometry)}
    (blocks :
      (retired.map Slab.block).Sublist (pool.shelf.retired.map Slab.block))
    (counted : ∀ slab ∈ retired, 0 < slab.live ∧ slab.live ≤ slab.capacity) :
    ({ pool with shelf := { pool.shelf with retired } } :
      Pool config).Sound where
  orderly := sound.orderly.withRetired blocks counted
  settled := sound.settled
  fits := by
    have shorter := blocks.length_le
    rw [List.length_map, List.length_map] at shorter
    exact Nat.le_trans shorter sound.fits
  hinted := sound.hinted

section Retired

variable {pool : Pool config} {memory after : Memory σ}
variable {position : Nat} {slab : Slab config.geometry}

theorem blocks_drained
    (found : pool.shelf.retired[position]? = some slab) :
    (pool.drained position slab).shelf.slabs.map Slab.block =
      pool.shelf.slabs.map Slab.block := by
  rw [Shelf.slabs, Shelf.slabs, List.map_append, List.map_append]
  exact congrArg _ (Slab.map_block_set found (slab.live - 1))

theorem Balanced.drained
    (balanced : pool.Balanced memory)
    (found : pool.shelf.retired[position]? = some slab)
    (several : 1 < slab.live)
    (held : after.held = memory.held) :
    (pool.drained position slab).Balanced after where
  sound := by
    have counted := balanced.sound.orderly.counted
    apply balanced.sound.withRetired
    · rw [Slab.map_block_set found]
    · intro other member
      rcases List.mem_or_eq_of_mem_set member with earlier | rfl
      · exact counted other earlier
      · have before := counted slab (List.mem_of_getElem? found)
        dsimp only
        omega
  held := by
    rw [held, blocks_drained found]
    exact balanced.held

theorem Balanced.relieved
    (balanced : pool.Balanced memory)
    (found : pool.shelf.retired[position]? = some slab)
    (held : after.held = memory.held.erase slab.block) :
    (pool.relieved position).Balanced after where
  sound := by
    apply balanced.sound.withRetired
    · exact (List.eraseIdx_sublist _ _).map _
    · intro other member
      exact balanced.sound.orderly.counted other
        (List.mem_of_mem_eraseIdx member)
  held := by
    have moved := Shelf.slabs_perm_eraseIdx found
    have erased :=
      (balanced.held.trans (moved.map Slab.block)).erase slab.block
    rw [List.map_cons, List.erase_cons_head] at erased
    rw [held]
    exact erased

end Retired

/-! ## Removal does what it should -/

/-- The ways in which the removal of an address can end. -/
inductive Removal
    (pool : Pool config)
    (address : Nat)
    (memory : Memory σ) :
    Outcome (Pool config) σ Unit → Prop where
  /-- No slot starts there. -/
  | foreign
      (nowhere : ∀ slab ∈ pool.shelf.slabs, ¬ slab.Starts address) :
      Removal pool address memory
        ⟨.error (.fault (.notOwned address)), pool, memory⟩
  /-- The slot of the active slab is not in use. -/
  | vacant
      {active : Slab config.geometry}
      {index : Nat}
      (serving : pool.shelf.active = some active)
      (inside : index < active.capacity)
      (addressed : address = active.slotAt index)
      (unused : index ∉ pool.inUse) :
      Removal pool address memory
        ⟨.error (.fault (.doubleRemove address)), pool, memory⟩
  /-- The vacancy cannot be recorded; the slot stays in use. -/
  | refused
      {active : Slab config.geometry}
      {index : Nat}
      {after : Memory σ}
      (serving : pool.shelf.active = some active)
      (addressed : address = active.slotAt index)
      (used : index ∈ pool.inUse)
      (below : index + 1 < active.live)
      (undisturbed : memory.Undisturbed after) :
      Removal pool address memory
        ⟨.error
          (.fault
            (.allocationFailed Vacancies.entryBytes Vacancies.entryBytes)),
          pool, after⟩
  /-- The active slab releases the slot. -/
  | released
      {active : Slab config.geometry}
      {index mark : Nat}
      {vacancies : Vacancies}
      {after : Memory σ}
      (serving : pool.shelf.active = some active)
      (addressed : address = active.slotAt index)
      (release : pool.Release active index mark vacancies)
      (undisturbed : memory.Undisturbed after) :
      Removal pool address memory
        ⟨.ok (), pool.withRecord active mark vacancies, after⟩
  /-- A retired slab has one item less. -/
  | counted
      {slab : Slab config.geometry}
      {position : Nat}
      (found : pool.shelf.retired[position]? = some slab)
      (starts : slab.Starts address)
      (several : 1 < slab.live) :
      Removal pool address memory
        ⟨.ok (), pool.drained position slab,
          memory.note (.retiredItemRemoved position (slab.live - 1))⟩
  /-- A retired slab loses its last item and is given back. -/
  | emptied
      {slab : Slab config.geometry}
      {position : Nat}
      (found : pool.shelf.retired[position]? = some slab)
      (starts : slab.Starts address)
      (last : slab.live = 1) :
      Removal pool address memory
        ⟨.ok (), pool.relieved position,
          slab.release
            ((memory.note (.retiredItemRemoved position 0)).note
              (.retiredEmptied slab.capacity))⟩

section Spec

variable [Provider σ] {β : Type}

/-- What the caller does with a slot happens exactly if its removal succeeds. -/
def acted
    (outcome : Outcome (Pool config) σ Unit)
    (act : Nat → β → β)
    (address : Nat)
    (world : β) :
    β :=
  match outcome.answer with
  | .ok () => act address world
  | .error _ => world

/-- Removal from the active slab ends in one of the ways listed. -/
theorem removeActive_spec
    {pool : Pool config}
    (sound : pool.Sound)
    {active : Slab config.geometry}
    (serving : pool.shelf.active = some active)
    {index address : Nat}
    (inside : index < active.capacity)
    (addressed : address = active.slotAt index)
    (act : Nat → β → β)
    (world : β)
    (memory : Memory σ) :
    ∃ outcome,
      pool.removeActive active index address act world memory =
          (outcome, acted outcome act address world) ∧
        pool.Removal address memory outcome := by
  have settled := sound.settled_active serving
  have used_iff : index ∈ pool.inUse ↔
      index < active.live ∧ index ∉ pool.vacancies.stack := by
    rw [inUse_of_active serving, Vacancies.mem_inUse]
  unfold removeActive
  split
  case isTrue free =>
    refine ⟨_, rfl, .vacant serving inside addressed ?_⟩
    rw [used_iff]
    rintro ⟨lower, fresh⟩
    rcases free with above | vacant
    · omega
    · exact fresh (settled.contains_iff.1 vacant)
  case isFalse occupied =>
    rw [not_or, Nat.not_le, settled.contains_iff] at occupied
    have used := used_iff.2 occupied
    have bounded := sound.activeCapacity_lt
    rw [activeCapacity_of_active serving] at bounded
    have positive : 0 < active.live := by omega
    have marked := settled.mark_le
    rw [Word.sub_eq (by omega) (by omega)]
    split
    case isTrue top =>
      rcases sound.lower_eq serving positive with
        ⟨mark, vacancies, lowered, release⟩
      rw [lowered]
      subst top
      exact
        ⟨_, rfl, .released serving addressed release (.refl memory)⟩
    case isFalse notTop =>
      have below : index + 1 < active.live := by omega
      rcases pool.vacancies.reserve_cases settled.fits memory with
        ⟨room, after, reserved, larger, undisturbed⟩ |
        ⟨after, reserved, undisturbed⟩
      · rcases sound.record_eq serving used below larger with
          ⟨vacancies, recorded, same, release⟩
        rw [reserved]
        dsimp only
        rw [recorded]
        dsimp only
        rw [same]
        exact
          ⟨_, rfl, .released serving addressed release undisturbed⟩
      · rw [reserved]
        exact
          ⟨_, rfl, .refused serving addressed used below undisturbed⟩

/-- Removal from a balanced pool ends in one of the ways listed. -/
theorem removeWith_spec
    {pool : Pool config}
    (sound : pool.Sound)
    (address : Nat)
    (act : Nat → β → β)
    (world : β)
    (memory : Memory σ) :
    ∃ outcome,
      pool.removeWith address act world memory =
          (outcome, acted outcome act address world) ∧
        pool.Removal address memory outcome := by
  unfold removeWith
  split
  case h_1 located =>
    exact ⟨_, rfl, .foreign (sound.orderly.locate_eq_none_iff.1 located)⟩
  case h_2 index located =>
    rcases sound.orderly.locate_eq_active_iff.1 located with
      ⟨active, serving, inside, addressed⟩
    rw [serving]
    exact removeActive_spec sound serving inside addressed act world memory
  case h_3 position located =>
    rcases sound.orderly.locate_eq_retired_iff.1 located with
      ⟨slab, found, starts⟩
    have counted :=
      (sound.orderly.counted slab (List.mem_of_getElem? found)).1
    rw [Shelf.removeRetiredItem, found]
    dsimp only
    rw [Slab.decrement_eq counted]
    dsimp only
    split
    case h_1 breach shelf after removed =>
      split at removed <;> cases removed
    case h_2 gone shelf after removed =>
      split at removed
      case isTrue several =>
        cases removed
        exact ⟨_, rfl, .counted found starts (by omega)⟩
      case isFalse notSeveral =>
        have last : slab.live = 1 := by omega
        have emptied : pool.Removal address memory _ :=
          .emptied found starts last
        rw [last] at removed
        cases removed
        exact ⟨_, rfl, emptied⟩

theorem remove_spec
    {pool : Pool config}
    (sound : pool.Sound)
    (address : Nat)
    (memory : Memory σ) :
    pool.Removal address memory (pool.remove address memory) := by
  rcases removeWith_spec sound address (fun _ world => world) () memory with
    ⟨outcome, removed, removal⟩
  rw [remove, removed]
  exact removal

/-- A slot in use of the active slab is taken off the top or recorded. -/
theorem Sound.remove_eq
    {pool : Pool config}
    (sound : pool.Sound)
    {active : Slab config.geometry}
    (serving : pool.shelf.active = some active)
    {index : Nat}
    (used : index ∈ pool.inUse)
    (memory : Memory σ) :
    pool.remove (active.slotAt index) memory =
      if index + 1 = active.live then
        let (answer, lowered) := pool.lower active
        ⟨answer.mapError Stop.breach, lowered, memory⟩
      else
        match pool.vacancies.reserve memory with
        | (.error fault, memory) => ⟨.error (.fault fault), pool, memory⟩
        | (.ok vacancies, memory) =>
          let (answer, vacancies) := vacancies.record index
          ⟨answer.mapError Stop.breach, { pool with vacancies }, memory⟩ := by
  have settled := sound.settled_active serving
  rw [inUse_of_active serving] at used
  have inside := settled.lt_of_mem_inUse used
  have located :=
    sound.orderly.locate_eq_active_iff.2 ⟨active, serving, inside, rfl⟩
  rw [Vacancies.mem_inUse, ← settled.contains_iff] at used
  have positive : 0 < active.live := Nat.zero_lt_of_lt used.1
  have bounded := sound.activeCapacity_lt
  rw [activeCapacity_of_active serving] at bounded
  have marked := settled.mark_le
  have occupied :
      ¬ (active.live ≤ index ∨ pool.vacancies.contains index = true) := by
    rintro (above | vacant)
    · omega
    · exact used.2 vacant
  have top : index = active.live - 1 ↔ index + 1 = active.live := by omega
  rw [remove, removeWith, located]
  dsimp only
  rw [serving]
  dsimp only
  rw [removeActive, if_neg occupied, Word.sub_eq (by omega) (by omega)]
  simp only [top]
  split
  · rfl
  · rcases pool.vacancies.reserve memory with ⟨fault | vacancies, after⟩ <;>
      rfl

/-- The highest slot in use is given back without a request. -/
theorem Sound.remove_top
    {pool : Pool config}
    (sound : pool.Sound)
    {active : Slab config.geometry}
    (serving : pool.shelf.active = some active)
    {index : Nat}
    (used : index ∈ pool.inUse)
    (top : index + 1 = active.live)
    (memory : Memory σ) :
    ∃ mark vacancies,
      pool.remove (active.slotAt index) memory =
          ⟨.ok (), pool.withRecord active mark vacancies, memory⟩ ∧
        pool.Release active index mark vacancies ∧
          vacancies.room = pool.vacancies.room := by
  rcases sound.lower_eq serving (by omega) with
    ⟨mark, vacancies, lowered, release⟩
  have room := pool.room_lower active
  rw [lowered] at room
  have same : index = active.live - 1 := by omega
  rw [sound.remove_eq serving used, if_pos top, lowered, same]
  exact ⟨mark, vacancies, rfl, release, room⟩

/-- Any other slot in use is given back if its vacancy finds room on record. -/
theorem Sound.remove_below
    {pool : Pool config}
    (sound : pool.Sound)
    {active : Slab config.geometry}
    (serving : pool.shelf.active = some active)
    {index : Nat}
    (used : index ∈ pool.inUse)
    (below : index + 1 < active.live)
    (memory : Memory σ) :
    (∃ fault after,
      pool.vacancies.reserve memory = (.error fault, after) ∧
        pool.remove (active.slotAt index) memory =
          ⟨.error (.fault fault), pool, after⟩) ∨
    (∃ roomy after vacancies,
      pool.vacancies.reserve memory = (.ok roomy, after) ∧
        roomy.record index = (.ok (), vacancies) ∧
          pool.remove (active.slotAt index) memory =
              ⟨.ok (), pool.withRecord active active.live vacancies, after⟩ ∧
            pool.Release active index active.live vacancies) := by
  have fits := (sound.settled_active serving).fits
  rw [sound.remove_eq serving used, if_neg (Nat.ne_of_lt below)]
  rcases pool.vacancies.reserve_cases fits memory with
    ⟨room, after, reserved, larger, -⟩ | ⟨after, reserved, -⟩
  · rcases sound.record_eq serving used below larger with
      ⟨vacancies, recorded, same, release⟩
    refine Or.inr ⟨_, after, vacancies, reserved, recorded, ?_, release⟩
    rw [reserved]
    dsimp only
    rw [recorded]
    dsimp only [Except.mapError]
    rw [same]
  · refine Or.inl ⟨_, after, reserved, ?_⟩
    rw [reserved]

/-- Giving back a lower slot asks for nothing but room on record. -/
theorem Sound.memory_remove_below
    {pool : Pool config}
    (sound : pool.Sound)
    {active : Slab config.geometry}
    (serving : pool.shelf.active = some active)
    {index : Nat}
    (used : index ∈ pool.inUse)
    (below : index + 1 < active.live)
    (memory : Memory σ) :
    (pool.remove (active.slotAt index) memory).memory =
      (pool.vacancies.reserve memory).2 := by
  rcases sound.remove_below serving used below memory with
    ⟨fault, after, refused, removed⟩ |
    ⟨roomy, after, vacancies, granted, -, removed, -⟩
  · rw [removed, refused]
  · rw [removed, granted]

end Spec

end Pool

end SlabPool
