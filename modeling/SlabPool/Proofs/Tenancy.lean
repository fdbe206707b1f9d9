import SlabPool.Proofs.Canonical
import SlabPool.Proofs.Refinement

/-!
# Slots that are handed out and taken back

A pool `Houses` some addresses if it is balanced and the addresses are those of
its slots in use.  This module tells for each operation how it can end and
which addresses the pool houses then.

`Service.remove_eq` is about a slot that was just handed out: it can be taken
back at once, and that takes no request.  Either it is the highest slot in use,
or it was a vacancy, whose place on record is still there.  As the record is
told from the slots in use, the pool is then the one before.
-/

namespace SlabPool.Pool

variable {config : Config} {σ : Type}

/-- The pool is balanced, and its slots in use are at these addresses. -/
structure Houses
    (pool : Pool config)
    (memory : Memory σ)
    (live : Finset Nat) :
    Prop where
  balanced : pool.Balanced memory
  coupled : pool.Coupled live

theorem houses_idle (provider : σ) :
    (idle : Pool config).Houses (Memory.fresh provider) ∅ :=
  ⟨⟨sound_idle, List.Perm.nil⟩, coupled_of_unused rfl rfl⟩

variable {pool : Pool config} {memory : Memory σ} {live : Finset Nat}

/-- Memory in which the same blocks are held is as good. -/
theorem Houses.withMemory
    (houses : pool.Houses memory live)
    {after : Memory σ}
    (held : after.held = memory.held) :
    pool.Houses after live := by
  refine ⟨⟨houses.balanced.sound, ?_⟩, houses.coupled⟩
  rw [held]
  exact houses.balanced.held

/-! ## A slot that can be taken back at once -/

/-- A slot that was just served is the highest, or its vacancy has a place. -/
theorem Service.roomy
    {active : Slab config.geometry}
    {index mark : Nat}
    {vacancies : Vacancies}
    (sound : pool.Sound)
    (serving : pool.shelf.active = some active)
    (service : pool.Service active index mark vacancies) :
    index + 1 = mark ∨ vacancies.size < vacancies.room := by
  cases service with
  | reused highest settled =>
    have fits := (sound.settled_active serving).fits
    rw [Vacancies.size, highest, List.length_cons] at fits
    exact Or.inr fits
  | extended compact room => exact Or.inl rfl

theorem Service.room_eq
    {active : Slab config.geometry}
    {index mark : Nat}
    {vacancies : Vacancies}
    (service : pool.Service active index mark vacancies) :
    vacancies.room = pool.vacancies.room := by
  cases service <;> rfl

variable [Provider σ]

/-- With room on record, or at the top, a slot is taken back without a request. -/
theorem Sound.remove_roomy
    (sound : pool.Sound)
    {active : Slab config.geometry}
    (serving : pool.shelf.active = some active)
    {index : Nat}
    (used : index ∈ pool.inUse)
    (roomy :
      index + 1 = active.live ∨ pool.vacancies.size < pool.vacancies.room)
    (memory : Memory σ) :
    ∃ mark vacancies,
      pool.remove (active.slotAt index) memory =
          ⟨.ok (), pool.withRecord active mark vacancies, memory⟩ ∧
        pool.Release active index mark vacancies ∧
          vacancies.room = pool.vacancies.room := by
  by_cases top : index + 1 = active.live
  · exact sound.remove_top serving used top memory
  · have freed := used
    rw [inUse_of_active serving, Vacancies.mem_inUse] at freed
    have room := roomy.resolve_left top
    have reserved :
        pool.vacancies.reserve memory = (.ok pool.vacancies, memory) :=
      if_neg (Nat.ne_of_lt room)
    rcases sound.remove_below serving used (by omega) memory with
      ⟨fault, after, refused, -⟩ |
      ⟨_, after, vacancies, granted, recorded, removed, release⟩
    · cases reserved.symm.trans refused
    · cases reserved.symm.trans granted
      have kept := Vacancies.room_record room index
      rw [recorded] at kept
      exact ⟨_, _, removed, release, kept⟩

omit [Provider σ] in
/-- To put the record of a pool back in place is to have the pool back. -/
theorem withRecord_withRecord
    {active : Slab config.geometry}
    (serving : pool.shelf.active = some active)
    (mark : Nat)
    (vacancies : Vacancies) :
    (pool.withRecord active mark vacancies).withRecord
        { active with live := mark } active.live pool.vacancies =
      pool := by
  rcases pool with ⟨⟨_, retired, room⟩, recorded, hint⟩
  cases serving
  rfl

/-- A slot that was just served is taken back, and all is as it was. -/
theorem Service.remove_eq
    (sound : pool.Sound)
    {active : Slab config.geometry}
    (serving : pool.shelf.active = some active)
    {index mark : Nat}
    {vacancies : Vacancies}
    (service : pool.Service active index mark vacancies)
    (memory : Memory σ) :
    (pool.withRecord active mark vacancies).remove (active.slotAt index)
        memory =
      ⟨.ok (), pool, memory⟩ := by
  have settled := sound.settled_active serving
  have serves :
      (pool.withRecord active mark vacancies).shelf.active =
        some { active with live := mark } :=
    rfl
  have joined :
      (pool.withRecord active mark vacancies).inUse =
        insert index pool.inUse :=
    service.inUse_eq sound serving
  have used : index ∈ (pool.withRecord active mark vacancies).inUse := by
    rw [joined]
    exact Finset.mem_insert_self index _
  have servedSound :=
    sound.withRecord serving (service.settled sound serving)
  rcases servedSound.remove_roomy serves used (service.roomy sound serving)
      memory with
    ⟨lower, recorded, removed, release, room⟩
  -- The slots in use are as before, and so is the record that is told from them.
  have same : recorded.inUse lower = pool.vacancies.inUse active.live := by
    rw [release.inUse_eq serves, joined,
      Finset.erase_insert (service.not_mem_inUse serving),
      inUse_of_active serving]
  rcases release.settled.eq_of_inUse_eq settled same with ⟨rfl, record⟩
  have left : recorded = pool.vacancies := by
    rw [record, room]
    show { pool.vacancies with room := vacancies.room } = pool.vacancies
    rw [service.room_eq]
  rw [left, withRecord_withRecord serving] at removed
  exact removed

omit [Provider σ] in
theorem Houses.served
    (houses : pool.Houses memory live)
    {active : Slab config.geometry}
    (serving : pool.shelf.active = some active)
    {index mark : Nat}
    {vacancies : Vacancies}
    (service : pool.Service active index mark vacancies) :
    (pool.withRecord active mark vacancies).Houses memory
      (insert (active.slotAt index) live) := by
  have sound := houses.balanced.sound
  exact
    ⟨houses.balanced.withRecord serving (service.settled sound serving) rfl,
      houses.coupled.served sound serving service⟩

/-! ## How the operations can end -/

variable [SeparatingProvider σ]

/-- Growth changes none of the addresses. -/
theorem Houses.growth
    (houses : pool.Houses memory live)
    {required : Nat}
    {outcome : Outcome (Pool config) σ Unit}
    (growth : pool.Growth required memory outcome) :
    outcome.pool.Houses outcome.memory live := by
  have grown := growth.balanced houses.balanced
  refine ⟨grown, ?_⟩
  cases growth with
  | excessive beyond => exact houses.coupled
  | refused bounded fits undisturbed =>
    exact
      ⟨houses.coupled.active, houses.coupled.counted, houses.coupled.placed⟩
  | replaced bounded capacity untouched granted demotion fits journal =>
    have replaced : pool.Growth required memory _ :=
      .replaced bounded capacity untouched granted demotion fits journal
    exact replaced.coupled houses.balanced houses.coupled

/--
An allocation answers with an address that was not live, which can be given
back at once, or with a fault.
-/
theorem Houses.allocate_cases
    (houses : pool.Houses memory live) :
    (∃ address left after,
      pool.allocate memory = ⟨.ok address, left, after⟩ ∧
        address ∉ live ∧
          left.Houses after (insert address live) ∧
            ∃ freed,
              left.remove address after = ⟨.ok (), freed, after⟩ ∧
                freed.Houses after live) ∨
    (∃ fault left after,
      pool.allocate memory = ⟨.error (.fault fault), left, after⟩ ∧
        left.Houses after live) := by
  have allocation := allocate_spec houses.balanced
  generalize pool.allocate memory = outcome at allocation
  cases allocation with
  | served serving service =>
    have fresh :=
      houses.coupled.not_mem_of_service houses.balanced.sound serving service
    exact Or.inl
      ⟨_, _, _, rfl, fresh, houses.served serving service, _,
        service.remove_eq houses.balanced.sound serving memory, houses⟩
  | refused full growth =>
    exact Or.inr ⟨_, _, _, rfl, houses.growth growth⟩
  | grown full growth serving service =>
    have grown := houses.growth growth
    have fresh :=
      grown.coupled.not_mem_of_service grown.balanced.sound serving service
    exact Or.inl
      ⟨_, _, _, rfl, fresh, grown.served serving service, _,
        service.remove_eq grown.balanced.sound serving _, grown⟩

theorem Houses.reserve_cases
    (houses : pool.Houses memory live)
    (additional : Nat) :
    (∃ left after,
      pool.reserve additional memory = ⟨.ok (), left, after⟩ ∧
        left.Houses after live) ∨
    (∃ fault left after,
      pool.reserve additional memory = ⟨.error (.fault fault), left, after⟩ ∧
        left.Houses after live) := by
  rcases pool.reserve_cases houses.balanced additional with
    ⟨-, same⟩ | ⟨-, growth⟩
  · exact Or.inl ⟨pool, memory, same, houses⟩
  · have left := houses.growth growth
    generalize pool.reserve additional memory = outcome at growth left
    cases growth with
    | excessive beyond => exact Or.inr ⟨_, _, _, rfl, left⟩
    | refused bounded fits undisturbed => exact Or.inr ⟨_, _, _, rfl, left⟩
    | replaced bounded capacity untouched granted demotion fits journal =>
      exact Or.inl ⟨_, _, rfl, left⟩

omit [Provider σ] [SeparatingProvider σ] in
/-- A slot of a retired slab may be given back only while it is live. -/
theorem Sound.mem_of_retired
    (sound : pool.Sound)
    {address : Nat}
    (permitted : address ∈ live ∨ pool.contains address = false)
    {position : Nat}
    {slab : Slab config.geometry}
    (found : pool.shelf.retired[position]? = some slab)
    (starts : slab.Starts address) :
    address ∈ live := by
  rcases permitted with member | unknown
  · exact member
  · have retired := List.mem_of_getElem? found
    have known := sound.contains_iff.2 (Or.inr ⟨slab, retired, starts⟩)
    exact absurd (known.symm.trans unknown) nofun

omit [SeparatingProvider σ] in
/--
A removal leads to what the caller does with the slot and takes its address
from the live ones, or to a fault and nothing else.
-/
theorem Houses.removeWith_cases
    (houses : pool.Houses memory live)
    {address : Nat}
    (permitted : address ∈ live ∨ pool.contains address = false)
    {β : Type}
    (act : Nat → β → β)
    (world : β) :
    (∃ left after,
      pool.removeWith address act world memory =
          (⟨.ok (), left, after⟩, act address world) ∧
        address ∈ live ∧ left.Houses after (live.erase address)) ∨
    (∃ fault left after,
      pool.removeWith address act world memory =
          (⟨.error (.fault fault), left, after⟩, world) ∧
        left.Houses after live) := by
  have sound := houses.balanced.sound
  rcases removeWith_spec sound address act world memory with
    ⟨outcome, removed, removal⟩
  rw [removed]
  cases removal with
  | foreign nowhere => exact Or.inr ⟨_, _, _, rfl, houses⟩
  | vacant serving inside addressed unused =>
    exact Or.inr ⟨_, _, _, rfl, houses⟩
  | refused serving addressed used below undisturbed =>
    exact Or.inr ⟨_, _, _, rfl, houses.withMemory undisturbed.held⟩
  | @released active index mark vacancies after serving addressed release
      undisturbed =>
    subst addressed
    have known :=
      (slotAt_mem_addresses_iff serving).2 (release.mem_inUse sound serving)
    rw [← houses.coupled.active active serving] at known
    have member := (Slab.mem_occupants.1 known).1
    exact Or.inl
      ⟨_, _, rfl, member,
        houses.balanced.withRecord serving release.settled undisturbed.held,
        houses.coupled.released sound serving release⟩
  | counted found starts several =>
    have member := sound.mem_of_retired permitted found starts
    exact Or.inl
      ⟨_, _, rfl, member, houses.balanced.drained found several rfl,
        houses.coupled.drained sound found starts member⟩
  | emptied found starts last =>
    have member := sound.mem_of_retired permitted found starts
    exact Or.inl
      ⟨_, _, rfl, member, houses.balanced.relieved found rfl,
        houses.coupled.relieved sound found starts member last⟩

omit [Provider σ] [SeparatingProvider σ] in
theorem Houses.clear
    (houses : pool.Houses memory live) :
    (pool.clear memory).1.Houses (pool.clear memory).2 ∅ :=
  ⟨houses.balanced.clear, coupled_of_unused (addresses_clear pool memory) rfl⟩

omit [Provider σ] [SeparatingProvider σ] in
theorem Houses.destroy
    (houses : pool.Houses memory live) :
    (pool.destroy memory).1.Houses (pool.destroy memory).2 ∅ := by
  have bare := houses.balanced.slabs_destroy
  rw [Shelf.slabs, List.append_eq_nil_iff] at bare
  exact
    ⟨houses.balanced.destroy,
      coupled_of_unused houses.balanced.addresses_destroy bare.2⟩

end SlabPool.Pool
