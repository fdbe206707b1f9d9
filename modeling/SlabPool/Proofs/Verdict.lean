import SlabPool.Proofs.Petition
import SlabPool.Proofs.Tenancy

/-!
# The verdict on an address that is given back

Whoever gives an address back gets one of four answers.  `Verdict` tells which
one, and what is asked of the provider for it, from where the address lies and
which slots of the active slab are in use: nothing else has a say.  Memory is
needed only while a pool is `Cramped`, that is, if the slot is to become a
vacancy and there is no room on record.

A pool is asked about an address without giving it back in another way, which
comes to the same: it knows the address just if the verdict is neither that the
address is foreign nor that its slot is not in use (`verdict_of_run`).
-/

namespace SlabPool

/-! ## Room for a vacancy -/

/-- What is asked for when there is no room on record for a vacancy. -/
def Vacancies.need (vacancies : Vacancies) : Query :=
  .storage .vacancies (entryBytes * extendedRoom vacancies.room)

/-- A full record asks for room. -/
theorem Vacancies.posed_reserve
    {σ : Type}
    [Provider σ]
    {vacancies : Vacancies}
    (full : vacancies.size = vacancies.room)
    (memory : Memory σ) :
    Posed vacancies.need memory (vacancies.reserve memory) := by
  have asked :=
    memory.queries_secure .vacancies
      (entryBytes * extendedRoom vacancies.room)
  rw [reserve, if_pos full]
  dsimp only
  generalize memory.secure .vacancies _ = answer at asked ⊢
  rcases answer with ⟨granted | granted, after⟩
  · exact .refused asked
  · exact .granted asked

namespace Pool

variable {config : Config}

/--
The slot would have to become a vacancy, as there is another one in use above
it, and there is no room on record.
-/
def Cramped
    (pool : Pool config)
    (used : Finset Nat)
    (address : Nat) :
    Prop :=
  address ∈ used ∧
    (∃ higher ∈ used, address < higher) ∧
      pool.vacancies.size = pool.vacancies.room

instance
    (pool : Pool config)
    (used : Finset Nat)
    (address : Nat) :
    Decidable (pool.Cramped used address) :=
  inferInstanceAs (Decidable (_ ∧ _ ∧ _))

/-- A slot is below another one in use just if the mark is not right above it. -/
theorem Sound.exists_higher_iff
    {pool : Pool config}
    {active : Slab config.geometry}
    (sound : pool.Sound)
    (serving : pool.shelf.active = some active)
    {index : Nat} :
    (∃ higher ∈ pool.addresses, active.slotAt index < higher) ↔
      index + 1 < active.live := by
  rw [addresses_of_active serving]
  simp only [Finset.mem_image, exists_exists_and_eq_and,
    active.slotAt_lt_slotAt_iff]
  rw [inUse_of_active serving]
  constructor
  · rintro ⟨higher, used, above⟩
    have marked := (Vacancies.mem_inUse.1 used).1
    omega
  · intro below
    have top :=
      (sound.settled_active serving).top_mem_inUse (Nat.zero_lt_of_lt below)
    exact ⟨active.live - 1, top, by omega⟩

/-! ## The verdict -/

/--
What is replied when the address is given back, and what is asked for, if these
addresses of the active slab are in use.
-/
inductive Verdict
    (pool : Pool config)
    (used : Finset Nat)
    (address : Nat) :
    Reply → List (Query × Bool) → Prop where
  /-- No slot starts there. -/
  | foreign (nowhere : ∀ slab ∈ pool.shelf.slabs, ¬ slab.Starts address) :
      Verdict pool used address (.ofFault (.notOwned address)) []
  /-- The slot of the active slab is not in use. -/
  | vacant
      {active : Slab config.geometry}
      (serving : pool.shelf.active = some active)
      (starts : active.Starts address)
      (unused : address ∉ used) :
      Verdict pool used address (.ofFault (.doubleRemove address)) []
  /-- The slot is given back, and nothing is needed for it. -/
  | free
      (known : pool.contains address = true)
      (roomy : ¬ pool.Cramped used address) :
      Verdict pool used address .done []
  /-- The slot is given back once room is granted. -/
  | granted (cramped : pool.Cramped used address) :
      Verdict pool used address .done [(pool.vacancies.need, true)]
  | refused (cramped : pool.Cramped used address) :
      Verdict pool used address
        (.ofFault
          (.allocationFailed Vacancies.entryBytes Vacancies.entryBytes))
        [(pool.vacancies.need, false)]

section Spec

variable {σ : Type} [Provider σ] {pool : Pool config}

/-- The verdict on a slot in use of the active slab. -/
theorem Sound.verdict_of_used
    (sound : pool.Sound)
    {address : Nat}
    (member : address ∈ pool.addresses)
    (memory : Memory σ) :
    ∃ decisions,
      (pool.remove address memory).memory.queries =
          decisions ++ memory.queries ∧
        pool.Verdict pool.addresses address
          (.ofAnswer (fun _ => .done) (pool.remove address memory).answer)
          decisions := by
  have known := sound.contains_iff.2 (Or.inl member)
  rcases sound.starts_of_mem_addresses member with
    ⟨active, serving, index, -, rfl⟩
  have used := (slotAt_mem_addresses_iff serving).1 member
  have higher_iff := @Sound.exists_higher_iff _ _ _ sound serving index
  have marked := used
  rw [inUse_of_active serving, Vacancies.mem_inUse] at marked
  by_cases cramped : pool.Cramped pool.addresses (active.slotAt index)
  · have below := higher_iff.1 cramped.2.1
    have posed := Vacancies.posed_reserve cramped.2.2 memory
    rcases sound.remove_below serving used below memory with
      ⟨fault, after, refused, removed⟩ |
      ⟨roomy, after, vacancies, granted, -, removed, -⟩
    · rw [refused] at posed
      rw [removed]
      cases posed with
      | refused decided =>
        exact ⟨[(pool.vacancies.need, false)], decided, .refused cramped⟩
    · rw [granted] at posed
      rw [removed]
      cases posed with
      | granted decided =>
        exact ⟨[(pool.vacancies.need, true)], decided, .granted cramped⟩
  · -- The slot is the highest in use, or there is room for its vacancy.
    have roomy :
        index + 1 = active.live ∨
          pool.vacancies.size < pool.vacancies.room := by
      by_cases top : index + 1 = active.live
      · exact Or.inl top
      · have higher := higher_iff.2 (by omega)
        have vacant : pool.vacancies.size ≠ pool.vacancies.room :=
          fun full => cramped ⟨member, higher, full⟩
        exact Or.inr (Nat.lt_of_le_of_ne sound.settled.fits vacant)
    rcases sound.remove_roomy serving used roomy memory with
      ⟨mark, vacancies, removed, -, -⟩
    rw [removed]
    exact ⟨[], rfl, .free known cramped⟩

/-- Each address that is given back to a sound pool gets its verdict. -/
theorem Sound.verdict
    (sound : pool.Sound)
    (address : Nat)
    (memory : Memory σ) :
    ∃ decisions,
      (pool.remove address memory).memory.queries =
          decisions ++ memory.queries ∧
        pool.Verdict pool.addresses address
          (.ofAnswer (fun _ => .done) (pool.remove address memory).answer)
          decisions := by
  by_cases member : address ∈ pool.addresses
  · exact sound.verdict_of_used member memory
  · have roomy : ¬ pool.Cramped pool.addresses address :=
      fun cramped => member cramped.1
    have removal := remove_spec sound address memory
    generalize pool.remove address memory = outcome at removal ⊢
    refine ⟨[], ?_⟩
    cases removal with
    | foreign nowhere => exact ⟨rfl, .foreign nowhere⟩
    | vacant serving inside addressed unused =>
      exact ⟨rfl, .vacant serving ⟨_, inside, addressed⟩ member⟩
    | refused serving addressed used below undisturbed =>
      subst addressed
      exact absurd ((slotAt_mem_addresses_iff serving).2 used) member
    | released serving addressed release undisturbed =>
      subst addressed
      have used := release.mem_inUse sound serving
      exact absurd ((slotAt_mem_addresses_iff serving).2 used) member
    | counted found starts several =>
      have retired := List.mem_of_getElem? found
      have known := sound.contains_iff.2 (Or.inr ⟨_, retired, starts⟩)
      exact ⟨rfl, .free known roomy⟩
    | emptied found starts last =>
      have retired := List.mem_of_getElem? found
      have known := sound.contains_iff.2 (Or.inr ⟨_, retired, starts⟩)
      exact ⟨rfl, .free known roomy⟩

end Spec

/-! ## Verdicts exclude one another -/

namespace Sound

variable {pool : Pool config} {address : Nat}

/-- A slot starts at each address that the pool knows. -/
theorem starts_of_contains
    (sound : pool.Sound)
    (known : pool.contains address = true) :
    ∃ slab ∈ pool.shelf.slabs, slab.Starts address := by
  rcases sound.contains_iff.1 known with used | ⟨slab, retired, starts⟩
  · rcases sound.starts_of_mem_addresses used with ⟨active, serving, starts⟩
    exact ⟨active, Shelf.mem_slabs.2 (Or.inl serving), starts⟩
  · exact ⟨slab, Shelf.mem_slabs.2 (Or.inr retired), starts⟩

/-- In the active slab the pool knows the slots in use only. -/
theorem contains_iff_of_starts
    (sound : pool.Sound)
    {active : Slab config.geometry}
    (serving : pool.shelf.active = some active)
    (starts : active.Starts address) :
    pool.contains address = true ↔ address ∈ pool.addresses := by
  rw [sound.contains_iff, or_iff_left]
  rintro ⟨slab, retired, startsRetired⟩
  exact
    sound.orderly.not_starts_of_retired serving retired startsRetired starts

end Sound

/-- A pool is cramped only by slots that it knows. -/
theorem Cramped.known
    {pool : Pool config}
    {address : Nat}
    (sound : pool.Sound)
    (cramped : pool.Cramped pool.addresses address) :
    pool.contains address = true :=
  sound.contains_iff.2 (Or.inl cramped.1)

namespace Verdict

section Given

variable {pool : Pool config} {address : Nat} {reply : Reply}
variable {decisions : List (Query × Bool)}

/-- The address is foreign, or its slot is vacant, or the pool knows it. -/
theorem reply_cases
    (sound : pool.Sound)
    (verdict : pool.Verdict pool.addresses address reply decisions) :
    (reply = .ofFault (.notOwned address) ∧
      ∀ slab ∈ pool.shelf.slabs, ¬ slab.Starts address) ∨
    (reply = .ofFault (.doubleRemove address) ∧
      address ∉ pool.addresses ∧
        ∃ active, pool.shelf.active = some active ∧
          active.Starts address) ∨
    ((reply = .done ∨
        reply =
          .ofFault
            (.allocationFailed Vacancies.entryBytes Vacancies.entryBytes)) ∧
      pool.contains address = true) := by
  cases verdict with
  | foreign nowhere => exact Or.inl ⟨rfl, nowhere⟩
  | vacant serving starts unused =>
    exact Or.inr (Or.inl ⟨rfl, unused, _, serving, starts⟩)
  | free known roomy => exact Or.inr (Or.inr ⟨Or.inl rfl, known⟩)
  | granted cramped =>
    exact Or.inr (Or.inr ⟨Or.inl rfl, cramped.known sound⟩)
  | refused cramped =>
    exact Or.inr (Or.inr ⟨Or.inr rfl, cramped.known sound⟩)

theorem contains_iff
    (sound : pool.Sound)
    (verdict : pool.Verdict pool.addresses address reply decisions) :
    pool.contains address = true ↔
      reply ≠ .ofFault (.notOwned address) ∧
        reply ≠ .ofFault (.doubleRemove address) := by
  rcases verdict.reply_cases sound with
    ⟨rfl, nowhere⟩ | ⟨rfl, unused, active, serving, starts⟩ |
    ⟨rfl | rfl, known⟩
  · refine iff_of_false ?_ fun right => right.1 rfl
    intro known
    rcases sound.starts_of_contains known with ⟨slab, member, starts⟩
    exact nowhere slab member starts
  · refine iff_of_false ?_ fun right => right.2 rfl
    rwa [sound.contains_iff_of_starts serving starts]
  · exact iff_of_true known ⟨nofun, nofun⟩
  · exact iff_of_true known ⟨nofun, nofun⟩

theorem foreign_iff
    (sound : pool.Sound)
    (verdict : pool.Verdict pool.addresses address reply decisions) :
    reply = .ofFault (.notOwned address) ↔
      ∀ slab ∈ pool.shelf.slabs, ¬ slab.Starts address := by
  rcases verdict.reply_cases sound with
    ⟨rfl, nowhere⟩ | ⟨rfl, -, active, serving, starts⟩ | ⟨given, known⟩
  · exact iff_of_true rfl nowhere
  · refine iff_of_false nofun fun nowhere => ?_
    exact nowhere active (Shelf.mem_slabs.2 (Or.inl serving)) starts
  · refine iff_of_false ?_ fun nowhere => ?_
    · exact ((verdict.contains_iff sound).1 known).1
    · rcases sound.starts_of_contains known with ⟨slab, member, starts⟩
      exact nowhere slab member starts

theorem vacant_iff
    (sound : pool.Sound)
    (verdict : pool.Verdict pool.addresses address reply decisions) :
    reply = .ofFault (.doubleRemove address) ↔
      address ∉ pool.addresses ∧
        ∃ active, pool.shelf.active = some active ∧
          active.Starts address := by
  rcases verdict.reply_cases sound with
    ⟨rfl, nowhere⟩ | ⟨rfl, vacant⟩ | ⟨given, known⟩
  · refine iff_of_false nofun ?_
    rintro ⟨-, active, serving, starts⟩
    exact nowhere active (Shelf.mem_slabs.2 (Or.inl serving)) starts
  · exact iff_of_true rfl vacant
  · refine iff_of_false ?_ ?_
    · exact ((verdict.contains_iff sound).1 known).2
    · rintro ⟨unused, active, serving, starts⟩
      exact unused ((sound.contains_iff_of_starts serving starts).1 known)

/-- Memory is wanting just if the pool is cramped and room is refused. -/
theorem refused_iff
    (verdict : pool.Verdict pool.addresses address reply decisions) :
    reply =
        .ofFault
          (.allocationFailed Vacancies.entryBytes Vacancies.entryBytes) ↔
      pool.Cramped pool.addresses address ∧
        decisions = [(pool.vacancies.need, false)] := by
  cases verdict with
  | foreign nowhere => exact iff_of_false nofun nofun
  | vacant serving starts unused => exact iff_of_false nofun nofun
  | free known roomy => exact iff_of_false nofun nofun
  | granted cramped => exact iff_of_false nofun nofun
  | refused cramped => exact iff_of_true rfl ⟨cramped, rfl⟩

/-- What the pool knows is given back without a request, unless it is cramped. -/
theorem free_of_roomy
    (sound : pool.Sound)
    (verdict : pool.Verdict pool.addresses address reply decisions)
    (known : pool.contains address = true)
    (roomy : ¬ pool.Cramped pool.addresses address) :
    reply = .done ∧ decisions = [] := by
  have right := (verdict.contains_iff sound).1 known
  cases verdict with
  | foreign nowhere => exact absurd rfl right.1
  | vacant serving starts unused => exact absurd rfl right.2
  | free known _ => exact ⟨rfl, rfl⟩
  | granted cramped => exact absurd cramped roomy
  | refused cramped => exact absurd cramped roomy

end Given

end Verdict

/-! ## Verdicts in a run -/

section Run

variable {σ : Type} [Provider σ]

/-- What is done with a slot has no part in how its removal ends. -/
theorem removeWith_fst
    (pool : Pool config)
    (address : Nat)
    {β : Type}
    (act : Nat → β → β)
    (here : β)
    (memory : Memory σ) :
    (pool.removeWith address act here memory).1 =
      pool.remove address memory := by
  rw [remove, removeWith, removeWith]
  rcases pool.shelf.locate address with _ | index | position
  · rfl
  · dsimp only
    cases pool.shelf.active with
    | none => rfl
    | some active =>
      dsimp only
      rw [removeActive, removeActive]
      split
      · rfl
      · split
        · rfl
        · rcases pool.vacancies.reserve memory with
            ⟨fault | vacancies, after⟩ <;> rfl
  · dsimp only
    rcases pool.shelf.removeRetiredItem position memory with
      ⟨breach | gone, shelf, after⟩ <;> rfl

variable [SeparatingProvider σ]
variable {deals : List (Deal config σ)} {world : World config σ}

/-- In any world of a run, each address gets its verdict. -/
theorem Run.verdict
    (run : Run deals world)
    (address : Nat) :
    world.pool.Verdict world.pool.addresses address
      (Deal.reply ⟨world, .remove address⟩)
      (Deal.queries ⟨world, .remove address⟩) := by
  rcases run.balanced.sound.verdict address world.memory with
    ⟨decisions, asked, verdict⟩
  have told : Deal.queries ⟨world, .remove address⟩ = decisions :=
    Deal.queries_eq_of_after asked
  rw [told]
  exact verdict

/--
In any world of a run, whatever was done before, an address that is given back
is not owned just if no slot starts there, and removed twice just if the slot of
the active slab that starts there was not issued, or was given back since.
Otherwise the removal succeeds, unless the slot is not the highest one, there is
no room on record for its vacancy, and such room is refused; the highest slot
and the slots of retired slabs are given back without any request.  The pool
knows the addresses of which it does not say the one or the other, and what is
to be done with the slot is done just if the removal succeeds.
-/
theorem verdict_of_run
    (run : Run deals world)
    (address : Nat) :
    let deal : Deal config σ := ⟨world, .remove address⟩
    world.pool.Verdict (issued deals) address deal.reply deal.queries ∧
    (deal.reply = .ofFault (.notOwned address) ↔
      ∀ slab ∈ world.pool.shelf.slabs, ¬ slab.Starts address) ∧
    (deal.reply = .ofFault (.doubleRemove address) ↔
      address ∉ issued deals ∧
        ∃ active, world.pool.shelf.active = some active ∧
          active.Starts address) ∧
    (deal.reply = .ofFault (.allocationFailed 8 8) ↔
      world.pool.Cramped (issued deals) address ∧
        deal.queries = [(world.pool.vacancies.need, false)]) ∧
    (world.pool.contains address = true ↔
      deal.reply ≠ .ofFault (.notOwned address) ∧
        deal.reply ≠ .ofFault (.doubleRemove address)) ∧
    (address ∈ issued deals → (∀ other ∈ issued deals, other ≤ address) →
      deal.reply = .done ∧ deal.queries = []) ∧
    (∀ slab ∈ world.pool.shelf.retired, slab.Starts address →
      deal.reply = .done ∧ deal.queries = []) ∧
    ∀ (β : Type) (act : Nat → β → β) (here : β),
      world.pool.removeWith address act here world.memory =
        (world.pool.remove address world.memory,
          if deal.reply = .done then act address here else here) := by
  intro deal
  have sound := run.balanced.sound
  have verdict := run.verdict address
  rw [run.issued_eq]
  refine
    ⟨verdict, verdict.foreign_iff sound, verdict.vacant_iff sound,
      verdict.refused_iff, verdict.contains_iff sound, ?_, ?_, ?_⟩
  · intro member highest
    refine
      verdict.free_of_roomy sound (sound.contains_iff.2 (Or.inl member)) ?_
    rintro ⟨-, ⟨higher, used, above⟩, -⟩
    exact Nat.not_lt.2 (highest higher used) above
  · intro slab retired starts
    have known := sound.contains_iff.2 (Or.inr ⟨slab, retired, starts⟩)
    have unused :=
      sound.not_mem_addresses_of_retired retired starts.mem_extent
    exact verdict.free_of_roomy sound known fun cramped => unused cramped.1
  · intro β act here
    have ends := world.pool.removeWith_fst address act here world.memory
    rcases removeWith_spec sound address act here world.memory with
      ⟨outcome, removed, -⟩
    rw [removed] at ends ⊢
    subst ends
    rw [acted, Deal.reply_remove]
    rcases (world.pool.remove address world.memory).answer with stop | done
    · rfl
    · rfl

end Run

/-- The first slab is retired; the second is full, and no storage is granted. -/
def Sample.unrecorded : List (Request Arena) :=
  [.supply { Sample.arena with refused := [.vacancies] },
    .allocate, .allocate, .allocate, .allocate, .allocate]

/-- The lowest slot of the second slab stays in use, and its item is left alone. -/
theorem verdict_of_unrecorded :
    let world : World Sample.config Arena :=
      reached Sample.arena Sample.unrecorded
    let deal : Deal Sample.config Arena :=
      ⟨world, .remove (Arena.origin + 16)⟩
    deal.reply = .ofFault (.allocationFailed 8 8) ∧
      deal.queries = [(.storage .vacancies 32, false)] ∧
        world.pool.contains (Arena.origin + 16) = true ∧
          (world.pool.removeWith (Arena.origin + 16)
            (fun _ count => count + 1) 0 world.memory).2 = 0 := by
  intro world deal
  have run : Run (history Sample.arena Sample.unrecorded) world :=
    run_history Sample.arena Sample.unrecorded
  rcases verdict_of_run run (Arena.origin + 16) with
    ⟨-, -, -, refused_iff, known_iff, -, -, acts⟩
  have refused : deal.reply = .ofFault (.allocationFailed 8 8) := by
    decide +kernel
  have need : world.pool.vacancies.need = .storage .vacancies 32 := by
    decide +kernel
  have asked := (refused_iff.1 refused).2
  rw [need] at asked
  refine ⟨refused, asked, known_iff.2 ?_, ?_⟩
  · rw [show Deal.reply _ = _ from refused]
    exact ⟨nofun, nofun⟩
  · rw [acts, show Deal.reply _ = _ from refused]
    rfl

end Pool

end SlabPool
