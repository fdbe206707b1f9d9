import SlabPool.Proofs.Memoryless
import SlabPool.Proofs.Refinement
import SlabPool.Proofs.Strike

/-!
# The order of removals does not matter

A live address is removed unless storage for a vacancy is refused
(`ledger_of_remove_refused`), and its item is struck.  Items struck one after
another can be struck in any order, so that the removals of live addresses lead
to the same pool in any order: `confluence_of_run`.
-/

namespace SlabPool

/-! ## Storage for vacancies -/

/-- Storage to record a vacancy was asked for and refused. -/
def Transaction.refusesVacancy : Transaction → Bool
  | .storage .vacancies _ granted => !granted
  | _ => false

section Refusal

variable {σ : Type} [Provider σ]

theorem Vacancies.ledger_of_refused
    {vacancies : Vacancies}
    {fault : Fault}
    {memory after : Memory σ}
    (refused : vacancies.reserve memory = (.error fault, after)) :
    ∃ bytes,
      after.ledger = .storage .vacancies bytes false :: memory.ledger := by
  unfold reserve at refused
  dsimp only at refused
  split at refused
  case isTrue full =>
    split at refused
    case h_1 granted => cases refused
    case h_2 secured =>
      cases refused
      have answer := congrArg Prod.fst secured
      have left := congrArg (fun result => result.2.ledger) secured
      dsimp only [Memory.secure] at answer left
      rw [answer] at left
      exact ⟨_, left.symm⟩
  case isFalse roomy => cases refused

namespace Pool

variable {config : Config}

variable {pool : Pool config} {address size align : Nat} {memory : Memory σ}

theorem ledger_of_removeActive_refused
    {active : Slab config.geometry}
    {index : Nat}
    {act : Nat → Unit → Unit}
    (refused :
      (pool.removeActive active index address act () memory).1.answer =
        .error (.fault (.allocationFailed size align))) :
    ∃ bytes,
      (pool.removeActive active index address act () memory).1.memory.ledger =
        .storage .vacancies bytes false :: memory.ledger := by
  unfold removeActive at refused ⊢
  split at refused
  case isTrue free => cases refused
  case isFalse occupied =>
    split at refused
    case isTrue top =>
      exact absurd refused (Stop.mapError_breach_ne_fault _ _)
    case isFalse notTop =>
      rw [if_neg occupied, if_neg notTop]
      split at refused
      case h_1 reserved =>
        exact Vacancies.ledger_of_refused reserved
      case h_2 reserved =>
        exact absurd refused (Stop.mapError_breach_ne_fault _ _)

/-- A removal fails for want of memory only if storage for a vacancy is refused. -/
theorem ledger_of_remove_refused
    (refused :
      (pool.remove address memory).answer =
        .error (.fault (.allocationFailed size align))) :
    ∃ bytes,
      (pool.remove address memory).memory.ledger =
        .storage .vacancies bytes false :: memory.ledger := by
  unfold remove removeWith at refused ⊢
  split at refused
  case h_1 nowhere => cases refused
  case h_2 index located =>
    split at refused
    case h_1 inactive => cases refused
    case h_2 active serving => exact ledger_of_removeActive_refused refused
  case h_3 position located => split at refused <;> cases refused

end Pool

end Refusal

namespace Pool

variable {config : Config} {σ : Type} [Provider σ]

/-! ## Removals one after another -/

/-- The requests to give back these addresses, in this order. -/
def removals (addresses : List Nat) : List (Request σ) :=
  addresses.map .remove

/-- No storage for vacancies is refused during these requests. -/
def World.Accommodates
    (world : World config σ)
    (requests : List (Request σ)) :
    Prop :=
  ∀ report ∈ world.reports requests, ∀ entry ∈ report.dealings,
    entry.refusesVacancy = false

instance
    (world : World config σ)
    (requests : List (Request σ)) :
    Decidable (world.Accommodates requests) :=
  inferInstanceAs
    (Decidable
      (∀ report ∈ world.reports requests, ∀ entry ∈ report.dealings,
        entry.refusesVacancy = false))

section Removals

variable [SeparatingProvider σ]
variable {deals : List (Deal config σ)} {world : World config σ}

/-- A live address can be removed, and its item is struck. -/
theorem Run.struck_of_remove
    (run : Run deals world)
    (abiding : Abiding deals)
    {address : Nat}
    (member : address ∈ live deals)
    (accommodated :
      ∀ entry ∈ (Deal.report ⟨world, .remove address⟩).dealings,
        entry.refusesVacancy = false) :
    Deal.reply ⟨world, .remove address⟩ = .done ∧
      Struck [address] world.pool
        (Deal.after ⟨world, .remove address⟩).pool := by
  have sound := run.balanced.sound
  have removal := remove_spec sound address world.memory
  rw [Deal.reply_remove]
  rcases (run.coupled abiding).remove_answer_cases sound member
      world.memory with answer | ⟨size, align, answer⟩
  case inl =>
    rw [answer]
    refine ⟨rfl, ?_⟩
    show Struck [address] world.pool
      (world.pool.remove address world.memory).pool
    generalize world.pool.remove address world.memory = outcome
      at answer removal
    rcases outcome with ⟨_, left, after⟩
    cases answer
    exact removal.struck sound
  case inr =>
    rcases ledger_of_remove_refused answer with ⟨bytes, ledger⟩
    have dealings :
        (Deal.report ⟨world, .remove address⟩).dealings =
          [.storage .vacancies bytes false] :=
      Memory.dealingsTo_eq ledger
    have granted :=
      accommodated _ (by rw [dealings]; exact List.mem_singleton_self _)
    cases granted

/-- Live addresses can be removed one after another, and their items are struck. -/
theorem Run.struck_of_removals
    (run : Run deals world)
    (abiding : Abiding deals)
    {addresses : List Nat}
    (distinct : addresses.Nodup)
    (members : ∀ address ∈ addresses, address ∈ live deals)
    (accommodated : world.Accommodates (removals addresses)) :
    (∀ report ∈ world.reports (removals addresses), report.reply = .done) ∧
    Struck addresses world.pool
      (world.continued (removals addresses)).pool ∧
    ∃ later,
      Run later (world.continued (removals addresses)) ∧ Abiding later ∧
        live later = live deals \ addresses.toFinset := by
  induction addresses generalizing deals world with
  | nil =>
    exact ⟨nofun, .refl _, deals, run, abiding, by simp⟩
  | cons address rest ih =>
    have member := members address List.mem_cons_self
    rw [List.nodup_cons] at distinct
    rw [removals, List.map_cons, World.Accommodates, World.reports,
      List.forall_mem_cons] at accommodated
    rcases run.struck_of_remove abiding member accommodated.1 with
      ⟨done, struck⟩
    have left :
        live (⟨world, .remove address⟩ :: deals) =
          (live deals).erase address := by
      rw [live, Deal.track, done]
      rfl
    have restMembers :
        ∀ other ∈ rest, other ∈ live (⟨world, .remove address⟩ :: deals) := by
      intro other listed
      rw [left, Finset.mem_erase]
      refine ⟨?_, members other (List.mem_cons_of_mem _ listed)⟩
      rintro rfl
      exact distinct.1 listed
    rcases ih (run.next (.remove address)) ⟨abiding, member⟩ distinct.2
        restMembers accommodated.2 with
      ⟨replies, restStruck, later, laterRun, laterAbiding, remaining⟩
    refine ⟨?_, struck.cons restStruck, later, laterRun, laterAbiding, ?_⟩
    · rw [removals, List.map_cons, World.reports, List.forall_mem_cons]
      exact ⟨done, replies⟩
    · rw [remaining, left, List.toFinset_cons, Finset.sdiff_insert,
        Finset.erase_sdiff_comm]

/-- A pool without live addresses has an unused slab, or none. -/
theorem Coupled.unused
    {pool : Pool config}
    (sound : pool.Sound)
    (coupled : pool.Coupled ∅) :
    pool.shelf.retired = [] ∧ pool.vacancies.stack = [] ∧
      pool.highWater = 0 := by
  have inUse : pool.inUse.card = 0 := by
    cases serving : pool.shelf.active with
    | none =>
      have split := sound.card_inUse
      rw [(sound.idle_of_inactive serving).1] at split
      omega
    | some active =>
      rw [← coupled.card_occupants_active sound serving,
        active.occupants_empty, Finset.card_empty]
  rw [Finset.card_eq_zero] at inUse
  have highWater : pool.highWater = 0 := by
    have mark : pool.highWater = pool.inUse.sup (· + 1) :=
      sound.settled.mark_eq
    rw [mark, inUse]
    rfl
  refine ⟨?_, ?_, highWater⟩
  · rw [List.eq_nil_iff_forall_not_mem]
    intro slab member
    have counted := coupled.counted slab member
    have positive := (sound.orderly.counted slab member).1
    rw [slab.occupants_empty, Finset.card_empty] at counted
    omega
  · rw [List.eq_nil_iff_forall_not_mem]
    intro index vacant
    have below := sound.settled.buried index vacant
    omega

/--
From any world of an abiding run, live addresses can be removed in any order:
every removal succeeds as long as storage for vacancies is granted, and any two
orders lead to the same pool, but for the room granted to record vacancies, and
to the same held blocks.  If none is left live, an active slab stays, unused,
and nothing else.
-/
theorem confluence_of_run
    (run : Run deals world)
    (abiding : Abiding deals)
    {first second : List Nat}
    (distinct : first.Nodup)
    (members : ∀ address ∈ first, address ∈ live deals)
    (reordered : first.Perm second)
    (firstAccommodated : world.Accommodates (removals first))
    (secondAccommodated : world.Accommodates (removals second)) :
    let left := world.continued (removals first)
    let right := world.continued (removals second)
    (∀ report ∈
        world.reports (removals first) ++ world.reports (removals second),
      report.reply = .done) ∧
    left.pool =
      { right.pool with
        vacancies :=
          { right.pool.vacancies with room := left.pool.vacancies.room } } ∧
    left.memory.held.Perm right.memory.held ∧
    (first.toFinset = live deals →
      ∀ active, world.pool.shelf.active = some active →
        left.pool.shelf.active = some { active with live := 0 } ∧
          left.pool.shelf.retired = [] ∧ left.pool.vacancies.stack = []) := by
  intro left right
  rcases run.struck_of_removals abiding distinct members firstAccommodated
    with ⟨firstReplies, firstStruck, later, laterRun, laterAbiding, remaining⟩
  rcases run.struck_of_removals abiding (reordered.nodup_iff.1 distinct)
      (fun address member => members address (reordered.mem_iff.2 member))
      secondAccommodated
    with ⟨secondReplies, secondStruck, other, otherRun, -, -⟩
  have sameStruck := firstStruck.perm reordered
  have pools := eq_of_addresses_eq laterRun.balanced.sound
    otherRun.balanced.sound
    (sameStruck.seat.trans secondStruck.seat.symm)
    (sameStruck.used.trans secondStruck.used.symm)
    (sameStruck.retired.trans secondStruck.retired.symm)
    (sameStruck.room.trans secondStruck.room.symm)
    (sameStruck.hint.trans secondStruck.hint.symm)
  refine ⟨?_, pools, ?_, ?_⟩
  · intro report member
    rcases List.mem_append.1 member with listed | listed
    · exact firstReplies report listed
    · exact secondReplies report listed
  · have slabs : left.pool.shelf.slabs = right.pool.shelf.slabs := by
      rw [pools]
    refine laterRun.balanced.held.trans ?_
    rw [slabs]
    exact otherRun.balanced.held.symm
  · intro all active serving
    have coupled := laterRun.coupled laterAbiding
    rw [remaining, all, Finset.sdiff_self] at coupled
    rcases coupled.unused laterRun.balanced.sound with
      ⟨unretired, compact, highWater⟩
    refine ⟨?_, unretired, compact⟩
    have seat := firstStruck.seat
    rw [serving, Option.map_some, Option.map_eq_some_iff] at seat
    rcases seat with ⟨kept, keptServing, block⟩
    rw [highWater_of_active keptServing] at highWater
    rw [keptServing, Slab.eq_of_block_eq block, highWater]

end Removals

/-- Five slots in two slabs, of which the first is full and retired. -/
def Sample.fiveSlots : List (Request Arena) :=
  [.allocate, .allocate, .allocate, .allocate, .allocate]

/-- An order in which each slab has holes for a while. -/
def Sample.scattered : List Nat :=
  [Arena.origin + 24, Arena.origin, Arena.origin + 16, Arena.origin + 8,
    Arena.origin + 32]

/-- An order in which no slab ever has a hole. -/
def Sample.compactly : List Nat :=
  [Arena.origin, Arena.origin + 8, Arena.origin + 32, Arena.origin + 24,
    Arena.origin + 16]

theorem confluence_of_fiveSlots :
    let world : World Sample.config Arena :=
      reached Sample.arena Sample.fiveSlots
    let left := world.continued (removals Sample.scattered)
    let right := world.continued (removals Sample.compactly)
    left.pool ≠ right.pool ∧
      left.pool =
        { right.pool with
          vacancies :=
            { right.pool.vacancies with room := left.pool.vacancies.room } } ∧
      left.memory.held.Perm right.memory.held ∧
      left.pool.shelf.active = some ⟨Arena.origin + 16, 3, 0⟩ ∧
      left.pool.shelf.retired = [] ∧ left.pool.vacancies.stack = [] := by
  intro world left right
  have run : Run _ world := run_history Sample.arena Sample.fiveSlots
  rcases confluence_of_run run (by decide +kernel)
      (by decide : Sample.scattered.Nodup) (by decide +kernel)
      (by decide : Sample.scattered.Perm Sample.compactly)
      (by decide +kernel) (by decide +kernel) with
    ⟨-, pools, held, emptied⟩
  refine ⟨by decide +kernel, pools, held, ?_⟩
  exact emptied (by decide +kernel) ⟨Arena.origin + 16, 3, 3⟩ (by decide +kernel)

end Pool

end SlabPool
