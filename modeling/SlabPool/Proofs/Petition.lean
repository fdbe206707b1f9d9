import SlabPool.Proofs.Atomicity
import SlabPool.Proofs.Reservation

/-!
# What a growth asks for, and what it reports

A growth makes up to three requests: for room on the shelf if there is none
left, for the block of the new slab, and for the marks of its vacancies
(`Pool.needs`).  Each is made by its own part of the pool, which reports a
refusal (`Posed`); together they are a `Petition`, which stops at the first
refusal and reports that.

A reservation of no more than is available asks for nothing, and one beyond
the limit is turned down before anything is asked for.  Every other reservation
is a petition, and ends as the petition does: `petition_of_run`.  What it leaves
is a pool with a new slab (`Grown`), or the pool as it was but for room.
-/

namespace SlabPool

/-- What is reported when the request is refused. -/
def Query.fault : Query → Fault
  | .block size align => .allocationFailed size align
  | .storage .retirement _ =>
    .allocationFailed Shelf.entryBytes Shelf.entryAlign
  | .storage .marks bytes => .allocationFailed bytes Vacancies.entryBytes
  | .storage _ _ =>
    .allocationFailed Vacancies.entryBytes Vacancies.entryBytes

/--
The requests were made in this order up to the first that was refused, with
these decisions; the answer reports the refusal, if there was one.
-/
inductive Petition :
    List Query → List (Query × Bool) → Except Fault Unit → Prop where
  | satisfied : Petition [] [] (.ok ())
  | refused
      (query : Query)
      (later : List Query) :
      Petition (query :: later) [(query, false)] (.error query.fault)
  | granted
      (query : Query)
      {later : List Query}
      {decisions : List (Query × Bool)}
      {answer : Except Fault Unit}
      (rest : Petition later decisions answer) :
      Petition (query :: later) ((query, true) :: decisions) answer

/-- A petition is answered with success just if no request was refused. -/
theorem Petition.ok_iff
    {needs : List Query}
    {decisions : List (Query × Bool)}
    {answer : Except Fault Unit}
    (petition : Petition needs decisions answer) :
    answer = .ok () ↔ ∀ decision ∈ decisions, decision.2 = true := by
  induction petition with
  | satisfied => exact iff_of_true rfl nofun
  | refused query later =>
    exact iff_of_false nofun fun all => nomatch all _ List.mem_cons_self
  | granted query rest ih =>
    rw [ih, List.forall_mem_cons, eq_self, true_and]

/-- The requests were made between the two memories. -/
def Petitioned
    {σ : Type}
    (needs : List Query)
    (before after : Memory σ)
    (answer : Except Fault Unit) :
    Prop :=
  ∃ decisions,
    after.queries = decisions.reverse ++ before.queries ∧
      Petition needs decisions answer

namespace Petitioned

variable {σ : Type} {query : Query} {later : List Query}
variable {before asked after : Memory σ}

theorem satisfied
    (same : after.queries = before.queries) :
    Petitioned [] before after (.ok ()) :=
  ⟨[], same, .satisfied⟩

theorem refused
    (decided : after.queries = (query, false) :: before.queries) :
    Petitioned (query :: later) before after (.error query.fault) :=
  ⟨[(query, false)], decided, .refused query later⟩

theorem granted
    {answer : Except Fault Unit}
    (decided : asked.queries = (query, true) :: before.queries)
    (rest : Petitioned later asked after answer) :
    Petitioned (query :: later) before after answer := by
  rcases rest with ⟨decisions, told, petition⟩
  refine ⟨(query, true) :: decisions, ?_, .granted query petition⟩
  rw [told, decided, List.reverse_cons, List.append_assoc]
  rfl

end Petitioned

variable {σ : Type} [Provider σ]

/-! ## The requests one by one -/

/-- Exactly this request was made, and its refusal is reported. -/
inductive Posed
    {α : Type}
    (query : Query)
    (memory : Memory σ) :
    Except Fault α × Memory σ → Prop where
  | granted
      {value : α}
      {after : Memory σ}
      (decided : after.queries = (query, true) :: memory.queries) :
      Posed query memory (.ok value, after)
  | refused
      {after : Memory σ}
      (decided : after.queries = (query, false) :: memory.queries) :
      Posed query memory (.error query.fault, after)

/-- A full shelf asks for room. -/
theorem Shelf.posed_reserveRetirement
    {geometry : Geometry}
    {shelf : Shelf geometry}
    (full : shelf.retiredCount = shelf.room)
    (memory : Memory σ) :
    Posed (.storage .retirement (entryBytes * extendedRoom shelf.room)) memory
      (shelf.reserveRetirement memory) := by
  have asked :=
    memory.queries_secure .retirement (entryBytes * extendedRoom shelf.room)
  rw [reserveRetirement, if_pos full]
  dsimp only
  generalize memory.secure .retirement _ = answer at asked ⊢
  rcases answer with ⟨granted | granted, after⟩
  · exact .refused asked
  · exact .granted asked

/-- The block of a slab is that of its slots, without a gap. -/
theorem Slab.posed_acquire
    {geometry : Geometry}
    {capacity : Nat}
    (bounded : capacity ≤ geometry.limit)
    (memory : Memory σ) :
    Posed (.block (geometry.stride * capacity) geometry.item.align) memory
      (acquire geometry capacity memory) := by
  rcases geometry.exists_slabLayout bounded with ⟨layout, made, size, align⟩
  have asked := memory.queries_acquire layout
  rw [← size, ← align, acquire, made]
  dsimp only
  generalize memory.acquire layout = answer at asked ⊢
  rcases answer with ⟨_ | base, after⟩
  · exact .refused asked
  · exact .granted asked

/-- The marks of a slab take a bit for each slot, in whole words. -/
theorem Vacancies.posed_ofCapacity
    {capacity : Nat}
    (positive : 0 < capacity)
    (bounded : capacity ≤ Word.spanLimit)
    (memory : Memory σ) :
    Posed (.storage .marks (entryBytes * Marks.wordsFor capacity)) memory
      (ofCapacity capacity memory) := by
  have exact :
      Word.saturatingMul (Marks.wordsFor capacity) entryBytes =
        entryBytes * Marks.wordsFor capacity := by
    rw [Word.spanLimit] at bounded
    rw [Word.saturatingMul, entryBytes, Marks.wordsFor, Word.greatest,
      Word.modulus]
    omega
  have some : entryBytes * Marks.wordsFor capacity ≠ 0 := by
    rw [entryBytes, Marks.wordsFor]
    omega
  have asked :=
    memory.queries_secure .marks (entryBytes * Marks.wordsFor capacity)
  rw [ofCapacity, exact, if_neg some]
  generalize memory.secure .marks _ = answer at asked ⊢
  rcases answer with ⟨granted | granted, after⟩
  · exact .refused asked
  · exact .granted asked

/-! ## All requests of a growth -/

/-- The block is asked for first, and the marks once it was granted. -/
theorem Slab.petitioned_furnish
    {geometry : Geometry}
    {capacity : Nat}
    (positive : 0 < capacity)
    (bounded : capacity ≤ geometry.limit)
    (memory : Memory σ) :
    Petitioned
      [.block (geometry.stride * capacity) geometry.item.align,
        .storage .marks (Vacancies.entryBytes * Marks.wordsFor capacity)]
      memory (furnish geometry capacity memory).2
      ((furnish geometry capacity memory).1.map fun _ => ()) := by
  have spans : capacity ≤ Word.spanLimit :=
    Nat.le_trans bounded (Nat.div_le_self _ _)
  have block := Slab.posed_acquire bounded memory
  unfold furnish
  generalize acquire geometry capacity memory = answer at block ⊢
  cases block with
  | refused decided => exact .refused decided
  | @granted slab placed decided =>
    refine .granted decided ?_
    have marks := Vacancies.posed_ofCapacity positive spans placed
    dsimp only
    generalize Vacancies.ofCapacity capacity placed = answer at marks ⊢
    cases marks with
    | refused decided => exact .refused decided
    | granted decided => exact .granted decided (.satisfied rfl)

namespace Pool

variable {config : Config} {pool : Pool config} {memory : Memory σ}

/-- What a growth to this capacity asks for, in this order. -/
def needs
    (pool : Pool config)
    (capacity : Nat) :
    List Query :=
  (if pool.shelf.retiredCount = pool.shelf.room then
    [.storage .retirement
      (Shelf.entryBytes * extendedRoom pool.shelf.room)]
  else
    []) ++
    [.block (config.geometry.stride * capacity) config.geometry.item.align,
      .storage .marks (Vacancies.entryBytes * Marks.wordsFor capacity)]

theorem petitioned_prepare
    {capacity : Nat}
    (positive : 0 < capacity)
    (bounded : capacity ≤ config.limit)
    (pool : Pool config)
    (memory : Memory σ) :
    Petitioned (pool.needs capacity) memory
      (pool.prepare capacity memory).2.2
      ((pool.prepare capacity memory).1.map fun _ => ()) := by
  unfold needs
  split
  case isTrue full =>
    have room := Shelf.posed_reserveRetirement full memory
    cases made : pool.shelf.reserveRetirement memory with
    | mk answer roomy =>
      rw [made] at room
      cases room with
      | refused decided =>
        rw [prepare, made]
        exact .refused decided
      | @granted shelf _ decided =>
        rw [prepare, made]
        exact
          .granted decided (Slab.petitioned_furnish positive bounded roomy)
  case isFalse roomy =>
    have made :
        pool.shelf.reserveRetirement memory = (.ok pool.shelf, memory) :=
      if_neg roomy
    rw [prepare, made]
    exact Slab.petitioned_furnish positive bounded memory

/-- A growth within the limit ends as its petition does. -/
theorem Balanced.petitioned_grow
    [SeparatingProvider σ]
    (balanced : pool.Balanced memory)
    {required : Nat}
    (bounded : required ≤ config.limit) :
    ∃ answer,
      Petitioned (pool.needs (pool.grownCapacity required)) memory
          (pool.grow required memory).memory answer ∧
        (pool.grow required memory).answer = answer.mapError Stop.fault := by
  have sound := balanced.sound
  have growth := growth_spec balanced required
  have told := pool.queries_grow bounded memory
  rcases petitioned_prepare (sound.grownCapacity_pos required)
      (sound.grownCapacity_le bounded) pool memory with
    ⟨decisions, asked, petition⟩
  refine ⟨_, ⟨decisions, told.trans asked, petition⟩, ?_⟩
  rw [grow, if_neg (Nat.not_lt.2 bounded)] at growth ⊢
  generalize pool.prepare (pool.grownCapacity required) memory = prepared
    at growth ⊢
  rcases prepared with ⟨fault | ⟨slab, vacancies⟩, shelf, after⟩
  · rfl
  · -- What was prepared is installed: the invariant excludes a breach.
    have unrefused :=
      answer_install_ne_fault ({ pool with shelf } : Pool config) slab
        vacancies after
    dsimp only at growth ⊢
    generalize
      ({ pool with shelf } : Pool config).install slab vacancies after =
        outcome
      at growth unrefused ⊢
    cases growth with
    | excessive beyond => exact absurd rfl (unrefused _)
    | refused bounded fits undisturbed => exact absurd rfl (unrefused _)
    | replaced bounded capacity untouched granted demotion fits journal => rfl

/-! ## What a growth leaves -/

/-- A new slab of this capacity serves, and all its slots are available. -/
structure Grown
    (capacity : Nat)
    (memory : Memory σ)
    (grown : Pool config)
    (after : Memory σ) :
    Prop where
  serving :
    ∃ slab,
      grown.shelf.active = some slab ∧ slab.capacity = capacity ∧
        Granted σ memory.held slab.block ∧ slab.block ∈ after.held
  available : grown.available = capacity
  hint : grown.hint = config.capacityAfter capacity

/-- A growth that succeeds leaves the slab that it asked for. -/
theorem Growth.grown
    [SeparatingProvider σ]
    (balanced : pool.Balanced memory)
    {required : Nat}
    {grown : Pool config}
    {after : Memory σ}
    (growth : pool.Growth required memory ⟨.ok (), grown, after⟩) :
    Grown (pool.grownCapacity required) memory grown after := by
  have available := growth.available_eq balanced
  have held := (growth.balanced balanced).held
  cases growth with
  | @replaced slab retired events room _ bounded capacity untouched granted
      demotion fits journal =>
    exact
      { serving :=
          ⟨slab, rfl, capacity, granted, held.mem_iff.2 List.mem_cons_self⟩
        available := available
        hint := congrArg config.capacityAfter capacity }

/-! ## Reservations and allocations -/

omit [Provider σ] in
/-- No more is available than a slab can have. -/
theorem Sound.available_le_limit
    (sound : pool.Sound) :
    pool.available ≤ config.limit := by
  have whole := sound.available_add_card
  have bounded := sound.activeCapacity_le_limit
  omega

/-- A growth within the limit does not find too many slots asked for. -/
theorem Growth.ne_overflow
    {required : Nat}
    (bounded : required ≤ config.limit)
    {outcome : Outcome (Pool config) σ Unit}
    (growth : pool.Growth required memory outcome)
    (requested maximum : Nat) :
    outcome.answer ≠
      .error (.fault (.capacityOverflow requested maximum)) := by
  cases growth with
  | excessive beyond => exact absurd bounded (Nat.not_le.2 beyond)
  | refused bounded fits undisturbed => exact nofun
  | replaced bounded capacity untouched granted demotion fits journal =>
    exact nofun

/--
The requests of a growth to this capacity were made up to the first refusal,
which is reported.  If there is none, a new slab serves; else the pool is as it
was, but for room.
-/
structure Deal.Petitions
    (deal : Deal config σ)
    (capacity : Nat)
    (answer : Except Fault Unit) :
    Prop where
  petition :
    Petition (deal.before.pool.needs capacity) deal.queries.reverse answer
  reply :
    deal.reply = .ofAnswer (fun _ => .done) (answer.mapError Stop.fault)
  granted :
    answer = .ok () ↔ ∀ decision ∈ deal.queries, decision.2 = true
  grown :
    answer = .ok () →
      Grown capacity deal.before.memory deal.after.pool deal.after.memory
  unharmed :
    answer ≠ .ok () →
      deal.before.pool.Unharmed deal.before.memory deal.after.pool
        deal.after.memory

section Run

variable [SeparatingProvider σ]
variable {deals : List (Deal config σ)} {world : World config σ}

omit [SeparatingProvider σ] in
theorem World.reserve_of_available
    {additional : Nat}
    (enough : additional ≤ world.pool.available) :
    Deal.reply ⟨world, .reserve additional⟩ = .done ∧
      Deal.queries ⟨world, .reserve additional⟩ = [] := by
  have same :
      world.pool.reserve additional world.memory =
        ⟨.ok (), world.pool, world.memory⟩ :=
    if_pos enough
  refine ⟨?_, Deal.queries_eq_nil ?_⟩
  · rw [Deal.reply_reserve, same]
    rfl
  · show (world.pool.reserve additional world.memory).memory = world.memory
    rw [same]

omit [SeparatingProvider σ] in
/-- Too many slots are turned down before anything is asked for. -/
theorem World.reserve_of_beyond
    (sound : world.pool.Sound)
    {additional : Nat}
    (beyond : config.limit < additional) :
    Deal.reply ⟨world, .reserve additional⟩ =
        .ofFault (.capacityOverflow additional config.limit) ∧
      Deal.queries ⟨world, .reserve additional⟩ = [] := by
  have short : ¬ additional ≤ world.pool.available :=
    Nat.not_le.2 (Nat.lt_of_le_of_lt sound.available_le_limit beyond)
  have same :
      world.pool.reserve additional world.memory =
        ⟨.error (.fault (.capacityOverflow additional config.limit)),
          world.pool, world.memory⟩ := by
    rw [reserve, if_neg short, grow, if_pos beyond]
  refine ⟨?_, Deal.queries_eq_nil ?_⟩
  · rw [Deal.reply_reserve, same]
    rfl
  · show (world.pool.reserve additional world.memory).memory = world.memory
    rw [same]

/-- A reservation that has to grow is a petition, and leaves what it grants. -/
theorem World.reserve_of_short
    (balanced : world.pool.Balanced world.memory)
    {additional : Nat}
    (short : world.pool.available < additional)
    (bounded : additional ≤ config.limit) :
    ∃ answer,
      Deal.Petitions ⟨world, .reserve additional⟩
        (max additional world.pool.hint) answer := by
  have grows :
      world.pool.reserve additional world.memory =
        world.pool.grow additional world.memory :=
    if_neg (Nat.not_le.2 short)
  rcases balanced.petitioned_grow bounded with
    ⟨answer, ⟨decisions, told, petition⟩, ends⟩
  have same :
      Deal.queries ⟨world, .reserve additional⟩ = decisions.reverse := by
    apply Deal.queries_eq_of_after
    show (world.pool.reserve additional world.memory).memory.queries = _
    rw [grows, told]
  refine ⟨answer, ?_, ?_, ?_, ?_, ?_⟩
  · rw [same, List.reverse_reverse]
    exact petition
  · rw [Deal.reply_reserve, grows, ends]
  · rw [petition.ok_iff, same]
    simp only [List.mem_reverse]
  · intro satisfied
    show Grown _ _ (world.pool.reserve additional world.memory).pool
      (world.pool.reserve additional world.memory).memory
    have growth := growth_spec balanced additional
    rw [satisfied] at ends
    rw [grows]
    generalize world.pool.grow additional world.memory = outcome
      at ends growth ⊢
    rcases outcome with ⟨_, grown, after⟩
    cases ends
    exact growth.grown balanced
  · intro unsatisfied
    show world.pool.Unharmed _
      (world.pool.reserve additional world.memory).pool
      (world.pool.reserve additional world.memory).memory
    rw [grows]
    rcases answer with fault | done
    · exact world.pool.spares_grow world.memory additional fault ends
    · exact absurd rfl unsatisfied

/-- No reservation within the limit is told that it is beyond. -/
theorem World.reply_reserve_ne_overflow
    (balanced : world.pool.Balanced world.memory)
    {additional : Nat}
    (bounded : additional ≤ config.limit)
    (requested maximum : Nat) :
    Deal.reply ⟨world, .reserve additional⟩ ≠
      .ofFault (.capacityOverflow requested maximum) := by
  rw [Deal.reply_reserve]
  rcases reserve_cases balanced additional with ⟨-, same⟩ | ⟨-, growth⟩
  · rw [same]
    exact nofun
  · have within := growth.ne_overflow bounded requested maximum
    generalize (world.pool.reserve additional world.memory).answer = answer
      at within
    rcases answer with stop | done
    · intro overflow
      cases overflow
      exact within rfl
    · exact nofun

/-- An allocation asks for one slot, which is never beyond the limit. -/
theorem World.reply_allocate_ne_overflow
    (balanced : world.pool.Balanced world.memory)
    (requested maximum : Nat) :
    Deal.reply ⟨world, .allocate⟩ ≠
      .ofFault (.capacityOverflow requested maximum) := by
  have allocation := allocate_spec balanced
  rw [Deal.reply_allocate]
  generalize world.pool.allocate world.memory = outcome at allocation
  cases allocation with
  | served serving service => exact nofun
  | refused full growth =>
    have within :=
      growth.ne_overflow config.geometry.limit_pos requested maximum
    intro overflow
    cases overflow
    exact within rfl
  | grown full growth serving service => exact nofun

/--
In any world of a run, a reservation of no more slots than are available asks
for nothing; one beyond the limit, and no other, is answered by an overflow, and
nothing is asked for.  Every other reservation makes the requests of a growth
up to the first refusal, which is what it reports; if there is none it succeeds.
Then a new slab of the capacity that was asked for serves, with all its slots;
else the pool is as it was, but for room.  So the block of a slab that is asked
for always has a layout, and no allocation overflows.
-/
theorem petition_of_run
    (run : Run deals world)
    (additional : Nat) :
    let deal : Deal config σ := ⟨world, .reserve additional⟩
    (additional ≤ world.pool.available →
      deal.reply = .done ∧ deal.queries = []) ∧
    (config.limit < additional →
      deal.reply = .ofFault (.capacityOverflow additional config.limit) ∧
        deal.queries = []) ∧
    (world.pool.available < additional → additional ≤ config.limit →
      ∃ answer,
        deal.Petitions (max additional world.pool.hint) answer) ∧
    ((∃ requested maximum,
        deal.reply = .ofFault (.capacityOverflow requested maximum)) ↔
      config.limit < additional) ∧
    (∀ required ≤ config.limit,
      ∃ layout,
        config.geometry.slabLayout (world.pool.grownCapacity required) =
          .ok layout) ∧
    ∀ requested maximum,
      Deal.reply ⟨world, .allocate⟩ ≠
        .ofFault (.capacityOverflow requested maximum) := by
  intro deal
  have balanced := run.balanced
  have sound := balanced.sound
  refine
    ⟨World.reserve_of_available, World.reserve_of_beyond sound,
      World.reserve_of_short balanced, ⟨?_, ?_⟩, ?_,
      World.reply_allocate_ne_overflow balanced⟩
  · rintro ⟨requested, maximum, overflow⟩
    by_contra within
    exact
      World.reply_reserve_ne_overflow balanced (Nat.le_of_not_lt within)
        requested maximum overflow
  · intro beyond
    exact ⟨_, _, (World.reserve_of_beyond sound beyond).1⟩
  · intro required bounded
    rcases config.geometry.exists_slabLayout
        (sound.grownCapacity_le bounded) with
      ⟨layout, made, -, -⟩
    exact ⟨layout, made⟩

end Run

/-- A full slab of two slots. -/
def Sample.crowded : List (Request Arena) :=
  [.allocate, .allocate]

/-- The same, and marks refused from then on. -/
def Sample.marksRefused : List (Request Arena) :=
  .supply { Sample.arena with placement := .firstFit, refused := [.marks] } ::
    Sample.crowded

/-- Room for the first slab was granted before, and is not asked for again. -/
theorem petition_of_marksRefused :
    let crowded : World Sample.config Arena :=
      reached Sample.arena Sample.crowded
    let granted : Deal Sample.config Arena := ⟨crowded, .reserve 5⟩
    let refusing : World Sample.config Arena :=
      reached Sample.arena Sample.marksRefused
    let refused : Deal Sample.config Arena := ⟨refusing, .reserve 5⟩
    (granted.queries.reverse =
        [(.block 40 8, true), (.storage .marks 8, true)] ∧
      granted.Petitions 5 (.ok ()) ∧ granted.after.pool.available = 5) ∧
    refused.queries.reverse =
        [(.block 40 8, true), (.storage .marks 8, false)] ∧
      refused.Petitions 5 (.error (.allocationFailed 8 8)) := by
  intro crowded granted refusing refused
  have crowds : Run (history Sample.arena Sample.crowded) crowded :=
    run_history Sample.arena Sample.crowded
  have refuses : Run (history Sample.arena Sample.marksRefused) refusing :=
    run_history Sample.arena Sample.marksRefused
  rcases (petition_of_run crowds 5).2.2.1 (by decide +kernel)
      (by decide +kernel) with
    ⟨answer, grows⟩
  have satisfied : answer = .ok () := grows.granted.2 (by decide +kernel)
  subst satisfied
  rcases (petition_of_run refuses 5).2.2.1 (by decide +kernel)
      (by decide +kernel) with
    ⟨answer, stops⟩
  refine
    ⟨⟨by decide +kernel, grows, (grows.grown rfl).available⟩,
      by decide +kernel, ?_⟩
  have told : refused.reply = .ofFault (.allocationFailed 8 8) := by
    decide +kernel
  rw [stops.reply] at told
  rcases answer with fault | done
  · cases told
    exact stops
  · cases told

end Pool

end SlabPool
