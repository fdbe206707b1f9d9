import SlabPool.Proofs.Alike
import SlabPool.Proofs.Canonical
import SlabPool.Proofs.Verdict

/-!
# A cleared pool is as good as new

Two worlds are alike if their pools are and the log was told the same.  A request
that is granted all it asks for, in both worlds and with new blocks in the same
places, is replied to alike and leaves the worlds alike (`World.Alike.after`); so
the reports of all later requests agree (`World.Alike.reports`).

A cleared pool is alike to one that just grew to the same active slab.  Its past
is gone: `clearance_of_run`.
-/

namespace SlabPool.Pool

variable {config : Config} {σ τ : Type}

/-! ## What is seen on both sides -/

/-- The same request, with other providers. -/
def Request.map (relabel : σ → τ) : Request σ → Request τ
  | .allocate => .allocate
  | .reserve additional => .reserve additional
  | .remove address => .remove address
  | .contains address => .contains address
  | .clear => .clear
  | .destroy => .destroy
  | .slotsInUse => .slotsInUse
  | .supply provider => .supply (relabel provider)

namespace Report

/-- No request was refused. -/
def Unrefused (report : Report) : Prop :=
  ∀ decision ∈ report.dealings.filterMap Transaction.query?,
    decision.2 = true

instance (report : Report) : Decidable report.Unrefused :=
  inferInstanceAs
    (Decidable
      (∀ decision ∈ report.dealings.filterMap Transaction.query?,
        decision.2 = true))

/-- The bases of the blocks that were granted, the oldest first. -/
def bases (report : Report) : List Nat :=
  report.dealings.reverse.filterMap Transaction.base?

/-- The blocks that were granted on both sides are in the same places. -/
def PlacedAlike (left right : Report) : Prop :=
  ∀ pair ∈ left.bases.zip right.bases, pair.1 = pair.2

instance (left right : Report) : Decidable (left.PlacedAlike right) :=
  inferInstanceAs (Decidable (∀ pair ∈ left.bases.zip right.bases, pair.1 = pair.2))

/-- The same reply, the same counts, and the same events. -/
structure Agrees (left right : Report) : Prop where
  reply : left.reply = right.reply
  statistics : left.statistics = right.statistics
  events : left.events = right.events

end Report

variable [Provider σ] [Provider τ]

/-- If nothing was refused in a deal, everything was granted. -/
theorem Deal.granting
    {deal : Deal config σ}
    (unrefused : deal.report.Unrefused) :
    deal.before.memory.Granting deal.after.memory :=
  ⟨deal.queries, deal.queries_after, unrefused⟩

theorem Deal.bases_after (deal : Deal config σ) :
    deal.after.memory.bases =
      deal.report.bases.reverse ++ deal.before.memory.bases := by
  rcases deal.ledger_suffix with ⟨entries, ledger⟩
  have dealings : deal.report.dealings = entries :=
    Memory.dealingsTo_eq ledger.symm
  rw [Report.bases, dealings, Memory.bases, ← ledger, List.filterMap_append,
    List.filterMap_reverse, List.reverse_reverse]
  rfl

/-- A single block that was granted meanwhile is the only one of the report. -/
theorem Deal.bases_eq_of_after
    {deal : Deal config σ}
    {base : Nat}
    (granted : deal.after.memory.bases = base :: deal.before.memory.bases) :
    deal.report.bases = [base] := by
  rw [deal.bases_after] at granted
  have single : deal.report.bases.reverse = [base] :=
    List.append_cancel_right granted
  rw [← List.reverse_reverse deal.report.bases, single]
  rfl

theorem Deal.placedAlike
    {left : Deal config σ}
    {right : Deal config τ}
    (placed : left.report.PlacedAlike right.report) :
    left.before.memory.PlacedAlike left.after.memory
      right.before.memory right.after.memory := by
  intro base other leftGranted rightGranted
  apply placed (base, other)
  rw [Deal.bases_eq_of_after leftGranted, Deal.bases_eq_of_after rightGranted]
  exact List.mem_cons_self

/-! ## Worlds that are alike -/

/-- The pools are alike, and the log was told the same. -/
structure World.Alike
    (left : World config σ)
    (right : World config τ) :
    Prop where
  pools : left.pool.Alike right.pool
  journal : left.memory.journal = right.memory.journal

namespace World.Alike

variable {left : World config σ} {right : World config τ}

omit [Provider σ] [Provider τ] in
/-- An operation with alike outcomes leaves alike worlds. -/
theorem ofOutcome
    {α : Type}
    {leftEnd : Outcome (Pool config) σ α}
    {rightEnd : Outcome (Pool config) τ α}
    (alike : leftEnd.Alike rightEnd) :
    (World.ofOutcome leftEnd).Alike (World.ofOutcome rightEnd) :=
  ⟨alike.pools, alike.journal⟩

variable [SeparatingProvider σ] [SeparatingProvider τ]

/-- One request more is replied to alike, and leaves the worlds alike. -/
theorem after
    (alike : left.Alike right)
    (leftBalanced : left.pool.Balanced left.memory)
    (rightBalanced : right.pool.Balanced right.memory)
    (request : Request (σ × τ))
    (leftUnrefused :
      (Deal.report ⟨left, request.map Prod.fst⟩).Unrefused)
    (rightUnrefused :
      (Deal.report ⟨right, request.map Prod.snd⟩).Unrefused)
    (placed :
      (Deal.report ⟨left, request.map Prod.fst⟩).PlacedAlike
        (Deal.report ⟨right, request.map Prod.snd⟩)) :
    Deal.reply ⟨left, request.map Prod.fst⟩ =
        Deal.reply ⟨right, request.map Prod.snd⟩ ∧
      (Deal.after ⟨left, request.map Prod.fst⟩).Alike
        (Deal.after ⟨right, request.map Prod.snd⟩) := by
  have pools := alike.pools
  have journal := alike.journal
  have leftGranting := Deal.granting leftUnrefused
  have rightGranting := Deal.granting rightUnrefused
  have places := Deal.placedAlike placed
  cases request with
  | allocate =>
    have ends :=
      pools.allocate journal leftBalanced rightBalanced leftGranting
        rightGranting places
    refine ⟨?_, .ofOutcome ends⟩
    exact
      congrArg (Reply.ofAnswer fun address => .number (some address))
        ends.answer
  | reserve additional =>
    have ends :=
      pools.reserve journal leftBalanced rightBalanced additional leftGranting
        rightGranting places
    refine ⟨?_, .ofOutcome ends⟩
    exact congrArg (Reply.ofAnswer fun _ => .done) ends.answer
  | remove address =>
    have ends := pools.remove journal address leftGranting rightGranting
    refine ⟨?_, .ofOutcome ends⟩
    exact congrArg (Reply.ofAnswer fun _ => .done) ends.answer
  | contains address => exact ⟨congrArg _ (pools.contains_eq address), alike⟩
  | clear =>
    rcases pools.clear journal with ⟨cleared, told⟩
    exact ⟨rfl, cleared, told⟩
  | destroy =>
    rcases pools.destroy journal with ⟨destroyed, told⟩
    exact ⟨rfl, destroyed, told⟩
  | slotsInUse =>
    refine ⟨?_, alike⟩
    show Deal.reply ⟨left, .slotsInUse⟩ = Deal.reply ⟨right, .slotsInUse⟩
    rw [Deal.reply_slotsInUse, Deal.reply_slotsInUse, pools.walk_eq]
  | supply providers => exact ⟨rfl, pools, journal⟩

/-- What is seen of any later requests agrees. -/
theorem reports
    (alike : left.Alike right)
    (leftBalanced : left.pool.Balanced left.memory)
    (rightBalanced : right.pool.Balanced right.memory)
    (requests : List (Request (σ × τ)))
    (leftUnrefused :
      ∀ report ∈ left.reports (requests.map (.map Prod.fst)),
        report.Unrefused)
    (rightUnrefused :
      ∀ report ∈ right.reports (requests.map (.map Prod.snd)),
        report.Unrefused)
    (placed :
      ∀ pair ∈
        (left.reports (requests.map (.map Prod.fst))).zip
          (right.reports (requests.map (.map Prod.snd))),
        pair.1.PlacedAlike pair.2) :
    List.Forall₂ Report.Agrees
      (left.reports (requests.map (.map Prod.fst)))
      (right.reports (requests.map (.map Prod.snd))) := by
  induction requests generalizing left right with
  | nil => exact .nil
  | cons request later ih =>
    simp only [List.map_cons, World.reports, List.forall_mem_cons,
      List.zip_cons_cons] at leftUnrefused rightUnrefused placed ⊢
    rcases alike.after leftBalanced rightBalanced request leftUnrefused.1
        rightUnrefused.1 placed.1 with
      ⟨reply, next⟩
    constructor
    · refine ⟨reply, next.pools.statistics_eq, ?_⟩
      show Memory.newsTo _ _ = Memory.newsTo _ _
      unfold Memory.newsTo
      rw [next.journal, alike.journal]
    · apply ih next
      · exact (Deal.effect ⟨left, _⟩ leftBalanced).balanced leftBalanced
      · exact (Deal.effect ⟨right, _⟩ rightBalanced).balanced rightBalanced
      · exact leftUnrefused.2
      · exact rightUnrefused.2
      · exact placed.2

end World.Alike

/-- The world with nothing told or asked so far. -/
def World.recent (world : World config σ) : World config σ :=
  { world with memory := { world.memory with ledger := [], journal := [] } }

/-- What is seen of later requests is seen without the past. -/
theorem World.reports_recent
    (world : World config σ)
    (requests : List (Request σ)) :
    world.recent.reports requests = world.reports requests := by
  have split : world.recent.since world.memory = world := rfl
  rw [← World.reports_since world.recent world.memory, split]

section Reports

variable [SeparatingProvider σ] [SeparatingProvider τ]

/-- Alike pools are told apart by no later request, whatever happened before. -/
theorem Alike.reports
    {left : World config σ}
    {right : World config τ}
    (alike : left.pool.Alike right.pool)
    (leftBalanced : left.pool.Balanced left.memory)
    (rightBalanced : right.pool.Balanced right.memory)
    (requests : List (Request (σ × τ)))
    (leftUnrefused :
      ∀ report ∈ left.reports (requests.map (.map Prod.fst)),
        report.Unrefused)
    (rightUnrefused :
      ∀ report ∈ right.reports (requests.map (.map Prod.snd)),
        report.Unrefused)
    (placed :
      ∀ pair ∈
        (left.reports (requests.map (.map Prod.fst))).zip
          (right.reports (requests.map (.map Prod.snd))),
        pair.1.PlacedAlike pair.2) :
    List.Forall₂ Report.Agrees
      (left.reports (requests.map (.map Prod.fst)))
      (right.reports (requests.map (.map Prod.snd))) := by
  rw [← left.reports_recent, ← right.reports_recent] at placed
  rw [← left.reports_recent] at leftUnrefused ⊢
  rw [← right.reports_recent] at rightUnrefused ⊢
  have recent : left.recent.Alike right.recent := ⟨alike, rfl⟩
  exact
    recent.reports ⟨leftBalanced.sound, leftBalanced.held⟩
      ⟨rightBalanced.sound, rightBalanced.held⟩ requests leftUnrefused
      rightUnrefused placed

end Reports

/-! ## Cleared pools -/

section Cleared

variable {pool : Pool config} {active : Slab config.geometry}

omit [Provider σ] in
/-- A cleared pool is alike to one with the same slab and no other. -/
theorem Sound.clear_alike
    (sound : pool.Sound)
    (serving : pool.shelf.active = some active)
    (memory : Memory σ)
    (room : Nat) :
    (pool.clear memory).1.Alike (renewed { active with live := 0 } [] room) := by
  have wiped := sound.settled.wiped
  rw [activeCapacity_of_active serving] at wiped
  have blank := Vacancies.settled_blank active.capacity
  have hinted := sound.hinted
  rw [dueHint, serving] at hinted
  refine ⟨?_, rfl, rfl, ?_, hinted⟩
  · rw [shelf_clear, serving]
    rfl
  · show pool.vacancies.wiped.marks = (Vacancies.blank active.capacity).marks
    rw [(wiped.eq_of_inUse_eq blank rfl).2]

omit [Provider σ] in
/-- Only the block of the active slab is held after a clearing. -/
theorem Balanced.held_clear
    {memory : Memory σ}
    (balanced : pool.Balanced memory)
    (serving : pool.shelf.active = some active) :
    (pool.clear memory).2.held = [active.block] := by
  have held := balanced.clear.held
  rw [blocks_clear, serving] at held
  exact List.perm_singleton.1 held

/-- Growth by a reservation that leaves no retired slab leaves a new pool. -/
theorem Run.eq_renewed
    [SeparatingProvider σ]
    {deals : List (Deal config σ)}
    {world : World config σ}
    (run : Run deals world)
    {additional : Nat}
    (renews : Deal.renews ⟨world, .reserve additional⟩ = true)
    {fresh : Slab config.geometry}
    (serving :
      (Deal.after ⟨world, .reserve additional⟩).pool.shelf.active =
        some fresh)
    (alone :
      (Deal.after ⟨world, .reserve additional⟩).pool.shelf.retired = []) :
    fresh.live = 0 ∧ ∃ room,
      (Deal.after ⟨world, .reserve additional⟩).pool =
        renewed fresh [] room := by
  have effect := run.effect (.reserve additional)
  rw [Deal.renews] at renews
  generalize Deal.after ⟨world, .reserve additional⟩ = after
    at effect renews serving alone ⊢
  generalize Deal.reply ⟨world, .reserve additional⟩ = reply at effect
  cases effect with
  | kept unbroken idle fits undisturbed =>
    rw [activates_of_undisturbed undisturbed] at renews
    cases renews
  | grown growth =>
    cases growth with
    | replaced bounded capacity untouched granted demotion fits journal =>
      cases serving
      cases alone
      exact ⟨untouched, _, rfl⟩

/-- A cleared pool takes back no address. -/
theorem Run.remove_cleared
    [SeparatingProvider σ]
    {deals : List (Deal config σ)}
    {world : World config σ}
    (run : Run deals world)
    {active : Slab config.geometry}
    (serving : world.pool.shelf.active = some active)
    (address : Nat) :
    let cleared : World config σ := Deal.after ⟨world, .clear⟩
    (active.Starts address →
      Deal.reply ⟨cleared, .remove address⟩ =
        .ofFault (.doubleRemove address)) ∧
    (¬ active.Starts address →
      Deal.reply ⟨cleared, .remove address⟩ =
        .ofFault (.notOwned address)) := by
  intro cleared
  have later := run.next .clear
  have sound := later.balanced.sound
  have verdict := later.verdict address
  have left :
      cleared.pool.shelf.active = some { active with live := 0 } := by
    show (world.pool.clear world.memory).1.shelf.active = _
    rw [shelf_clear, serving]
    rfl
  constructor
  · intro starts
    apply (verdict.vacant_iff sound).2
    refine ⟨?_, _, left, starts⟩
    show address ∉ (world.pool.clear world.memory).1.addresses
    rw [addresses_clear]
    exact Finset.notMem_empty address
  · intro outside
    apply (verdict.foreign_iff sound).2
    intro slab member
    rcases Shelf.mem_slabs.1 member with here | retired
    · cases left.symm.trans here
      exact outside
    · cases retired

end Cleared

section Main

variable [SeparatingProvider σ]

/--
When a pool with an active slab is cleared, in whatever world of a run, only
this slab is left, with no slot in use and no vacancy and no mark; what storage
there was for lists remains.  No address can be given back: each slot of the
slab counts as given back twice, and nothing else is owned.

The pool is alike to every pool that just grew to such a slab and has no other.
Whatever is requested of the two later, from whatever providers: if nothing is
refused to either and both get their blocks in the same places, then each reply
is the same, and so are the counts after it and the events of the log.
-/
theorem clearance_of_run
    {deals : List (Deal config σ)}
    {world : World config σ}
    (run : Run deals world)
    {active : Slab config.geometry}
    (serving : world.pool.shelf.active = some active) :
    let cleared : World config σ := Deal.after ⟨world, .clear⟩
    cleared.pool.shelf =
        ⟨some { active with live := 0 }, [], world.pool.shelf.room⟩ ∧
    cleared.pool.vacancies =
        { Vacancies.blank active.capacity with
          room := world.pool.vacancies.room } ∧
    (∀ index, cleared.pool.vacancies.contains index = false) ∧
    cleared.pool.hint = world.pool.hint ∧
    cleared.memory.held = [active.block] ∧
    (∀ address,
      (active.Starts address →
        Deal.reply ⟨cleared, .remove address⟩ =
          .ofFault (.doubleRemove address)) ∧
      (¬ active.Starts address →
        Deal.reply ⟨cleared, .remove address⟩ =
          .ofFault (.notOwned address))) ∧
    ∀ (τ : Type) [Provider τ] [SeparatingProvider τ]
      (others : List (Deal config τ)) (other : World config τ)
      (additional : Nat) (fresh : Slab config.geometry),
      Run others other →
      let grown : Deal config τ := ⟨other, .reserve additional⟩
      grown.renews = true →
      grown.after.pool.shelf.active = some fresh →
      grown.after.pool.shelf.retired = [] →
      fresh.base = active.base → fresh.capacity = active.capacity →
        cleared.pool.Alike grown.after.pool ∧
        ∀ requests : List (Request (σ × τ)),
          let left := cleared.reports (requests.map (.map Prod.fst))
          let right := grown.after.reports (requests.map (.map Prod.snd))
          (∀ report ∈ left, report.Unrefused) →
          (∀ report ∈ right, report.Unrefused) →
          (∀ pair ∈ left.zip right, pair.1.PlacedAlike pair.2) →
            List.Forall₂ Report.Agrees left right := by
  intro cleared
  have balanced := run.balanced
  have like := balanced.sound.clear_alike serving world.memory
  have shelf :
      cleared.pool.shelf =
        ⟨some { active with live := 0 }, [], world.pool.shelf.room⟩ := by
    show (world.pool.clear world.memory).1.shelf = _
    rw [shelf_clear, serving]
    rfl
  have vacancies :
      cleared.pool.vacancies =
        { Vacancies.blank active.capacity with
          room := world.pool.vacancies.room } := by
    have marks := (like 0).marks
    show Vacancies.mk [] (world.pool.clear world.memory).1.vacancies.marks _ = _
    rw [marks]
    rfl
  refine
    ⟨shelf, vacancies, ?_, rfl, balanced.held_clear serving,
      run.remove_cleared serving, ?_⟩
  · intro index
    rw [vacancies]
    exact Marks.has_blank _ _
  · intro τ _ _ others other additional fresh otherRun grown renews otherServing
      alone base capacity
    rcases otherRun.eq_renewed renews otherServing alone with
      ⟨untouched, room, same⟩
    have slab : fresh = { active with live := 0 } := by
      rcases fresh with ⟨freshBase, freshCapacity, freshLive⟩
      dsimp only at base capacity untouched
      rw [base, capacity, untouched]
    have pools : cleared.pool.Alike grown.after.pool := by
      rw [same, slab]
      exact like room
    refine ⟨pools, ?_⟩
    intro requests left right leftUnrefused rightUnrefused placed
    exact
      pools.reports balanced.clear
        (otherRun.next (.reserve additional)).balanced requests
        leftUnrefused rightUnrefused placed

end Main

/-- Two slabs retired, and the third one has a vacancy below a slot in use. -/
def Sample.cluttered : List (Request Arena) :=
  .remove (Arena.origin + 48) :: List.replicate 8 .allocate

/-- An arena that places two blocks, these distances from its start. -/
def Sample.distant : Arena :=
  { length := 0x1000, placement := .listed [40, 72] }

/-- The slab is filled again, another one is needed, and a slot is given back. -/
def Sample.refilling : List (Request (Arena × Arena)) :=
  List.replicate 5 .allocate ++ [.remove (Arena.origin + 48), .slotsInUse]

/-- The slab that is kept has room for four items. -/
theorem clearance_of_cluttered :
    let world : World Sample.config Arena :=
      reached Sample.arena Sample.cluttered
    let cleared : World Sample.config Arena := Deal.after ⟨world, .clear⟩
    let idle : World Sample.config Arena := reached Sample.distant []
    let grown : Deal Sample.config Arena := ⟨idle, .reserve 4⟩
    world.pool.shelf.active = some ⟨Arena.origin + 40, 4, 3⟩ ∧
      cleared.memory.held = [⟨Arena.origin + 40, 32, 8⟩] ∧
      Deal.reply ⟨cleared, .remove Arena.origin⟩ =
        .ofFault (.notOwned Arena.origin) ∧
      cleared.pool.Alike grown.after.pool ∧
      List.Forall₂ Report.Agrees
        (cleared.reports (Sample.refilling.map (.map Prod.fst)))
        (grown.after.reports (Sample.refilling.map (.map Prod.snd))) := by
  intro world cleared idle grown
  have run : Run (history Sample.arena Sample.cluttered) world :=
    run_history Sample.arena Sample.cluttered
  have idleRun : Run (history Sample.distant []) idle :=
    run_history Sample.distant []
  have serving :
      world.pool.shelf.active = some ⟨Arena.origin + 40, 4, 3⟩ := by
    decide +kernel
  have fresh :
      grown.after.pool.shelf.active = some ⟨Arena.origin + 40, 4, 0⟩ := by
    decide +kernel
  rcases clearance_of_run run serving with
    ⟨-, -, -, -, held, verdicts, likewise⟩
  rcases likewise Arena _ idle 4 _ idleRun (by decide +kernel) fresh
      (by decide +kernel) rfl rfl with
    ⟨pools, reports⟩
  refine ⟨serving, held, (verdicts Arena.origin).2 ?_, pools, ?_⟩
  · intro starts
    have inside := Slab.mem_extent_block.1 starts.mem_extent
    exact absurd inside.1 (by decide)
  · exact
      reports Sample.refilling (by decide +kernel) (by decide +kernel)
        (by decide +kernel)

end SlabPool.Pool
