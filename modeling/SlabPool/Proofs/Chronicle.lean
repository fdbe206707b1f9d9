import Mathlib.Algebra.Ring.Int.Defs
import SlabPool.Proofs.Reservation

/-!
# The log accounts for every slab

The log is told of each slab that comes or goes.  `Event.gain` says by how much
an event changes the number of slabs, and `Event.shelved` by how much that of
the retired ones; the sums over all events are the two numbers (`Run.sums`).

Each event also tells numbers of its own, and these are true of the pool before
or after the request: `Pool.Tells` says what each of them means.  A
`Pool.Chronicle` is all this for the events of one request.  Every request has
one (`Effect.chronicle`), and a run is told by those of its deals:
`chronicle_of_run`.
-/

namespace SlabPool

/-- An initial part of a list is where a test passes: as many entries pass it. -/
theorem countP_eq_of_lt_iff
    {α : Type}
    {test : α → Bool}
    {entries : List α}
    {position : Nat}
    (inside : position ≤ entries.length)
    (ordered :
      ∀ index entry, entries[index]? = some entry →
        (index < position ↔ test entry = true)) :
    entries.countP test = position := by
  induction entries generalizing position with
  | nil => exact (Nat.le_zero.1 inside).symm
  | cons first rest ih =>
    have head := ordered 0 first rfl
    cases position with
    | zero =>
      have fails : ¬ test first = true :=
        fun passes => Nat.not_lt_zero 0 (head.2 passes)
      rw [List.countP_cons_of_neg fails]
      apply ih (Nat.zero_le _)
      intro index entry found
      have later := ordered (index + 1) entry found
      exact iff_of_false (Nat.not_lt_zero index) fun passes =>
        Nat.not_lt_zero _ (later.2 passes)
    | succ position =>
      rw [List.countP_cons_of_pos (head.1 (Nat.succ_pos position))]
      congr 1
      apply ih (Nat.le_of_succ_le_succ inside)
      intro index entry found
      rw [← ordered (index + 1) entry found, Nat.succ_lt_succ_iff]

/-! ## What the events add up to -/

namespace Event

def replaces : Event → Bool
  | .previousReleased _ => true
  | _ => false

def retires : Event → Bool
  | .retired _ _ _ => true
  | _ => false

def empties : Event → Bool
  | .retiredEmptied _ => true
  | _ => false

def surrenders : Event → Bool
  | .releasingActive _ => true
  | _ => false

/-- How many retired slabs are given back at once. -/
def returned : Event → Nat
  | .releasingRetired count => count
  | _ => 0

/-- How many slabs there are more after the event, or fewer. -/
def gain : Event → Int
  | .activated _ => 1
  | .previousReleased _ => -1
  | .retiredEmptied _ => -1
  | .releasingActive _ => -1
  | .releasingRetired count => -count
  | _ => 0

/-- How many retired slabs there are more after the event, or fewer. -/
def shelved : Event → Int
  | .retired _ _ _ => 1
  | .retiredEmptied _ => -1
  | .releasingRetired count => -count
  | _ => 0

end Event

/-- The events account for this many slabs, and this many retired ones of them. -/
structure Balance (journal : List Event) (slabs retired : Nat) : Prop where
  slabs :
    (slabs : Int) =
      journal.countP Event.activates - journal.countP Event.replaces -
        journal.countP Event.empties - journal.countP Event.surrenders -
          (journal.map Event.returned).sum
  retired :
    (retired : Int) =
      journal.countP Event.retires - journal.countP Event.empties -
        (journal.map Event.returned).sum

theorem sum_gain (journal : List Event) :
    (journal.map Event.gain).sum =
      journal.countP Event.activates - journal.countP Event.replaces -
        journal.countP Event.empties - journal.countP Event.surrenders -
          (journal.map Event.returned).sum := by
  induction journal with
  | nil => rfl
  | cons event earlier ih =>
    rw [List.map_cons, List.sum_cons, ih]
    cases event <;>
      simp [List.countP_cons, Event.gain, Event.activates, Event.replaces,
        Event.empties, Event.surrenders, Event.returned] <;>
      omega

theorem sum_shelved (journal : List Event) :
    (journal.map Event.shelved).sum =
      journal.countP Event.retires - journal.countP Event.empties -
        (journal.map Event.returned).sum := by
  induction journal with
  | nil => rfl
  | cons event earlier ih =>
    rw [List.map_cons, List.sum_cons, ih]
    cases event <;>
      simp [List.countP_cons, Event.shelved, Event.retires, Event.empties,
        Event.returned] <;>
      omega

/-! ## What an event tells -/

namespace Pool

variable {config : Config} {σ : Type}

/-- The numbers of the event are those of the pool before and after. -/
def Tells (before after : Pool config) : Event → Prop
  | .activated capacity => capacity = after.activeCapacity
  | .previousReleased capacity =>
    before.inUse = ∅ ∧
      ∃ old, before.shelf.active = some old ∧ capacity = old.capacity
  | .retired capacity live position =>
    ∃ old,
      before.shelf.active = some old ∧ capacity = old.capacity ∧
        live = before.activeItems ∧
          position =
              before.shelf.retired.countP (fun slab =>
                decide (slab.base < old.base)) ∧
            after.shelf.retired =
              before.shelf.retired.insertIdx position { old with live }
  | .retiredItemRemoved position remaining =>
    ∃ slab,
      before.shelf.retired[position]? = some slab ∧
        slab.live = remaining + 1 ∧
          after.shelf.retired =
            if remaining = 0 then
              before.shelf.retired.eraseIdx position
            else
              before.shelf.retired.set position
                { slab with live := remaining }
  | .retiredEmptied capacity =>
    ∃ slab ∈ before.shelf.retired, capacity = slab.capacity ∧ slab.live = 1
  | .releasingRetired count =>
    count = before.shelf.retiredCount ∧ after.shelf.retired = []
  | .releasingActive capacity =>
    after.shelf.active = none ∧
      ∃ old, before.shelf.active = some old ∧ capacity = old.capacity
  | .grew capacity nextCapacity slabs itemSize =>
    capacity = after.activeCapacity ∧ nextCapacity = after.hint ∧
      slabs = after.shelf.slabCount ∧ itemSize = config.geometry.item.size
  | .cleared capacity itemSize =>
    capacity = before.activeCapacity ∧ itemSize = config.geometry.item.size
  | .destroyed slabs itemSize =>
    slabs = before.shelf.slabCount ∧ itemSize = config.geometry.item.size

/-- The events, the newest first, tell what happened to the slabs of the pool. -/
structure Chronicle
    (before after : Pool config)
    (news : List Event) :
    Prop where
  told : ∀ event ∈ news, before.Tells after event
  slabs :
    (after.shelf.slabs.length : Int) =
      before.shelf.slabs.length + (news.map Event.gain).sum
  retired :
    (after.shelf.retired.length : Int) =
      before.shelf.retired.length + (news.map Event.shelved).sum

namespace Chronicle

variable {before after : Pool config} {news : List Event}

/-- Where no slab comes or goes, there is nothing to tell. -/
theorem silent
    (slabs : after.shelf.slabs.length = before.shelf.slabs.length)
    (retired : after.shelf.retired.length = before.shelf.retired.length) :
    before.Chronicle after [] where
  told := nofun
  slabs := by
    rw [slabs]
    exact (Int.add_zero _).symm
  retired := by
    rw [retired]
    exact (Int.add_zero _).symm

/-- Nothing that was told becomes wrong when a slot is served. -/
theorem withRecord
    (chronicle : before.Chronicle after news)
    {active : Slab config.geometry}
    (serving : after.shelf.active = some active)
    (mark : Nat)
    (vacancies : Vacancies) :
    before.Chronicle (after.withRecord active mark vacancies) news where
  told := by
    have capacity := activeCapacity_withRecord serving mark vacancies
    have count :
        (after.withRecord active mark vacancies).shelf.slabCount =
          after.shelf.slabCount := by
      rw [Shelf.slabCount, Shelf.slabCount, serving]
      rfl
    intro event member
    have told := chronicle.told event member
    cases event with
    | activated => exact told.trans capacity.symm
    | grew =>
      rcases told with ⟨same, hint, slabs, size⟩
      exact ⟨same.trans capacity.symm, hint, slabs.trans count.symm, size⟩
    | releasingActive => cases serving.symm.trans told.1
    | previousReleased => exact told
    | retired => exact told
    | retiredItemRemoved => exact told
    | retiredEmptied => exact told
    | releasingRetired => exact told
    | cleared => exact told
    | destroyed => exact told
  slabs := by
    rw [← chronicle.slabs, Shelf.slabs_of_active serving,
      Shelf.slabs_of_active rfl]
    rfl
  retired := chronicle.retired

end Chronicle

/-! ## Growth -/

/-- What became of the slab before a new one is told. -/
theorem Demotion.chronicle
    {pool : Pool config}
    (sound : pool.Sound)
    {held left : List Block}
    {retired : List (Slab config.geometry)}
    {events : List Event}
    (demotion : pool.Demotion held retired left events)
    (slab : Slab config.geometry)
    (room : Nat) :
    (∀ event ∈ events, pool.Tells (renewed slab retired room) event) ∧
      (retired.length : Int) =
        pool.shelf.slabs.length + (events.map Event.gain).sum ∧
      (retired.length : Int) =
        pool.shelf.retired.length + (events.map Event.shelved).sum := by
  cases demotion with
  | absent inactive =>
    refine ⟨nofun, ?_, ?_⟩
    · simp [Shelf.slabs, inactive]
    · simp
  | @released previous serving unused =>
    refine ⟨?_, ?_, ?_⟩
    · intro event member
      cases List.mem_singleton.1 member
      exact ⟨unused, previous, serving, rfl⟩
    · simp [Shelf.slabs_of_active serving, Event.gain]
    · simp [Event.shelved]
  | @retired previous position serving used inside ordered =>
    refine ⟨?_, ?_, ?_⟩
    · intro event member
      cases List.mem_singleton.1 member
      refine ⟨previous, serving, rfl, sound.activeItems_eq.symm, ?_, rfl⟩
      symm
      apply countP_eq_of_lt_iff inside
      intro index other found
      rw [decide_eq_true_iff]
      exact ordered index other found
    · rw [List.length_insertIdx_of_le_length inside]
      simp [Shelf.slabs_of_active serving, Event.gain]
    · rw [List.length_insertIdx_of_le_length inside]
      simp [Event.shelved]

/-- A new slab is told of, after what became of the one before it. -/
theorem Growth.chronicle
    [Provider σ]
    {pool grown : Pool config}
    {required : Nat}
    {memory after : Memory σ}
    (sound : pool.Sound)
    (grownSound : grown.Sound)
    (growth : pool.Growth required memory ⟨.ok (), grown, after⟩) :
    ∃ news,
      after.journal = news ++ memory.journal ∧
        pool.Chronicle grown news := by
  cases growth with
  | @replaced slab retired events room _ bounded capacity untouched granted
      demotion fits journal =>
    rcases demotion.chronicle sound slab room with ⟨told, gain, shelved⟩
    have slabs :
        (renewed slab retired room : Pool config).shelf.slabs.length =
          retired.length + 1 := by
      rw [renewed, Shelf.slabs_of_active rfl, List.length_cons]
    refine
      ⟨.grew slab.capacity (config.capacityAfter slab.capacity)
          (retired.length + 1) config.geometry.item.size ::
        (events ++ [.activated slab.capacity]), ?_, ?_⟩
    · rw [journal, List.cons_append, List.append_assoc,
        List.singleton_append]
    · constructor
      · intro event member
        rcases List.mem_cons.1 member with rfl | member
        · exact ⟨rfl, rfl, by rw [grownSound.orderly.slabCount_eq, slabs], rfl⟩
        · rcases List.mem_append.1 member with demoted | activated
          · exact told event demoted
          · cases List.mem_singleton.1 activated
            rfl
      · rw [slabs]
        simp [Event.gain]
        omega
      · show (retired.length : Int) = _
        simp [Event.shelved]
        omega

/-! ## Retired slabs -/

section Retired

variable {pool : Pool config} {position : Nat} {slab : Slab config.geometry}

theorem chronicle_drained
    (found : pool.shelf.retired[position]? = some slab)
    (several : 1 < slab.live) :
    pool.Chronicle (pool.drained position slab)
      [.retiredItemRemoved position (slab.live - 1)] where
  told := by
    intro event member
    cases List.mem_singleton.1 member
    refine ⟨slab, found, by omega, ?_⟩
    rw [if_neg (by omega)]
    rfl
  slabs := by simp [drained, Shelf.slabs, Event.gain]
  retired := by simp [drained, Event.shelved]

theorem chronicle_relieved
    (found : pool.shelf.retired[position]? = some slab)
    (last : slab.live = 1) :
    pool.Chronicle (pool.relieved position)
      [.retiredEmptied slab.capacity, .retiredItemRemoved position 0] where
  told := by
    intro event member
    rcases List.mem_cons.1 member with rfl | member
    · exact ⟨slab, List.mem_of_getElem? found, rfl, last⟩
    · cases List.mem_singleton.1 member
      exact ⟨slab, found, last, rfl⟩
  slabs := by
    have inside := (List.getElem?_eq_some_iff.1 found).1
    simp [relieved, Shelf.slabs, Event.gain, List.length_eraseIdx, inside]
    omega
  retired := by
    have inside := (List.getElem?_eq_some_iff.1 found).1
    simp [relieved, Event.shelved, List.length_eraseIdx, inside]
    omega

end Retired

/-! ## Clearing and destroying -/

section Forgotten

variable {pool : Pool config} {memory : Memory σ}

/-- What the log is told when all retired slabs are given back. -/
def partings (pool : Pool config) : List Event :=
  if pool.shelf.retired = [] then
    []
  else
    [.releasingRetired pool.shelf.retiredCount]

theorem journal_partings (pool : Pool config) (memory : Memory σ) :
    (pool.shelf.releaseRetired memory).2.journal =
      pool.partings ++ memory.journal := by
  rw [Shelf.journal_releaseRetired, partings]
  split <;> rfl

theorem partings_told
    {after : Pool config}
    (alone : after.shelf.retired = []) :
    ∀ event ∈ pool.partings, pool.Tells after event := by
  intro event member
  rw [partings] at member
  split at member
  case isTrue none => cases member
  case isFalse some =>
    cases List.mem_singleton.1 member
    exact ⟨rfl, alone⟩

theorem sum_partings (pool : Pool config) :
    (pool.partings.map Event.gain).sum = -(pool.shelf.retired.length : Int) ∧
      (pool.partings.map Event.shelved).sum =
        -(pool.shelf.retired.length : Int) := by
  rw [partings]
  split
  case isTrue none => simp [none]
  case isFalse some => simp [Event.gain, Event.shelved, Shelf.retiredCount]

theorem chronicle_clear (pool : Pool config) (memory : Memory σ) :
    ∃ news,
      (pool.clear memory).2.journal = news ++ memory.journal ∧
        pool.Chronicle (pool.clear memory).1 news := by
  rcases pool.sum_partings with ⟨gain, shelved⟩
  refine
    ⟨.cleared pool.activeCapacity config.geometry.item.size :: pool.partings,
      ?_, ?_⟩
  · rw [journal_clear, journal_partings]
    rfl
  · constructor
    · intro event member
      rcases List.mem_cons.1 member with rfl | member
      · exact ⟨rfl, rfl⟩
      · exact partings_told rfl event member
    · rw [List.map_cons, List.sum_cons, gain, Shelf.slabs, Shelf.slabs,
        shelf_clear]
      cases pool.shelf.active <;> simp [Event.gain]
    · rw [List.map_cons, List.sum_cons, shelved, shelf_clear]
      simp [Event.shelved]

theorem journal_destroy
    (some : pool.shelf.slabCount ≠ 0)
    (memory : Memory σ) :
    (pool.destroy memory).2.journal =
      ((pool.shelf.active.toList.map fun active =>
          Event.releasingActive active.capacity) ++
        (pool.partings ++
          [.destroyed pool.shelf.slabCount config.geometry.item.size])) ++
        memory.journal := by
  rw [destroy, if_neg some]
  dsimp only
  rw [Shelf.journal_releaseAll, journal_partings, List.append_assoc,
    List.append_assoc]
  rfl

theorem Balanced.chronicle_destroy
    (balanced : pool.Balanced memory) :
    ∃ news,
      (pool.destroy memory).2.journal = news ++ memory.journal ∧
        pool.Chronicle (pool.destroy memory).1 news := by
  rcases balanced.destroy_cases with ⟨none, same⟩ | ⟨some, renewed, -⟩
  · rw [same]
    exact ⟨[], rfl, .silent rfl rfl⟩
  · have counted : pool.shelf.slabCount ≠ 0 :=
      fun none => some (balanced.sound.slabCount_eq_zero_iff.1 none)
    rcases pool.sum_partings with ⟨gain, shelved⟩
    refine ⟨_, journal_destroy counted memory, ?_⟩
    rw [renewed]
    constructor
    · intro event member
      rcases List.mem_append.1 member with released | member
      · rcases List.mem_map.1 released with ⟨active, serving, rfl⟩
        exact ⟨rfl, active, Option.mem_toList.1 serving, rfl⟩
      · rcases List.mem_append.1 member with parting | first
        · exact partings_told rfl event parting
        · cases List.mem_singleton.1 first
          exact ⟨rfl, rfl⟩
    · cases serving : pool.shelf.active <;>
        simp [gain, Shelf.slabs, serving, idle, Shelf.empty, Event.gain]
    · cases serving : pool.shelf.active <;>
        simp [shelved, idle, Shelf.empty, Event.shelved]

end Forgotten

/-! ## One request -/

/-- Every request has its chronicle. -/
theorem Effect.chronicle
    [Provider σ]
    [SeparatingProvider σ]
    {before after : World config σ}
    {request : Request σ}
    {reply : Reply}
    (balanced : before.pool.Balanced before.memory)
    (effect : Effect before request reply after) :
    ∃ news,
      after.memory.journal = news ++ before.memory.journal ∧
        before.pool.Chronicle after.pool news := by
  have sound := balanced.sound
  cases effect with
  | kept unbroken idle fits undisturbed =>
    exact ⟨[], undisturbed.journal, .silent rfl rfl⟩
  | served serving service =>
    refine ⟨[], rfl, ?_⟩
    exact (Chronicle.silent rfl rfl).withRecord serving _ _
  | grown growth =>
    exact growth.chronicle sound (growth.balanced balanced).sound
  | grownServed growth serving service =>
    rcases growth.chronicle sound (growth.balanced balanced).sound with
      ⟨news, journal, chronicle⟩
    exact ⟨news, journal, chronicle.withRecord serving _ _⟩
  | released serving release undisturbed =>
    refine ⟨[], undisturbed.journal, ?_⟩
    exact (Chronicle.silent rfl rfl).withRecord serving _ _
  | counted found starts several =>
    exact ⟨_, rfl, chronicle_drained found several⟩
  | emptied found starts last =>
    exact ⟨_, rfl, chronicle_relieved found last⟩
  | cleared => exact chronicle_clear before.pool before.memory
  | destroyed => exact balanced.chronicle_destroy

/-! ## Runs -/

section Run

variable [Provider σ] [SeparatingProvider σ]
variable {deals : List (Deal config σ)} {world : World config σ}

/-- What the log is told during a deal is its chronicle. -/
theorem Run.chronicle
    (run : Run deals world)
    (request : Request σ) :
    let deal : Deal config σ := ⟨world, request⟩
    deal.after.memory.journal =
        deal.report.events ++ world.memory.journal ∧
      world.pool.Chronicle deal.after.pool deal.report.events := by
  intro deal
  rcases (run.effect request).chronicle run.balanced with
    ⟨news, journal, chronicle⟩
  have told : deal.report.events = news := Memory.newsTo_eq journal
  rw [told]
  exact ⟨journal, chronicle⟩

/-- The sums over all events are the numbers of slabs. -/
theorem Run.sums
    (run : Run deals world) :
    (world.pool.shelf.slabs.length : Int) =
        (world.memory.journal.map Event.gain).sum ∧
      (world.pool.shelf.retired.length : Int) =
        (world.memory.journal.map Event.shelved).sum := by
  induction run with
  | start provider => exact ⟨rfl, rfl⟩
  | @next deals world run request ih =>
    rcases run.chronicle request with ⟨journal, chronicle⟩
    rw [journal, List.map_append, List.map_append, List.sum_append,
      List.sum_append, chronicle.slabs, chronicle.retired, ih.1, ih.2]
    exact ⟨Int.add_comm _ _, Int.add_comm _ _⟩

/-- The log lists what was told during each deal. -/
theorem Run.journal_eq
    (run : Run deals world) :
    world.memory.journal = deals.flatMap fun deal => deal.report.events := by
  induction run with
  | start provider => rfl
  | @next deals world run request ih =>
    rw [List.flatMap_cons, ← ih]
    exact (run.chronicle request).1

/-- Whatever was told was true. -/
theorem Run.told
    (run : Run deals world)
    {deal : Deal config σ}
    (member : deal ∈ deals) :
    ∀ event ∈ deal.report.events,
      deal.before.pool.Tells deal.after.pool event := by
  induction run with
  | start provider => cases member
  | next run request ih =>
    rcases List.mem_cons.1 member with rfl | earlier
    · exact (run.chronicle request).2.told
    · exact ih earlier

/--
In every world of a run, whatever was requested and refused before, the log
lists what was told during each deal, and it accounts for every slab: the number
of slabs is that of the slabs which began to serve, less those which were given
back as they were unused, as they had become empty, or by a clearing or a
destruction.  The retired ones are those which were retired, less those which
became empty or were given back at once.

All of it is true: the numbers of each event are those of the pool before or
after the request.  The items of the active slab, with which it retires, are
those that were issued from it and not removed.
-/
theorem chronicle_of_run
    (run : Run deals world) :
    Balance world.memory.journal
        world.pool.shelf.slabCount
        world.pool.shelf.retiredCount ∧
    (world.memory.journal =
      deals.flatMap fun deal => deal.report.events) ∧
    (∀ deal ∈ deals, ∀ event ∈ deal.report.events,
      deal.before.pool.Tells deal.after.pool event) ∧
    world.pool.activeItems = (issued deals).card := by
  have sound := run.balanced.sound
  refine ⟨⟨?_, ?_⟩, run.journal_eq, fun deal member => run.told member, ?_⟩
  · rw [← sum_gain, sound.orderly.slabCount_eq]
    exact run.sums.1
  · rw [← sum_shelved]
    exact run.sums.2
  · rw [run.issued_eq, sound.activeItems_eq, card_addresses sound]

end Run

/--
Two slabs retired, and one of them was emptied.  After a clearing a larger slab
took the place of the third one, and retired when it was full.  The last request
finds the next one full as well.
-/
def Sample.eventful : List (Request Arena) :=
  List.replicate 16 .allocate ++
    [.reserve 5, .clear, .remove (Arena.origin + 8), .remove Arena.origin] ++
      List.replicate 6 .allocate

/-- Three slabs are left of six, and the last request retired one of them. -/
theorem chronicle_of_eventful :
    let world : World Sample.config Arena :=
      reached Sample.arena Sample.eventful
    let deals : List (Deal Sample.config Arena) :=
      history Sample.arena Sample.eventful
    world.memory.journal.countP Event.activates = 6 ∧
      Balance world.memory.journal 3 2 ∧
      ∀ last ∈ deals.head?,
        last.before.pool.Tells last.after.pool (.retired 9 9 1) := by
  intro world deals
  have run : Run deals world := run_history Sample.arena Sample.eventful
  have three : world.pool.shelf.slabCount = 3 := by decide +kernel
  have two : world.pool.shelf.retiredCount = 2 := by decide +kernel
  rcases chronicle_of_run run with ⟨balance, -, told, -⟩
  rw [three, two] at balance
  refine ⟨by decide +kernel, balance, ?_⟩
  intro last newest
  apply told last (List.mem_of_mem_head? newest)
  cases newest
  decide +kernel

end Pool

end SlabPool
