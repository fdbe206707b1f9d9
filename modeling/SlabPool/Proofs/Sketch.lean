import SlabPool.Proofs.Issued

/-!
# Pools apart from their addresses

Two pools may be the same but for where their slabs lie.  A `Sketch` describes
both: it pairs each slab with its counterpart and has all else that a pool has.
A pool is laid out after the sketch (`Sketch.Laid`) if its slabs are those of the
sketch on one side.  The retired ones come in the order of their addresses, which
the sketch does not know.

What a pool tells of itself can be read off the sketch (`Laid.statistics_eq`).
Whatever becomes of a pool becomes of its sketch as well: its record changes, it
grows, loses an item or a slab, is cleared or destroyed.
-/

namespace SlabPool

/-- Where a slab and its counterpart lie, and how many slots either has. -/
structure Plot where
  /-- The base of the slab. -/
  left : Nat
  /-- The base of its counterpart. -/
  right : Nat
  /-- The number of slots. -/
  capacity : Nat
  deriving DecidableEq, Repr

/-- A slab with its counterpart. -/
structure Twin where
  /-- What never changes of either. -/
  plot : Plot
  /-- The live count of both. -/
  live : Nat
  deriving DecidableEq, Repr

/-- The slab on one side. -/
def Twin.slab
    (geometry : Geometry)
    (side : Plot → Nat)
    (twin : Twin) :
    Slab geometry :=
  ⟨side twin.plot, twin.plot.capacity, twin.live⟩

/-- A slot with its counterpart. -/
structure Spot where
  /-- The slab of the slot. -/
  plot : Plot
  /-- The index of the slot there. -/
  index : Nat
  deriving DecidableEq, Repr

/-- The address of the slot on one side. -/
def Spot.address
    (geometry : Geometry)
    (side : Plot → Nat)
    (spot : Spot) :
    Nat :=
  side spot.plot + spot.index * geometry.stride

/-- A slot is addressed by its slab on either side. -/
theorem Spot.address_eq
    {spot : Spot}
    {twin : Twin}
    (plot : twin.plot = spot.plot)
    (geometry : Geometry)
    (side : Plot → Nat) :
    spot.address geometry side =
      (twin.slab geometry side).slotAt spot.index := by
  rw [Spot.address, ← plot]
  rfl

/-- Two pools but for the addresses of their slabs. -/
structure Sketch where
  /-- The active slabs. -/
  active : Option Twin
  /-- The retired slabs, in no particular order. -/
  retired : List Twin
  /-- How many retired slabs the granted storage holds. -/
  room : Nat
  /-- The vacant slots of the active slabs. -/
  vacancies : Vacancies
  /-- The capacity of the next slab. -/
  hint : Nat
  deriving DecidableEq, Repr

namespace Sketch

/-- The sketch of pools without slabs. -/
def idle (config : Config) : Sketch :=
  ⟨none, [], 0, Vacancies.empty, config.firstCapacity⟩

variable (sketch : Sketch)

/-- All slabs, the active one first. -/
def slabs : List Twin :=
  sketch.active.toList ++ sketch.retired

/-- The number of slots of the active slab. -/
def activeCapacity : Nat :=
  match sketch.active with
  | none => 0
  | some active => active.plot.capacity

/-- The high-water mark of the active slab. -/
def highWater : Nat :=
  match sketch.active with
  | none => 0
  | some active => active.live

/-- The slots in use of the active slab. -/
def inUse : Finset Nat :=
  sketch.vacancies.inUse sketch.highWater

/-- The slot is one of a slab that is there. -/
structure Has (spot : Spot) : Prop where
  stands : spot.plot ∈ sketch.slabs.map Twin.plot
  inside : spot.index < spot.plot.capacity

/-- The counts by which the pools describe themselves. -/
def statistics : Pool.Statistics where
  items := sketch.inUse.card + (sketch.retired.map Twin.live).sum
  slots := (sketch.slabs.map fun twin => twin.plot.capacity).sum
  slabs := sketch.slabs.length
  retired := sketch.retired.length
  activeCapacity := sketch.activeCapacity
  highWater := sketch.highWater
  vacant := sketch.vacancies.size
  hint := sketch.hint

variable {sketch : Sketch}

theorem mem_slabs {twin : Twin} :
    twin ∈ sketch.slabs ↔ sketch.active = some twin ∨ twin ∈ sketch.retired := by
  rw [slabs, List.mem_append, Option.mem_toList]

/-- A slot is one of the active slab or of a retired one. -/
theorem Has.cases
    {spot : Spot}
    (has : sketch.Has spot) :
    ∃ twin : Twin, twin.plot = spot.plot ∧
      (sketch.active = some twin ∨ twin ∈ sketch.retired) := by
  rcases List.mem_map.1 has.stands with ⟨twin, member, plot⟩
  exact ⟨twin, plot, mem_slabs.1 member⟩

/-! ## Pools laid out after a sketch -/

variable {config : Config}

/-- The pool is as the sketch has it on one side. -/
structure Laid
    (sketch : Sketch)
    (side : Plot → Nat)
    (pool : Pool config) :
    Prop where
  active : pool.shelf.active = sketch.active.map (Twin.slab config.geometry side)
  retired : pool.shelf.retired.Perm (sketch.retired.map (Twin.slab config.geometry side))
  room : pool.shelf.room = sketch.room
  vacancies : pool.vacancies = sketch.vacancies
  hint : pool.hint = sketch.hint

theorem laid_idle (side : Plot → Nat) :
    (idle config).Laid side (Pool.idle : Pool config) :=
  ⟨rfl, .nil, rfl, rfl, rfl⟩

namespace Laid

variable {side : Plot → Nat} {pool : Pool config} {twin : Twin}

theorem serving
    (laid : sketch.Laid side pool)
    (active : sketch.active = some twin) :
    pool.shelf.active = some (twin.slab config.geometry side) := by
  rw [laid.active, active, Option.map_some]

theorem slabs_perm
    (laid : sketch.Laid side pool) :
    pool.shelf.slabs.Perm (sketch.slabs.map (Twin.slab config.geometry side)) := by
  rw [Shelf.slabs, slabs, List.map_append, laid.active]
  cases sketch.active with
  | none => exact laid.retired
  | some active => exact laid.retired.cons _

theorem activeCapacity_eq
    (laid : sketch.Laid side pool) :
    pool.activeCapacity = sketch.activeCapacity := by
  rw [Pool.activeCapacity, laid.active, activeCapacity]
  cases sketch.active <;> rfl

theorem highWater_eq
    (laid : sketch.Laid side pool) :
    pool.highWater = sketch.highWater := by
  rw [Pool.highWater, laid.active, highWater]
  cases sketch.active <;> rfl

theorem inUse_eq
    (laid : sketch.Laid side pool) :
    pool.inUse = sketch.inUse := by
  rw [Pool.inUse, laid.vacancies, laid.highWater_eq, inUse]

/-- A sound pool has as many slots to hand out as the sketch says. -/
theorem available_eq
    (laid : sketch.Laid side pool)
    (sound : pool.Sound) :
    pool.available = sketch.activeCapacity - sketch.inUse.card := by
  rw [sound.available_eq, laid.activeCapacity_eq, laid.inUse_eq]

/-- A sound pool tells of itself what the sketch says. -/
theorem statistics_eq
    (laid : sketch.Laid side pool)
    (sound : pool.Sound) :
    pool.statistics = .ok sketch.statistics := by
  have slots := (laid.slabs_perm.map Slab.capacity).sum_eq
  have items := (laid.retired.map Slab.live).sum_eq
  rw [List.map_map] at slots items
  rw [Pool.statistics, sound.itemCount_eq, sound.orderly.slotCount_eq]
  simp only [sound.orderly.slabCount_eq, laid.inUse_eq, laid.highWater_eq,
    laid.activeCapacity_eq, laid.vacancies, laid.hint, Shelf.retiredCount,
    laid.slabs_perm.length_eq, laid.retired.length_eq, List.length_map, slots,
    items]
  rfl

/-- The slab of a slot of the sketch is one of the pool. -/
theorem retired_mem
    (laid : sketch.Laid side pool)
    (member : twin ∈ sketch.retired) :
    (twin.slab config.geometry side) ∈ pool.shelf.retired :=
  laid.retired.mem_iff.2 (List.mem_map_of_mem member)

end Laid

/-- A slot of the sketch starts in its slab on either side. -/
theorem Has.starts
    {spot : Spot}
    (has : sketch.Has spot)
    {twin : Twin}
    (plot : twin.plot = spot.plot)
    (geometry : Geometry)
    (side : Plot → Nat) :
    (twin.slab geometry side).Starts (spot.address geometry side) := by
  refine ⟨spot.index, ?_, Spot.address_eq plot geometry side⟩
  show spot.index < twin.plot.capacity
  rw [plot]
  exact has.inside

/-! ## The record of the active slab -/

/-- The sketch whose active slab has this mark and these vacancies. -/
def withRecord
    (sketch : Sketch)
    (active : Twin)
    (mark : Nat)
    (vacancies : Vacancies) :
    Sketch :=
  { sketch with active := some { active with live := mark }, vacancies }

theorem Laid.withRecord
    {side : Plot → Nat}
    {pool : Pool config}
    (laid : sketch.Laid side pool)
    (active : Twin)
    (mark : Nat)
    (vacancies : Vacancies) :
    (sketch.withRecord active mark vacancies).Laid side
      (pool.withRecord (active.slab config.geometry side) mark vacancies) where
  active := rfl
  retired := laid.retired
  room := laid.room
  vacancies := rfl
  hint := laid.hint

theorem Has.withRecord
    {spot : Spot}
    (has : sketch.Has spot)
    {active : Twin}
    (serving : sketch.active = some active)
    (mark : Nat)
    (vacancies : Vacancies) :
    (sketch.withRecord active mark vacancies).Has spot := by
  refine ⟨?_, has.inside⟩
  have stands := has.stands
  rw [slabs, serving] at stands
  exact stands

/-! ## Room for retired slabs -/

theorem Laid.withRoom
    {side : Plot → Nat}
    {pool : Pool config}
    (laid : sketch.Laid side pool)
    (room : Nat) :
    ({ sketch with room } : Sketch).Laid side
      { pool with shelf := { pool.shelf with room } } :=
  ⟨laid.active, laid.retired, rfl, laid.vacancies, laid.hint⟩

/-! ## A retired slab loses an item -/

/-- The sketch with one item less in a retired slab. -/
def drained
    (sketch : Sketch)
    (twin : Twin) :
    Sketch :=
  { sketch with
    retired :=
      { twin with live := twin.live - 1 } :: sketch.retired.erase twin }

/-- The sketch without a retired slab. -/
def relieved
    (sketch : Sketch)
    (twin : Twin) :
    Sketch :=
  { sketch with retired := sketch.retired.erase twin }

section Retired

variable {side : Plot → Nat} {pool : Pool config} {twin : Twin}
variable {position : Nat}

/-- When a slab goes from the pool and from the sketch, the others stay. -/
theorem Laid.eraseIdx_perm
    (laid : sketch.Laid side pool)
    (member : twin ∈ sketch.retired)
    (found : pool.shelf.retired[position]? = some (twin.slab config.geometry side)) :
    (pool.shelf.retired.eraseIdx position).Perm
      ((sketch.retired.erase twin).map (Twin.slab config.geometry side)) := by
  rcases List.getElem?_eq_some_iff.1 found with ⟨inside, same⟩
  have apart := List.getElem_cons_eraseIdx_perm inside
  rw [same] at apart
  have others := laid.retired.trans ((List.perm_cons_erase member).map _)
  exact (apart.trans others).cons_inv

theorem Laid.drained
    (laid : sketch.Laid side pool)
    (member : twin ∈ sketch.retired)
    (found : pool.shelf.retired[position]? = some (twin.slab config.geometry side)) :
    (sketch.drained twin).Laid side
      (pool.drained position (twin.slab config.geometry side)) where
  active := laid.active
  retired := by
    rcases List.getElem?_eq_some_iff.1 found with ⟨inside, -⟩
    exact
      (List.set_perm_cons_eraseIdx inside _).trans
        ((laid.eraseIdx_perm member found).cons _)
  room := laid.room
  vacancies := laid.vacancies
  hint := laid.hint

theorem Laid.relieved
    (laid : sketch.Laid side pool)
    (member : twin ∈ sketch.retired)
    (found : pool.shelf.retired[position]? = some (twin.slab config.geometry side)) :
    (sketch.relieved twin).Laid side (pool.relieved position) where
  active := laid.active
  retired := laid.eraseIdx_perm member found
  room := laid.room
  vacancies := laid.vacancies
  hint := laid.hint

theorem Has.drained
    {spot : Spot}
    (has : sketch.Has spot)
    (member : twin ∈ sketch.retired) :
    (sketch.drained twin).Has spot := by
  have others := (List.perm_cons_erase member).map Twin.plot
  refine ⟨?_, has.inside⟩
  have stands := has.stands
  rw [slabs, List.map_append, List.mem_append, others.mem_iff] at stands
  rw [slabs, List.map_append, List.mem_append]
  exact stands

/-- A slot of any other slab is one of the sketch still. -/
theorem Has.relieved
    {spot : Spot}
    (has : sketch.Has spot)
    (member : twin ∈ sketch.retired)
    (elsewhere : twin.plot ≠ spot.plot) :
    (sketch.relieved twin).Has spot := by
  have others := (List.perm_cons_erase member).map Twin.plot
  refine ⟨?_, has.inside⟩
  have stands := has.stands
  rw [slabs, List.map_append, List.mem_append, others.mem_iff, List.map_cons,
    List.mem_cons] at stands
  rw [slabs, List.map_append, List.mem_append]
  rcases stands with active | here | retired
  · exact Or.inl active
  · exact (elsewhere here.symm).elim
  · exact Or.inr retired

/-- The sketch after an item of a retired slab was given back. -/
def lessened
    (sketch : Sketch)
    (twin : Twin) :
    Sketch :=
  if 1 < twin.live then sketch.drained twin else sketch.relieved twin

/-- A slot is one of the sketch still, unless its slab lost its last item. -/
theorem Has.lessened
    {spot : Spot}
    (has : sketch.Has spot)
    (member : twin ∈ sketch.retired)
    (kept : twin.live ≤ 1 → twin.plot ≠ spot.plot) :
    (sketch.lessened twin).Has spot := by
  rw [Sketch.lessened]
  split
  case isTrue several => exact has.drained member
  case isFalse single =>
    exact has.relieved member (kept (Nat.le_of_not_lt single))

end Retired

/-! ## A new slab -/

/-- The retired slabs beside a new one. -/
def demoted (sketch : Sketch) : List Twin :=
  match sketch.active with
  | none => sketch.retired
  | some previous =>
    if sketch.inUse = ∅ then
      sketch.retired
    else
      { previous with live := sketch.inUse.card } :: sketch.retired

/-- The sketch with a new active slab. -/
def renewed
    (config : Config)
    (sketch : Sketch)
    (plot : Plot)
    (room : Nat) :
    Sketch where
  active := some ⟨plot, 0⟩
  retired := sketch.demoted
  room := room
  vacancies := .blank plot.capacity
  hint := config.capacityAfter plot.capacity

theorem Laid.demoted_perm
    {side : Plot → Nat}
    {pool : Pool config}
    (laid : sketch.Laid side pool)
    {before after : List Block}
    {retired : List (Slab config.geometry)}
    {events : List Event}
    (demotion : pool.Demotion before retired after events) :
    retired.Perm (sketch.demoted.map (Twin.slab config.geometry side)) := by
  cases serving : sketch.active with
  | none =>
    have inactive : pool.shelf.active = none := by
      rw [laid.active, serving, Option.map_none]
    rw [demoted, serving]
    cases demotion with
    | absent => exact laid.retired
    | released active => cases inactive.symm.trans active
    | retired active => cases inactive.symm.trans active
  | some twin =>
    have active := laid.serving serving
    rw [demoted, serving, ← laid.inUse_eq]
    dsimp only
    cases demotion with
    | absent inactive => cases active.symm.trans inactive
    | released _ unused =>
      rw [if_pos unused]
      exact laid.retired
    | retired same used inside ordered =>
      cases active.symm.trans same
      rw [if_neg used.ne_empty]
      exact (List.perm_insertIdx _ _ inside).trans (laid.retired.cons _)

/-- A growth of the pool is one of the sketch. -/
theorem Laid.renewed
    {σ : Type}
    [Provider σ]
    {side : Plot → Nat}
    {pool grown : Pool config}
    (laid : sketch.Laid side pool)
    {required : Nat}
    {memory after : Memory σ}
    (growth : pool.Growth required memory ⟨.ok (), grown, after⟩)
    {plot : Plot}
    (capacity : plot.capacity = max required sketch.hint)
    (base : grown.shelf.active.map Slab.base = some (side plot)) :
    (sketch.renewed config plot grown.shelf.room).Laid side grown := by
  cases growth with
  | @replaced slab retired events room _ bounded wide untouched granted
      demotion fits journal =>
    have large : slab.capacity = plot.capacity := by
      rw [wide, capacity, Pool.grownCapacity, laid.hint]
    rcases slab with ⟨placed, slots, live⟩
    cases base
    cases untouched
    cases large
    exact ⟨rfl, laid.demoted_perm demotion, rfl, rfl, rfl⟩

/-- A slot of a slab that is not given back is one of the sketch still. -/
theorem Has.renewed
    {spot : Spot}
    (has : sketch.Has spot)
    (kept :
      ∀ twin, sketch.active = some twin → twin.plot = spot.plot →
        sketch.inUse.Nonempty)
    (config : Config)
    (plot : Plot)
    (room : Nat) :
    (sketch.renewed config plot room).Has spot := by
  refine ⟨?_, has.inside⟩
  suffices stays : spot.plot ∈ sketch.demoted.map Twin.plot by
    rw [slabs, List.map_append]
    exact List.mem_append_right _ stays
  rcases has.cases with ⟨twin, same, serving | retired⟩
  · rw [demoted, serving]
    dsimp only
    rw [if_neg (kept twin serving same).ne_empty, ← same]
    exact List.mem_cons_self
  · have earlier : spot.plot ∈ sketch.retired.map Twin.plot := by
      rw [← same]
      exact List.mem_map_of_mem retired
    rw [demoted]
    split
    · exact earlier
    · split
      · exact earlier
      · exact List.mem_cons_of_mem _ earlier

/-- What a growth can make of a sketch, whether it is refused or not. -/
inductive Grows
    (config : Config)
    (sketch : Sketch) :
    Sketch → Prop where
  /-- Room on the shelf was granted at most. -/
  | kept (room : Nat) : Grows config sketch { sketch with room }
  /-- There is a new active slab. -/
  | renewed (plot : Plot) (room : Nat) :
      Grows config sketch (sketch.renewed config plot room)

theorem Has.grows
    {spot : Spot}
    (has : sketch.Has spot)
    (kept :
      ∀ twin, sketch.active = some twin → twin.plot = spot.plot →
        sketch.inUse.Nonempty)
    {next : Sketch}
    (grows : sketch.Grows config next) :
    next.Has spot := by
  cases grows with
  | kept room => exact ⟨has.stands, has.inside⟩
  | renewed plot room => exact has.renewed kept config plot room

/-! ## Clearing and destroying -/

/-- The sketch without items, of which only the active slab is kept. -/
def cleared (sketch : Sketch) : Sketch :=
  { sketch with
    active := sketch.active.map fun active => { active with live := 0 }
    retired := []
    vacancies := sketch.vacancies.wiped }

theorem Laid.cleared
    {σ : Type}
    {side : Plot → Nat}
    {pool : Pool config}
    (laid : sketch.Laid side pool)
    (memory : Memory σ) :
    sketch.cleared.Laid side (pool.clear memory).1 where
  active := by
    rw [Pool.shelf_clear, laid.active, Sketch.cleared, Option.map_map,
      Option.map_map]
    rfl
  retired := .nil
  room := laid.room
  vacancies := congrArg Vacancies.wiped laid.vacancies
  hint := laid.hint

/-- The sketch without slabs, if there were any. -/
def razed
    (config : Config)
    (sketch : Sketch) :
    Sketch :=
  if sketch.slabs = [] then sketch else idle config

theorem Laid.razed
    {σ : Type}
    {side : Plot → Nat}
    {pool : Pool config}
    (laid : sketch.Laid side pool)
    {memory : Memory σ}
    (balanced : pool.Balanced memory) :
    (sketch.razed config).Laid side (pool.destroy memory).1 := by
  have none_iff : sketch.slabs = [] ↔ pool.shelf.slabs = [] := by
    rw [← List.length_eq_zero_iff, ← List.length_eq_zero_iff,
      laid.slabs_perm.length_eq, List.length_map]
  rw [Sketch.razed]
  rcases balanced.destroy_cases with ⟨none, same⟩ | ⟨some, gone, -⟩
  · rw [if_pos (none_iff.2 none), same]
    exact laid
  · rw [if_neg (none_iff.not.2 some), gone]
    exact laid_idle side

end Sketch

end SlabPool
