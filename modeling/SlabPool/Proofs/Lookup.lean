import Mathlib.Data.List.Nodup
import SlabPool.Proofs.Addressing
import SlabPool.Shelf

/-!
# Finding the slab of an address

A shelf is `Orderly` if its slabs share no address and the retired ones stand
in the order of their addresses.  Then bisection finds a slab exactly if a slot
of it starts at the address: `locate_eq_active_iff`, `locate_eq_retired_iff`
and `locate_eq_none_iff` agree with a look at every slab in turn.
-/

namespace SlabPool.Shelf

variable {geometry : Geometry} {shelf : Shelf geometry}

/-- The slabs are apart, and the retired ones are in order and in use. -/
structure Orderly (shelf : Shelf geometry) : Prop where
  sited : ∀ slab ∈ shelf.slabs, slab.Sited
  apart : (shelf.slabs.map Slab.block).Pairwise Block.Apart
  ascending : (shelf.retired.map Slab.base).Pairwise (· < ·)
  counted : ∀ slab ∈ shelf.retired, 0 < slab.live ∧ slab.live ≤ slab.capacity
  led : shelf.active = none → shelf.retired = []

@[simp]
theorem mem_slabs {slab : Slab geometry} :
    slab ∈ shelf.slabs ↔ shelf.active = some slab ∨ slab ∈ shelf.retired := by
  simp [slabs]

theorem slabs_of_active
    {active : Slab geometry}
    (serving : shelf.active = some active) :
    shelf.slabs = active :: shelf.retired := by
  simp [slabs, serving]

namespace Orderly

theorem sited_active
    (orderly : shelf.Orderly)
    {active : Slab geometry}
    (serving : shelf.active = some active) :
    active.Sited :=
  orderly.sited active (mem_slabs.2 (Or.inl serving))

theorem sited_retired
    (orderly : shelf.Orderly)
    {slab : Slab geometry}
    (member : slab ∈ shelf.retired) :
    slab.Sited :=
  orderly.sited slab (mem_slabs.2 (Or.inr member))

theorem active_apart
    (orderly : shelf.Orderly)
    {active slab : Slab geometry}
    (serving : shelf.active = some active)
    (member : slab ∈ shelf.retired) :
    Block.Apart active.block slab.block := by
  have apart := orderly.apart
  rw [slabs_of_active serving, List.map_cons, List.pairwise_cons] at apart
  exact apart.1 slab.block (List.mem_map_of_mem member)

/-- The room for retired slabs has no part in their order. -/
theorem withRoom
    (orderly : shelf.Orderly)
    (room : Nat) :
    ({ shelf with room } : Shelf geometry).Orderly :=
  ⟨orderly.sited, orderly.apart, orderly.ascending, orderly.counted,
    orderly.led⟩

/-- The mark of the active slab has no part in where the slabs lie. -/
theorem withMark
    (orderly : shelf.Orderly)
    {active : Slab geometry}
    (serving : shelf.active = some active)
    (mark : Nat) :
    ({ shelf with active := some { active with live := mark } } :
      Shelf geometry).Orderly where
  sited slab member := by
    rcases mem_slabs.1 member with same | retired
    · cases same
      exact (orderly.sited_active serving).withLive mark
    · exact orderly.sited_retired retired
  apart := by
    have apart := orderly.apart
    rw [slabs_of_active serving] at apart
    exact apart
  ascending := orderly.ascending
  counted := orderly.counted
  led absent := by cases absent

/-- Retired slabs with the same base are the same. -/
theorem eq_of_base_eq
    (orderly : shelf.Orderly)
    {left right : Slab geometry}
    (leftMember : left ∈ shelf.retired)
    (rightMember : right ∈ shelf.retired)
    (equal : left.base = right.base) :
    left = right := by
  have distinct : (shelf.retired.map Slab.base).Nodup :=
    orderly.ascending.imp fun below => Nat.ne_of_lt below
  exact List.inj_on_of_nodup_map distinct leftMember rightMember equal

/-- An address lies in at most one slab. -/
theorem eq_of_mem_extent
    (orderly : shelf.Orderly)
    {left right : Slab geometry}
    (leftMember : left ∈ shelf.slabs)
    (rightMember : right ∈ shelf.slabs)
    {address : Nat}
    (inLeft : address ∈ left.block.extent)
    (inRight : address ∈ right.block.extent) :
    left = right := by
  have separate
      {active slab : Slab geometry}
      (serving : shelf.active = some active)
      (member : slab ∈ shelf.retired)
      (inActive : address ∈ active.block.extent)
      (inSlab : address ∈ slab.block.extent) :
      False :=
    Finset.disjoint_left.1
      (orderly.active_apart serving member).disjoint inActive inSlab
  rcases mem_slabs.1 leftMember with leftServes | leftRetired
  · rcases mem_slabs.1 rightMember with rightServes | rightRetired
    · exact Option.some.inj (leftServes.symm.trans rightServes)
    · exact (separate leftServes rightRetired inLeft inRight).elim
  · rcases mem_slabs.1 rightMember with rightServes | rightRetired
    · exact (separate rightServes leftRetired inRight inLeft).elim
    · have sameBlock :=
        Block.eq_of_mem_extent orderly.apart
          (List.mem_map_of_mem leftMember)
          (List.mem_map_of_mem rightMember) inLeft inRight
      exact orderly.eq_of_base_eq leftRetired rightRetired
        (congrArg Block.base sameBlock)

end Orderly

/-! ## Bisection of the retired slabs -/

theorem leading_le (test : Slab geometry → Bool) :
    shelf.leading test ≤ shelf.retired.length :=
  Bisection.bisect_le _ (Nat.zero_le _)

/-- What the bisection asks of a position. -/
def passes
    (shelf : Shelf geometry)
    (test : Slab geometry → Bool)
    (position : Nat) :
    Bool :=
  match shelf.retired[position]? with
  | some slab => test slab
  | none => false

theorem leading_eq (test : Slab geometry → Bool) :
    shelf.leading test =
      bisect (shelf.passes test) 0 shelf.retired.length :=
  rfl

theorem passes_eq
    {position : Nat}
    {slab : Slab geometry}
    (found : shelf.retired[position]? = some slab)
    (test : Slab geometry → Bool) :
    shelf.passes test position = test slab := by
  rw [passes, found]

/-- If a test that fails never holds later, it holds just of the leading slabs. -/
theorem lt_leading_iff
    {test : Slab geometry → Bool}
    (falling :
      shelf.retired.Pairwise fun lower upper =>
        test upper = true → test lower = true)
    {position : Nat}
    {slab : Slab geometry}
    (found : shelf.retired[position]? = some slab) :
    position < shelf.leading test ↔ test slab = true := by
  have inside : position < shelf.retired.length :=
    (List.getElem?_eq_some_iff.1 found).1
  have ordered :
      Bisection.Falling (shelf.passes test) shelf.retired.length := by
    intro first second before bounded holds
    rcases Nat.eq_or_lt_of_le before with rfl | earlier
    · exact holds
    · have inRange : first < shelf.retired.length :=
        Nat.lt_trans earlier bounded
      rw [passes_eq (List.getElem?_eq_getElem bounded) test] at holds
      rw [passes_eq (List.getElem?_eq_getElem inRange) test]
      exact List.pairwise_iff_getElem.1 falling first second
        inRange bounded earlier holds
  rw [leading_eq]
  constructor
  · intro below
    rw [← passes_eq found test]
    exact Bisection.holds_below_bisect ordered (Nat.le_refl _)
      (Nat.zero_le _) below
  · intro holds
    by_contra above
    have fails : shelf.passes test position = false :=
      Bisection.fails_from_bisect ordered (Nat.le_refl _)
        inside (Nat.le_of_not_lt above)
    rw [passes_eq found test, holds] at fails
    cases fails

namespace Orderly

theorem base_lt_of_lt
    (orderly : shelf.Orderly)
    {lower upper : Nat}
    (before : lower < upper)
    {first second : Slab geometry}
    (firstFound : shelf.retired[lower]? = some first)
    (secondFound : shelf.retired[upper]? = some second) :
    first.base < second.base := by
  rcases List.getElem?_eq_some_iff.1 firstFound with ⟨firstInside, rfl⟩
  rcases List.getElem?_eq_some_iff.1 secondFound with ⟨secondInside, rfl⟩
  have sorted := List.pairwise_map.1 orderly.ascending
  exact List.pairwise_iff_getElem.1 sorted lower upper
    firstInside secondInside before

/-- An address lies in at most one retired slab, at one position. -/
theorem outside_of_ne
    (orderly : shelf.Orderly)
    {position index : Nat}
    {slab other : Slab geometry}
    (found : shelf.retired[position]? = some slab)
    (otherFound : shelf.retired[index]? = some other)
    (differ : position ≠ index)
    {address : Nat}
    (inside : address ∈ slab.block.extent) :
    address ∉ other.block.extent := by
  intro insideOther
  have same : slab = other :=
    orderly.eq_of_mem_extent
      (mem_slabs.2 (Or.inr (List.mem_of_getElem? found)))
      (mem_slabs.2 (Or.inr (List.mem_of_getElem? otherFound)))
      inside insideOther
  subst same
  rcases Nat.lt_or_gt_of_ne differ with before | after
  · exact Nat.lt_irrefl _ (orderly.base_lt_of_lt before found otherFound)
  · exact Nat.lt_irrefl _ (orderly.base_lt_of_lt after otherFound found)

/-- An address in the active slab lies in no retired one. -/
theorem outside_of_active
    (orderly : shelf.Orderly)
    {active slab : Slab geometry}
    (serving : shelf.active = some active)
    (retired : slab ∈ shelf.retired)
    {address : Nat}
    (inside : address ∈ active.block.extent) :
    address ∉ slab.block.extent :=
  Finset.disjoint_left.1
    (orderly.active_apart serving retired).disjoint inside

/-- No slot of a retired slab is one of the active slab. -/
theorem not_starts_of_retired
    (orderly : shelf.Orderly)
    {active slab : Slab geometry}
    (serving : shelf.active = some active)
    (retired : slab ∈ shelf.retired)
    {address : Nat}
    (starts : slab.Starts address) :
    ¬ active.Starts address := by
  intro startsActive
  exact
    orderly.outside_of_active serving retired startsActive.mem_extent
      starts.mem_extent

/-- A test by a bound on the base falls along the retired slabs. -/
theorem falling_of_base
    (orderly : shelf.Orderly)
    {test : Slab geometry → Bool}
    (antitone :
      ∀ lower upper : Slab geometry,
        lower.base < upper.base → test upper = true → test lower = true) :
    shelf.retired.Pairwise fun lower upper =>
      test upper = true → test lower = true :=
  (List.pairwise_map.1 orderly.ascending).imp fun {lower upper} below =>
    antitone lower upper below

/-- Bisection counts the retired slabs that start below an address. -/
theorem lt_leading_base_iff
    (orderly : shelf.Orderly)
    {index address : Nat}
    {slab : Slab geometry}
    (found : shelf.retired[index]? = some slab) :
    (index < shelf.leading fun slab => decide (slab.base < address)) ↔
      slab.base < address := by
  have falling :
      shelf.retired.Pairwise fun lower upper =>
        decide (upper.base < address) = true →
          decide (lower.base < address) = true :=
    orderly.falling_of_base fun lower upper below holds => by
      rw [decide_eq_true_iff] at holds ⊢
      omega
  rw [lt_leading_iff falling found, decide_eq_true_iff]

/-- A retired slab ends where a higher one starts, or before. -/
theorem finish_le_base
    (orderly : shelf.Orderly)
    {lower upper : Slab geometry}
    (lowerMember : lower ∈ shelf.retired)
    (upperMember : upper ∈ shelf.retired)
    (below : lower.base < upper.base) :
    lower.base + lower.bytes ≤ upper.base := by
  have positive := Slab.bytes_pos (orderly.sited_retired upperMember)
  have differ : lower.block ≠ upper.block := fun same =>
    Nat.ne_of_lt below (congrArg Block.base same)
  have apart : Block.Apart lower.block upper.block :=
    orderly.apart.forall
      (List.mem_map_of_mem (mem_slabs.2 (Or.inr lowerMember)))
      (List.mem_map_of_mem (mem_slabs.2 (Or.inr upperMember))) differ
  rcases apart with before | after
  · exact before
  · change upper.base + upper.bytes ≤ lower.base at after
    omega

/-- The slab that covers an address is the last that starts at or below it. -/
theorem leading_of_mem_extent
    (orderly : shelf.Orderly)
    {position address : Nat}
    {slab : Slab geometry}
    (found : shelf.retired[position]? = some slab)
    (inside : address ∈ slab.block.extent) :
    (shelf.leading fun slab => decide (slab.base ≤ address)) =
      position + 1 := by
  have falling :
      shelf.retired.Pairwise fun lower upper =>
        decide (upper.base ≤ address) = true →
          decide (lower.base ≤ address) = true :=
    orderly.falling_of_base fun lower upper below holds => by
      rw [decide_eq_true_iff] at holds ⊢
      omega
  rw [Slab.mem_extent_block] at inside
  have leads := (lt_leading_iff falling found).2 (decide_eq_true inside.1)
  by_contra differs
  -- The next slab would start at or below the address, but above the end.
  have inRange : position + 1 < shelf.retired.length := by
    have bounded := shelf.leading_le fun slab => decide (slab.base ≤ address)
    omega
  have nextFound := List.getElem?_eq_getElem inRange
  have nextPasses := (lt_leading_iff falling nextFound).1 (by omega)
  have nextBelow := of_decide_eq_true nextPasses
  have ascends := orderly.base_lt_of_lt (Nat.lt_succ_self _) found nextFound
  have ends :=
    orderly.finish_le_base (List.mem_of_getElem? found)
      (List.mem_of_getElem? nextFound) ascends
  omega

/-! ## Lookup is exact -/

theorem locateRetired_eq_some_iff
    (orderly : shelf.Orderly)
    {address : Nat}
    {place : Place} :
    shelf.locateRetired address = some place ↔
      ∃ position slab, place = .retired position ∧
        shelf.retired[position]? = some slab ∧ slab.Starts address := by
  constructor
  · intro located
    unfold locateRetired at located
    split at located
    · cases located
    · rename_i position counted
      split at located
      · cases located
      · rename_i candidate found
        split at located
        · cases located
        · rename_i index indexed
          cases located
          have sited := orderly.sited_retired (List.mem_of_getElem? found)
          exact
            ⟨position, candidate, rfl, found,
              index, (Slab.indexOf?_eq_some_iff sited).1 indexed⟩
  · rintro ⟨position, slab, rfl, found, starts⟩
    have sited := orderly.sited_retired (List.mem_of_getElem? found)
    rcases (Slab.exists_indexOf?_iff sited).2 starts with ⟨index, indexed⟩
    have counted := orderly.leading_of_mem_extent found starts.mem_extent
    simp only [locateRetired, counted, found, indexed]

theorem locate_eq_active_iff
    (orderly : shelf.Orderly)
    {address index : Nat} :
    shelf.locate address = some (.active index) ↔
      ∃ active, shelf.active = some active ∧
        index < active.capacity ∧ address = active.slotAt index := by
  unfold locate
  constructor
  · intro located
    split at located
    · cases located
    · rename_i active serving
      split at located
      · rcases Option.map_eq_some_iff.1 located with ⟨found, indexed, same⟩
        cases same
        have sited := orderly.sited_active serving
        exact ⟨active, serving, (Slab.indexOf?_eq_some_iff sited).1 indexed⟩
      · rcases orderly.locateRetired_eq_some_iff.1 located with
          ⟨position, slab, impossible, -⟩
        cases impossible
  · rintro ⟨active, serving, inside, rfl⟩
    have sited := orderly.sited_active serving
    have member := Slab.Starts.mem_extent ⟨index, inside, rfl⟩
    have covered := (Slab.covers_iff sited).2 member
    have indexed := (Slab.indexOf?_eq_some_iff sited).2 ⟨inside, rfl⟩
    simp only [serving, covered, if_true, indexed, Option.map_some]

theorem locate_eq_retired_iff
    (orderly : shelf.Orderly)
    {address position : Nat} :
    shelf.locate address = some (.retired position) ↔
      ∃ slab, shelf.retired[position]? = some slab ∧ slab.Starts address := by
  unfold locate
  constructor
  · intro located
    split at located
    · cases located
    · split at located
      · rcases Option.map_eq_some_iff.1 located with ⟨found, -, same⟩
        cases same
      · rcases orderly.locateRetired_eq_some_iff.1 located with
          ⟨found, slab, same, listed, starts⟩
        cases same
        exact ⟨slab, listed, starts⟩
  · rintro ⟨slab, found, starts⟩
    have member := List.mem_of_getElem? found
    cases serving : shelf.active with
    | none =>
      rw [orderly.led serving] at member
      cases member
    | some active =>
      have uncovered : ¬ active.covers address = true := by
        rw [Slab.covers_iff (orderly.sited_active serving)]
        intro inActive
        exact Finset.disjoint_left.1
          (orderly.active_apart serving member).disjoint
          inActive starts.mem_extent
      simp only [if_neg uncovered]
      exact orderly.locateRetired_eq_some_iff.2
        ⟨position, slab, rfl, found, starts⟩

theorem locate_eq_none_iff
    (orderly : shelf.Orderly)
    {address : Nat} :
    shelf.locate address = none ↔
      ∀ slab ∈ shelf.slabs, ¬ slab.Starts address := by
  constructor
  · intro nowhere slab member starts
    rcases mem_slabs.1 member with serving | retired
    · rcases starts with ⟨index, inside, rfl⟩
      have located :=
        orderly.locate_eq_active_iff.2 ⟨slab, serving, inside, rfl⟩
      rw [nowhere] at located
      cases located
    · rcases List.mem_iff_getElem?.1 retired with ⟨position, found⟩
      have located :=
        orderly.locate_eq_retired_iff.2 ⟨slab, found, starts⟩
      rw [nowhere] at located
      cases located
  · intro nowhere
    cases located : shelf.locate address with
    | none => rfl
    | some place =>
      cases place with
      | active index =>
        rcases orderly.locate_eq_active_iff.1 located with
          ⟨active, serving, inside, same⟩
        exact (nowhere active (mem_slabs.2 (Or.inl serving))
          ⟨index, inside, same⟩).elim
      | retired position =>
        rcases orderly.locate_eq_retired_iff.1 located with
          ⟨slab, found, starts⟩
        exact (nowhere slab
          (mem_slabs.2 (Or.inr (List.mem_of_getElem? found))) starts).elim

end Orderly

end SlabPool.Shelf
