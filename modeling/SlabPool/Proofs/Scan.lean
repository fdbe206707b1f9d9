import SlabPool.Proofs.Lookup

/-!
# A look at every slot

`scan` finds the slab of an address by a look at every slot of every slab, the
active slab first.  It computes exactly and knows nothing of the order of the
slabs.  On an orderly shelf the lookup by bisection gives the same answer for
every address (`Orderly.locate_eq_scan`).
-/

namespace SlabPool

namespace Slab

variable {geometry : Geometry} {slab : Slab geometry} {address : Nat}

/-- The index of the slot that starts at the address, by a look at every slot. -/
def scan (slab : Slab geometry) (address : Nat) : Option Nat :=
  (List.range slab.capacity).find? fun index => slab.slotAt index = address

theorem scan_eq_some_iff
    {index : Nat} :
    slab.scan address = some index ↔
      index < slab.capacity ∧ address = slab.slotAt index := by
  constructor
  · intro found
    have seen := List.mem_of_find?_eq_some found
    have starts := List.find?_some found
    exact ⟨List.mem_range.1 seen, (of_decide_eq_true starts).symm⟩
  · rintro ⟨inside, rfl⟩
    rw [scan, List.find?_range_eq_some]
    refine ⟨decide_eq_true rfl, List.mem_range.2 inside, ?_⟩
    intro earlier below
    rw [Bool.not_eq_true', decide_eq_false_iff_not]
    intro same
    exact Nat.ne_of_lt below (slab.slotAt_injective same)

theorem isSome_scan_iff :
    (slab.scan address).isSome ↔ slab.Starts address := by
  rw [Option.isSome_iff_exists]
  exact exists_congr fun index => scan_eq_some_iff

end Slab

namespace Shelf

variable {geometry : Geometry} {shelf : Shelf geometry} {address : Nat}

/-- The slab in which a slot starts at the address, by a look at every slot. -/
def scan (shelf : Shelf geometry) (address : Nat) : Option Place :=
  match shelf.active.bind fun active => active.scan address with
  | some index => some (.active index)
  | none =>
    (shelf.retired.findIdx? fun slab => (slab.scan address).isSome).map
      .retired

theorem scan_of_outside
    (outside :
      ∀ active, shelf.active = some active → ¬ active.Starts address) :
    shelf.scan address =
      (shelf.retired.findIdx? fun slab => (slab.scan address).isSome).map
        .retired := by
  have unseen :
      (shelf.active.bind fun active => active.scan address) = none := by
    rw [Option.bind_eq_none_iff]
    intro active serving
    rw [← Option.not_isSome_iff_eq_none, Slab.isSome_scan_iff]
    exact outside active serving
  rw [scan, unseen]

namespace Orderly

/-- Lookup by bisection agrees with a look at every slot. -/
theorem locate_eq_scan
    (orderly : shelf.Orderly)
    (address : Nat) :
    shelf.locate address = shelf.scan address := by
  cases located : shelf.locate address with
  | none =>
    have nowhere := orderly.locate_eq_none_iff.1 located
    rw [scan_of_outside fun active serving =>
      nowhere active (mem_slabs.2 (Or.inl serving))]
    have unseen :
        (shelf.retired.findIdx? fun slab => (slab.scan address).isSome) =
          none := by
      rw [List.findIdx?_eq_none_iff]
      intro slab retired
      rw [← Bool.not_eq_true, Slab.isSome_scan_iff]
      exact nowhere slab (mem_slabs.2 (Or.inr retired))
    rw [unseen]
    rfl
  | some place =>
    cases place with
    | active index =>
      rcases orderly.locate_eq_active_iff.1 located with
        ⟨active, serving, starts⟩
      rw [scan, serving, Option.bind_some, Slab.scan_eq_some_iff.2 starts]
    | retired position =>
      rcases orderly.locate_eq_retired_iff.1 located with
        ⟨slab, found, starts⟩
      have member := List.mem_of_getElem? found
      rw [scan_of_outside fun active serving =>
        orderly.not_starts_of_retired serving member starts]
      have seen :
          (shelf.retired.findIdx? fun slab => (slab.scan address).isSome) =
            some position := by
        rcases List.getElem?_eq_some_iff.1 found with ⟨inside, same⟩
        rw [List.findIdx?_eq_some_iff_getElem]
        refine ⟨inside, ?_, ?_⟩
        · rw [same, Slab.isSome_scan_iff]
          exact starts
        · intro earlier below
          rw [Slab.isSome_scan_iff]
          intro other
          have otherFound :=
            List.getElem?_eq_getElem (Nat.lt_trans below inside)
          exact orderly.outside_of_ne found otherFound (Nat.ne_of_gt below)
            starts.mem_extent other.mem_extent
      rw [seen]
      rfl

end Orderly

end Shelf

end SlabPool
