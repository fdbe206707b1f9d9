import SlabPool.Pool.Audit
import SlabPool.Proofs.Invariant

/-!
# A sound pool passes its audit

Each rule of the audit follows from one part of the invariant, so that an audit
of a sound pool finds nothing (`Sound.audit_eq_none`).
-/

namespace SlabPool

/-- Neighbours in a list stand in every relation that all its pairs stand in. -/
theorem related_of_mem_neighbours
    {α : Type}
    {relation : α → α → Prop}
    {entries : List α}
    (related : entries.Pairwise relation)
    {lower upper : α}
    (member : (lower, upper) ∈ neighbours entries) :
    relation lower upper := by
  induction entries with
  | nil => cases member
  | cons first rest ih =>
    rw [List.pairwise_cons] at related
    cases rest with
    | nil => cases member
    | cons second rest =>
      have split : (lower, upper) = (first, second) ∨
          (lower, upper) ∈ neighbours (second :: rest) :=
        List.mem_cons.1 member
      rcases split with same | later
      · cases same
        exact related.1 _ List.mem_cons_self
      · exact ih related.2 later

namespace Pool.Sound

variable {config : Config} {pool : Pool config}

theorem disagreeingMarks?_eq_none
    (sound : pool.Sound) :
    pool.disagreeingMarks? = none := by
  rw [disagreeingMarks?]
  exact if_pos sound.settled.count_eq

theorem ascending_vacancies
    (sound : pool.Sound) :
    pool.vacancies.ascending.Pairwise (· < ·) :=
  List.pairwise_reverse.2 sound.settled.descending

theorem repeatedVacancy?_eq_none
    (sound : pool.Sound) :
    (neighbours pool.vacancies.ascending).findSome? repeatedVacancy? =
      none := by
  rw [List.findSome?_eq_none_iff]
  rintro ⟨lower, upper⟩ member
  have below := related_of_mem_neighbours sound.ascending_vacancies member
  exact if_neg (Nat.ne_of_lt below)

theorem topVacancy?_eq_none
    (sound : pool.Sound) :
    pool.topVacancy? = none := by
  rw [topVacancy?, Vacancies.ascending, List.getLast?_reverse]
  cases found : pool.vacancies.stack.head? with
  | none => rfl
  | some top =>
    have buried := sound.settled.buried top (List.mem_of_head? found)
    exact if_pos buried

theorem misplacedSlabs?_eq_none
    (sound : pool.Sound) :
    (neighbours pool.shelf.retired).findSome? misplacedSlabs? = none := by
  rw [List.findSome?_eq_none_iff]
  rintro ⟨lower, upper⟩ member
  have below :=
    related_of_mem_neighbours
      (List.pairwise_map.1 sound.orderly.ascending) member
  have members := List.of_mem_zip member
  have lowerMember := members.1
  have upperMember := List.mem_of_mem_tail members.2
  have uncovered : ¬ lower.covers upper.base = true := by
    intro covered
    rw [Slab.covers_iff (sound.orderly.sited_retired lowerMember),
      Slab.mem_extent_block] at covered
    have ends := sound.orderly.finish_le_base lowerMember upperMember below
    omega
  simp only [misplacedSlabs?, if_neg (Nat.not_le_of_lt below), if_neg uncovered]

theorem emptySlab?_eq_none
    (sound : pool.Sound) :
    pool.shelf.retired.findSome? emptySlab? = none := by
  rw [List.findSome?_eq_none_iff]
  intro slab member
  have occupied := (sound.orderly.counted slab member).1
  exact if_neg (Nat.ne_of_gt occupied)

theorem excessiveHint?_eq_none
    (sound : pool.Sound) :
    pool.excessiveHint? = none :=
  if_pos sound.hint_le_limit

/-- The audit of a sound pool finds no broken rule. -/
theorem audit_eq_none
    (sound : pool.Sound) :
    pool.audit = none := by
  rw [audit, sound.disagreeingMarks?_eq_none, sound.repeatedVacancy?_eq_none,
    sound.topVacancy?_eq_none, sound.misplacedSlabs?_eq_none,
    sound.emptySlab?_eq_none, sound.excessiveHint?_eq_none]
  rfl

end Pool.Sound

end SlabPool
