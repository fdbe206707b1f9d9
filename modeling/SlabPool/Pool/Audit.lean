import SlabPool.Pool.Basic

/-!
# The audit

After each growth a pool looks over its own records: that marks and vacancies
agree, that no vacancy lies at the top, that retired slabs are in order, apart
and not empty, and that the next capacity is within the limit.  The audit
answers with the first rule that is broken.
-/

namespace SlabPool

/-- The pairs of neighbours in a list. -/
def neighbours {α : Type} (entries : List α) : List (α × α) :=
  entries.zip entries.tail

namespace Pool

variable {config : Config}

/-- Two neighbouring vacancies are one. -/
def repeatedVacancy? : Nat × Nat → Option Breach
  | (lower, upper) =>
    if lower = upper then some (.vacancyRepeated lower) else none

/-- Two neighbouring retired slabs are out of order or overlap. -/
def misplacedSlabs? :
    Slab config.geometry × Slab config.geometry → Option Breach
  | (lower, upper) =>
    if upper.base ≤ lower.base then
      some .retiredUnsorted
    else if lower.covers upper.base then
      some .retiredOverlap
    else
      none

/-- A retired slab has no items. -/
def emptySlab? (slab : Slab config.geometry) : Option Breach :=
  if slab.live = 0 then some .retiredEmpty else none

variable (pool : Pool config)

/-- Marks and recorded vacancies differ in number. -/
def disagreeingMarks? : Option Breach :=
  let marked := pool.vacancies.marks.count
  if marked = pool.vacancies.size then
    none
  else
    some (.marksDisagree marked pool.vacancies.size)

/-- The highest vacancy is the slot below the mark, or above it. -/
def topVacancy? : Option Breach :=
  match pool.vacancies.ascending.getLast? with
  | none => none
  | some top =>
    if top + 1 < pool.highWater then
      none
    else
      some (.vacancyAtTop top pool.highWater)

/-- The hint exceeds the limit. -/
def excessiveHint? : Option Breach :=
  if pool.hint ≤ config.limit then none else some .hintAboveLimit

/-- The first rule that the records break. -/
def audit : Option Breach :=
  pool.disagreeingMarks?
    <|> (neighbours pool.vacancies.ascending).findSome? repeatedVacancy?
    <|> pool.topVacancy?
    <|> (neighbours pool.shelf.retired).findSome? misplacedSlabs?
    <|> pool.shelf.retired.findSome? emptySlab?
    <|> pool.excessiveHint?

end Pool

end SlabPool
