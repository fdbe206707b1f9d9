/-!
# Bisection

`bisect` finds where a test that holds at first and fails from some place on
changes its answer, by looking at the middle of what is left.

`bisect_le`, `le_bisect`, `holds_below_bisect` and `fails_from_bisect` say that
the answer is that place.
-/

namespace SlabPool

/-- The first place from `low` on, and before `high`, where the test fails. -/
def bisect
    (test : Nat → Bool)
    (low high : Nat) :
    Nat :=
  if low < high then
    let middle := (low + high) / 2
    if test middle then
      bisect test (middle + 1) high
    else
      bisect test low middle
  else
    low
termination_by high - low

namespace Bisection

/-- The test, once it fails, fails from there on. -/
def Falling (test : Nat → Bool) (bound : Nat) : Prop :=
  ∀ first second,
    first ≤ second → second < bound →
      test second = true → test first = true

theorem le_bisect
    (test : Nat → Bool)
    (low high : Nat) :
    low ≤ bisect test low high := by
  fun_induction bisect test low high with
  | case1 low high nonempty middle holds ih =>
    have lowMiddle : low ≤ middle := by omega
    omega
  | case2 low high nonempty middle fails ih => exact ih
  | case3 low high empty => exact Nat.le_refl low

theorem bisect_le
    (test : Nat → Bool)
    {low high : Nat}
    (ordered : low ≤ high) :
    bisect test low high ≤ high := by
  fun_induction bisect test low high with
  | case1 low high nonempty middle holds ih => exact ih (by omega)
  | case2 low high nonempty middle fails ih =>
    have middleHigh : middle ≤ high := by omega
    exact Nat.le_trans (ih (by omega)) middleHigh
  | case3 low high empty => exact ordered

/-- Below the answer the test holds. -/
theorem holds_below_bisect
    {test : Nat → Bool}
    {low high bound : Nat}
    (falling : Falling test bound)
    (inside : high ≤ bound)
    {place : Nat}
    (above : low ≤ place)
    (below : place < bisect test low high) :
    test place = true := by
  fun_induction bisect test low high with
  | case1 low high nonempty middle holds ih =>
    by_cases early : place ≤ middle
    · exact falling place middle early (by omega) holds
    · exact ih inside (by omega) below
  | case2 low high nonempty middle fails ih =>
    exact ih (by omega) above below
  | case3 low high empty => omega

/-- From the answer on the test fails. -/
theorem fails_from_bisect
    {test : Nat → Bool}
    {low high bound : Nat}
    (falling : Falling test bound)
    (inside : high ≤ bound)
    {place : Nat}
    (below : place < high)
    (above : bisect test low high ≤ place) :
    test place = false := by
  fun_induction bisect test low high with
  | case1 low high nonempty middle holds ih => exact ih inside below above
  | case2 low high nonempty middle fails ih =>
    by_cases late : middle ≤ place
    · cases answer : test place with
      | false => rfl
      | true =>
        exact absurd
          (falling middle place late (by omega) answer) fails
    · exact ih (by omega) (by omega) above
  | case3 low high empty => omega

end Bisection

end SlabPool
