import SlabPool.Fault
import SlabPool.Memory

/-!
# Outcomes

An operation on a pool changes the pool and its dealings with memory, whether
it succeeds or not.  Its `Outcome` holds the answer with both as they are
after the operation.
-/

namespace SlabPool

/-- What an operation answers, with what it leaves behind. -/
structure Outcome (state σ answer : Type) where
  /-- The answer, or why there is none. -/
  answer : Except Stop answer
  /-- The pool after the operation. -/
  pool : state
  /-- The memory after the operation. -/
  memory : Memory σ

end SlabPool
