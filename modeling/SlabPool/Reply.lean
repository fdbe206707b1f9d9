import SlabPool.Fault

/-!
# Replies

What a part of a pool replies to a single command.
-/

namespace SlabPool

/-- The reply to a command. -/
inductive Reply where
  /-- The command was carried out. -/
  | done
  /-- The command was not carried out. -/
  | stopped (stop : Stop)
  /-- Yes or no. -/
  | flag (value : Bool)
  /-- A number, where there is one. -/
  | number (value : Option Nat)
  /-- Several numbers. -/
  | numbers (values : List Nat)
  deriving DecidableEq, Repr

namespace Reply

/-- The reply of a breach. -/
def ofBreach (breach : Breach) : Reply :=
  .stopped (.breach breach)

/-- The reply of a fault. -/
def ofFault (fault : Fault) : Reply :=
  .stopped (.fault fault)

end Reply

end SlabPool
