import SlabPool.Word

/-!
# Pointers in sessions

A session numbers the addresses it is given, from zero on.  Commands name an
address by its number, which is called a handle, by a distance from such an
address, or outright.
-/

namespace SlabPool

/-- The name of an address in a session. -/
inductive Pointer where
  /-- The address with this handle. -/
  | handle (number : Nat)
  /-- The address some bytes after, or before, the one with this handle. -/
  | displaced (number : Nat) (offset : Int)
  /-- This address. -/
  | address (place : Nat)
  deriving DecidableEq, Repr

namespace Pointer

/-- The address that is named, unless the handle is not given out yet. -/
def resolve
    (addresses : Array Nat) :
    Pointer → Option Nat
  | .handle number => addresses[number]?
  | .displaced number offset =>
    addresses[number]?.map (Word.displace · offset)
  | .address place => some place

end Pointer

end SlabPool
