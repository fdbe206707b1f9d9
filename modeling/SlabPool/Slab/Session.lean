import SlabPool.Reply
import SlabPool.Slab

/-!
# Commands to one slab

A session with a slab is a list of commands, each of which is answered by a
reply and the slab after it.  A breach leaves the slab as it was.
-/

namespace SlabPool.Slab

/-- A command to a slab; addresses are given by their distance from its base. -/
inductive Command where
  | bump
  | decrement
  | setLive (live : Nat)
  | slot (index : Nat)
  | indexOf (offset : Int)
  | covers (offset : Int)
  deriving DecidableEq, Repr

variable {geometry : Geometry}

/-- Carry out one command. -/
def perform
    (slab : Slab geometry) :
    Command → Reply × Slab geometry
  | .bump =>
    match slab.bump with
    | .error breach => (.ofBreach breach, slab)
    | .ok (index, bumped) => (.number index, bumped)
  | .decrement =>
    match slab.decrement with
    | .error breach => (.ofBreach breach, slab)
    | .ok lowered => (.done, lowered)
  | .setLive live =>
    match slab.withLive live with
    | .error breach => (.ofBreach breach, slab)
    | .ok changed => (.done, changed)
  | .slot index =>
    match slab.slotAddress index with
    | .error breach => (.ofBreach breach, slab)
    | .ok address => (.number address, slab)
  | .indexOf offset =>
    (.number (slab.indexOf? (Word.displace slab.base offset)), slab)
  | .covers offset =>
    (.flag (slab.covers (Word.displace slab.base offset)), slab)

/-- Each reply of a session, with the slab after it. -/
def session
    (slab : Slab geometry) :
    List Command → List (Reply × Slab geometry)
  | [] => []
  | command :: rest =>
    let performed := slab.perform command
    performed :: performed.2.session rest

/-- The slab after a session. -/
def afterSession
    (slab : Slab geometry)
    (commands : List Command) :
    Slab geometry :=
  commands.foldl (fun slab command => (slab.perform command).2) slab

end SlabPool.Slab
