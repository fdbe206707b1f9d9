import SlabPool.Walk

/-!
# Excursions

An excursion takes a walk some steps ahead, notes what it visits, and then lets
a copy and the walk itself go on to the end.
-/

namespace SlabPool.Walk

/-- What was seen on an excursion. -/
structure Excursion where
  /-- For each step taken, how many slots were left and which came next. -/
  taken : List (Nat × Option Nat)
  /-- How many slots are left after these steps. -/
  remaining : Nat
  /-- What a copy made then visits. -/
  copy : List Nat
  /-- What the walk itself visits. -/
  rest : List Nat
  /-- What two more steps after its end give. -/
  beyond : List (Option Nat)
  deriving DecidableEq, Repr

variable {geometry : Geometry}

/-- Take `count` steps, noting before each how many slots are left. -/
def paces :
    Nat →
    Walk geometry →
    Except Breach (List (Nat × Option Nat))
  | 0, _ => .ok []
  | count + 1, walk =>
    match walk.step with
    | (.error breach, _) => .error breach
    | (.ok address, next) =>
      match next.paces count with
      | .error breach => .error breach
      | .ok taken => .ok ((walk.remaining, address) :: taken)

/-- The excursion that begins with `count` steps. -/
def excursion
    (walk : Walk geometry)
    (count : Nat) :
    Except Breach Excursion :=
  match walk.paces count with
  | .error breach => .error breach
  | .ok taken =>
    let middle := walk.after count
    match middle.toList with
    | .error breach => .error breach
    | .ok rest =>
      let ended := middle.after (rest.length + 1)
      match ended.paces 2 with
      | .error breach => .error breach
      | .ok beyond =>
        .ok ⟨taken, middle.remaining, rest, rest, beyond.map Prod.snd⟩

end SlabPool.Walk
