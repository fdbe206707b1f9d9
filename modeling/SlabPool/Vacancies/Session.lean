import SlabPool.Arena
import SlabPool.Reply
import SlabPool.Vacancies

/-!
# Commands to the vacancies of a slab

A session with vacancies runs beside an arena, which may refuse their requests
for room.
-/

namespace SlabPool.Vacancies

/-- A command to vacancies. -/
inductive Command where
  | record (index : Nat)
  | takeHighest
  | contains (index : Nat)
  | wipe
  | ascending
  | reserve
  /-- From now on the arena refuses these requests and no others. -/
  | refuse (resources : List Resource)
  deriving DecidableEq, Repr

/-- Carry out one command. -/
def perform
    (vacancies : Vacancies)
    (memory : Memory Arena) :
    Command → Reply × Vacancies × Memory Arena
  | .record index =>
    match vacancies.record index with
    | (.error breach, left) => (.ofBreach breach, left, memory)
    | (.ok (), recorded) => (.done, recorded, memory)
  | .takeHighest =>
    match vacancies.takeHighest with
    | (.error breach, left) => (.ofBreach breach, left, memory)
    | (.ok index, rest) => (.number index, rest, memory)
  | .contains index => (.flag (vacancies.contains index), vacancies, memory)
  | .wipe => (.done, vacancies.wiped, memory)
  | .ascending => (.numbers vacancies.ascending, vacancies, memory)
  | .reserve =>
    match vacancies.reserve memory with
    | (.error fault, memory) => (.ofFault fault, vacancies, memory)
    | (.ok reserved, memory) => (.done, reserved, memory)
  | .refuse resources => (.done, vacancies, memory.refusing resources)

/-- Each reply of a session, with the vacancies after it. -/
def session
    (vacancies : Vacancies)
    (memory : Memory Arena) :
    List Command → List (Reply × Vacancies)
  | [] => []
  | command :: rest =>
    match vacancies.perform memory command with
    | (reply, vacancies, memory) =>
      (reply, vacancies) :: vacancies.session memory rest

end SlabPool.Vacancies
