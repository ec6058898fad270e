import HostBridge.Guard

/-!
Runs of a guard by many threads. Each operation is one step of one thread; an entry may be dropped
at any time by the thread that made it, in any order. A step that needs the gate while it is taken
is blocked and changes nothing. The session counts how often the isolate was entered and left.
-/
namespace HostBridge.Guard

/-- A live entry: its number, its thread and its sort. -/
structure Slot where
  number : Nat
  thread : ThreadId
  entry : Entry
  deriving DecidableEq, Repr

/-- A guard together with its live entries, the thread that has the gate without entering, and the
counts of what the switch did. -/
structure Session where
  guard : Guard := {}
  slots : List Slot := []
  made : Nat := 0
  exclusive : Option ThreadId := none
  enters : Nat := 0
  exits : Nat := 0
  deriving DecidableEq, Repr

/-- One step of a thread. An attempt to enter says whether the switch would refuse it. -/
inductive Action where
  | enter (thread : ThreadId) (refused : Bool)
  | drop (thread : ThreadId) (number : Nat)
  | lockExclusive (thread : ThreadId)
  | unlockExclusive (thread : ThreadId)
  deriving DecidableEq, Repr

/-- What a step gave. A drop says whether the isolate was left by it and, if the thread was not the
owner on record, who was. -/
inductive Result where
  | entered (number : Nat) (entry : Entry)
  | refused
  | blocked
  | dropped (exited : Bool) (foreign : Option (Option ThreadId))
  | noEntry
  | locked
  | denied
  | unlocked
  deriving DecidableEq, Repr

namespace Session

/-- Makes an entry under the next number. -/
def enroll (s : Session) (thread : ThreadId) (entry : Entry) (guard : Guard) : Result × Session :=
  (.entered s.made entry,
    { s with guard := guard, made := s.made + 1, slots := ⟨s.made, thread, entry⟩ :: s.slots })

/-- Drops a live entry. -/
def dismiss (s : Session) (slot : Slot) : Result × Session :=
  let foreign := if s.guard.foreignTo slot.thread then some s.guard.owner else none
  let s := { s with slots := s.slots.filter (·.number != slot.number) }
  match slot.entry with
  | .nested => (.dropped false foreign, { s with guard := s.guard.rise })
  | .outer => (.dropped true foreign, { s with guard := s.guard.vacate, exits := s.exits + 1 })

/-- One step. -/
def step (s : Session) : Action → Result × Session
  | .enter thread refused =>
    match s.guard.admission thread with
    | .nested => s.enroll thread .nested s.guard.deepen
    | .blocked => (.blocked, s)
    | .gate =>
      if refused then (.refused, s)
      else { s with enters := s.enters + 1 }.enroll thread .outer (s.guard.takeGate.settle thread)
  | .drop thread number =>
    match s.slots.find? fun slot => slot.number == number && slot.thread == thread with
    | some slot => s.dismiss slot
    | none => (.noEntry, s)
  | .lockExclusive thread =>
    if s.guard.heldBy thread then (.denied, s)
    else if s.guard.gateTaken then (.blocked, s)
    else (.locked, { s with guard := s.guard.takeGate, exclusive := some thread })
  | .unlockExclusive thread =>
    if s.exclusive = some thread then
      (.unlocked, { s with guard := s.guard.freeGate, exclusive := none })
    else (.noEntry, s)

/-- Steps one after another, with what each gave. -/
def run (s : Session) : List Action → List Result × Session
  | [] => ([], s)
  | a :: rest =>
    let (r, s) := s.step a
    let (rs, s) := run s rest
    (r :: rs, s)

end Session
end HostBridge.Guard
