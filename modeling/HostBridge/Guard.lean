/-!
The isolate guard: re-entrant access by one thread at a time. The first entry of a thread takes the
gate and makes the isolate current; further entries of the same thread only count. Dropping the
entry that took the gate gives it back, whatever entries are left.
-/
namespace HostBridge

/-- Names a thread. -/
abbrev ThreadId := Nat

/-- Whether the gate is taken, and which thread is inside how deep. -/
structure Guard where
  gateTaken : Bool := false
  owner : Option ThreadId := none
  depth : Nat := 0
  deriving DecidableEq, Repr, Inhabited

/-- An entry into the isolate: the outer one took the gate, a nested one only counted. -/
inductive Entry where
  | outer
  | nested
  deriving DecidableEq, Repr, Inhabited

namespace Guard

/-- Whether this thread is inside. -/
def heldBy (g : Guard) (me : ThreadId) : Bool :=
  0 < g.depth && g.owner == some me

/-- What an attempt to enter meets. -/
inductive Admission where
  | nested
  | blocked
  | gate
  deriving DecidableEq, Repr

/-- A thread inside enters again; any other has to take the gate, if it can. -/
def admission (g : Guard) (me : ThreadId) : Admission :=
  if g.heldBy me then .nested else if g.gateTaken then .blocked else .gate

/-- Counts a nested entry. -/
def deepen (g : Guard) : Guard := { g with depth := g.depth + 1 }

def takeGate (g : Guard) : Guard := { g with gateTaken := true }

def freeGate (g : Guard) : Guard := { g with gateTaken := false }

/-- The isolate was entered by the thread that took the gate. -/
def settle (g : Guard) (me : ThreadId) : Guard := { g with owner := some me, depth := 1 }

/-- A nested entry is dropped. -/
def rise (g : Guard) : Guard := { g with depth := g.depth - 1 }

/-- The outer entry is dropped, after the isolate was left. -/
def vacate (_ : Guard) : Guard := {}

/-- Whether an entry is dropped while another thread, or none, is on record. -/
def foreignTo (g : Guard) (me : ThreadId) : Bool := g.owner != some me

end Guard
end HostBridge
