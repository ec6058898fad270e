import HostBridge.Bridge.Foreign

/-!
Access to the isolate. A thread that enters makes the isolate current and keeps all others out until
its outer entry is dropped; entries inside that one only count. An entry is dropped when what it was
made for is over, also by a panic.
-/
namespace HostBridge.Isolate

variable {P : Platform} {α : Type} (F : Foreign P (Exec P))

/-- Changes the guard alone. -/
def setGuard (f : Guard → Guard) : Exec P Unit :=
  Exec.update fun b => { b with guard := f b.guard }

/-- Makes the isolate on record current. There may be none, and the VM may refuse. -/
def activate : Exec P Bool := do
  match ← Exec.bridge (·.isolate) with
  | none => return false
  | some i =>
    match ← F.vm.callEnterIsolate i with
    | .ok () => return true
    | .error e =>
      Exec.report (.enterFailed e)
      return false

/-- Enters the isolate, unless there is none to enter. -/
def enter : Exec P (Option Entry) := do
  let me ← Exec.gets (·.thread)
  match (← Exec.bridge (·.guard)).admission me with
  | .nested => do
    setGuard .deepen
    return some .nested
  | .blocked => Exec.halt .deadlock
  | .gate => do
    setGuard .takeGate
    if ← (activate F).onPanic (setGuard .freeGate) then
      setGuard (·.settle me)
      return some .outer
    else
      setGuard .freeGate
      return none

/-- Drops an entry. -/
def leave (e : Entry) : Exec P Unit := do
  let me ← Exec.gets (·.thread)
  let g ← Exec.bridge (·.guard)
  if g.foreignTo me then Exec.report (.foreignRelease g.owner)
  match e with
  | .nested => setGuard .rise
  | .outer => do
    F.vm.callExitIsolate
    setGuard .vacate

/-- Runs something inside the isolate, unless there is none to enter. -/
def within (x : Entry → Exec P α) : Exec P (Option α) := do
  match ← enter F with
  | none => return none
  | some e => return some (← (x e).ensure (leave F e))

/-- Runs something in a scope of the VM's own. A panic leaves the scope open. -/
def inScope (x : Exec P α) : Exec P α := do
  F.vm.callEnterScope
  let a ← x
  F.vm.callExitScope
  return a

/-- Runs the microtasks that wait; that they failed is only reported. -/
def drain : Exec P Unit := do
  if let .error e ← F.vm.callDrain then Exec.report (.drainFailed e)

/-- Runs something while no thread is inside the isolate. A thread that is inside itself does not
wait. -/
def exclusively (x : Exec P α) : Exec P α := do
  let me ← Exec.gets (·.thread)
  let g ← Exec.bridge (·.guard)
  if g.heldBy me then x
  else if g.gateTaken then Exec.halt .deadlock
  else do
    setGuard .takeGate
    x.ensure (setGuard .freeGate)

end HostBridge.Isolate
