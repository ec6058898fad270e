import HostBridge.Bridge.Lifecycle

/-!
Delivery of events. An event goes to the handler of its kind, inside the isolate; without a handler,
a running session or a result, the answer is the default of the kind.
-/
namespace HostBridge.Dispatch

variable {P : Platform} (F : Foreign P (Exec P))

def setHandler (k : EventKind) (handler : Option P.Handler) : Exec P Unit :=
  Exec.update fun b => { b with handlers := b.handlers.set k handler }

def clearHandlers : Exec P Unit := Exec.update fun b => { b with handlers := .empty }

/-- Calls the handler on the spot. It may change any handler, its own too. -/
def callHandler (k : EventKind) (args : Args k.params) : Exec P k.Output := do
  match (← Exec.bridge (·.handlers)) k with
  | some h => F.callHandler h k args
  | none => return k.default

/-- The handler and what waits in the VM after it, inside the isolate. The panic of a handler ends
here. -/
def deliver (k : EventKind) (args : Args k.params) : Exec P k.Output := do
  let r ← Isolate.inScope F do
    let r ← (callHandler F k args).attempt
    if k.drainsMicrotasks then Isolate.drain F
    return r
  match r with
  | .ok x => return x
  | .error _ => do
    Exec.report (.handlerPanicked k)
    return k.default

/-- Delivers one event. -/
def dispatch (k : EventKind) (args : Args k.params) : Exec P k.Output := do
  if ← Lifecycle.isRunning then
    match ← Isolate.within F fun _ => deliver F k args with
    | some x => return x
    | none => return k.default
  else return k.default

end HostBridge.Dispatch
