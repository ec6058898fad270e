import HostBridge.Bridge.Call
import HostBridge.Bridge.Isolate

/-!
The life of a session: the VM is started, an image is loaded and its entry point run to its end;
then events may come; in the end what the program left is cleared away and the VM is stopped. A
start that fails stops again what it had brought up.
-/
namespace HostBridge.Lifecycle

variable {P : Platform} {α : Type} (F : Foreign P (Exec P))

def phase : Exec P Phase := Exec.bridge (·.phase)

def setPhase (p : Phase) : Exec P Unit := Exec.update fun b => { b with phase := p }

def isRunning : Exec P Bool := return (← phase) = .running

/-! ### Start -/

/-- Runs the entry point of the image in an isolate and then the microtasks that it left. -/
def runEntryPoint (i : P.Isolate) (name : String) : Exec P (Except VmError Unit) := do
  match ← F.vm.callEnterIsolate i with
  | .error e => return .error e
  | .ok () => do
    F.vm.callEnterScope
    let r ← match ← F.vm.callEntryPoint name with
      | .error e => pure (.error e)
      | .ok () => F.vm.callDrain
    F.vm.callExitScope
    F.vm.callExitIsolate
    return r

/-- Starts the VM with an image in an isolate of its own. -/
def boot (image : Image) (config : Config) : Exec P (Except VmError P.Isolate) := do
  match ← F.vm.callStart config with
  | .error e => return .error e
  | .ok () =>
    match ← F.vm.callLoadImage image with
    | .error e => do
      F.vm.callStop
      return .error e
    | .ok i =>
      match ← runEntryPoint F i config.entryPoint with
      | .error e => do
        F.vm.callShutdownIsolate i
        F.vm.callStop
        return .error e
      | .ok () => return .ok i

/-- Brings an image to run, from the phase in which nothing runs. -/
def start (image : Image) (config : Config) : Exec P (Except BridgeError Unit) := do
  let now ← phase
  if now ≠ .uninitialized then return .error (.invalidState now)
  else do
    setPhase .initializing
    match ← boot F image config with
    | .ok i => do
      Exec.update fun b => { b with isolate := some i, phase := .running }
      return .ok ()
    | .error e => do
      setPhase .uninitialized
      Exec.report (.bootFailed e)
      return .error (.vm e)

/-- Opens the image at `path` and brings it to run. -/
def launchWith (path : Path) (config : Config) : Exec P (Except BridgeError Unit) := do
  match Image.open? (← Exec.gets (·.files)) path config with
  | .error e => return .error (.vm (.imageUnreadable path e))
  | .ok image =>
    match ← start F image config with
    | .error e => return .error e
    | .ok () => do
      Exec.update fun b => { b with serviceUrl := config.serviceUrl }
      return .ok ()

/-- Reads the settings that belong to the image at `path` and brings the image to run. -/
def launch (path : Path) : Exec P (Except BridgeError Unit) := do
  let now ← phase
  if now ≠ .uninitialized then return .error (.invalidState now)
  else do
    let environment ← Exec.gets (·.environment)
    match Config.load (← Exec.gets (·.files)) environment path with
    | .error e => return .error (.config e)
    | .ok config => do
      if let some value := Config.badPort? environment then Exec.report (.badPort value)
      launchWith F path config

/-! ### End -/

/-- Goes from running to shutting down, and tells whether there was something running. -/
def beginShutdown : Exec P (Except BridgeError Bool) := do
  let me ← Exec.gets (·.thread)
  if (← Exec.bridge (·.guard)).heldBy me then do
    Exec.report .shutdownInside
    return .error .shutdownFromIsolate
  else if ← isRunning then do
    setPhase .shuttingDown
    return .ok true
  else return .ok false

/-- Destroys the isolate while nobody is inside and stops the VM. -/
def finishShutdown : Exec P Unit := do
  Isolate.exclusively do
    let isolate ← Exec.bridge (·.isolate)
    Exec.update fun b => { b with isolate := none }
    if let some i := isolate then F.vm.callShutdownIsolate i
  F.vm.callStop
  setPhase .uninitialized

/-- Ends the session that runs, if any: `teardown` comes first. -/
def shutdownWith (teardown : Exec P Unit) : Exec P (Except BridgeError Bool) := do
  match ← beginShutdown with
  | .ok true => do
    teardown
    finishShutdown F
    return .ok true
  | other => return other

/-- Drops everything that the program installed or pinned. -/
def clear : Exec P Unit := do
  Exec.update fun b => { b with handlers := .empty }
  discard <| Members.clear F
  discard <| Objects.releaseAll F

/-- Ends the session that runs, if any, and leaves nothing of its program behind. -/
def shutdown : Exec P (Except BridgeError Bool) := do
  let r ← shutdownWith F (clear F)
  if let .ok true := r then
    Exec.update fun b => { b with serviceUrl := none }
  return r

/-! ### While running -/

/-- Gives what waits in the VM a chance to run. -/
def tick : Exec P Unit := do
  if ← isRunning then
    discard <| Isolate.within F fun _ => Isolate.inScope F (Isolate.drain F)

/-- The address of the debugging service of the session that runs. -/
def serviceUrl : Exec P (Option String) := do
  if ← isRunning then Exec.bridge (·.serviceUrl) else return none

end HostBridge.Lifecycle
