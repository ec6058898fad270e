import HostBridge.Export.Session
import HostBridge.Process.JavaVm

/-!
Exported functions for the life of a session, in terms of the Java VM. The functions for shutting
down and for ticking are those in terms of C.
-/
namespace HostBridge.Export

variable {N : Process} {α : Type}

/-- Asks the thread on which the Java VM made the call. -/
def ask (r : JavaRequest N.Object α) : Act N.platform α := .extra (.inl r)

/-- Makes the Java VM of the caller known; a failure is reported and has no other effect. -/
def captureVm : Act N.platform Unit := do
  if let .error e ← ask (N := N) .capture then Act.op (.report (.javaVmUnavailable e.text))

/-- Brings the image to run whose path is the text of a string. -/
def javaInit (path : Option N.Object) : Act N.platform Bool := do
  captureVm
  match ← ask (N := N) (.readText path) with
  | .ok text => launchAt ⟨text⟩
  | .error e =>
    Act.op (.report (.unreadableImagePath e.text))
    return false

/-- Sends chat messages to the callback of the Java VM from now on. -/
def javaSetChat : Act N.platform Unit := do
  captureVm
  discard <| Act.op .installCallback

/-- The address of the debugging service as a string, null without one. -/
def javaServiceUrl : Act N.platform (Option N.Object) := do
  match ← Act.op .serviceUrl with
  | none => return none
  | some url =>
    match ← ask (N := N) (.makeText url) with
    | .ok o => return some o
    | .error e =>
      Act.op (.report (.serviceUrlUnavailable e.text))
      return none

/-- Makes a Java VM known that is given by its address. -/
def setJavaVm (address : UInt64) : Act N.platform Bool := do
  if address = 0 then
    Act.op (.report (.javaVmInvalid (JavaError.null "from_raw ptr argument").text))
    return false
  else ask .attach

/-- The version of the interface to the Java VM that is asked for: 1.8. -/
def javaInterfaceVersion : Nat := 0x00010008

/-- Makes the Java VM known that loads the library. -/
def onLoad : Act N.platform Nat := do
  discard <| ask (N := N) .attach
  return javaInterfaceVersion

end HostBridge.Export
