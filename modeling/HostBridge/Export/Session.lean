import HostBridge.Export.Calls

/-!
Exported functions for the life of a session and for events, in terms of C. Failures are reported
and answered by false.
-/
namespace HostBridge.Export

variable {P : Platform}

/-- The version of the exported interface. -/
def interfaceVersion : Nat := 1

def interfaceName : String := "dart_mc_bridge"

/-- Brings the image at `path` to run. -/
def launchAt (path : Path) : Act P Bool := do
  match ← .op (.launch path) with
  | .ok () => return true
  | .error e =>
    Act.op (.report (.launchFailed path e))
    return false

/-- Brings the image to run whose path is the text at an address. -/
def init (path : UInt64) : Act P Bool := do
  match ← textAt path with
  | some text => launchAt ⟨text⟩
  | none =>
    Act.op (.report .nullImagePath)
    return false

def shutdown : Act P Unit := do
  if let .error e ← .op .shutdown then Act.op (.report (.shutdownRefused e))

def tick : Act P Unit := .op .tick

def isInitialized : Act P Bool := return (← .op .phase) = .running

/-- The address of a copy of the address of the debugging service, null without one. -/
def serviceUrl : Act P UInt64 := do
  match ← .op .serviceUrl with
  | some url => .op (.place (cBuffer (Utf8.encode url)))
  | none => return 0

/-- Installs a handler, or removes the one that there is. -/
def register (k : EventKind) (handler : Option P.Handler) : Act P Unit :=
  .op (.setHandler k handler)

def dispatch (k : EventKind) (args : Args k.params) : Act P k.Output := .op (.dispatch k args)

end HostBridge.Export
