import HostBridge.Process.JavaHost
import HostBridge.Process.LibraryVm

/-!
Bridges in a process, put together: a Java VM and an embedding library, given as programs like all
foreign code, make a system.
-/
namespace HostBridge

universe u

variable {N : Process}

namespace JavaRequest

/-- How many references last, and the exception that is pending. -/
def takeCensus : Exec N.platform (Nat × Option String) :=
  JavaThread.ledger fun l => (l.references.globals.length, l.pending)

/-- What a request does. -/
def run (J : JavaVm N (Exec N.platform)) {α : Type} : JavaRequest N.Object α → Exec N.platform α
  | attach => JavaThread.attach
  | capture => JavaThread.capture J
  | readText o => JavaThread.stringText J o
  | makeText text => JavaThread.makeString J text
  | census => takeCensus

end JavaRequest

namespace Process

/-- The foreign code around a bridge in a process. -/
structure Surroundings (N : Process) (m : Type → Type u) where
  java : JavaVm N m
  library : Library N m
  handler : N.Handler → (k : EventKind) → Args k.params → m k.Output
  sink : N.Sink → Int64 → String → m Unit

/-- What a bridge in a process sees of its surroundings, but for the requests of their own. -/
def foreign (S : Surroundings N (Exec N.platform))
    (extra : {α : Type} → N.Extra α → Exec N.platform α) :
    Foreign N.platform (Exec N.platform) where
  host := JavaHost.host S.java
  vm := LibraryVm.vm S.library
  handler := S.handler
  sink := S.sink
  extra
    | .inl r => JavaRequest.run S.java r
    | .inr r => extra r

/-- The same surroundings run in another way. -/
def Surroundings.map {m : Type → Type u} (f : {α : Type} → m α → Exec N.platform α)
    (S : Surroundings N m) : Surroundings N (Exec N.platform) where
  java := S.java.map f
  library := S.library.map f
  handler h k args := f (S.handler h k args)
  sink s player text := f (S.sink s player text)

/-- The system in which all foreign code of a process is given as programs. -/
def system (S : Surroundings N (Act N.platform))
    (extra : {α : Type} → N.Extra α → Act N.platform α) : System N.platform :=
  fun run => foreign (S.map run) fun o => run (extra o)

end Process
end HostBridge
