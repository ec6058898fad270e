import HostBridge.Diagnostic
import HostBridge.HandleTable
import HostBridge.HostValue
import HostBridge.Image
import HostBridge.Memory
import HostBridge.MemberCache

/-!
The state of a bridge between a host and an embedded VM, together with what lies around it: the
thread that runs, the files and the environment it sees, the memory shared with foreign code, and
the record of everything that has happened so far.
-/
namespace HostBridge

/-- The types that the two sides of a bridge bring along. -/
structure Platform where
  /-- Pinned references to objects of the host. -/
  Object : Type
  /-- Pinned references to classes of the host. -/
  Class : Type
  /-- Tokens of resolved members. -/
  Member : Type
  /-- Isolates of the VM. -/
  Isolate : Type
  /-- Event handlers that foreign code installs. -/
  Handler : Type
  /-- Chat sinks that foreign code installs. -/
  Sink : Type
  /-- What foreign code adds to the record. -/
  Note : Type
  /-- What the ways to the host and to the VM add to the record. -/
  Signal : Type
  /-- What the ways to the host and to the VM keep for themselves. -/
  Ledger : Type
  /-- What foreign code keeps for itself. -/
  World : Type
  /-- Requests of foreign code beyond the interface of the bridge, by the type of their answers. -/
  Extra : Type → Type

/-! ### The record -/

/-- A call into the VM. -/
inductive VmCall (P : Platform) where
  | start (config : Config)
  | loadImage (image : Image)
  | enterIsolate (isolate : P.Isolate)
  | exitIsolate
  | enterScope
  | exitScope
  | entryPoint (name : String)
  | drain
  | shutdownIsolate (isolate : P.Isolate)
  | stop

/-- How a call into the VM that may fail came back. -/
inductive VmReturn (P : Platform) where
  | done
  | loaded (isolate : P.Isolate)
  | failed (error : VmError)

/-- A call into the host, or a token that one gave. A use of a member stands with the names for
which the operation at hand asked for it. -/
inductive HostCall (P : Platform) where
  | resolveType (name : String)
  | typeFound (name : String) (type : P.Class)
  | resolveMember (type : P.Class) (key : MemberKey)
  | memberFound (key : MemberKey) (member : P.Member)
  | construct (key : MemberKey) (type : P.Class) (member : P.Member)
      (args : List (HostValue P.Object))
  | invoke (key : MemberKey) (receiver : Receiver P.Object P.Class) (member : P.Member)
      (result : ValueKind) (args : List (HostValue P.Object))
  | readField (key : MemberKey) (receiver : Receiver P.Object P.Class) (member : P.Member)
      (kind : ValueKind)
  | writeField (key : MemberKey) (receiver : Receiver P.Object P.Class) (member : P.Member)
      (value : HostValue P.Object)

/-- One thing that happened. -/
inductive Happening (P : Platform) where
  | diagnostic (d : Diagnostic)
  | vmCall (c : VmCall P)
  | vmReturn (r : VmReturn P)
  | host (c : HostCall P)
  | handlerCall (k : EventKind) (handler : P.Handler) (args : Args k.params)
  | sinkCall (sink : P.Sink) (player : Int64) (text : String)
  | signal (s : P.Signal)
  | note (n : P.Note)

/-! ### The bridge -/

/-- Where chat messages go: to the callback method of the host, or to a sink of foreign code. -/
inductive ChatSink (S : Type) where
  | callback
  | custom (sink : S)
  deriving DecidableEq, Repr

/-- The handler of each kind of event. -/
abbrev Handlers (H : Type) := EventKind → Option H

namespace Handlers

variable {H : Type}

def empty : Handlers H := fun _ => none

/-- Puts a handler, or none, in the place of the one before. -/
def set (r : Handlers H) (k : EventKind) (handler : Option H) : Handlers H :=
  fun j => if j = k then handler else r j

def isSet (r : Handlers H) (k : EventKind) : Bool := (r k).isSome

/-- The kinds that have a handler, in the order of the table of events. -/
def registered (r : Handlers H) : List EventKind := EventKind.all.filter r.isSet

@[simp] theorem set_same (r : Handlers H) (k : EventKind) (h : Option H) : r.set k h k = h := by
  simp [set]

theorem set_of_ne (r : Handlers H) {j k : EventKind} (h : Option H) (ne : j ≠ k) :
    r.set k h j = r j := by
  simp [set, ne]

end Handlers

/-- What a bridge keeps between calls. -/
structure Bridge (P : Platform) where
  handles : HandleTable P.Object := {}
  members : MemberCache P.Class P.Member := {}
  handlers : Handlers P.Handler := .empty
  chatSink : Option (ChatSink P.Sink) := none
  phase : Phase := .uninitialized
  isolate : Option P.Isolate := none
  guard : Guard := {}
  /-- The address of the debugging service of the session that runs. -/
  serviceUrl : Option String := none

/-- A bridge and its surroundings. The record is kept with the newest happening first. -/
structure State (P : Platform) where
  bridge : Bridge P := {}
  thread : ThreadId := 0
  threads : Nat := 1
  files : FileSystem := .empty
  environment : Config.Environment := {}
  memory : Memory := {}
  ledger : P.Ledger
  world : P.World
  record : List (Happening P) := []

namespace State

variable {P : Platform}

/-- Everything that happened, in order. -/
def history (s : State P) : List (Happening P) := s.record.reverse

/-- The calls into the VM with how they came back, in order. -/
def vmHistory (s : State P) : List (VmCall P ⊕ VmReturn P) :=
  s.history.filterMap fun
    | .vmCall c => some (.inl c)
    | .vmReturn r => some (.inr r)
    | _ => none

end State
end HostBridge
