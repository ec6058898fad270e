import HostBridge.Bridge.Program
import HostBridge.Scenario.Heap

/-!
The setting of a scenario: what its foreign code keeps for itself, and the requests that its steps
make beyond the interface of the bridge. The setting is the same whatever way leads to the host and
to the VM; that way is the backend.
-/
namespace HostBridge.Scenario

/-- The types of a way to the host and to the VM. -/
structure Backend where
  Object : Type
  Class : Type
  Member : Type
  Isolate : Type
  Ledger : Type
  Signal : Type
  Extra : Type → Type

/-- What a scripted VM keeps. -/
structure VmState where
  failure : Option VmFailure := none
  onEntry : Option (List Line × Option String) := none
  onDrain : List Line := []
  /-- Whether the script of the entry point, or that of a drain, is being followed. -/
  inEntry : Bool := false
  inDrain : Bool := false
  isolates : Nat := 0
  /-- How many threads are between entering and leaving an isolate. -/
  inside : Nat := 0
  /-- The calls made since the calls were last told, newest first. -/
  calls : List VmEvent := []
  deriving Inhabited

/-- What the stand-in for the embedding library keeps. -/
structure LibraryState where
  starts : Bool := true
  loads : Bool := true
  rootLibrary : LibraryAnswer := .success
  entry : LibraryAnswer := .success
  drain : LibraryAnswer := .success
  onEntry : List Line := []
  onDrain : List Line := []
  inDrain : Bool := false
  isolates : Nat := 0
  deriving Inhabited

/-- What foreign code keeps. -/
structure World where
  heap : Heap := {}
  vm : VmState := {}
  library : LibraryState := {}
  javaFailure : Option JavaFailure := none
  /-- The script last given for each function of a kind of event. -/
  pointers : EventKind → List Action := fun _ => []
  deriving Inhabited

/-- A request of a step beyond the interface of the bridge: the parts of the bridge that only its
owner handles, threads, and the ways to the host and to the VM themselves. -/
inductive Request (B : Backend) : Type → Type where
  | enterIsolate : Request B (Option Entry)
  | leaveIsolate (e : Entry) : Request B Unit
  | enterScope : Request B Unit
  | exitScope : Request B Unit
  /-- Whether the gate can be had without entering; it is given back at once. -/
  | tryExclusive : Request B Bool
  | beginShutdown : Request B (Except BridgeError Bool)
  | finishShutdown : Request B Unit
  /-- Goes on as a new thread, and tells which thread was left. -/
  | fork : Request B ThreadId
  | join (t : ThreadId) : Request B Unit
  | lookup (h : Handle) : Request B (Option B.Object)
  | dropObject (o : B.Object) : Request B Unit
  | resolveType (name : String) : Request B (Except HostError B.Class)
  | dropClass (c : B.Class) : Request B Unit
  | resolveMember (c : B.Class) (key : MemberKey) : Request B (Except HostError B.Member)
  | construct (c : B.Class) (m : B.Member) (args : List (HostValue B.Object)) :
      Request B (Except HostError (Option B.Object))
  | invoke (r : Receiver B.Object B.Class) (m : B.Member) (result : ValueKind)
      (args : List (HostValue B.Object)) : Request B (Except HostError (HostValue B.Object))
  | readField (r : Receiver B.Object B.Class) (m : B.Member) (kind : ValueKind) :
      Request B (Except HostError (HostValue B.Object))
  | writeField (r : Receiver B.Object B.Class) (m : B.Member) (v : HostValue B.Object) :
      Request B (Except HostError Unit)
  | vmStart (config : Config) : Request B (Except VmError Unit)
  | vmLoad (path : Path) (config : Config) : Request B (Except VmError Unit)
  | vmEntryPoint (name : String) : Request B (Except VmError Unit)
  | vmDrain : Request B (Except VmError Unit)
  | vmExitIsolate : Request B Unit
  | vmEnterScope : Request B Unit
  | vmExitScope : Request B Unit
  | vmStop : Request B Unit

/-- The platform of scenarios over a backend. -/
def platform (B : Backend) : Platform where
  Object := B.Object
  Class := B.Class
  Member := B.Member
  Isolate := B.Isolate
  Handler := Handler
  Sink := Sink
  Note := Note
  Signal := B.Signal
  Ledger := B.Ledger
  World := World
  Extra α := B.Extra α ⊕ Request B α

/-- A program of the foreign code of a scenario. -/
abbrev Program (B : Backend) (α : Type) := Act (platform B) α

namespace Request

variable {B : Backend}

/-- Makes a request. -/
def ask {α : Type} (r : Request B α) : Program B α := .extra (.inr r)

/-- Has the gate for a moment, unless this thread is inside. -/
def tryGate {P : Platform} : Exec P Bool := do
  let me ← Exec.gets (·.thread)
  if (← Exec.bridge (·.guard)).heldBy me then return false
  else do
    Isolate.exclusively (pure ())
    return true

/-- Goes on as a new thread. -/
def forkThread {P : Platform} : Exec P ThreadId := do
  let me ← Exec.gets (·.thread)
  Exec.modify fun s => { s with thread := s.threads, threads := s.threads + 1 }
  return me

/-- Opens an image and loads it. -/
def loadImage {P : Platform} (V : Vm P (Exec P)) (path : Path) (config : Config) :
    Exec P (Except VmError Unit) := do
  match Image.open? (← Exec.gets (·.files)) path config with
  | .error e => return .error (.imageUnreadable path e)
  | .ok image => return (← V.loadImage image).map fun _ => ()

/-- What a request does. -/
def run (F : Foreign (platform B) (Exec (platform B))) {α : Type} :
    Request B α → Exec (platform B) α
  | enterIsolate => Isolate.enter F
  | leaveIsolate e => Isolate.leave F e
  | enterScope => F.vm.callEnterScope
  | exitScope => F.vm.callExitScope
  | tryExclusive => tryGate
  | beginShutdown => Lifecycle.beginShutdown
  | finishShutdown => Lifecycle.finishShutdown F
  | fork => forkThread
  | join t => Exec.modify fun s => { s with thread := t }
  | lookup h => Objects.lookup F h
  | dropObject o => F.host.drop o
  | resolveType name => F.host.resolveType name
  | dropClass c => F.host.dropType c
  | resolveMember c key => F.host.resolveMember c key
  | construct c m args => F.host.construct c m args
  | invoke r m result args => F.host.invoke r m result args
  | readField r m kind => F.host.readField r m kind
  | writeField r m v => F.host.writeField r m v
  | vmStart config => F.vm.start config
  | vmLoad path config => loadImage F.vm path config
  | vmEntryPoint name => F.vm.entryPoint name
  | vmDrain => F.vm.drain
  | vmExitIsolate => F.vm.exitIsolate
  | vmEnterScope => F.vm.enterScope
  | vmExitScope => F.vm.exitScope
  | vmStop => F.vm.stop

end Request

/-! ### Uses of the world -/

/-- A change of the heap with a result. -/
def useHeap {B : Backend} {α : Type} (f : Heap → α × Heap) : Program B α :=
  .world fun w =>
    let r := f w.heap
    (r.1, { w with heap := r.2 })

def modifyHeap {B : Backend} (f : Heap → Heap) : Program B Unit :=
  Act.modify fun w => { w with heap := f w.heap }

def heapGets {B : Backend} {α : Type} (f : Heap → α) : Program B α := Act.gets fun w => f w.heap

def modifyVm {B : Backend} (f : VmState → VmState) : Program B Unit :=
  Act.modify fun w => { w with vm := f w.vm }

def modifyLibrary {B : Backend} (f : LibraryState → LibraryState) : Program B Unit :=
  Act.modify fun w => { w with library := f w.library }

end HostBridge.Scenario
