import HostBridge.Bridge.Exec

/-!
Foreign code: what a bridge asks of the host, of the VM, and of the handlers and sinks that were
installed. Each interface is a record of functions into some monad of computations, so that the same
record may describe code to be run later or be the running of it. Calls that the bridge makes go
through the wrappers below, which put them on record.
-/
namespace HostBridge

universe u

/-- What a bridge asks of the host. References that a function gives back belong to the caller;
those that it is given stay with the caller. Sharing and dropping a
reference never runs foreign code. -/
structure Host (P : Platform) (m : Type → Type u) where
  resolveType : String → m (Except HostError P.Class)
  resolveMember : P.Class → MemberKey → m (Except HostError P.Member)
  construct : P.Class → P.Member → List (HostValue P.Object) →
    m (Except HostError (Option P.Object))
  invoke : Receiver P.Object P.Class → P.Member → ValueKind → List (HostValue P.Object) →
    m (Except HostError (HostValue P.Object))
  readField : Receiver P.Object P.Class → P.Member → ValueKind →
    m (Except HostError (HostValue P.Object))
  writeField : Receiver P.Object P.Class → P.Member → HostValue P.Object →
    m (Except HostError Unit)
  shareObject : P.Object → P.Ledger → P.World → P.Ledger × P.World
  dropObject : P.Object → P.Ledger → P.World → P.Ledger × P.World
  shareClass : P.Class → P.Ledger → P.World → P.Ledger × P.World
  dropClass : P.Class → P.Ledger → P.World → P.Ledger × P.World

/-- What a bridge asks of the VM. -/
structure Vm (P : Platform) (m : Type → Type u) where
  start : Config → m (Except VmError Unit)
  loadImage : Image → m (Except VmError P.Isolate)
  enterIsolate : P.Isolate → m (Except VmError Unit)
  exitIsolate : m Unit
  enterScope : m Unit
  exitScope : m Unit
  entryPoint : String → m (Except VmError Unit)
  drain : m (Except VmError Unit)
  shutdownIsolate : P.Isolate → m Unit
  stop : m Unit

/-- All foreign code around a bridge. -/
structure Foreign (P : Platform) (m : Type → Type u) where
  host : Host P m
  vm : Vm P m
  handler : P.Handler → (k : EventKind) → Args k.params → m k.Output
  sink : P.Sink → Int64 → String → m Unit
  extra : {α : Type} → P.Extra α → m α

variable {P : Platform} {α : Type}

/-! ### Calls into the VM -/

namespace Vm

variable (V : Vm P (Exec P))

/-- Makes a call that may fail and records how it came back. -/
def tryCall (c : VmCall P) (x : Exec P (Except VmError α)) (done : α → VmReturn P) :
    Exec P (Except VmError α) := do
  Exec.record (.vmCall c)
  let r ← x
  Exec.record (.vmReturn (match r with
    | .ok a => done a
    | .error e => .failed e))
  return r

def callStart (config : Config) : Exec P (Except VmError Unit) :=
  tryCall (.start config) (V.start config) fun _ => .done

def callLoadImage (image : Image) : Exec P (Except VmError P.Isolate) :=
  tryCall (.loadImage image) (V.loadImage image) .loaded

def callEnterIsolate (isolate : P.Isolate) : Exec P (Except VmError Unit) :=
  tryCall (.enterIsolate isolate) (V.enterIsolate isolate) fun _ => .done

def callExitIsolate : Exec P Unit := do
  Exec.record (.vmCall .exitIsolate)
  V.exitIsolate

def callEnterScope : Exec P Unit := do
  Exec.record (.vmCall .enterScope)
  V.enterScope

def callExitScope : Exec P Unit := do
  Exec.record (.vmCall .exitScope)
  V.exitScope

def callEntryPoint (name : String) : Exec P (Except VmError Unit) :=
  tryCall (.entryPoint name) (V.entryPoint name) fun _ => .done

def callDrain : Exec P (Except VmError Unit) :=
  tryCall .drain V.drain fun _ => .done

def callShutdownIsolate (isolate : P.Isolate) : Exec P Unit := do
  Exec.record (.vmCall (.shutdownIsolate isolate))
  V.shutdownIsolate isolate

def callStop : Exec P Unit := do
  Exec.record (.vmCall .stop)
  V.stop

end Vm

/-! ### Calls into the host -/

namespace Host

variable (H : Host P (Exec P))

def callResolveType (name : String) : Exec P (Except HostError P.Class) := do
  Exec.record (.host (.resolveType name))
  let r ← H.resolveType name
  if let .ok c := r then Exec.record (.host (.typeFound name c))
  return r

def callResolveMember (type : P.Class) (key : MemberKey) : Exec P (Except HostError P.Member) := do
  Exec.record (.host (.resolveMember type key))
  let r ← H.resolveMember type key
  if let .ok m := r then Exec.record (.host (.memberFound key m))
  return r

def callConstruct (key : MemberKey) (type : P.Class) (member : P.Member)
    (args : List (HostValue P.Object)) : Exec P (Except HostError (Option P.Object)) := do
  Exec.record (.host (.construct key type member args))
  H.construct type member args

def callInvoke (key : MemberKey) (receiver : Receiver P.Object P.Class) (member : P.Member)
    (result : ValueKind) (args : List (HostValue P.Object)) :
    Exec P (Except HostError (HostValue P.Object)) := do
  Exec.record (.host (.invoke key receiver member result args))
  H.invoke receiver member result args

def callReadField (key : MemberKey) (receiver : Receiver P.Object P.Class) (member : P.Member)
    (kind : ValueKind) : Exec P (Except HostError (HostValue P.Object)) := do
  Exec.record (.host (.readField key receiver member kind))
  H.readField receiver member kind

def callWriteField (key : MemberKey) (receiver : Receiver P.Object P.Class) (member : P.Member)
    (value : HostValue P.Object) : Exec P (Except HostError Unit) := do
  Exec.record (.host (.writeField key receiver member value))
  H.writeField receiver member value

def share (o : P.Object) : Exec P Unit := Exec.upkeep (H.shareObject o)

def drop (o : P.Object) : Exec P Unit := Exec.upkeep (H.dropObject o)

/-- Drops the reference that a value may hold. -/
def dropValue (v : HostValue P.Object) : Exec P Unit :=
  match v.reference? with
  | some o => H.drop o
  | none => pure ()

def dropValues (vs : List (HostValue P.Object)) : Exec P Unit := vs.forM H.dropValue

def shareType (c : P.Class) : Exec P Unit := Exec.upkeep (H.shareClass c)

def dropType (c : P.Class) : Exec P Unit := Exec.upkeep (H.dropClass c)

end Host

/-! ### Calls of handlers and sinks -/

namespace Foreign

variable (F : Foreign P (Exec P))

def callHandler (handler : P.Handler) (k : EventKind) (args : Args k.params) :
    Exec P k.Output := do
  Exec.record (.handlerCall k handler args)
  F.handler handler k args

def callSink (sink : P.Sink) (player : Int64) (text : String) : Exec P Unit := do
  Exec.record (.sinkCall sink player text)
  F.sink sink player text

end Foreign
end HostBridge
