import HostBridge.Bridge.Chat
import HostBridge.Bridge.Dispatch

/-!
Foreign code as programs. A program is a tree of requests: calls of the interface of the bridge,
uses of its own memory, notes for the record, and panics. Running foreign code may call the bridge,
which may run foreign code again; a system says what foreign code does once the running of programs
is given, and its execution is bounded by how deep such calls nest.
-/
namespace HostBridge

/-- A call of the interface of the bridge, by the type of its answer. -/
inductive Op (P : Platform) : Type → Type where
  -- the session
  | launch (path : Path) : Op P (Except BridgeError Unit)
  | launchWith (path : Path) (config : Config) : Op P (Except BridgeError Unit)
  | shutdown : Op P (Except BridgeError Bool)
  | tick : Op P Unit
  | phase : Op P Phase
  | serviceUrl : Op P (Option String)
  /-- Changes the environment and gives back the one before. -/
  | setEnvironment (environment : Config.Environment) : Op P Config.Environment
  -- events
  | dispatch (k : EventKind) (args : Args k.params) : Op P k.Output
  | callHandler (k : EventKind) (args : Args k.params) : Op P k.Output
  | setHandler (k : EventKind) (handler : Option P.Handler) : Op P Unit
  | clearHandlers : Op P Unit
  | handlers : Op P (List EventKind)
  -- chat
  | setSink (sink : Option P.Sink) : Op P Unit
  | installCallback : Op P Bool
  | hasSink : Op P Bool
  | sendChat (player : Int64) (text : String) : Op P Bool
  -- objects
  /-- Makes another handle of the object behind one. -/
  | copyHandle (h : Handle) : Op P Handle
  | release (h : Handle) : Op P Bool
  | releaseAll : Op P Nat
  | handleCount : Op P Nat
  -- dynamic calls
  | createObject (className signature : String) (words : List Word) : Op P Handle
  | callMethod (target : Call.Target) (className name signature : String) (requested : ValueKind)
      (words : List Word) : Op P Word
  | getField (target : Call.Target) (className name descriptor : String) (requested : ValueKind) :
      Op P Word
  | setField (target : Call.Target) (className name descriptor : String) (requested : ValueKind)
      (w : Word) : Op P Unit
  | preload (key : MemberKey) : Op P (Except CallError Unit)
  | clearMembers : Op P Nat
  /-- How many entries the cache of members has, and how many look-ups have succeeded. -/
  | memberCounts : Op P (Nat × Nat)
  -- the guard
  | depth : Op P Nat
  | isInside : Op P Bool
  -- memory
  | place (bytes : List UInt8) : Op P UInt64
  | readBuffer (address : UInt64) : Op P (List UInt8)
  | free (address : UInt64) : Op P Unit
  -- reports
  | report (d : Diagnostic) : Op P Unit

namespace Op

variable {P : Platform} (F : Foreign P (Exec P))

/-- Another handle of the object behind `h`; the null handle if there is none. -/
def duplicate (h : Handle) : Exec P Handle := do
  Objects.store F (← Objects.lookup F h)

def placeBuffer (bytes : List UInt8) : Exec P UInt64 := do
  let (address, memory) := (← Exec.gets (·.memory)).place bytes
  Exec.modify fun s => { s with memory := memory }
  return address

def bufferAt (address : UInt64) : Exec P (List UInt8) := do
  match ← Exec.gets (·.memory.buffer? address) with
  | some bytes => return bytes
  | none => Exec.halt (.wildPointer address)

def exchangeEnvironment (environment : Config.Environment) : Exec P Config.Environment := do
  let before ← Exec.gets (·.environment)
  Exec.modify fun s => { s with environment := environment }
  return before

/-- What a call of the interface does. -/
def run {α : Type} : Op P α → Exec P α
  | launch path => Lifecycle.launch F path
  | launchWith path config => Lifecycle.launchWith F path config
  | shutdown => Lifecycle.shutdown F
  | tick => Lifecycle.tick F
  | phase => Lifecycle.phase
  | serviceUrl => Lifecycle.serviceUrl
  | setEnvironment environment => exchangeEnvironment environment
  | dispatch k args => Dispatch.dispatch F k args
  | callHandler k args => Dispatch.callHandler F k args
  | setHandler k handler => Dispatch.setHandler k handler
  | clearHandlers => Dispatch.clearHandlers
  | handlers => Exec.bridge (·.handlers.registered)
  | setSink sink => Chat.setSink (sink.map .custom)
  | installCallback => Chat.installCallback F
  | hasSink => Chat.hasSink
  | sendChat player text => Chat.send F player text
  | copyHandle h => duplicate F h
  | release h => Objects.release F h
  | releaseAll => Objects.releaseAll F
  | handleCount => Objects.count
  | createObject className signature words => Dynamic.createObject F className signature words
  | callMethod target className name signature requested words =>
    Dynamic.callMethod F target className name signature requested words
  | getField target className name descriptor requested =>
    Dynamic.getField F target className name descriptor requested
  | setField target className name descriptor requested w =>
    Dynamic.setField F target className name descriptor requested w
  | preload key => (Call.preload F key).run
  | clearMembers => Members.clear F
  | memberCounts => Exec.bridge fun b => (b.members.size, b.members.resolutions)
  | depth => Exec.bridge (·.guard.depth)
  | isInside => Exec.gets fun s => s.bridge.guard.heldBy s.thread
  | place bytes => placeBuffer bytes
  | readBuffer address => bufferAt address
  | free address => Exec.modify fun s => { s with memory := s.memory.free address }
  | report d => Exec.report d

end Op

/-- A program of foreign code, by the type of its result. -/
inductive Act (P : Platform) : Type → Type 1 where
  | pure {α : Type} (a : α) : Act P α
  | bind {α β : Type} (x : Act P β) (f : β → Act P α) : Act P α
  | panic {α : Type} (message : String) : Act P α
  /-- The panic of a program as a result. -/
  | attempt {α : Type} (x : Act P α) : Act P (Except String α)
  | note (n : P.Note) : Act P Unit
  /-- A use of the memory of foreign code. -/
  | world {α : Type} (f : P.World → α × P.World) : Act P α
  | op {α : Type} (o : Op P α) : Act P α
  | extra {α : Type} (o : P.Extra α) : Act P α

namespace Act

variable {P : Platform} {α : Type}

instance : Monad (Act P) where
  pure := Act.pure
  bind x f := Act.bind x f

instance : Inhabited (Act P α) := ⟨Act.panic ""⟩

/-- What the memory of foreign code says. -/
def gets (f : P.World → α) : Act P α := world fun w => (f w, w)

def modify (f : P.World → P.World) : Act P Unit := world fun w => ((), f w)

/-- A program with what is to be done after it, whether it gave a value or panicked. -/
def ensure (x : Act P α) (after : Act P Unit) : Act P α := do
  let r ← x.attempt
  after
  match r with
  | .ok a => return a
  | .error m => panic m

def recordNote (n : P.Note) : Exec P Unit := Exec.record (.note n)

def useWorld (f : P.World → α × P.World) : Exec P α := fun s =>
  let r := f s.world
  (.value r.1, { s with world := r.2 })

/-- What a program does when foreign code behaves as `F`. -/
def run (F : Foreign P (Exec P)) {α : Type} : Act P α → Exec P α
  | .pure a => Pure.pure a
  | .bind x f => x.run F >>= fun b => (f b).run F
  | .panic m => Exec.panic m
  | .attempt x => (x.run F).attempt
  | .note n => recordNote n
  | .world f => useWorld f
  | .op o => Op.run F o
  | .extra o => F.extra o

end Act

/-! ### Systems -/

universe u v

variable {P : Platform}

/-- The same host with its functions run in another way. -/
def Host.map {m : Type → Type u} {n : Type → Type v} (f : {α : Type} → m α → n α)
    (H : Host P m) : Host P n where
  resolveType name := f (H.resolveType name)
  resolveMember type key := f (H.resolveMember type key)
  construct type member args := f (H.construct type member args)
  invoke receiver member result args := f (H.invoke receiver member result args)
  readField receiver member kind := f (H.readField receiver member kind)
  writeField receiver member value := f (H.writeField receiver member value)
  shareObject := H.shareObject
  dropObject := H.dropObject
  shareClass := H.shareClass
  dropClass := H.dropClass

/-- The same VM with its functions run in another way. -/
def Vm.map {m : Type → Type u} {n : Type → Type v} (f : {α : Type} → m α → n α)
    (V : Vm P m) : Vm P n where
  start config := f (V.start config)
  loadImage image := f (V.loadImage image)
  enterIsolate i := f (V.enterIsolate i)
  exitIsolate := f V.exitIsolate
  enterScope := f V.enterScope
  exitScope := f V.exitScope
  entryPoint name := f (V.entryPoint name)
  drain := f V.drain
  shutdownIsolate i := f (V.shutdownIsolate i)
  stop := f V.stop

/-- The same foreign code run in another way. -/
def Foreign.map {m : Type → Type u} {n : Type → Type v} (f : {α : Type} → m α → n α)
    (F : Foreign P m) : Foreign P n where
  host := F.host.map f
  vm := F.vm.map f
  handler h k args := f (F.handler h k args)
  sink s player text := f (F.sink s player text)
  extra o := f (F.extra o)

/-- What foreign code does, given how its programs are run. -/
def System (P : Platform) := ({α : Type} → Act P α → Exec P α) → Foreign P (Exec P)

namespace System

/-- The system in which all foreign code is given as programs. -/
def ofPrograms (F : Foreign P (Act P)) : System P := fun run => F.map run

/-- Runs a program, with foreign code nested less than `limit` deep. -/
def exec (S : System P) {α : Type} : Nat → Act P α → Exec P α
  | 0, _ => Exec.halt .nesting
  | limit + 1, a => a.run (S (fun b => exec S limit b))

end System
end HostBridge
