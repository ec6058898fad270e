import HostBridge.Scenario.Steps

/-!
What the foreign code of a scenario does when it is called: handlers, chat sinks, the members of the
classes on the heap, and a VM that follows a script. Members work on objects of the heap, whatever
the references are by which a backend pins them.
-/
namespace HostBridge.Scenario

variable {B : Backend} (D : Bench B)

open Request

/-! ### Handlers and sinks -/

/-- The actions of a handler up to its answer; without one the answer is the default. -/
def Action.runAll (k : EventKind) (args : List Datum) : List Action → Program B k.Output
  | [] => return k.default
  | .answer c :: _ => return (c.toLiteral args).toCarrier k.info.default
  | .panic message :: _ => .panic message
  | .steps lines :: rest => do
    Line.runAll D lines
    Action.runAll k args rest
  | .within depth lines :: rest => do
    if (← .op .depth) < depth then Line.runAll D lines
    Action.runAll k args rest

/-- The call of a handler. -/
def Handler.call (h : Handler) (k : EventKind) (args : Args k.params) : Program B k.Output := do
  let body ← match h with
    | .script body => pure body
    | .pointer => Act.gets (·.pointers k)
  Act.note (.handler k args.toList)
  Action.runAll D k args.toList body

/-- The call of a chat sink. -/
def Sink.call (s : Sink) (player : Int64) (text : String) : Program B Unit := do
  Act.note (.sink s.name player text)
  Line.runAll D s.steps

/-! ### Members of classes -/

/-- What the actions of a member see: the object whose fields they use, whether it is known as the
receiver yet, and the arguments. -/
structure Frame where
  object : Option ObjectId
  constructed : Bool
  args : List (HostValue ObjectId)

def Frame.receiver (f : Frame) : Option ObjectId := if f.constructed then f.object else none

/-- The value of a source. -/
def Source.eval (f : Frame) : Source → Program B (HostValue ObjectId)
  | .value v => return Heap.lift v
  | .argument n => return f.args[n]?.getD .void
  | .field name =>
    match f.object with
    | some o => heapGets (·.get o name)
    | none => return .void
  | .receiver => return .object f.receiver
  | .handle h => return .object (← withObject D h (return ·)).join
  | .fieldOf n name =>
    match f.args[n]?.bind (·.reference?) with
    | some o => heapGets (·.get o name)
    | none => return .void
  | .isReceiver n =>
    match f.receiver, f.args[n]?.bind (·.reference?) with
    | some r, some o => return .boolean (r == o)
    | _, _ => return .boolean false
  | .arguments => heapGets fun heap => .string (some (valuesJson (f.args.map heap.tell)))

/-- The actions of a member up to its result, which is void if none is given. -/
def HostAction.runAll (f : Frame) : List HostAction → Program B (Except String (HostValue ObjectId))
  | [] => return .ok .void
  | .answer s :: _ => return .ok (← s.eval D f)
  | .throw text :: _ => return .error text
  | .set field s :: rest => do
    let v ← s.eval D f
    if let some o := f.object then modifyHeap (·.set o field v)
    HostAction.runAll f rest
  | .steps lines :: rest => do
    Line.runAll D lines
    HostAction.runAll f rest
  | .panic message :: _ => .panic message

/-- Puts on record that a member starts. -/
def noteMember (className name signature : String) (object : Option ObjectId)
    (args : List (HostValue ObjectId)) : Program B Unit := do
  let note ← heapGets fun heap =>
    .member (className ++ "." ++ name ++ signature) (object.map heap.className) (args.map heap.tell)
  Act.note note

namespace HostModel

def resolveType (name : String) : Program B (Except HostError String) := do
  modifyHeap (·.countLookup)
  if ← heapGets (·.hasClass name) then return .ok name else return .error (.typeNotFound name)

def resolveMember (className : String) (key : MemberKey) : Program B (Except HostError Nat) := do
  modifyHeap (·.countLookup)
  match ← heapGets (·.find? className key) with
  | some index => return .ok index
  | none => return .error (.memberNotFound key.className key.name key.signature key.kind)

/-- What an exception of the host becomes. -/
def thrown {α : Type} (text : String) : Program B (Except HostError α) := do
  modifyHeap (·.countException)
  return .error (.exception text)

/-- An object as a pinned reference, unless no more can be pinned. -/
def pin (o : ObjectId) : Program B (Except HostError ObjectId) := do
  if ← heapGets (·.failPins) then return .error (.pinFailed "reference table full")
  else return .ok o

def construct (className : String) (index : Nat) (args : List (HostValue ObjectId)) :
    Program B (Except HostError (Option ObjectId)) := do
  match ← heapGets (·.members[index]?) with
  | some (.constructor owner signature body) => do
    let o ← useHeap (·.create className)
    noteMember owner Call.constructorName signature (some o) args
    match ← HostAction.runAll D ⟨some o, false, args⟩ body with
    | .error text => thrown ("new " ++ className ++ ": " ++ text)
    | .ok _ => return (← pin o).map some
  | some .plainConstructor => return (← pin (← useHeap (·.create className))).map some
  | _ => return .error (.memberKindMismatch .constructor)

/-- Calls a method on an object, or a static one without. -/
def invoke (receiver : Option ObjectId) (index : Nat) (result : ValueKind)
    (args : List (HostValue ObjectId)) : Program B (Except HostError (HostValue ObjectId)) := do
  match ← heapGets (·.members[index]?) with
  | some (.method owner name signature isStatic body) =>
    if receiver.isNone != isStatic then return .error (.memberKindMismatch .method)
    else do
      noteMember owner name signature receiver args
      match ← HostAction.runAll D ⟨receiver, true, args⟩ body with
      | .error text => thrown text
      | .ok v =>
        if result = .void then return .ok .void
        else
          match v with
          | .object (some o) => return (← pin o).map fun o => .object (some o)
          | v => return .ok v
  | _ => return .error (.memberKindMismatch .method)

/-- Reads a field of an object, or a static one without. What was never set is zero. -/
def readField (receiver : Option ObjectId) (index : Nat) (kind : ValueKind) :
    Program B (Except HostError (HostValue ObjectId)) :=
  heapGets fun heap =>
    let found := match heap.members[index]?, receiver with
      | some (.field name), some o => some (heap.get o name)
      | some (.staticField owner name), none => some (heap.getStatic owner name)
      | _, _ => none
    match found with
    | none => .error (.memberKindMismatch .field)
    | some .void => .ok (.zero kind)
    | some v => .ok v

def writeField (receiver : Option ObjectId) (index : Nat) (v : HostValue ObjectId) :
    Program B (Except HostError Unit) :=
  useHeap fun heap =>
    match heap.members[index]?, receiver with
    | some (.field name), some o => (.ok (), heap.set o name v)
    | some (.staticField owner name), none => (.ok (), heap.setStatic owner name v)
    | _, _ => (.error (.memberKindMismatch .field), heap)

end HostModel

/-! ### A VM that follows a script -/

namespace VmModel

/-- The reason given by failures that were asked for. -/
def scriptedFailure : String := "scripted failure"

def failsAt (f : VmFailure) : Program B Bool := return (← Act.gets (·.vm.failure)) == some f

def count (e : VmEvent) : Program B Unit := modifyVm fun s => { s with calls := e :: s.calls }

def start (_ : Config) : Program B (Except VmError Unit) := do
  count .start
  if ← failsAt .start then return .error .startFailed else return .ok ()

/-- Makes the next isolate. -/
def loadImage (image : Image) : Program B (Except VmError Nat) := do
  count .loadImage
  if ← failsAt .loadImage then return .error (.imageLoad image.path scriptedFailure)
  else .world fun w =>
    (.ok w.vm.isolates, { w with vm := { w.vm with isolates := w.vm.isolates + 1 } })

/-- What is said when a thread enters while another is inside. -/
def crowded (inside : Nat) : String :=
  "assertion `left == right` failed: isolate entered while another thread is inside\n  left: " ++
    toString inside ++ "\n right: 0"

def enterIsolate (_ : Nat) : Program B (Except VmError Unit) := do
  if ← failsAt .enter then return .error (.enterFailed scriptedFailure)
  else do
    count .enter
    let inside ← Act.gets (·.vm.inside)
    modifyVm fun s => { s with inside := s.inside + 1 }
    if inside = 0 then return .ok () else .panic (crowded inside)

def exitIsolate : Program B Unit := do
  count .exit
  modifyVm fun s => { s with inside := s.inside - 1 }

/-- Follows the script of the entry point. -/
def entryPoint (name : String) : Program B (Except VmError Unit) := do
  count (.entryPoint name)
  if ← failsAt .entryPoint then return .error (.entryPointMissing name)
  else
    match ← Act.gets (·.vm.onEntry) with
    | none => return .ok ()
    | some (steps, error) => do
      modifyVm ({ · with inEntry := true })
      Act.ensure (Line.runAll D steps) (modifyVm ({ · with inEntry := false }))
      match error with
      | some message => return .error (.entryPointFailed name message)
      | none => return .ok ()

/-- Follows the script of drains, unless this happens inside of it. The drain counts as a call once
the script is over. -/
def drain : Program B (Except VmError Unit) := do
  if ← failsAt .drain then return .error (.microtask scriptedFailure)
  else do
    let s ← Act.gets (·.vm)
    if !s.inDrain then
      modifyVm ({ · with inDrain := true })
      Act.ensure (Line.runAll D s.onDrain) (modifyVm ({ · with inDrain := false }))
    count .drain
    return .ok ()

end VmModel
end HostBridge.Scenario
