import HostBridge.Export.JavaSession
import HostBridge.Process.System
import HostBridge.Scenario.Behaviour

/-!
Scenarios in a process: the host is a Java VM whose objects lie on the heap of the scenario, and the
VM is an embedding library that follows a script. Strings of the Java VM are objects of a class of
their own with their text in a field.
-/
namespace HostBridge.Scenario.InProcess

/-- A member by its number on the heap, with the descriptor that it was looked up by. -/
structure Id where
  index : Nat
  signature : String
  deriving DecidableEq, Repr

/-- References to objects of the heap and to classes by name. -/
def backend : Backend where
  Object := Pin ObjectId
  Class := Pin String
  Member := JavaMember Id
  Isolate := Nat
  Ledger := Process.Ledger
  Signal := Signal ObjectId String Id Nat
  Extra := JavaRequest ObjectId

/-- What surrounds the bridge. -/
def process : Process where
  Object := ObjectId
  Class := String
  MemberId := Id
  Isolate := Nat
  isNull := (· == 0)
  Handler := Handler
  Sink := Sink
  Note := Note
  World := World
  Extra := Request backend

/-! ### Steps -/

/-- The field of a string that holds its text. -/
def textField : String := "value"

/-- The text of an object that is a string. -/
def textOf (heap : Heap) (o : ObjectId) : Option String :=
  match heap.get o textField with
  | .string t => t
  | _ => none

/-- Makes a string. -/
def newString (text : String) : Program backend ObjectId :=
  useHeap fun heap =>
    let (o, heap) := heap.create Descriptor.stringClass
    (o, heap.set o textField (.string (some text)))

def gauge : Program backend Gauge := do
  let (globals, pending) ← Export.ask (N := process) .census
  return .process globals pending

/-- Starts the image whose path is a string of the Java VM. -/
def javaInit (path : Option ObjectId) : Program backend Answer := do
  return .boolean (← Export.javaInit (N := process) path)

/-- The object behind a reference is its target; the steps below are those of a process. -/
def bench : Bench backend where
  identity p := return Pin.target p
  gauge := gauge
  special
    | .attach => return .boolean (← Export.ask (N := process) .attach)
    | .cSetJavaVm null =>
      return .boolean (← Export.setJavaVm (N := process) (if null then 0 else 1))
    | .jInit .null => javaInit none
    | .jInit (.text path) => do javaInit (some (← newString path))
    | .jInit (.handle h) => do
      match ← Request.ask (.lookup h) with
      | none => javaInit none
      | some p => Act.ensure (javaInit (Pin.target p)) (Request.ask (.dropObject p))
    | .jShutdown => do
      Export.shutdown
      return .null
    | .jTick => do
      Export.tick
      return .null
    | .jSetChat => do
      Export.javaSetChat (N := process)
      return .null
    | .jServiceUrl => do
      match ← Export.javaServiceUrl (N := process) with
      | none => return .null
      | some o => return .optional .text (← heapGets fun heap => textOf heap o)
    | .jOnLoad => return .number (← Export.onLoad (N := process))
    | _ => return .null

/-! ### The stand-in for the Java VM -/

/-- A result without an exception. -/
def fine {α : Type} (a : α) : Program backend (Raised α) := return ⟨a, none⟩

/-- An exception, with the result that goes with it. -/
def throws {α : Type} (text : String) (a : α) : Program backend (Raised α) := return ⟨a, some text⟩

/-- The text of the exception that a failure of the heap becomes. -/
def thrownText : HostError → String
  | .exception text => text
  | e => e.message

def nullPointer : String := "java.lang.NullPointerException"

def outOfMemory : String := "java.lang.OutOfMemoryError"

def illegalAccess : String := "java.lang.IllegalAccessError"

def noClass (name : String) : String := "java.lang.NoClassDefFoundError: " ++ name

/-- The exception of a look-up that found nothing: the descriptor tells methods from fields. -/
def noMember (name signature : String) : String :=
  (if signature.startsWith "(" then "java.lang.NoSuchMethodError: "
    else "java.lang.NoSuchFieldError: ") ++ name

def fails (f : JavaFailure) : Program backend Bool :=
  return (← Act.gets (·.javaFailure)) == some f

/-- A value as the kind that was declared for it has it: strings are told by their text, and a value
of another kind is zero. -/
def asDeclared (heap : Heap) : ValueKind → HostValue ObjectId → HostValue ObjectId
  | .string, .object none => .string none
  | .string, .object (some o) =>
    match heap.className o == Descriptor.stringClass, textOf heap o with
    | true, some t => .string (some t)
    | _, _ => .object (some o)
  | kind, v => if v.hasKind kind then v else .zero kind

/-- The slot in which an argument that is no reference is handed over. What its type leaves of the
slot is zero. -/
def slot? : HostValue ObjectId → Option Word
  | .boolean b => some (.ofBool b)
  | .byte n => some ⟨n.toUInt8.toUInt64⟩
  | .char n => some ⟨n.toUInt64⟩
  | .short n => some ⟨n.toUInt16.toUInt64⟩
  | .int n => some ⟨n.toUInt32.toUInt64⟩
  | .long n => some (.ofInt64 n)
  | .float b => some (.ofFloat32 b)
  | .double b => some (.ofFloat64 b)
  | .void | .string _ | .object _ => none

/-- A slot read as a kind that is no reference. -/
def ofSlot (w : Word) : ValueKind → HostValue ObjectId
  | .boolean => .boolean (w.toInt8 != 0)
  | .byte => .byte w.toInt8
  | .char => .char w.toUInt16
  | .short => .short w.toInt16
  | .int => .int w.toInt32
  | .long => .long w.toInt64
  | .float => .float w.toFloat32
  | .double => .double w.toFloat64
  | kind => .zero kind

/-- An argument as its descriptor has it. Slots do not tell what was put into them, so a number
comes out as what its bits mean there. -/
def asArgument (heap : Heap) (kind : ValueKind) (v : HostValue ObjectId) : HostValue ObjectId :=
  match slot? v with
  | some w => ofSlot w kind
  | none => asDeclared heap kind v

/-- The arguments of a method as its descriptor has them; a missing one is zero. -/
def arguments (heap : Heap) (signature : String) (values : List (HostValue ObjectId)) :
    List (HostValue ObjectId) :=
  match Descriptor.parseMethod signature with
  | .error _ => []
  | .ok d => d.params.mapIdx fun n kind => asArgument heap kind (values[n]?.getD .void)

/-- The reference that a value is given as; a text becomes a new string. -/
def giveReference : HostValue ObjectId → Program backend (Option ObjectId)
  | .object o => return o
  | .string (some t) => return some (← newString t)
  | _ => return none

/-- A value as the result of a function that gives another kind, perhaps, in which case it is
zero. -/
def give : (kind : ValueKind) → HostValue ObjectId → Program backend (Given ObjectId kind)
  | .void, _ => return ()
  | .boolean, v => return match v with | .boolean b => b | _ => false
  | .byte, v => return match v with | .byte n => n | _ => (0 : Int8)
  | .char, v => return match v with | .char n => n | _ => (0 : UInt16)
  | .short, v => return match v with | .short n => n | _ => (0 : Int16)
  | .int, v => return match v with | .int n => n | _ => (0 : Int32)
  | .long, v => return match v with | .long n => n | _ => (0 : Int64)
  | .float, v => return match v with | .float b => b | _ => (0 : UInt32)
  | .double, v => return match v with | .double b => b | _ => (0 : UInt64)
  | .string, v | .object, v | .array, v => giveReference v

/-- A value that a member has, as one of the kind that its descriptor declares. A string is an
object and an object may be a string; a value of another kind is zero. -/
def conform (declared : ValueKind) (v : HostValue ObjectId) : HostValue ObjectId :=
  match declared, v with
  | .object, .string _ | .string, .object _ => v
  | _, _ => if v.hasKind declared then v else .zero declared

/-- What a use of a member gives, from the kind that its descriptor declares and what it gives on
the heap. -/
def giveResult (declared : Option ValueKind) (kind : ValueKind)
    (r : Except HostError (HostValue ObjectId)) :
    Program backend (Raised (Given ObjectId kind)) := do
  match r with
  | .error e => throws (thrownText e) (Given.zero kind)
  | .ok v => fine (← give kind (declared.elim v (conform · v)))

/-- The kind of result that the descriptor of a method declares. -/
def declaredResult (signature : String) : Option ValueKind :=
  (Descriptor.parseMethod signature).toOption.map (·.result)

/-- The kind of value that the descriptor of a field declares. -/
def declaredValue (descriptor : String) : Option ValueKind :=
  (Descriptor.parseField descriptor).toOption

/-- The object of a receiver, none for a class, unless the reference is null. -/
def receiverOf : Receiver (Option ObjectId) (Option String) → Option (Option ObjectId)
  | .instance none | .static none => none
  | .instance (some o) => some (some o)
  | .static (some _) => some none

/-- The object whose field is meant, none for one of a class, unless the class is null. -/
def ownerOf : Receiver ObjectId (Option String) → Option (Option ObjectId)
  | .instance o => some (some o)
  | .static (some _) => some none
  | .static none => none

def findClass (name : String) : Program backend (Raised (Option String)) := do
  match ← HostModel.resolveType name with
  | .ok c => fine (some c)
  | .error _ => throws (noClass name) none

/-- The kind of member that a table is asked for under a name. -/
def soughtKind (sort : JavaSort) (name : String) : MemberKind :=
  match sort with
  | .method => if name = Call.constructorName then .constructor else .method
  | .staticMethod => .staticMethod
  | .field => .field
  | .staticField => .staticField

def findMember (type : Option String) (sort : JavaSort) (name signature : String) :
    Program backend (Raised (Option Id)) := do
  match type with
  | none => throws nullPointer none
  | some c =>
    match ← HostModel.resolveMember c ⟨c, name, signature, soughtKind sort name⟩ with
    | .ok index => fine (some ⟨index, signature⟩)
    | .error _ => throws (noMember name signature) none

def makeString (text : String) : Program backend (Raised (Option ObjectId)) := do
  if ← fails .newString then throws outOfMemory none
  else fine (some (← newString text))

/-- Makes an object. -/
def construct (type : Option String) (id : Id) (values : List (HostValue ObjectId)) :
    Program backend (Raised (Option ObjectId)) := do
  if ← fails .newObject then fine none
  else
    match type with
    | none => throws nullPointer none
    | some c =>
      let args ← heapGets fun heap => arguments heap id.signature values
      match ← HostModel.construct bench c id.index args with
      | .ok o => fine o
      | .error e => throws (thrownText e) none

def invoke (receiver : Receiver (Option ObjectId) (Option String)) (id : Id) (result : ValueKind)
    (values : List (HostValue ObjectId)) : Program backend (Raised (Given ObjectId result)) := do
  match receiverOf receiver with
  | none => throws nullPointer (Given.zero result)
  | some o =>
    let args ← heapGets fun heap => arguments heap id.signature values
    giveResult (declaredResult id.signature) result
      (← HostModel.invoke bench o id.index result args)

def readField (receiver : Receiver ObjectId (Option String)) (id : Id) (result : ValueKind) :
    Program backend (Raised (Given ObjectId result)) := do
  match ownerOf receiver with
  | none => throws nullPointer (Given.zero result)
  | some o =>
    giveResult (declaredValue id.signature) result (← HostModel.readField o id.index result)

/-- Writes a field. What is stored is of the kind that the descriptor declares. -/
def writeField (receiver : Receiver ObjectId (Option String)) (id : Id) (v : HostValue ObjectId) :
    Program backend (Raised Unit) := do
  if ← fails .fieldWrite then throws illegalAccess ()
  else
    match ownerOf receiver with
    | none => throws nullPointer ()
    | some o =>
      let stored ← heapGets fun heap =>
        match declaredValue id.signature with
        | some kind => asDeclared heap kind v
        | none => v
      match ← HostModel.writeField o id.index stored with
      | .ok () => fine ()
      | .error e => throws (thrownText e) ()

def java : JavaVm process (Program backend) where
  attaches world := world.javaFailure != some .attach
  isTold := return !(← fails .getJavaVm)
  hasRoom := return !(← fails .newGlobalRef)
  findClass := findClass
  findMember := findMember
  makeString := makeString
  stringText o := do fine (← heapGets fun heap => textOf heap o)
  isInstance o c := heapGets fun heap => heap.className o == c
  construct := construct
  invoke := invoke
  readField := readField
  writeField := writeField

/-! ### The stand-in for the embedding library -/

/-- The content of the file of a library that lacks a name, or of one that lacks none. -/
def libraryContent (lacking : Option String) : List UInt8 :=
  Utf8.encode <| "embedding library" ++ match lacking with
    | none => ""
    | some name => " without " ++ name

/-- The libraries beside the images. -/
def libraryFiles : List (String × List UInt8) :=
  [("WHOLE.so", libraryContent none),
    ("FIRST.so", libraryContent (some "DartDll_Initialize")),
    ("MIDDLE.so", libraryContent (some "Dart_EnterScope")),
    ("LAST.so", libraryContent (some "Dart_Invoke"))]

/-- What the library of a file's content exports. -/
def exports (content : List UInt8) : Option (String → Bool) :=
  if content = libraryContent none then some fun _ => true
  else
    (Library.symbols.find? fun name => content = libraryContent (some name)).map
      fun name => (· != name)

/-- The next isolate, if images can be loaded. They are counted from one. -/
def loadScript : Program backend Nat :=
  .world fun w =>
    if w.library.loads then
      let i := w.library.isolates + 1
      (i, { w with library := { w.library with isolates := i } })
    else (0, w)

/-- Follows the script of the entry point. -/
def runEntryPoint : Program backend LibraryAnswer := do
  Line.runAll bench (← Act.gets (·.library.onEntry))
  Act.gets (·.library.entry)

/-- Follows the script of drains, unless this happens inside of it. -/
def drain : Program backend LibraryAnswer := do
  let s ← Act.gets (·.library)
  if !s.inDrain then
    modifyLibrary ({ · with inDrain := true })
    Act.ensure (Line.runAll bench s.onDrain) (modifyLibrary ({ · with inDrain := false }))
  Act.gets (·.library.drain)

def library : Library process (Program backend) where
  exports := exports
  search _ _ := none
  programExports _ := true
  start _ _ := Act.gets (·.library.starts)
  loadScript _ _ := loadScript
  enterIsolate _ := return ()
  exitIsolate := return ()
  shutdownIsolate := return ()
  enterScope := return ()
  exitScope := return ()
  rootLibrary := Act.gets (·.library.rootLibrary)
  invoke _ := runEntryPoint
  drain := drain
  stop := return ()

/-! ### Scenarios -/

def surroundings : Process.Surroundings process (Program backend) where
  java := java
  library := library
  handler h k args := Handler.call bench h k args
  sink s player text := Sink.call bench s player text

/-- The system of a scenario in a process. -/
def system : System (platform backend) := fun run =>
  let S := surroundings.map run
  let F := Process.foreign S fun _ => Exec.halt .nesting
  Process.foreign S fun r => Request.run (B := backend) F r

/-- Whether the bridge is that of a process in which the Java VM is known and the library loaded
from the beginning. -/
def start (ready : Bool) (files : FileSystem) (classes : List Declaration) :
    State (platform backend) where
  files := libraryFiles.foldl (fun fs (name, content) => fs.addFile ⟨name⟩ content) files
  ledger := ({ attached := ready, loaded := ready } : Process.Ledger)
  world :=
    { heap := (({} : Heap).addPlainClass Descriptor.stringClass).declareAll classes }

end HostBridge.Scenario.InProcess
