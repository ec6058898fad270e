import HostBridge.Bridge.State
import HostBridge.Export.CType
import HostBridge.Process.Library

/-!
Scripts: what a scenario does with a bridge, step by step, and what its foreign code does when it is
called. Scripts are data; handlers, sinks, members of classes and the entry point of a program are
given by scripts of their own, which may contain further steps to any depth.
-/
namespace HostBridge.Scenario

/-! ### Values that a script names -/

/-- A value written in a script for the result of a handler. -/
inductive Literal where
  | null
  | number (n : Int)
  | boolean (b : Bool)
  | text (s : String)
  | other
  deriving DecidableEq, Repr, Inhabited

/-- Where a handler takes its result from: a literal, one of its arguments, or whether an argument
equals a literal. -/
inductive Choice where
  | literal (l : Literal)
  | argument (n : Nat)
  | equal (n : Nat) (l : Literal)
  deriving DecidableEq, Repr, Inhabited

/-- Where a member of the host takes a value from. -/
inductive Source where
  | value (v : HostValue Empty)
  | argument (n : Nat)
  /-- A field of the receiver. -/
  | field (name : String)
  | receiver
  | handle (h : Handle)
  /-- A field of an argument. -/
  | fieldOf (n : Nat) (name : String)
  /-- Whether an argument is the receiver. -/
  | isReceiver (n : Nat)
  /-- All arguments as one text. -/
  | arguments
  deriving Repr, Inhabited

/-- A word written in a script; bytes stand for the address of a buffer that holds them. -/
inductive WordSource where
  | word (w : Word)
  | buffer (bytes : List UInt8)
  deriving DecidableEq, Repr, Inhabited

/-- What the scripted VM may be told to fail at. -/
inductive VmFailure where
  | start
  | loadImage
  | entryPoint
  | enter
  | drain
  deriving DecidableEq, Repr

/-- How a member that was looked up directly is used. -/
inductive Usage where
  | construct
  | invoke
  | invokeStatic
  | get
  | getStatic
  | set
  | setStatic
  deriving DecidableEq, Repr, Inhabited

/-! ### The stand-ins for the process -/

/-- The entry of the Java VM that is made to fail. -/
inductive JavaFailure where
  | attach
  | getJavaVm
  | newGlobalRef
  | newString
  | newObject
  | fieldWrite
  deriving DecidableEq, Repr

/-! ### Exported functions -/

/-- The image given to the exported start in terms of the Java VM. -/
inductive JavaText where
  | null
  | text (s : String)
  | handle (h : Handle)
  deriving DecidableEq, Repr, Inhabited

/-- The buffer of arguments of an exported call: the words, how many the caller says there are, and
whether it passes them at all. -/
structure WordBuffer where
  words : List WordSource
  count : Option Int32
  absent : Bool
  deriving DecidableEq, Repr, Inhabited

/-- A name passed to an exported function: the bytes of a buffer, or a null pointer. -/
abbrev NameSource := Option (List UInt8)

/-! ### Steps -/

mutual

/-- One step of a scenario. -/
inductive Step where
  -- handlers
  | set (k : EventKind) (body : List Action)
  | setPointer (k : EventKind) (body : Option (List Action))
  | unset (k : EventKind)
  | setAll (body : List Action)
  | clear
  | isRegistered (k : EventKind)
  | registered
  | callHandler (k : EventKind) (args : List Datum)
  -- the session
  | launch (path : Path) (environment : Config.Environment)
  | launchWith (path : Path) (config : Config)
  | shutdown
  | shutdownWith (teardown : List Line)
  | tick
  | inside (steps : List Line)
  | inScope (steps : List Line)
  | exclusive
  | thread (steps : List Line)
  | status
  | dispatch (k : EventKind) (args : List Datum)
  | setSink (sink : Option String) (steps : List Line)
  | hasSink
  | chat (player : Int64) (text : String)
  -- dynamic calls
  | create (className signature : String) (words : List WordSource)
  | call (receiver : Option Handle) (className name signature : String) (requested : ValueKind)
      (words : List WordSource)
  | get (receiver : Option Handle) (className name descriptor : String) (requested : ValueKind)
  | put (receiver : Option Handle) (className name descriptor : String) (requested : ValueKind)
      (word : WordSource)
  | preload (key : MemberKey)
  | useHost (key : MemberKey) (usage : Usage) (on : Handle) (requested : ValueKind)
      (args : List (HostValue Empty))
  -- objects
  | peek (h : Handle) (fields : List String)
  | same (h other : Handle)
  | store (h : Handle)
  | release (h : Handle)
  | releaseAll
  | clearMembers
  | declare (members : List Declaration)
  -- the scripted VM and host
  | failVm (failure : Option VmFailure)
  | onEntry (steps : List Line) (error : Option String)
  | onDrain (steps : List Line)
  | vmCalls
  | failPins (on : Bool)
  -- the stand-ins for the process
  | failJava (failure : Option JavaFailure)
  | setLibrary (changes : List LibraryChange)
  | attach
  | vmStart (config : Config)
  | vmLoad (path : Path) (config : Config)
  | vmEntryPoint (name : String)
  | vmDrain
  | vmExitIsolate
  | vmEnterScope
  | vmExitScope
  | vmStop
  -- exported functions in terms of C
  | cCreate (className signature : NameSource) (buffer : WordBuffer)
  | cCall (receiver : Option Handle) (className name signature : NameSource) (type : CType)
      (buffer : WordBuffer)
  | cGet (receiver : Option Handle) (className name descriptor : NameSource) (type : CType)
  | cPut (receiver : Option Handle) (className name descriptor : NameSource) (type : CType)
      (word : WordSource)
  | cRelease (h : Handle)
  | cFreeNull
  | cHandleCount
  | cChat (player : Int64) (message : NameSource)
  | cInit (path : NameSource)
  | cShutdown
  | cTick
  | cIsInitialized
  | cServiceUrl
  | cSetJavaVm (null : Bool)
  | cVersion
  | cRegister (k : EventKind) (body : Option (List Action))
  | cDispatch (k : EventKind) (args : List Datum)
  -- exported functions in terms of the Java VM
  | jDispatch (k : EventKind) (args : List Word)
  | jInit (path : JavaText)
  | jShutdown
  | jTick
  | jSetChat
  | jServiceUrl
  | jOnLoad

/-- A step under the name by which it is reported. -/
inductive Line where
  | mk (label : String) (step : Step)

/-- What a handler does next. -/
inductive Action where
  | answer (c : Choice)
  | panic (message : String)
  | steps (lines : List Line)
  /-- Steps that are left out when entries into the isolate nest `depth` deep or deeper. -/
  | within (depth : Nat) (lines : List Line)

/-- What a member of the host does next. -/
inductive HostAction where
  | answer (s : Source)
  | throw (text : String)
  /-- Sets a field of the receiver. -/
  | set (field : String) (s : Source)
  | steps (lines : List Line)
  | panic (message : String)

/-- A member that a class of the host is given. -/
inductive Declaration where
  | constructor (className signature : String) (body : List HostAction)
  | method (className name signature : String) (isStatic : Bool) (body : List HostAction)
  | field (className name : String)
  | staticField (className name : String) (initial : HostValue Empty)

/-- A change of what the embedding library does. -/
inductive LibraryChange where
  | starts (succeeds : Bool)
  | loads (succeeds : Bool)
  | rootLibrary (answer : LibraryAnswer)
  | entry (answer : LibraryAnswer)
  | drain (answer : LibraryAnswer)
  | onEntry (steps : List Line)
  | onDrain (steps : List Line)

end

instance : Inhabited Step := ⟨.clear⟩

instance : Inhabited Line := ⟨.mk "" .clear⟩

instance : Inhabited Action := ⟨.steps []⟩

instance : Inhabited HostAction := ⟨.steps []⟩

instance : Inhabited Declaration := ⟨.field "" ""⟩

instance : Inhabited LibraryChange := ⟨.onEntry []⟩

/-- What an event handler is: a script of its own, or the function of a kind of event, which follows
the script last given for that kind. -/
inductive Handler where
  | script (body : List Action)
  | pointer

/-- A chat sink: the name under which it reports, and what it does then. -/
structure Sink where
  name : String
  steps : List Line

/-! ### Answers -/

/-- What a scripted VM was called for. -/
inductive VmEvent where
  | start
  | loadImage
  | enter
  | exit
  | enterScope
  | exitScope
  | entryPoint (name : String)
  | drain
  | shutdownIsolate
  | stop
  deriving DecidableEq, Repr

/-- What a backend tells of itself. -/
inductive Gauge where
  | scripted (inside lookups exceptions : Nat)
  | process (globals : Nat) (pending : Option String)
  deriving DecidableEq, Repr

/-- What a bridge tells of itself. -/
structure Status where
  phase : Phase
  serviceUrl : Option String
  handles : Nat
  members : Nat
  resolutions : Nat
  registered : Nat
  chat : Bool
  depth : Nat
  held : Bool
  gauge : Gauge
  deriving DecidableEq, Repr

/-- What a step gives. Objects are told by the name of their class. -/
inductive Answer where
  | null
  | done
  | refused
  | noReceiver
  | boolean (b : Bool)
  | number (n : Int)
  | text (s : String)
  | float (bits : UInt32)
  | double (bits : UInt64)
  | value (v : HostValue String)
  | bridgeError (e : BridgeError)
  | callError (e : CallError)
  | hostError (e : HostError)
  | vmError (e : VmError)
  | entered (outer : Bool) (depth : Nat)
  | registered (kinds : List EventKind)
  | status (s : Status)
  | object (className : String) (fields : List (String × HostValue String))
  | vmCalls (events : List VmEvent) (drains : Nat)
  | version (number : Nat) (name : String)
  deriving Inhabited

namespace Answer

def optional {α : Type} (f : α → Answer) : Option α → Answer
  | some a => f a
  | none => null

def ofReply : Reply → Answer
  | .unit => null
  | .int n => number n.toInt
  | .boolean b => boolean b

def ofExcept {ε α : Type} (error : ε → Answer) (ok : α → Answer) : Except ε α → Answer
  | .ok a => ok a
  | .error e => error e

end Answer

/-- What foreign code of a scenario adds to the record. -/
inductive Note where
  /-- A step inside a script is over. -/
  | did (label : String) (answer : Answer)
  | handler (k : EventKind) (args : List Datum)
  | sink (name : String) (player : Int64) (text : String)
  /-- A member of the host starts: its full name, the class of its receiver, its arguments. -/
  | member (name : String) (receiver : Option String) (args : List (HostValue String))
  deriving Inhabited

end HostBridge.Scenario
