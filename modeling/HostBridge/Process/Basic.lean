import HostBridge.Bridge.State

/-!
Bridges in a process: the host is a Java VM that the process is attached to, and the VM is an
embedding library that the process loads. This module holds what such a bridge has in its hands:
references to objects of the Java VM, of which it keeps book, and tokens of members.
-/
namespace HostBridge

/-- The types of what surrounds a bridge in a process. -/
structure Process where
  /-- Objects of the Java VM. -/
  Object : Type
  /-- Classes of the Java VM. -/
  Class : Type
  /-- By what the Java VM knows members of classes. -/
  MemberId : Type
  /-- Pointers that the embedding library gives for isolates. -/
  Isolate : Type
  /-- Whether a pointer is null, and there is no isolate. -/
  isNull : Isolate → Bool
  Handler : Type
  Sink : Type
  Note : Type
  World : Type
  /-- Requests of foreign code beyond those of this library. -/
  Extra : Type → Type

/-! ### Members -/

/-- The four tables in which the Java VM keeps members. Constructors are among the methods. -/
inductive JavaSort where
  | method
  | staticMethod
  | field
  | staticField
  deriving DecidableEq, Repr

/-- The table in which a kind of member is found. -/
def MemberKind.javaSort : MemberKind → JavaSort
  | .constructor | .method => .method
  | .staticMethod => .staticMethod
  | .field => .field
  | .staticField => .staticField

/-- A member that was looked up, with the table it was found in. -/
structure JavaMember (I : Type) where
  sort : JavaSort
  id : I
  deriving DecidableEq, Repr

/-! ### References -/

/-- A reference to something in the Java VM that lasts as long as a call into the bridge. -/
structure Local (α : Type) where
  id : Nat
  target : α
  deriving DecidableEq, Repr

/-- A reference that lasts until it is deleted. Without a target it is the null reference. -/
structure Pin (α : Type) where
  id : Nat
  target : Option α
  deriving DecidableEq, Repr

/-- The book of references. An owner of a pin is entered once for each of its references. -/
structure References where
  nextLocal : Nat := 0
  /-- The local references that were not deleted. -/
  locals : List Nat := []
  nextPin : Nat := 0
  owners : List Nat := []
  /-- The references that last and are neither null nor deleted. -/
  globals : List Nat := []
  deriving DecidableEq, Repr, Inhabited

namespace References

variable {α : Type}

def addLocal (r : References) (target : α) : Local α × References :=
  (⟨r.nextLocal, target⟩,
    { r with nextLocal := r.nextLocal + 1, locals := r.nextLocal :: r.locals })

def dropLocal (r : References) (l : Local α) : References :=
  { r with locals := r.locals.erase l.id }

/-- Makes a pin with one owner. -/
def addPin (r : References) (target : Option α) : Pin α × References :=
  (⟨r.nextPin, target⟩,
    { r with
      nextPin := r.nextPin + 1
      owners := r.nextPin :: r.owners
      globals := if target.isSome then r.nextPin :: r.globals else r.globals })

/-- Enters another owner. -/
def share (r : References) (p : Pin α) : References := { r with owners := p.id :: r.owners }

/-- Takes an owner away. The reference of the last one is deleted if the Java VM can be reached, and
is lost for good otherwise. -/
def drop (r : References) (reachable : Bool) (p : Pin α) : References :=
  let owners := r.owners.erase p.id
  if owners.contains p.id || !reachable then { r with owners := owners }
  else { r with owners := owners, globals := r.globals.erase p.id }

end References

/-! ### What the ways out of the bridge keep and record -/

/-- What is kept on the way to the host and on the way to the VM. -/
structure Process.Ledger where
  /-- Whether the Java VM is known. -/
  attached : Bool := false
  /-- The text of the exception that was thrown and not yet cleared. -/
  pending : Option String := none
  references : References := {}
  /-- Whether the embedding library is loaded, which it then is for good. -/
  loaded : Bool := false
  deriving DecidableEq, Repr, Inhabited

/-- A call of a function of the embedding library. -/
inductive LibraryCall (I : Type) where
  | start (service : Bool) (port : UInt16)
  | loadScript (script packages : String)
  | enterIsolate (isolate : I)
  | exitIsolate
  | shutdownIsolate
  | enterScope
  | exitScope
  | rootLibrary
  /-- Calls a function of the root library without arguments. -/
  | invoke (name : String)
  | drain
  | stop
  deriving DecidableEq, Repr

/-- A use of the Java VM that runs code of it, makes a string, or tells what was thrown there. -/
inductive JavaCall (O C I : Type) where
  | makeString (text : String)
  | construct (type : Option C) (id : I) (args : List (HostValue O))
  | invoke (receiver : Receiver (Option O) (Option C)) (id : I) (result : ValueKind)
      (args : List (HostValue O))
  | describe (exception : String)

/-- What goes out of the bridge, as it is recorded. -/
inductive Signal (O C I S : Type) where
  | library (call : LibraryCall S)
  | java (call : JavaCall O C I)

/-! ### Failures -/

/-- Why a call into the Java VM gave nothing. -/
inductive JavaError where
  /-- An exception is pending. -/
  | thrown
  /-- The call came back with a code of failure. -/
  | failed
  /-- A null reference was met, or given, where there has to be an object. -/
  | null (place : String)
  /-- A field was read as nothing. -/
  | readAsVoid
  deriving DecidableEq, Repr

namespace JavaError

def text : JavaError → String
  | thrown => "Java exception was thrown"
  | failed => "JNI call failed"
  | null place => "Null pointer in " ++ place
  | readAsVoid => "Invalid JValue type cast: void. Actual type: see java field"

/-- The failure as one of the host. -/
def toHost (e : JavaError) : HostError := .interface e.text

end JavaError
end HostBridge
