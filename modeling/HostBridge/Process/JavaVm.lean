import HostBridge.Process.Basic
import HostBridge.Bridge.Program

/-!
The Java VM as a record of functions, and the platform of bridges in a process. A function of the
Java VM gives a value and may throw besides; a null reference is a value like any other. Strings are
objects here, so that a value never is a text.
-/
namespace HostBridge

universe u

/-- What came back from the Java VM, and the text of the exception if one was thrown. -/
structure Raised (α : Type) where
  value : α
  exception : Option String := none
  deriving DecidableEq, Repr

/-- What a function of the Java VM gives that is asked for a kind of value. -/
def Given (O : Type) : ValueKind → Type
  | .void => Unit
  | .boolean => Bool
  | .byte => Int8
  | .char => UInt16
  | .short => Int16
  | .int => Int32
  | .long => Int64
  | .float => UInt32
  | .double => UInt64
  | .string | .object | .array => Option O

/-- What is given besides an exception. -/
def Given.zero {O : Type} : (kind : ValueKind) → Given O kind
  | .void => ()
  | .boolean => false
  | .byte => (0 : Int8)
  | .char => (0 : UInt16)
  | .short => (0 : Int16)
  | .int => (0 : Int32)
  | .long => (0 : Int64)
  | .float => (0 : UInt32)
  | .double => (0 : UInt64)
  | .string | .object | .array => none

/-- What foreign code asks of the thread that it was called on by the Java VM. -/
inductive JavaRequest (O : Type) : Type → Type where
  /-- Makes the Java VM known, and tells whether it was not known before. -/
  | attach : JavaRequest O Bool
  /-- Asks the thread for its Java VM and makes that known. -/
  | capture : JavaRequest O (Except JavaError Unit)
  | readText (o : Option O) : JavaRequest O (Except JavaError String)
  /-- Makes a string that belongs to whoever called. -/
  | makeText (text : String) : JavaRequest O (Except JavaError O)
  /-- How many references last, and the exception that is pending. -/
  | census : JavaRequest O (Nat × Option String)

namespace Process

/-- The platform of bridges in a process. -/
def platform (N : Process) : Platform where
  Object := Pin N.Object
  Class := Pin N.Class
  Member := JavaMember N.MemberId
  Isolate := N.Isolate
  Handler := N.Handler
  Sink := N.Sink
  Note := N.Note
  Signal := Signal N.Object N.Class N.MemberId N.Isolate
  Ledger := Ledger
  World := N.World
  Extra α := JavaRequest N.Object α ⊕ N.Extra α

end Process

/-- What is used of the Java VM. -/
structure JavaVm (N : Process) (m : Type → Type u) where
  /-- Whether a thread can be attached as things stand. -/
  attaches : N.World → Bool
  /-- Whether a thread is told its Java VM. -/
  isTold : m Bool
  /-- Whether there is room for another reference that lasts. -/
  hasRoom : m Bool
  findClass : String → m (Raised (Option N.Class))
  findMember : Option N.Class → JavaSort → (name signature : String) →
    m (Raised (Option N.MemberId))
  makeString : String → m (Raised (Option N.Object))
  stringText : N.Object → m (Raised (Option String))
  isInstance : N.Object → N.Class → m Bool
  construct : Option N.Class → N.MemberId → List (HostValue N.Object) →
    m (Raised (Option N.Object))
  invoke : Receiver (Option N.Object) (Option N.Class) → N.MemberId → (result : ValueKind) →
    List (HostValue N.Object) → m (Raised (Given N.Object result))
  readField : Receiver N.Object (Option N.Class) → N.MemberId → (result : ValueKind) →
    m (Raised (Given N.Object result))
  writeField : Receiver N.Object (Option N.Class) → N.MemberId → HostValue N.Object →
    m (Raised Unit)

/-- The same Java VM with its functions run in another way. -/
def JavaVm.map {N : Process} {m : Type → Type u} {n : Type → Type} (f : {α : Type} → m α → n α)
    (J : JavaVm N m) : JavaVm N n where
  attaches := J.attaches
  isTold := f J.isTold
  hasRoom := f J.hasRoom
  findClass name := f (J.findClass name)
  findMember c sort name signature := f (J.findMember c sort name signature)
  makeString text := f (J.makeString text)
  stringText o := f (J.stringText o)
  isInstance o c := f (J.isInstance o c)
  construct c id args := f (J.construct c id args)
  invoke receiver id result args := f (J.invoke receiver id result args)
  readField receiver id result := f (J.readField receiver id result)
  writeField receiver id v := f (J.writeField receiver id v)

end HostBridge
