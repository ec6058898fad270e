import HostBridge.Kind
import HostBridge.Word

/-!
Values in terms of the host: what the words of a call stand for once the descriptor is known.
Strings are copies; objects are references to what the host has pinned.
-/
namespace HostBridge

/-- A value with its variant, over the host's references to objects. -/
inductive HostValue (O : Type) where
  | void
  | boolean (b : Bool)
  | byte (n : Int8)
  | char (unit : UInt16)
  | short (n : Int16)
  | int (n : Int32)
  | long (n : Int64)
  | float (bits : UInt32)
  | double (bits : UInt64)
  | string (text : Option String)
  | object (reference : Option O)
  deriving DecidableEq, Repr, Inhabited

namespace HostValue

variable {O O' : Type}

/-- Zero, false or null. -/
def zero : ValueKind → HostValue O
  | .boolean => .boolean false
  | .byte => .byte 0
  | .char => .char 0
  | .short => .short 0
  | .int => .int 0
  | .long => .long 0
  | .float => .float 0
  | .double => .double 0
  | .string => .string none
  | .object | .array => .object none
  | .void => .void

/-- Whether the value is of the variant that the kind has. -/
def hasKind : HostValue O → ValueKind → Bool
  | .boolean _, .boolean => true
  | .byte _, .byte => true
  | .char _, .char => true
  | .short _, .short => true
  | .int _, .int => true
  | .long _, .long => true
  | .float _, .float => true
  | .double _, .double => true
  | .string _, .string => true
  | .object _, .object | .object _, .array => true
  | .void, .void => true
  | _, _ => false

/-- The object that the value refers to. -/
def reference? : HostValue O → Option O
  | .object (some o) => some o
  | _ => none

/-- The value with another sort of reference. -/
def map (f : O → O') : HostValue O → HostValue O'
  | .void => .void
  | .boolean b => .boolean b
  | .byte n => .byte n
  | .char n => .char n
  | .short n => .short n
  | .int n => .int n
  | .long n => .long n
  | .float b => .float b
  | .double b => .double b
  | .string s => .string s
  | .object o => .object (o.map f)

@[simp] theorem hasKind_zero (k : ValueKind) : (zero k : HostValue O).hasKind k = true := by
  cases k <;> rfl

end HostValue

/-- What a member is used on: an object, or the class of a static member. -/
inductive Receiver (O C : Type) where
  | instance (object : O)
  | static (type : C)
  deriving DecidableEq, Repr

end HostBridge
