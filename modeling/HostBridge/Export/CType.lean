import HostBridge.Kind
import HostBridge.Word

/-!
Types of the exported functions. A result leaves through a C type, and a field value comes in
through one; each type goes with one kind of value and narrows a word to what the type holds.
-/
namespace HostBridge

/-- A result type of the exported functions. Objects are handles and strings are addresses. -/
inductive CType where
  | void
  | int
  | long
  | double
  | float
  | boolean
  | object
  | string
  deriving DecidableEq, Repr, Inhabited

namespace CType

/-- The values of a type. -/
def Carrier : CType → Type
  | void => Unit
  | int => Int32
  | long => Int64
  | double => UInt64
  | float => UInt32
  | boolean => Bool
  | object => Handle
  | string => UInt64

/-- The kind that is asked for on behalf of a type. -/
def kind : CType → ValueKind
  | void => .void
  | int => .int
  | long => .long
  | double => .double
  | float => .float
  | boolean => .boolean
  | object => .object
  | string => .string

/-- What a type holds of a word. -/
def ofWord : (t : CType) → Word → t.Carrier
  | void, _ => ()
  | int, w => w.toInt32
  | long, w => w.toInt64
  | double, w => w.toFloat64
  | float, w => w.toFloat32
  | boolean, w => w.toBool
  | object, w => w.toHandle
  | string, w => w.toPointer

/-- The word of a value. -/
def toWord : (t : CType) → t.Carrier → Word
  | void, _ => .zero
  | int, n => .ofInt32 n
  | long, n => .ofInt64 n
  | double, b => .ofFloat64 b
  | float, b => .ofFloat32 b
  | boolean, b => .ofBool b
  | object, h => .ofHandle h
  | string, address => .ofPointer address

end CType
end HostBridge
