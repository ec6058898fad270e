/-!
Kinds of values and of members. A value kind is what a descriptor says about one slot; a member
kind is what a name is looked up as.
-/
namespace HostBridge

/-- What a slot holds. `string` is an object of the string class, which crosses by copy; `object`
and `array` cross as handles; `void` is the absence of a result. -/
inductive ValueKind where
  | boolean
  | byte
  | char
  | short
  | int
  | long
  | float
  | double
  | string
  | object
  | array
  | void
  deriving DecidableEq, Repr, Inhabited

namespace ValueKind

/-- Every kind, in the order of declaration. -/
def all : List ValueKind :=
  [boolean, byte, char, short, int, long, float, double, string, object, array, void]

def display : ValueKind → String
  | boolean => "boolean"
  | byte => "byte"
  | char => "char"
  | short => "short"
  | int => "int"
  | long => "long"
  | float => "float"
  | double => "double"
  | string => "string"
  | object => "object"
  | array => "array"
  | void => "void"

/-- Kinds that the host holds by reference. -/
def isReference : ValueKind → Bool
  | string | object | array => true
  | _ => false

/-- Whether a value declared as `declared` may be asked for as `requested`: narrow integers widen
to `int`, every reference may be taken as an object, and `void` discards any value. -/
def accepts (requested declared : ValueKind) : Bool :=
  match requested with
  | void => true
  | int => declared == byte || declared == char || declared == short || declared == int
  | object => declared.isReference
  | other => other == declared

@[simp] theorem mem_all (k : ValueKind) : k ∈ all := by
  cases k <;> decide

@[simp] theorem accepts_self (k : ValueKind) : k.accepts k = true := by
  cases k <;> rfl

end ValueKind

/-- What a member name is looked up as. -/
inductive MemberKind where
  | constructor
  | method
  | staticMethod
  | field
  | staticField
  deriving DecidableEq, Repr, Inhabited

namespace MemberKind

def isStatic : MemberKind → Bool
  | staticMethod | staticField => true
  | _ => false

/-- Members described by a single type instead of a parameter list and a result. -/
def isField : MemberKind → Bool
  | field | staticField => true
  | _ => false

def display : MemberKind → String
  | constructor => "constructor"
  | method => "method"
  | staticMethod => "static method"
  | field => "field"
  | staticField => "static field"

end MemberKind
end HostBridge
