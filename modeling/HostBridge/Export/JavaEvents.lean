import HostBridge.Export.Session

/-!
Exported functions for events, in terms of the Java VM. All types but booleans cross as they are; a
boolean is a byte, of which zero alone is false.
-/
namespace HostBridge

/-- The values by which the Java VM passes a type. -/
def Scalar.JavaCarrier : Scalar → Type
  | .int => Int32
  | .long => Int64
  | .float => UInt32
  | .double => UInt64
  | .boolean => UInt8

def Scalar.ofJava : (t : Scalar) → t.JavaCarrier → t.Carrier
  | .int, n => n
  | .long, n => n
  | .float, b => b
  | .double, b => b
  | .boolean, (b : UInt8) => b != 0

/-- One value for each of the types, as the Java VM passes them. -/
def JavaArgs : List Scalar → Type
  | [] => Unit
  | t :: ts => t.JavaCarrier × JavaArgs ts

def JavaArgs.toArgs : {ts : List Scalar} → JavaArgs ts → Args ts
  | [], _ => ()
  | t :: _, (x, rest) => (t.ofJava x, toArgs rest)

/-- What the Java VM passes for a type out of a word; a boolean is the lowest byte. -/
def Scalar.javaOfWord : (t : Scalar) → Word → t.JavaCarrier
  | .int, w => w.toInt32
  | .long, w => w.toInt64
  | .float, w => w.toFloat32
  | .double, w => w.toFloat64
  | .boolean, w => w.bits.toUInt8

/-- Values for the types from words; a missing one is zero. -/
def JavaArgs.ofWords : (ts : List Scalar) → List Word → JavaArgs ts
  | [], _ => ()
  | t :: ts, ws => (t.javaOfWord (ws.headD .zero), ofWords ts ws.tail)

/-- The results by which the Java VM takes a type. -/
def Reply.JavaCarrier : Reply → Type
  | .unit => Unit
  | .int _ => Int32
  | .boolean _ => UInt8

def Reply.toJava : (r : Reply) → r.Carrier → r.JavaCarrier
  | .unit, _ => ()
  | .int _, n => n
  | .boolean _, (b : Bool) => if b then (1 : UInt8) else (0 : UInt8)

/-- The results of a kind of event as the Java VM takes them. -/
def EventKind.JavaOutput (k : EventKind) : Type := k.info.default.JavaCarrier

def EventKind.toJava (k : EventKind) (x : k.Output) : k.JavaOutput := k.info.default.toJava x

namespace Export

variable {P : Platform}

/-- Delivers an event for the Java VM. -/
def javaDispatch (k : EventKind) (args : JavaArgs k.params) : Act P k.JavaOutput :=
  return k.toJava (← dispatch k args.toArgs)

end Export
end HostBridge
