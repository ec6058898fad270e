import HostBridge.Text.Hex

/-!
Words and handles: the values that cross the boundary. A word is 64 bits without a tag; a
descriptor says how to read it, and each reading below keeps the low bits that its type has. Floats
stay bit patterns, so every payload of a NaN and the sign of zero survive.
-/
namespace HostBridge

/-- Names one pinned host object; zero names none. -/
structure Handle where
  raw : Int64
  deriving DecidableEq, Repr, Inhabited

namespace Handle

/-- The handle that names no object. -/
def null : Handle := ⟨0⟩

def isNull (h : Handle) : Bool := h.raw == 0

/-- The decimal number. -/
def display (h : Handle) : String := toString h.raw.toInt

/-- The form used in debugging output. -/
def debug (h : Handle) : String := "Handle(" ++ h.display ++ ")"

end Handle

/-- One untagged slot of 64 bits. -/
structure Word where
  bits : UInt64
  deriving DecidableEq, Repr, Inhabited

namespace Word

/-- The zero value of every kind: zero, false and null. -/
def zero : Word := ⟨0⟩

def ofBool (b : Bool) : Word := ⟨if b then 1 else 0⟩

/-- The sign of a narrow integer fills the upper half. -/
def ofInt32 (n : Int32) : Word := ⟨n.toInt64.toUInt64⟩

def ofInt64 (n : Int64) : Word := ⟨n.toUInt64⟩

/-- The upper half of a single-precision slot is zero. -/
def ofFloat32 (bits : UInt32) : Word := ⟨bits.toUInt64⟩

def ofFloat64 (bits : UInt64) : Word := ⟨bits⟩

def ofHandle (h : Handle) : Word := ⟨h.raw.toUInt64⟩

def ofPointer (address : UInt64) : Word := ⟨address⟩

def toBool (w : Word) : Bool := w.bits != 0

def toInt8 (w : Word) : Int8 := w.bits.toUInt8.toInt8

def toUInt16 (w : Word) : UInt16 := w.bits.toUInt16

def toInt16 (w : Word) : Int16 := w.bits.toUInt16.toInt16

def toInt32 (w : Word) : Int32 := w.bits.toUInt32.toInt32

def toInt64 (w : Word) : Int64 := w.bits.toInt64

def toFloat32 (w : Word) : UInt32 := w.bits.toUInt32

def toFloat64 (w : Word) : UInt64 := w.bits

def toHandle (w : Word) : Handle := ⟨w.bits.toInt64⟩

def toPointer (w : Word) : UInt64 := w.bits

/-- The form used in debugging output: sixteen digits. -/
def debug (w : Word) : String := "Word(0x" ++ Hex.fixed 16 w.bits.toNat ++ ")"

@[simp] theorem toInt64_ofInt64 (n : Int64) : (ofInt64 n).toInt64 = n := by
  simp [ofInt64, toInt64]

@[simp] theorem toHandle_ofHandle (h : Handle) : (ofHandle h).toHandle = h := by
  simp [ofHandle, toHandle]

@[simp] theorem toFloat64_ofFloat64 (b : UInt64) : (ofFloat64 b).toFloat64 = b := rfl

@[simp] theorem toFloat32_ofFloat32 (b : UInt32) : (ofFloat32 b).toFloat32 = b := by
  simp [ofFloat32, toFloat32]

end Word
end HostBridge
