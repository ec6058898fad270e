import HostBridge.Text.Utf8
import HostBridge.Word

/-!
Memory shared with foreign code: buffers that hold text followed by a zero byte, named by their
address. A buffer stays as it was written until it is freed.
-/
namespace HostBridge

/-- The bytes of a buffer before its first zero byte. -/
def cBytes (buffer : List UInt8) : List UInt8 := buffer.takeWhile (· != 0)

/-- The buffer that holds bytes followed by a zero byte. -/
def cBuffer (bytes : List UInt8) : List UInt8 := bytes ++ [0]

/-- The text that a buffer is read as; what is not UTF-8 in it is replaced. -/
def cText (buffer : List UInt8) : String := Utf8.decodeLossy (cBytes buffer)

/-- The live buffers by address. Addresses are never used twice, and none is zero. -/
structure Memory where
  next : Nat := 4096
  buffers : List (UInt64 × List UInt8) := []
  deriving DecidableEq, Repr, Inhabited

namespace Memory

/-- Distance between buffers beyond their length. -/
def alignment : Nat := 16

/-- Where the next buffer begins; the address zero is passed over. -/
def front (m : Memory) : Nat :=
  if UInt64.ofNat m.next = 0 then m.next + alignment else m.next

/-- Enters a buffer at a new address. -/
def place (m : Memory) (buffer : List UInt8) : UInt64 × Memory :=
  let address := UInt64.ofNat m.front
  (address,
    { next := m.front + buffer.length + alignment, buffers := (address, buffer) :: m.buffers })

/-- Copies a text into a new buffer. -/
def placeText (m : Memory) (text : String) : UInt64 × Memory :=
  m.place (cBuffer (Utf8.encode text))

/-- The buffer at an address. -/
def buffer? (m : Memory) (address : UInt64) : Option (List UInt8) :=
  m.buffers.lookup address

/-- Frees the buffer at an address. -/
def free (m : Memory) (address : UInt64) : Memory :=
  { m with buffers := m.buffers.filter (·.1 != address) }

end Memory
end HostBridge
