/-!
UTF-8 as a byte transducer. The decoder reads one byte at a time; where the input is malformed it
yields one marker for each maximal ill-formed piece, so that the lenient reading (a replacement
character per piece) and the strict one (refuse any piece) come from the same run.
-/
namespace HostBridge.Utf8

/-- The bytes of a text. -/
def encode (s : String) : List UInt8 :=
  s.toList.flatMap String.utf8EncodeChar

/-- A character begun but not complete: the bits read so far, the number of bytes still owed, and
the range in which the next one must lie. -/
structure Partial where
  bits : Nat
  owed : Nat
  low : UInt8
  high : UInt8
  deriving DecidableEq, Repr

/-- What one byte does at the start of a character. -/
inductive Start where
  | whole (c : Char)
  | begun (p : Partial)
  | malformed
  deriving DecidableEq, Repr

/-- The role of a byte at the start of a character. The ranges for the byte after `E0`, `ED`, `F0`
and `F4` leave out overlong forms, surrogates and code points above `10FFFF`. -/
def start (b : UInt8) : Start :=
  if b < 0x80 then .whole (Char.ofNat b.toNat)
  else if b < 0xC2 then .malformed
  else if b < 0xE0 then .begun ⟨b.toNat - 0xC0, 1, 0x80, 0xBF⟩
  else if b = 0xE0 then .begun ⟨0, 2, 0xA0, 0xBF⟩
  else if b = 0xED then .begun ⟨0xD, 2, 0x80, 0x9F⟩
  else if b < 0xF0 then .begun ⟨b.toNat - 0xE0, 2, 0x80, 0xBF⟩
  else if b = 0xF0 then .begun ⟨0, 3, 0x90, 0xBF⟩
  else if b < 0xF4 then .begun ⟨b.toNat - 0xF0, 3, 0x80, 0xBF⟩
  else if b = 0xF4 then .begun ⟨4, 3, 0x80, 0x8F⟩
  else .malformed

/-- A begun character after one more byte of its range. -/
def Partial.extend (p : Partial) (b : UInt8) : Start :=
  let bits := p.bits * 64 + (b.toNat - 0x80)
  if p.owed ≤ 1 then .whole (Char.ofNat bits)
  else .begun ⟨bits, p.owed - 1, 0x80, 0xBF⟩

/-- The pieces of a byte string: a character, or `none` for a maximal ill-formed piece. -/
def pieces : Option Partial → List UInt8 → List (Option Char)
  | none, [] => []
  | some _, [] => [none]
  | none, b :: rest =>
    match start b with
    | .whole c => some c :: pieces none rest
    | .begun p => pieces (some p) rest
    | .malformed => none :: pieces none rest
  | some p, b :: rest =>
    if p.low ≤ b ∧ b ≤ p.high then
      match p.extend b with
      | .whole c => some c :: pieces none rest
      | .begun q => pieces (some q) rest
      | .malformed => none :: pieces none rest
    else
      none :: match start b with
        | .whole c => some c :: pieces none rest
        | .begun q => pieces (some q) rest
        | .malformed => none :: pieces none rest

/-- The character that stands for an ill-formed piece. -/
def replacement : Char := '\uFFFD'

/-- Reads every byte string, with a replacement character for each ill-formed piece. -/
def decodeLossy (bytes : List UInt8) : String :=
  String.ofList ((pieces none bytes).map (·.getD replacement))

/-- Reads a well-formed byte string and refuses any other. -/
def decode? (bytes : List UInt8) : Option String :=
  ((pieces none bytes).mapM id).map String.ofList

end HostBridge.Utf8
