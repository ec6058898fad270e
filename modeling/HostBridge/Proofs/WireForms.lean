import HostBridge.Bridge.Call
import HostBridge.Export.CType

/-!
The forms that words have on the wire. A scalar kind uses the low bits of a word and has one word
for each of its values, which is the form of all words that stand for that value. A result that is
asked for through a wider kind keeps its form, and the C types lose nothing of it.
-/
namespace HostBridge

/-! ### Widths -/

namespace Word

/-- The low `n` bits, with the sign in front of them. -/
def signed (n : Nat) (w : Word) : Word := ⟨⟨(w.bits.toBitVec.setWidth n).signExtend 64⟩⟩

/-- The low `n` bits, with zeros in front of them. -/
def unsigned (n : Nat) (w : Word) : Word := ⟨⟨(w.bits.toBitVec.setWidth n).setWidth 64⟩⟩

/-- One for every word but zero. -/
def truth (w : Word) : Word := if w = .zero then .zero else ⟨1⟩

variable {n : Nat} (w : Word)

/-- Neither sort of extension touches the bits that are extended. -/
theorem setWidth_signExtend (x : BitVec n) (narrow : n ≤ 64) :
    (x.signExtend 64).setWidth n = x := by
  ext i small
  have inside : i < 64 := by omega
  simp [BitVec.getElem_signExtend, small, inside]

theorem setWidth_setWidth (x : BitVec n) (narrow : n ≤ 64) :
    (x.setWidth 64).setWidth n = x := by
  rw [BitVec.setWidth_setWidth_of_le _ narrow, BitVec.setWidth_eq]

theorem signed_signed (narrow : n ≤ 64) : (w.signed n).signed n = w.signed n := by
  rw [signed, signed, setWidth_signExtend _ narrow]

theorem unsigned_unsigned (narrow : n ≤ 64) : (w.unsigned n).unsigned n = w.unsigned n := by
  rw [unsigned, unsigned, setWidth_setWidth _ narrow]

theorem truth_truth : w.truth.truth = w.truth := by
  unfold truth
  split <;> rfl

/-! ### Words of what is read -/

theorem ofBool_toBool : ofBool w.toBool = w.truth := by
  obtain ⟨bits⟩ := w
  by_cases none : bits = 0 <;> simp [ofBool, toBool, truth, zero, none]

theorem ofInt32_toInt8 : ofInt32 w.toInt8.toInt32 = w.signed 8 := by
  rw [ofInt32, Int8.toInt64_toInt32]
  rfl

theorem ofInt32_toInt16 : ofInt32 w.toInt16.toInt32 = w.signed 16 := by
  rw [ofInt32, Int16.toInt64_toInt32]
  rfl

/-- A character is never negative as an integer. -/
theorem ofInt32_toUInt16 : ofInt32 w.toUInt16.toUInt32.toInt32 = w.unsigned 16 := by
  have positive : ((w.bits.toBitVec.setWidth 16).setWidth 32).msb = false := by
    rw [BitVec.msb_setWidth]
    simp
  have widened : ((w.bits.toBitVec.setWidth 16).setWidth 32).signExtend 64 =
      (w.bits.toBitVec.setWidth 16).setWidth 64 := by
    rw [BitVec.signExtend_eq_setWidth_of_msb_false positive, BitVec.setWidth_setWidth (by omega)]
  exact congrArg (fun bits => mk ⟨bits⟩) widened

/-- What is read of the word of an integer is the integer. -/
theorem toInt32_ofInt32 (m : Int32) : (ofInt32 m).toInt32 = m :=
  Int32.toBitVec_inj.mp (setWidth_signExtend m.toBitVec (by omega))

end Word

/-! ### Forms -/

namespace ValueKind

/-- Kinds whose values are bits. -/
def isScalar : ValueKind → Bool
  | string | object | array | void => false
  | _ => true

/-- The word of the value that a word stands for in a scalar kind. -/
def form : ValueKind → Word → Word
  | boolean => Word.truth
  | byte => Word.signed 8
  | char => Word.unsigned 16
  | short => Word.signed 16
  | int => Word.signed 32
  | float => Word.unsigned 32
  | _ => id

/-- The form of a form is that form. -/
theorem form_form (k : ValueKind) (w : Word) : k.form (k.form w) = k.form w := by
  cases k with
  | boolean => exact w.truth_truth
  | byte => exact w.signed_signed (by omega)
  | char => exact w.unsigned_unsigned (by omega)
  | short => exact w.signed_signed (by omega)
  | int => exact w.signed_signed (by omega)
  | float => exact w.unsigned_unsigned (by omega)
  | _ => rfl

/-- Every pattern of bits of a floating-point number is a form. -/
theorem form_float (bits : UInt32) : float.form (.ofFloat32 bits) = .ofFloat32 bits := by
  have read := Word.toFloat32_ofFloat32 bits
  rw [← read]
  exact form_form float (.ofFloat32 bits)

end ValueKind

/-! ### Values -/

namespace HostValue

variable {O : Type}

/-- The value that a word stands for in a scalar kind. -/
def ofScalar (w : Word) : ValueKind → HostValue O
  | .boolean => .boolean w.toBool
  | .byte => .byte w.toInt8
  | .char => .char w.toUInt16
  | .short => .short w.toInt16
  | .int => .int w.toInt32
  | .long => .long w.toInt64
  | .float => .float w.toFloat32
  | .double => .double w.toFloat64
  | _ => .void

end HostValue

namespace Call

variable {P : Platform} (F : Foreign P (Exec P)) {k requested : ValueKind}

/-- A word of a scalar kind is read without a look at anything else. -/
theorem decode_scalar (scalar : k.isScalar = true) (w : Word) :
    decode F k w = pure (.ofScalar w k) := by
  cases k <;> first | rfl | cases scalar

/-- The word of the value that was read is the form of the word that it was read from. -/
theorem encode_scalar (scalar : k.isScalar = true) (asked : requested ≠ .void) (w : Word) :
    encode F requested (.ofScalar w k) = pure (k.form w) := by
  unfold encode
  rw [if_neg asked]
  cases k with
  | boolean => exact congrArg pure w.ofBool_toBool
  | byte => exact congrArg pure w.ofInt32_toInt8
  | char => exact congrArg pure w.ofInt32_toUInt16
  | short => exact congrArg pure w.ofInt32_toInt16
  | int => rfl
  | long => rfl
  | float => rfl
  | double => rfl
  | string | object | array | void => cases scalar

end Call

/-! ### C types -/

namespace CType

/-- The value of a C type comes back from its word. -/
theorem ofWord_toWord (t : CType) (r : t.Carrier) : t.ofWord (t.toWord r) = r := by
  cases t with
  | void => rfl
  | int => exact Word.toInt32_ofInt32 r
  | long => exact Word.toInt64_ofInt64 r
  | double => rfl
  | float => exact Word.toFloat32_ofFloat32 r
  | boolean => cases r <;> rfl
  | object => exact Word.toHandle_ofHandle r
  | string => rfl

/-- The form of a kind is the word of a value of every C type that takes the kind. -/
theorem exists_form_eq {t : CType} {k : ValueKind} (accepted : t.kind.accepts k = true)
    (scalar : k.isScalar = true) (asked : t.kind ≠ .void) (w : Word) :
    ∃ r, k.form w = t.toWord r := by
  cases t with
  | void => exact absurd rfl asked
  | int =>
    cases k with
    | byte => exact ⟨w.toInt8.toInt32, w.ofInt32_toInt8.symm⟩
    | char => exact ⟨w.toUInt16.toUInt32.toInt32, w.ofInt32_toUInt16.symm⟩
    | short => exact ⟨w.toInt16.toInt32, w.ofInt32_toInt16.symm⟩
    | int => exact ⟨w.toInt32, rfl⟩
    | _ => cases accepted
  | object => exact absurd scalar (by cases k <;> first | decide | cases accepted)
  | string => exact absurd scalar (by cases k <;> first | decide | cases accepted)
  | boolean =>
    obtain rfl : k = .boolean := (by cases k <;> first | rfl | cases accepted)
    exact ⟨w.toBool, w.ofBool_toBool.symm⟩
  | long =>
    obtain rfl : k = .long := (by cases k <;> first | rfl | cases accepted)
    exact ⟨w.toInt64, rfl⟩
  | float =>
    obtain rfl : k = .float := (by cases k <;> first | rfl | cases accepted)
    exact ⟨w.toFloat32, rfl⟩
  | double =>
    obtain rfl : k = .double := (by cases k <;> first | rfl | cases accepted)
    exact ⟨w.toFloat64, rfl⟩

/-- Wide types have a value for every word. -/
theorem exists_toWord_eq {t : CType} (wide : t = .long ∨ t = .double ∨ t = .object ∨ t = .string)
    (w : Word) : ∃ r, w = t.toWord r := by
  rcases wide with rfl | rfl | rfl | rfl
  · exact ⟨w.toInt64, rfl⟩
  · exact ⟨w.toFloat64, rfl⟩
  · exact ⟨w.toHandle, rfl⟩
  · exact ⟨w.toPointer, rfl⟩

end CType
end HostBridge
