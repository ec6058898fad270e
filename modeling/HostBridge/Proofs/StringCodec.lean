import HostBridge.Proofs.LossyTexts
import HostBridge.Proofs.Plain
import HostBridge.Proofs.StrictTexts

/-!
Strings between texts and buffers. A text is written as its UTF-8 bytes with a zero byte behind
them and read up to the first zero byte, so writing and then reading cuts it at its first zero
character. Reading and then writing gives back well-formed bytes, and of other bytes a buffer that
is read as the same text.
-/
namespace HostBridge

namespace Utf8

theorem encode_eq_toUTF8 (text : String) : encode text = text.toUTF8.data.toList := by
  change _ = text.toByteArray.data.toList
  rw [← String.utf8Encode_toList, List.utf8Encode, List.data_toByteArray, encode]

/-- Well-formed bytes are those of a text. -/
theorem isValidUTF8_iff {bytes : List UInt8} :
    bytes.toByteArray.IsValidUTF8 ↔ ∃ text, bytes = encode text := by
  constructor
  · rintro ⟨chars, same⟩
    refine ⟨String.ofList chars, ?_⟩
    have data := congrArg ByteArray.data same
    rw [List.utf8Encode, List.data_toByteArray, List.data_toByteArray] at data
    rw [List.toArray_inj data, encode, String.toList_ofList]
  · rintro ⟨text, rfl⟩
    exact ⟨text.toList, rfl⟩

end Utf8

/-! ### The first zero -/

/-- The characters of a text before its first zero character. -/
def nulFreePrefix (text : String) : String :=
  String.ofList (text.toList.takeWhile (· != '\x00'))

/-- Of the beginnings of a text that have no zero character, one is the longest. -/
structure LongestNulFree (text read : String) : Prop where
  begins : read.toList.IsPrefix text.toList
  nulFree : '\x00' ∉ read.toList
  longest : ∀ chars : List Char, chars.IsPrefix text.toList → '\x00' ∉ chars →
    chars.IsPrefix read.toList

theorem longestNulFree_prefix (text : String) : LongestNulFree text (nulFreePrefix text) := by
  have chars : (nulFreePrefix text).toList = text.toList.takeWhile (· != '\x00') :=
    String.toList_ofList
  refine ⟨?_, ?_, ?_⟩
  · rw [chars]
    exact List.takeWhile_prefix _
  · rw [chars]
    intro mem
    simpa using List.mem_takeWhile_imp mem
  · rintro own ⟨rest, split⟩ nulFree
    have passed : ∀ c ∈ own, (c != '\x00') = true := by
      intro c mem
      rw [bne_iff_ne]
      exact fun zero => nulFree (zero ▸ mem)
    rw [chars, ← split, List.takeWhile_append_of_pos passed]
    exact List.prefix_append _ _

theorem LongestNulFree.eq_self {text read : String} (longest : LongestNulFree text read)
    (nulFree : '\x00' ∉ text.toList) : read = text := by
  have whole := longest.longest text.toList (List.prefix_refl _) nulFree
  exact String.toList_injective (longest.begins.eq_of_length_le whole.length_le)

theorem cBytes_terminated {bytes rest : List UInt8} (nonzero : 0 ∉ bytes) :
    cBytes (bytes ++ 0 :: rest) = bytes := by
  have passed : ∀ b ∈ bytes, (b != 0) = true := by
    intro b mem
    rw [bne_iff_ne]
    exact fun zero => nonzero (zero ▸ mem)
  rw [cBytes, List.takeWhile_append_of_pos passed]
  simp

/-- The first zero byte of a text is that of its first zero character. -/
theorem cBytes_encode (text : String) :
    cBytes (cBuffer (Utf8.encode text)) = Utf8.encode (nulFreePrefix text) := by
  have cut (chars : List Char) :
      (chars.flatMap String.utf8EncodeChar ++ [0]).takeWhile (· != 0) =
        (chars.takeWhile (· != '\x00')).flatMap String.utf8EncodeChar := by
    induction chars with
    | nil => rfl
    | cons c chars ih =>
      by_cases zero : c = '\x00'
      · subst zero
        rfl
      · have passed : ∀ b ∈ String.utf8EncodeChar c, (b != 0) = true := by
          intro b mem
          rw [bne_iff_ne]
          exact fun null => zero (Utf8.zero_mem_encodeChar (null ▸ mem))
        rw [List.takeWhile_cons_of_pos (by simpa using zero), List.flatMap_cons,
          List.flatMap_cons, List.append_assoc, List.takeWhile_append_of_pos passed, ih]
  unfold cBytes cBuffer Utf8.encode nulFreePrefix
  rw [String.toList_ofList]
  exact cut text.toList

theorem cText_encode (text : String) : cText (cBuffer (Utf8.encode text)) = nulFreePrefix text := by
  rw [cText, cBytes_encode, Utf8.decodeLossy_encode]

namespace Call

variable {P : Platform} {s : State P}

/-! ### Reading and writing -/

theorem readText_run {address : UInt64} {buffer : List UInt8} (nonzero : address ≠ 0)
    (found : s.memory.buffer? address = some buffer) :
    readText address s = (.value (some (cText buffer)), s) := by
  unfold readText
  rw [if_neg nonzero, Exec.run_bind, Exec.run_gets]
  simp only [found]
  rfl

/-- A text is written into a buffer of its own, which is not at zero. -/
theorem placeText_run (text : String) : ∃ address t, placeText text s = (.value address, t) ∧
    address ≠ 0 ∧ t.memory.buffer? address = some (cBuffer (Utf8.encode text)) :=
  ⟨(s.memory.placeText text).1, { s with memory := (s.memory.placeText text).2 }, rfl,
    s.memory.place_ne_zero _, s.memory.buffer?_placeText text⟩

/-- What writing and reading strings make of each other. -/
structure StringCodec (F : Foreign P (Exec P)) (s : State P) : Prop where
  /-- A text that is written and read is cut at its first zero character. -/
  written : ∀ text, ∃ address t read, placeText text s = (.value address, t) ∧ address ≠ 0 ∧
    t.memory.buffer? address = some (text.toUTF8.data.toList ++ [0]) ∧
    readText address t = (.value (some read), t) ∧ LongestNulFree text read ∧
    ('\x00' ∉ text.toList → read = text)
  /-- Well-formed bytes that are read and written are there again. -/
  canonical : ∀ address bytes rest, address ≠ 0 →
    s.memory.buffer? address = some (bytes ++ 0 :: rest) → 0 ∉ bytes →
    bytes.toByteArray.IsValidUTF8 →
    ∃ text copy t, readText address s = (.value (some text), s) ∧
      placeText text s = (.value copy, t) ∧ copy ≠ 0 ∧
      t.memory.buffer? copy = some (bytes ++ [0])
  /-- Any bytes are read, as a text that a copy is read as, too. -/
  settled : ∀ address buffer, address ≠ 0 → s.memory.buffer? address = some buffer →
    ∃ text copy t, readText address s = (.value (some text), s) ∧ '\x00' ∉ text.toList ∧
      placeText text s = (.value copy, t) ∧ readText copy t = (.value (some text), t)
  /-- The strings of dynamic calls are written and read in this way. -/
  values : ∀ requested text, requested ≠ .void → ∃ w t read,
    encode F requested (.string (some text)) s = (.value w, t) ∧
    decode F .string w t = (.value (.string (some read)), t) ∧ LongestNulFree text read

theorem string_codec (F : Foreign P (Exec P)) (s : State P) : StringCodec F s where
  written text := by
    obtain ⟨address, t, wrote, nonzero, found⟩ := placeText_run (s := s) text
    have longest := longestNulFree_prefix text
    refine ⟨address, t, nulFreePrefix text, wrote, nonzero, ?_, ?_, longest, longest.eq_self⟩
    · rw [found, cBuffer, Utf8.encode_eq_toUTF8]
    · rw [readText_run nonzero found, cText_encode]
  canonical address bytes rest nonzero found nulFree valid := by
    obtain ⟨text, rfl⟩ := Utf8.isValidUTF8_iff.mp valid
    have read : cText (Utf8.encode text ++ 0 :: rest) = text := by
      rw [cText, cBytes_terminated nulFree, Utf8.decodeLossy_encode]
    obtain ⟨copy, t, wrote, apart, placed⟩ := placeText_run (s := s) text
    refine ⟨text, copy, t, ?_, wrote, apart, placed⟩
    rw [readText_run nonzero found, read]
  settled address buffer nonzero found := by
    obtain ⟨copy, t, wrote, apart, placed⟩ := placeText_run (s := s) (cText buffer)
    refine ⟨cText buffer, copy, t, readText_run nonzero found, zero_not_mem_cText buffer, wrote, ?_⟩
    rw [readText_run apart placed, cText_copy]
  values requested text asked := by
    obtain ⟨address, t, wrote, nonzero, found⟩ := placeText_run (s := s) text
    refine ⟨.ofPointer address, t, nulFreePrefix text, ?_, ?_, longestNulFree_prefix text⟩
    · unfold encode
      rw [if_neg asked]
      change (placeText text >>= fun address => pure (Word.ofPointer address)) s = _
      rw [Exec.run_bind, wrote]
      rfl
    · change (readText address >>= fun text => pure (HostValue.string text)) t = _
      rw [Exec.run_bind, readText_run nonzero found, cText_encode]
      rfl

/-- A buffer that is not well-formed is read and copied, and a text is cut. -/
theorem string_codec_cut :
    let s : State Plain.platform :=
      { Plain.start with memory := ⟨48, [(16, [0x61, 0xFF, 0]), (32, [0x62, 0, 0x63])]⟩ }
    StringCodec ((System.ofPrograms Plain.idle).foreign 1) s ∧
      (readText 16 s).1 = .value (some "a\uFFFD") ∧ (readText 32 s).1 = .value (some "b") ∧
      (placeText "a\x00b" s).2.memory.buffer? 48 = some [0x61, 0, 0x62, 0] ∧
      (readText 48 (placeText "a\x00b" s).2).1 = .value (some "a") := by
  refine ⟨string_codec _ _, ?_, ?_, ?_, ?_⟩
  · rfl
  · rfl
  · rfl
  · rfl

end Call
end HostBridge
