import HostBridge.Memory

/-!
Texts in memory. What was encoded is decoded to the same text, so a text without zero characters
that was copied into a buffer is read from there as it was.
-/
namespace HostBridge
namespace Utf8

/-! ### Bytes of one character -/

section
variable {rest : List UInt8} {bits r n : Nat} {low high : UInt8}

theorem pieces_whole {b : UInt8} {c : Char} (h : start b = .whole c) :
    pieces none (b :: rest) = some c :: pieces none rest := by
  simp only [pieces, h]

theorem pieces_begun {b : UInt8} {p : Partial} (h : start b = .begun p) :
    pieces none (b :: rest) = pieces (some p) rest := by
  simp only [pieces, h]

theorem toNat_continuation (hr : r < 64) : (UInt8.ofNat (r + 128)).toNat = r + 128 := by
  rw [UInt8.toNat_ofNat']
  omega

theorem extend_continuation (hr : r < 64) (p : Partial) :
    p.extend (UInt8.ofNat (r + 128)) =
      if p.owed ≤ 1 then .whole (Char.ofNat (p.bits * 64 + r))
      else .begun ⟨p.bits * 64 + r, p.owed - 1, 0x80, 0xBF⟩ := by
  simp only [Partial.extend, toNat_continuation hr, Nat.add_sub_cancel]

/-- A byte that continues a character, by the six bits that it adds, is in a range. -/
theorem continuation_within (hr : r < 64) (hlow : low.toNat ≤ r + 128)
    (hhigh : r + 128 ≤ high.toNat) :
    low ≤ UInt8.ofNat (r + 128) ∧ UInt8.ofNat (r + 128) ≤ high := by
  rw [UInt8.le_iff_toNat_le, UInt8.le_iff_toNat_le, toNat_continuation hr]
  exact ⟨hlow, hhigh⟩

/-- The last byte of a character. -/
theorem pieces_last (hr : r < 64) (hlow : low.toNat ≤ r + 128) (hhigh : r + 128 ≤ high.toNat) :
    pieces (some ⟨bits, 1, low, high⟩) (UInt8.ofNat (r + 128) :: rest) =
      some (Char.ofNat (bits * 64 + r)) :: pieces none rest := by
  rw [pieces, if_pos (continuation_within hr hlow hhigh), extend_continuation hr]
  rfl

/-- A byte of a character that others have to follow. -/
theorem pieces_more (hr : r < 64) (hlow : low.toNat ≤ r + 128) (hhigh : r + 128 ≤ high.toNat) :
    pieces (some ⟨bits, n + 2, low, high⟩) (UInt8.ofNat (r + 128) :: rest) =
      pieces (some ⟨bits * 64 + r, n + 1, 0x80, 0xBF⟩) rest := by
  rw [pieces, if_pos (continuation_within hr hlow hhigh), extend_continuation hr]
  simp

end

/-- What the first byte of a character announces: the range for the second one keeps out what has a
shorter form, the surrogates and what is beyond the last code point. -/
theorem start_ascii : ∀ v < 128, start (UInt8.ofNat v) = .whole (Char.ofNat v) := by
  decide

theorem start_two :
    ∀ q < 32, 2 ≤ q → start (UInt8.ofNat (q + 192)) = .begun ⟨q, 1, 0x80, 0xBF⟩ := by
  decide

theorem start_three : ∀ q < 16, start (UInt8.ofNat (q + 224)) =
    .begun ⟨q, 2, if q = 0 then 0xA0 else 0x80, if q = 13 then 0x9F else 0xBF⟩ := by
  decide

theorem start_four : ∀ q < 5, start (UInt8.ofNat (q + 240)) =
    .begun ⟨q, 3, if q = 0 then 0x90 else 0x80, if q = 4 then 0x8F else 0xBF⟩ := by
  decide

/-- The bytes of a character are read as that character. -/
theorem pieces_encodeChar (c : Char) (rest : List UInt8) :
    pieces none (String.utf8EncodeChar c ++ rest) = some c :: pieces none rest := by
  have self : Char.ofNat c.val.toNat = c := Char.ofNat_toNat c
  have valid : c.val.toNat < 0xD800 ∨ 0xDFFF < c.val.toNat ∧ c.val.toNat < 0x110000 := c.valid
  unfold String.utf8EncodeChar
  generalize c.val.toNat = v at self valid ⊢
  dsimp only
  split
  · rename_i one
    rw [List.singleton_append, pieces_whole (start_ascii v (by omega)), self]
  split
  · rename_i one two
    have second : v / 64 % 32 = v / 64 := by omega
    rw [List.cons_append, second, pieces_begun (start_two (v / 64) (by omega) (by omega)),
      List.singleton_append, pieces_last (by omega) (by simp) (by simp; omega)]
    rw [show v / 64 * 64 + v % 64 = v by omega, self]
  split
  · rename_i one two three
    have first : v / 4096 % 16 = v / 4096 := by omega
    rw [List.cons_append, first, pieces_begun (start_three (v / 4096) (by omega)), List.cons_append,
      pieces_more (by omega) (by split <;> simp; omega) (by split <;> simp <;> omega),
      List.singleton_append, pieces_last (by omega) (by simp) (by simp; omega)]
    rw [show (v / 4096 * 64 + v / 64 % 64) * 64 + v % 64 = v by omega, self]
  · rename_i one two three
    have first : v / 262144 % 8 = v / 262144 := by omega
    rw [List.cons_append, first, pieces_begun (start_four (v / 262144) (by omega)),
      List.cons_append,
      pieces_more (by omega) (by split <;> simp; omega) (by split <;> simp <;> omega),
      List.cons_append, pieces_more (by omega) (by simp) (by simp; omega), List.singleton_append,
      pieces_last (by omega) (by simp) (by simp; omega)]
    rw [show ((v / 262144 * 64 + v / 4096 % 64) * 64 + v / 64 % 64) * 64 + v % 64 = v by omega,
      self]

/-- The zero character alone has a zero byte. -/
theorem zero_mem_encodeChar {c : Char} (h : 0 ∈ String.utf8EncodeChar c) : c = '\x00' := by
  have zero {n : Nat} (small : n < 256) (same : (0 : UInt8) = UInt8.ofNat n) : n = 0 := by
    have value := congrArg UInt8.toNat same
    rw [UInt8.toNat_ofNat', Nat.mod_eq_of_lt small] at value
    exact value.symm
  have self : Char.ofNat c.val.toNat = c := Char.ofNat_toNat c
  unfold String.utf8EncodeChar at h
  generalize c.val.toNat = v at self h
  dsimp only at h
  split at h
  · have first := zero (by omega) (List.mem_singleton.mp h)
    rw [← self, first]
  · exfalso
    split at h
    · simp only [List.mem_cons, List.not_mem_nil, or_false] at h
      rcases h with h | h <;> have := zero (by omega) h <;> omega
    split at h
    · simp only [List.mem_cons, List.not_mem_nil, or_false] at h
      rcases h with h | h | h <;> have := zero (by omega) h <;> omega
    · simp only [List.mem_cons, List.not_mem_nil, or_false] at h
      rcases h with h | h | h | h <;> have := zero (by omega) h <;> omega

/-! ### Texts -/

theorem pieces_encode (s : List Char) :
    pieces none (s.flatMap String.utf8EncodeChar) = s.map some := by
  induction s with
  | nil => rfl
  | cons c s ih => rw [List.flatMap_cons, pieces_encodeChar, ih, List.map_cons]

/-- A text that was encoded is decoded to itself. -/
theorem decodeLossy_encode (text : String) : decodeLossy (encode text) = text := by
  unfold decodeLossy encode
  rw [pieces_encode, List.map_map]
  have kept : ((·.getD replacement) ∘ some : Char → Char) = id := rfl
  rw [kept, List.map_id, String.ofList_toList]

end Utf8

/-- A text without zero characters is read from its buffer as it is. -/
theorem cText_cBuffer {text : String} (nulFree : '\x00' ∉ text.toList) :
    cText (cBuffer (Utf8.encode text)) = text := by
  have whole : cBytes (cBuffer (Utf8.encode text)) = Utf8.encode text := by
    unfold cBytes cBuffer
    rw [List.takeWhile_append_of_pos]
    · simp
    · intro b hb
      obtain ⟨c, hc, hb⟩ := List.mem_flatMap.mp hb
      have : b ≠ 0 := by
        rintro rfl
        exact nulFree (Utf8.zero_mem_encodeChar hb ▸ hc)
      simpa using this
  rw [cText, whole, Utf8.decodeLossy_encode]

namespace Memory

/-- No buffer begins at zero. -/
theorem place_ne_zero (m : Memory) (buffer : List UInt8) : (m.place buffer).1 ≠ 0 := by
  change UInt64.ofNat m.front ≠ 0
  unfold front
  split
  case isTrue zero =>
    rw [UInt64.ofNat_add, zero]
    decide
  case isFalse nonzero => exact nonzero

/-- A buffer that was just placed is found at its address. -/
theorem buffer?_place (m : Memory) (buffer : List UInt8) :
    (m.place buffer).2.buffer? (m.place buffer).1 = some buffer := by
  simp [place, buffer?]

/-- A text that was just placed is found at its address. -/
theorem buffer?_placeText (m : Memory) (text : String) :
    (m.placeText text).2.buffer? (m.placeText text).1 = some (cBuffer (Utf8.encode text)) :=
  m.buffer?_place _

end Memory
end HostBridge
