import HostBridge.Proofs.TextCopies
import Mathlib.Algebra.Ring.Nat

/-!
Strict reading. Bytes in which nothing is ill-formed are the bytes of the text that was read, so a
byte string is refused if and only if it is the encoding of no text.
-/
namespace HostBridge.Utf8

/-! ### Characters by number -/

/-- The last bytes of a character, by its number. -/
def lastBytes : Nat → Nat → List UInt8
  | 0, _ => []
  | n + 1, v => UInt8.ofNat (v / 64 ^ n % 64 + 128) :: lastBytes n v

section
variable {v : Nat}

theorem val_ofNat (valid : v.isValidChar) : (Char.ofNat v).val.toNat = v := by
  rw [Char.ofNat, dif_pos valid]
  rfl

theorem encodeChar_one (small : v < 128) :
    String.utf8EncodeChar (Char.ofNat v) = [UInt8.ofNat v] := by
  unfold String.utf8EncodeChar
  rw [val_ofNat (.inl (by omega))]
  exact if_pos (by omega)

theorem encodeChar_two (low : 128 ≤ v) (high : v < 2048) :
    String.utf8EncodeChar (Char.ofNat v) = UInt8.ofNat (v / 64 + 192) :: lastBytes 1 v := by
  unfold String.utf8EncodeChar
  rw [val_ofNat (.inl (by omega))]
  dsimp only
  rw [if_neg (by omega), if_pos (by omega), show v / 64 % 32 = v / 64 by omega]
  simp [lastBytes]

theorem encodeChar_three (low : 2048 ≤ v) (high : v < 65536) (valid : v < 0xD800 ∨ 0xDFFF < v) :
    String.utf8EncodeChar (Char.ofNat v) = UInt8.ofNat (v / 4096 + 224) :: lastBytes 2 v := by
  unfold String.utf8EncodeChar
  rw [val_ofNat (by unfold Nat.isValidChar; omega)]
  dsimp only
  rw [if_neg (by omega), if_neg (by omega), if_pos (by omega),
    show v / 4096 % 16 = v / 4096 by omega]
  simp [lastBytes]

theorem encodeChar_four (low : 65536 ≤ v) (high : v < 0x110000) :
    String.utf8EncodeChar (Char.ofNat v) = UInt8.ofNat (v / 262144 + 240) :: lastBytes 3 v := by
  unfold String.utf8EncodeChar
  rw [val_ofNat (.inr (by omega))]
  dsimp only
  rw [if_neg (by omega), if_neg (by omega), if_neg (by omega),
    show v / 262144 % 8 = v / 262144 by omega]
  simp [lastBytes]

end

/-! ### Characters that are begun -/

/-- What was read of a character fits the number, and so does the range of the next byte. -/
structure Partial.Fits (p : Partial) (v : Nat) : Prop where
  bits : v / 64 ^ p.owed = p.bits
  low : p.low.toNat ≤ v / 64 ^ (p.owed - 1) % 64 + 128
  high : v / 64 ^ (p.owed - 1) % 64 + 128 ≤ p.high.toNat

/-- All characters that may come of a begun one have the bytes that were read in front. -/
structure Partial.Begins (p : Partial) (read : List UInt8) : Prop where
  owes : 0 < p.owed
  low : 128 ≤ p.low.toNat
  high : p.high.toNat < 192
  bytes {v : Nat} (fits : p.Fits v) :
    String.utf8EncodeChar (Char.ofNat v) = read ++ lastBytes p.owed v

/-- The bytes that were read are those of a character, or the first ones of it. -/
def Start.Begins (read : List UInt8) : Start → Prop
  | .whole c => String.utf8EncodeChar c = read
  | .begun p => p.Begins read
  | .malformed => True

section
variable {b : UInt8} {q : Nat} {low high : UInt8}

theorem byte_of_toNat {n : Nat} (same : b.toNat = n) : UInt8.ofNat n = b := by
  rw [← same, UInt8.ofNat_toNat]

theorem begins_two (first : b.toNat = q + 192) (long : 2 ≤ q) (small : q < 32) :
    Partial.Begins ⟨q, 1, 0x80, 0xBF⟩ [b] where
  owes := by simp
  low := by simp
  high := by simp
  bytes {v} fits := by
    obtain ⟨bits, -, -⟩ := fits
    simp only [Nat.pow_one] at bits
    rw [encodeChar_two (by omega) (by omega), bits, byte_of_toNat first]
    rfl

theorem begins_three (first : b.toNat = q + 224) (small : q < 16) (above : 128 ≤ low.toNat)
    (below : high.toNat < 192) (long : q = 0 → 160 ≤ low.toNat)
    (scalar : q = 13 → high.toNat < 160) : Partial.Begins ⟨q, 2, low, high⟩ [b] where
  owes := by simp
  low := above
  high := below
  bytes {v} fits := by
    obtain ⟨bits, least, most⟩ := fits
    dsimp only at bits least most
    rw [encodeChar_three (by omega) (by omega) (by omega), show v / 4096 = q from bits,
      byte_of_toNat first]
    rfl

theorem begins_four (first : b.toNat = q + 240) (small : q < 5) (above : 128 ≤ low.toNat)
    (below : high.toNat < 192) (long : q = 0 → 144 ≤ low.toNat)
    (last : q = 4 → high.toNat < 144) : Partial.Begins ⟨q, 3, low, high⟩ [b] where
  owes := by simp
  low := above
  high := below
  bytes {v} fits := by
    obtain ⟨bits, least, most⟩ := fits
    dsimp only at bits least most
    rw [encodeChar_four (by omega) (by omega), show v / 262144 = q from bits,
      byte_of_toNat first]
    rfl

end

/-- The range after the first byte of a character leaves out longer forms, surrogates and what is
beyond the last code point. -/
theorem start_begins (b : UInt8) : (start b).Begins [b] := by
  unfold start
  simp only [UInt8.lt_iff_toNat_lt, ← UInt8.toNat_inj, UInt8.reduceToNat]
  split
  case isTrue small => exact (encodeChar_one small).trans (by rw [UInt8.ofNat_toNat])
  split
  case isTrue => trivial
  split
  case isTrue => exact begins_two (by omega) (by omega) (by omega)
  split
  case isTrue same => exact begins_three same (by simp) (by simp) (by simp) (by simp) (by simp)
  split
  case isTrue same => exact begins_three same (by simp) (by simp) (by simp) (by simp) (by simp)
  split
  case isTrue =>
    exact begins_three (by omega) (by omega) (by simp) (by simp) (by omega) (by omega)
  split
  case isTrue same => exact begins_four same (by simp) (by simp) (by simp) (by simp) (by simp)
  split
  case isTrue => exact begins_four (by omega) (by omega) (by simp) (by simp) (by omega) (by omega)
  split
  case isTrue same => exact begins_four same (by simp) (by simp) (by simp) (by simp) (by simp)
  case isFalse => trivial

theorem Partial.Begins.extend {p : Partial} {read : List UInt8} (begins : p.Begins read)
    {b : UInt8} (low : p.low ≤ b) (high : b ≤ p.high) : (p.extend b).Begins (read ++ [b]) := by
  obtain ⟨bits, owed, least, most⟩ := p
  obtain ⟨owes, above, below, bytes⟩ := begins
  rw [UInt8.le_iff_toNat_le] at low high
  dsimp only at owes above below low high bytes
  have self : UInt8.ofNat b.toNat = b := UInt8.ofNat_toNat
  obtain ⟨r, small, same⟩ : ∃ r < 64, b.toNat = r + 128 := ⟨b.toNat - 128, by omega, by omega⟩
  rw [← self, same, extend_continuation small]
  obtain ⟨n, rfl⟩ : ∃ n, owed = n + 1 := ⟨owed - 1, by omega⟩
  split
  case isTrue one =>
    obtain rfl : n = 0 := by simpa using one
    have fits : Partial.Fits ⟨bits, 1, least, most⟩ (bits * 64 + r) :=
      ⟨by simp; omega, by simp; omega, by simp; omega⟩
    refine (bytes fits).trans ?_
    rw [lastBytes, lastBytes, Nat.pow_zero, Nat.div_one,
      show (bits * 64 + r) % 64 = r by omega]
  case isFalse more =>
    obtain ⟨m, rfl⟩ : ∃ m, n = m + 1 := ⟨n - 1, by simp at more; omega⟩
    refine ⟨by simp, by simp, by simp, fun {v} fits => ?_⟩
    have front : v / 64 ^ (m + 1) = bits * 64 + r := fits.bits
    have fits : Partial.Fits ⟨bits, m + 2, least, most⟩ v := by
      refine ⟨?_, ?_, ?_⟩
      · simp only [Nat.pow_succ _ (m + 1), ← Nat.div_div_eq_div_mul, front]
        omega
      · simp only [Nat.add_one_sub_one, front]
        omega
      · simp only [Nat.add_one_sub_one, front]
        omega
    rw [bytes fits, lastBytes, front, show (bits * 64 + r) % 64 = r by omega, List.append_cons]
    rfl

/-! ### Texts -/

/-- The pieces from a byte on, by what the byte does. -/
def Start.pieces (r : Start) (rest : List UInt8) : List (Option Char) :=
  match r with
  | .whole c => some c :: Utf8.pieces none rest
  | .begun p => Utf8.pieces (some p) rest
  | .malformed => none :: Utf8.pieces none rest

theorem pieces_none_cons (b : UInt8) (rest : List UInt8) :
    pieces none (b :: rest) = (start b).pieces rest := by
  rw [pieces]
  rfl

theorem pieces_some_cons {p : Partial} {b : UInt8} (inside : p.low ≤ b ∧ b ≤ p.high)
    (rest : List UInt8) : pieces (some p) (b :: rest) = (p.extend b).pieces rest := by
  rw [pieces, if_pos inside]
  rfl

/-- Where all pieces are characters, the bytes are theirs, with those read before in front. -/
theorem pieces_eq_map_some {begun : Option Partial} {read bytes : List UInt8} {s : List Char}
    (begins : match begun with
      | none => read = []
      | some p => p.Begins read)
    (whole : pieces begun bytes = s.map some) :
    s.flatMap String.utf8EncodeChar = read ++ bytes := by
  induction bytes generalizing begun read s with
  | nil =>
    cases begun with
    | none =>
      subst begins
      rw [pieces, List.nil_eq, List.map_eq_nil_iff] at whole
      simp [whole]
    | some p => cases s <;> simp [pieces] at whole
  | cons b rest ih =>
    have next {r : Start} {read : List UInt8} (begins : r.Begins read)
        (whole : r.pieces rest = s.map some) :
        s.flatMap String.utf8EncodeChar = read ++ rest := by
      cases r with
      | whole c =>
        obtain ⟨d, s, rfl, same, tail⟩ := List.map_eq_cons_iff.mp whole.symm
        cases same
        have after : s.flatMap String.utf8EncodeChar = [] ++ rest := @ih none [] s rfl tail.symm
        rw [List.flatMap_cons, begins, after, List.nil_append]
      | begun p => exact @ih (some p) read s begins whole
      | malformed => cases s <;> simp [Start.pieces] at whole
    cases begun with
    | none =>
      subst begins
      rw [pieces_none_cons] at whole
      exact next (start_begins b) whole
    | some p =>
      by_cases inside : p.low ≤ b ∧ b ≤ p.high
      · rw [pieces_some_cons inside] at whole
        rw [List.append_cons]
        exact next (begins.extend inside.1 inside.2) whole
      · rw [pieces, if_neg inside] at whole
        cases s <;> simp at whole

theorem mapM_id_eq_some {α : Type} {l : List (Option α)} {s : List α} :
    l.mapM id = some s ↔ l = s.map some := by
  induction l generalizing s with
  | nil => cases s <;> simp
  | cons a l ih =>
    rw [List.mapM_cons]
    cases a with
    | none => cases s <;> simp
    | some a =>
      change (l.mapM id).bind (fun rest => some (a :: rest)) = some s ↔ _
      rw [Option.bind_eq_some_iff]
      constructor
      · rintro ⟨rest, read, same⟩
        cases same
        rw [ih.mp read, List.map_cons]
      · intro same
        obtain ⟨b, rest, rfl, head, tail⟩ := List.map_eq_cons_iff.mp same.symm
        cases head
        exact ⟨rest, ih.mpr tail.symm, rfl⟩

/-- Strict reading gives a text exactly for its own bytes. -/
theorem decode?_eq_some {bytes : List UInt8} {s : String} :
    decode? bytes = some s ↔ bytes = encode s := by
  unfold decode? encode
  rw [Option.map_eq_some_iff]
  constructor
  · rintro ⟨chars, read, rfl⟩
    rw [String.toList_ofList]
    exact (@pieces_eq_map_some none [] _ _ rfl (mapM_id_eq_some.mp read)).symm
  · rintro rfl
    exact ⟨s.toList, mapM_id_eq_some.mpr (pieces_encode s.toList), String.ofList_toList⟩

end HostBridge.Utf8
