import HostBridge.Proofs.TextCopies
import Mathlib.Data.List.TakeWhile

/-!
Texts that were read leniently. A buffer is read up to its first zero byte, and no other bytes make
a zero character, so the text that was read is copied whole.
-/
namespace HostBridge
namespace Utf8

/-! ### Characters that are begun -/

/-- The least number that a begun character has after one more byte. -/
def Partial.least (p : Partial) : Nat := p.bits * 64 + (p.low.toNat - 128)

/-- The greatest number that a begun character has after one more byte. -/
def Partial.most (p : Partial) : Nat := p.bits * 64 + (p.high.toNat - 128)

/-- Whatever the bytes that it is owed, the begun character will be no surrogate, not beyond the
last code point, and not zero. -/
def Partial.Sound (p : Partial) : Prop :=
  128 ≤ p.low.toNat ∧
    (p.owed = 1 ∧ 0 < p.least ∧ p.most < 0x110000 ∧ (p.most < 0xD800 ∨ 0xDFFF < p.least) ∨
      p.owed = 2 ∧ 0 < p.least ∧ p.most < 0x4400 ∧ (p.most < 0x360 ∨ 0x380 ≤ p.least) ∨
      p.owed = 3 ∧ 14 ≤ p.least ∧ p.most < 0x110)

instance (p : Partial) : Decidable p.Sound := by
  unfold Partial.Sound
  infer_instance

/-- No zero character is there or to come. -/
def Start.Sound : Start → Prop
  | .whole c => c ≠ '\x00'
  | .begun p => p.Sound
  | .malformed => True

instance : (r : Start) → Decidable r.Sound
  | .whole c => inferInstanceAs (Decidable (c ≠ '\x00'))
  | .begun p => inferInstanceAs (Decidable p.Sound)
  | .malformed => .isTrue trivial

theorem start_sound {b : UInt8} (nonzero : b ≠ 0) : (start b).Sound := by
  have all : ∀ v < 256, v ≠ 0 → (start (UInt8.ofNat v)).Sound := by decide +kernel
  have own := all b.toNat b.toNat_lt fun zero => nonzero (UInt8.toNat_inj.mp zero)
  rwa [UInt8.ofNat_toNat] at own

theorem ofNat_ne_zero {n : Nat} (valid : n.isValidChar) (positive : 0 < n) :
    Char.ofNat n ≠ '\x00' := by
  intro zero
  have value : (Char.ofNat n).toNat = n := by
    rw [Char.ofNat, dif_pos valid]
    rfl
  rw [zero] at value
  have none : '\x00'.toNat = 0 := rfl
  omega

theorem extend_sound {p : Partial} {b : UInt8} (sound : p.Sound) (low : p.low ≤ b)
    (high : b ≤ p.high) : (p.extend b).Sound := by
  obtain ⟨bits, owed, first, last⟩ := p
  rw [UInt8.le_iff_toNat_le] at low high
  unfold Partial.Sound Partial.least Partial.most at sound
  dsimp only at low high sound
  have edges : (0x80 : UInt8).toNat = 128 ∧ (0xBF : UInt8).toNat = 191 := ⟨rfl, rfl⟩
  obtain ⟨above, ⟨rfl, range⟩ | ⟨rfl, range⟩ | ⟨rfl, range⟩⟩ := sound
  · have number : Char.ofNat (bits * 64 + (b.toNat - 128)) ≠ '\x00' := by
      apply ofNat_ne_zero
      · unfold Nat.isValidChar
        omega
      · omega
    simp only [Partial.extend, if_pos (le_refl 1)]
    exact number
  · have more : Partial.Sound ⟨bits * 64 + (b.toNat - 128), 1, 0x80, 0xBF⟩ := by
      unfold Partial.Sound Partial.least Partial.most
      dsimp only
      rw [edges.1, edges.2]
      omega
    rw [Partial.extend, if_neg (by simp)]
    exact more
  · have more : Partial.Sound ⟨bits * 64 + (b.toNat - 128), 2, 0x80, 0xBF⟩ := by
      unfold Partial.Sound Partial.least Partial.most
      dsimp only
      rw [edges.1, edges.2]
      omega
    rw [Partial.extend, if_neg (by simp)]
    exact more

/-! ### Texts -/

/-- What is read of other bytes than zero has no zero character. -/
theorem zero_not_mem_pieces {begun : Option Partial} {bytes : List UInt8}
    (sound : ∀ p, begun = some p → p.Sound) (nonzero : 0 ∉ bytes) :
    some '\x00' ∉ pieces begun bytes := by
  induction bytes generalizing begun with
  | nil => cases begun <;> simp [pieces]
  | cons b rest ih =>
    simp only [List.mem_cons, not_or] at nonzero
    have fresh : some '\x00' ∉ pieces none rest := ih (by simp) nonzero.2
    have first := start_sound (Ne.symm nonzero.1)
    have restart : some '\x00' ∉ pieces none (b :: rest) := by
      rw [pieces]
      cases begins : start b with
      | whole c =>
        rw [begins] at first
        simpa [fresh] using Ne.symm first
      | begun p =>
        rw [begins] at first
        exact ih (by rintro _ ⟨⟩; exact first) nonzero.2
      | malformed => simpa using fresh
    cases begun with
    | none => exact restart
    | some p =>
      by_cases inside : p.low ≤ b ∧ b ≤ p.high
      · have next := extend_sound (sound p rfl) inside.1 inside.2
        rw [pieces, if_pos inside]
        cases extends' : p.extend b with
        | whole c =>
          rw [extends'] at next
          simpa [fresh] using Ne.symm next
        | begun q =>
          rw [extends'] at next
          exact ih (by rintro _ ⟨⟩; exact next) nonzero.2
        | malformed => simpa using fresh
      · rw [pieces, if_neg inside]
        simpa [pieces] using restart

end Utf8

/-- A text that was read from a buffer has no zero character. -/
theorem zero_not_mem_cText (buffer : List UInt8) : '\x00' ∉ (cText buffer).toList := by
  have nonzero : 0 ∉ cBytes buffer := by
    intro mem
    have passed := List.mem_takeWhile_imp mem
    simp at passed
  have pieces : some '\x00' ∉ Utf8.pieces none (cBytes buffer) :=
    Utf8.zero_not_mem_pieces nofun nonzero
  intro mem
  rw [cText, Utf8.decodeLossy, String.toList_ofList, List.mem_map] at mem
  obtain ⟨piece, found, zero⟩ := mem
  cases piece with
  | none => cases zero
  | some c =>
    rw [Option.getD_some] at zero
    subst zero
    exact pieces found

/-- A copy of a text that was read from a buffer is read as that text. -/
theorem cText_copy (buffer : List UInt8) :
    cText (cBuffer (Utf8.encode (cText buffer))) = cText buffer :=
  cText_cBuffer (zero_not_mem_cText buffer)

end HostBridge
