import HostBridge.Proofs.Inert
import Mathlib.Algebra.Group.Nat.Defs

/-!
Handles are never given out again. The table numbers its handles as it gives them out, so what it
holds after it was emptied is under later numbers than any that it gave out before.
-/
namespace HostBridge.HandleTable

variable {β : Type}

/-- The handle that is given out after `k` others. -/
def nth (k : Nat) : Handle := ⟨.ofNat (k + 1)⟩

/-- The handle was given out, whether or not its object is still there. -/
def WasIssued (t : HandleTable β) (h : Handle) : Prop := ∃ k < t.issued, h = nth k

/-- Everything in the table is under a handle given out after the first `n`. -/
def HoldsSince (n : Nat) (t : HandleTable β) : Prop :=
  n ≤ t.issued ∧ ∀ e ∈ t.entries, ∃ k, n ≤ k ∧ k < t.issued ∧ e.1 = nth k

theorem toInt_nth {k : Nat} (small : k + 1 < 2 ^ 63) : (nth k).raw.toInt = k + 1 := by
  rw [nth, Int64.toInt_ofNat_of_lt small]
  rfl

/-- As long as the numbers have not come round, handles given out at different times differ. -/
theorem nth_inj {j k : Nat} (hj : j + 1 < 2 ^ 63) (hk : k + 1 < 2 ^ 63) (same : nth j = nth k) :
    j = k := by
  have numbers := toInt_nth hj
  rw [same, toInt_nth hk] at numbers
  omega

/-- Looking a handle up moves no object. -/
theorem get_entries (t : HandleTable β) (h : Handle) :
    (t.get h).2.2.entries = t.entries ∧ (t.get h).2.2.issued = t.issued := by
  unfold get
  split
  · exact ⟨rfl, rfl⟩
  · split
    · exact ⟨rfl, rfl⟩
    · simp only [report]
      split <;> exact ⟨rfl, rfl⟩

/-- Only what is live is found. -/
theorem find?_of_get {t : HandleTable β} {h : Handle} {a : β} (found : (t.get h).1 = some a) :
    t.find? h = some a := by
  unfold get at found
  split at found
  · cases found
  · cases here : t.find? h with
    | none =>
      rw [here] at found
      cases found
    | some b =>
      rw [here] at found
      exact found

theorem mem_of_mem_erase {h : Handle} {entries : List (Handle × β)} {e : Handle × β}
    (he : e ∈ erase h entries) : e ∈ entries :=
  List.mem_of_mem_filter he

variable {n : Nat} {t t' : HandleTable β}

theorem HoldsSince.insert (hn : HoldsSince n t) (a : β) : HoldsSince n (t.insert a).2 := by
  obtain ⟨le, fresh⟩ := hn
  have more : (t.insert a).2.issued = t.issued + 1 := rfl
  refine ⟨by omega, fun e he => ?_⟩
  rw [entries_insert] at he
  rcases List.mem_cons.mp he with rfl | he
  · exact ⟨t.issued, le, by omega, rfl⟩
  · obtain ⟨k, hk, hlt, same⟩ := fresh e (mem_of_mem_erase he)
    exact ⟨k, hk, by omega, same⟩

/-- No change of the table brings an earlier handle back. -/
theorem HoldsSince.step (hn : HoldsSince n t) (step : t.Step t') : HoldsSince n t' := by
  cases step with
  | store o =>
    cases o with
    | none => exact hn
    | some a => exact hn.insert a
  | get h =>
    obtain ⟨entries, issued⟩ := t.get_entries h
    unfold HoldsSince
    rw [entries, issued]
    exact hn
  | release h =>
    unfold release
    split
    · exact hn
    · split
      · exact ⟨hn.1, fun e he => hn.2 e (mem_of_mem_erase he)⟩
      · exact hn
  | releaseAll => exact ⟨hn.1, List.forall_mem_nil _⟩

/-- A handle given out before then finds nothing. -/
theorem HoldsSince.get_eq_none (hn : HoldsSince n t) (small : t.issued < 2 ^ 63 - 1) {h : Handle}
    (old : ∃ k < n, h = nth k) : (t.get h).1 = none := by
  obtain ⟨j, hj, rfl⟩ := old
  have absent : t.find? (nth j) = none := by
    rw [find?, List.lookup_eq_none_iff]
    intro e he
    obtain ⟨k, hk, hlt, same⟩ := hn.2 e he
    have le := hn.1
    have ne : nth j ≠ e.1 := by
      rw [same]
      intro eq
      have := nth_inj (by omega) (by omega) eq
      omega
    simpa using ne
  unfold get
  rw [absent]
  split <;> rfl

end HostBridge.HandleTable
