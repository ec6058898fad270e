import HostBridge.Guard.Session
import Mathlib.Algebra.Ring.Nat
import Mathlib.Data.List.Nodup
import Mathlib.Tactic.Common

/-!
Mutual exclusion by the guard, whatever its threads do. Entries dropped out of order lead the owner
and the depth on record astray: the depth reaches zero while the outer entry is alive, and a nested
entry left over from an earlier stay counts against the next one. What protects the isolate is the
gate alone. It is taken by one outer entry or by one exclusive lock, and each gives it back.
-/
namespace HostBridge.Guard

/-- How often the switch let a thread in by a step that gave this. -/
def Result.enters : Result → Nat
  | .entered _ .outer => 1
  | _ => 0

/-- How often the switch let a thread out by a step that gave this. -/
def Result.exits : Result → Nat
  | .dropped true _ => 1
  | _ => 0

namespace Session

/-- The live entries that took the gate, of all threads. -/
def outers (s : Session) : List Slot := s.slots.filter (·.entry == .outer)

/-- Nothing that has the gate is alive. -/
def IsFree (s : Session) : Prop := s.outers = [] ∧ s.exclusive = none

/-- Who has the gate, and what is then on record. The depth is left open: nothing holds of it. -/
inductive Occupancy (s : Session) : Prop where
  | nobody (outers : s.outers = []) (exclusive : s.exclusive = none) (guard : s.guard = {})
  | locked (me : ThreadId) (outers : s.outers = []) (exclusive : s.exclusive = some me)
      (guard : s.guard = { gateTaken := true })
  | inside (slot : Slot) (outers : s.outers = [slot]) (exclusive : s.exclusive = none)
      (depth : Nat) (guard : s.guard = ⟨true, some slot.thread, depth⟩)

/-- What every step keeps. -/
structure IsSound (s : Session) : Prop where
  occupancy : s.Occupancy
  balance : s.enters = s.exits + s.outers.length
  fresh : ∀ slot ∈ s.slots, slot.number < s.made
  distinct : (s.slots.map Slot.number).Nodup

/-- The effect of a step, by what it gave: which entry it made or dropped, and whether the gate was
free for it. -/
def Effect (s : Session) : Action → Result → Session → Prop
  | .enter me refused, .entered n e, t =>
    (∀ slot ∈ s.slots, slot.number ≠ n) ∧ t.slots = ⟨n, me, e⟩ :: s.slots ∧
      t.exclusive = s.exclusive ∧
      match e with
      | .outer => refused = false ∧ s.IsFree
      | .nested => ∃ slot ∈ s.outers, slot.thread = me
  | .enter _ refused, .refused, t =>
    refused = true ∧ s.IsFree ∧ t = s ∧ t.guard.gateTaken = false
  | .enter _ _, .blocked, t => ¬ s.IsFree ∧ t = s
  | .drop me n, .dropped exited _, t =>
    ∃ slot ∈ s.slots, slot.number = n ∧ slot.thread = me ∧ t.slots = s.slots.erase slot ∧
      t.exclusive = s.exclusive ∧ (exited = true ↔ slot.entry = .outer)
  | .drop me n, .noEntry, t => (∀ slot ∈ s.slots, slot.number = n → slot.thread ≠ me) ∧ t = s
  | .lockExclusive me, .locked, t => s.IsFree ∧ t.slots = s.slots ∧ t.exclusive = some me
  | .lockExclusive me, .denied, t => (∃ slot ∈ s.outers, slot.thread = me) ∧ t = s
  | .lockExclusive _, .blocked, t => ¬ s.IsFree ∧ t = s
  | .unlockExclusive me, .unlocked, t => s.exclusive = some me ∧ t.slots = s.slots ∧ t.IsFree
  | .unlockExclusive me, .noEntry, t => s.exclusive ≠ some me ∧ t = s
  | _, _, _ => False

/-- A step with the effect its result stands for, that asked the switch as often as the result
says. -/
structure Lawful (s : Session) (a : Action) (r : Result) (t : Session) : Prop where
  effect : s.Effect a r t
  enters : t.enters = s.enters + r.enters
  exits : t.exits = s.exits + r.exits

/-! ### The gate -/

section
variable {s : Session}

theorem Occupancy.gate (h : s.Occupancy) : s.guard.gateTaken = false ↔ s.IsFree := by
  cases h with
  | nobody ho he hg => simp [IsFree, ho, he, hg]
  | locked me ho he hg => simp [IsFree, he, hg]
  | inside slot ho he d hg => simp [IsFree, ho, hg]

theorem Occupancy.single (h : s.Occupancy) : s.outers.length ≤ 1 := by
  cases h with
  | nobody ho he hg => simp [ho]
  | locked me ho he hg => simp [ho]
  | inside slot ho he d hg => simp [ho]

theorem Occupancy.apart (h : s.Occupancy) (hl : s.exclusive ≠ none) : s.outers = [] := by
  cases h with
  | nobody ho he hg => exact ho
  | locked me ho he hg => exact ho
  | inside slot ho he d hg => exact absurd he hl

/-- Only a thread with a live outer entry counts as inside. -/
theorem Occupancy.exists_outer (h : s.Occupancy) {me : ThreadId} (hm : s.guard.heldBy me = true) :
    ∃ slot, s.outers = [slot] ∧ slot.thread = me := by
  cases h with
  | nobody ho he hg => simp [heldBy, hg] at hm
  | locked me' ho he hg => simp [heldBy, hg] at hm
  | inside slot ho he d hg =>
    refine ⟨slot, ho, ?_⟩
    simp [heldBy, hg] at hm
    exact hm.2

end

/-! ### Dropping an entry -/

section
variable {s : Session} {slot : Slot}

/-- Entries of one number are one entry, so dropping by number drops this entry only. -/
theorem IsSound.drop_eq_erase (h : s.IsSound) (hs : slot ∈ s.slots) :
    s.slots.filter (·.number != slot.number) = s.slots.erase slot := by
  rw [h.distinct.of_map.erase_eq_filter]
  apply List.filter_congr
  intro x hx
  have one : x.number = slot.number → x = slot := List.inj_on_of_nodup_map h.distinct hx hs
  by_cases hn : x = slot
  · rw [hn, bne_self_eq_false, bne_self_eq_false]
  · rw [bne_iff_ne.mpr hn, bne_iff_ne.mpr (mt one hn)]

/-- Of the entries with the gate, the others stay. -/
theorem IsSound.outers_erase (h : s.IsSound) (slot : Slot) :
    (s.slots.erase slot).filter (·.entry == .outer) = s.outers.erase slot := by
  have hn : s.slots.Nodup := h.distinct.of_map
  have ho : s.outers.Nodup := hn.filter _
  rw [ho.erase_eq_filter, hn.erase_eq_filter, outers, List.filter_comm]

theorem mem_outers : slot ∈ s.outers ↔ slot ∈ s.slots ∧ slot.entry = .outer := by
  simp [outers]

/-- The outer entry is the one with the gate, so dropping it leaves none. -/
theorem IsSound.outers_erase_outer (h : s.IsSound) (hs : slot ∈ s.slots)
    (ho : slot.entry = .outer) : s.outers = [slot] ∧ s.outers.erase slot = [] := by
  have hm : slot ∈ s.outers := mem_outers.mpr ⟨hs, ho⟩
  have one : s.outers = [slot] := by
    cases h.occupancy with
    | nobody hn => simp [hn] at hm
    | locked me hn => simp [hn] at hm
    | inside slot' hn => simpa [hn, eq_comm] using hm
  exact ⟨one, by simp [one]⟩

theorem outers_erase_nested (ho : slot.entry = .nested) : s.outers.erase slot = s.outers :=
  List.erase_of_not_mem fun hm => by simp [(mem_outers.mp hm).2] at ho

/-- Counting an entry off leaves the gate with whoever has it. -/
theorem Occupancy.rise (h : s.Occupancy) {t : Session} (ho : t.outers = s.outers)
    (he : t.exclusive = s.exclusive) (hg : t.guard = s.guard.rise) : t.Occupancy := by
  cases h with
  | nobody ho' he' hg' =>
    exact .nobody (ho.trans ho') (he.trans he') (by simp [hg, hg', Guard.rise])
  | locked me ho' he' hg' =>
    exact .locked me (ho.trans ho') (he.trans he') (by simp [hg, hg', Guard.rise])
  | inside slot ho' he' d hg' =>
    exact .inside slot (ho.trans ho') (he.trans he') (d - 1) (by simp [hg, hg', Guard.rise])

/-- Dropping a live entry leaves the isolate if it is the outer one, and else only counts. -/
theorem IsSound.dismiss (h : s.IsSound) (hs : slot ∈ s.slots) :
    (s.dismiss slot).2.IsSound ∧
      Lawful s (.drop slot.thread slot.number) (s.dismiss slot).1 (s.dismiss slot).2 := by
  have kept : (s.slots.erase slot).Sublist s.slots := List.erase_sublist
  have fresh : ∀ x ∈ s.slots.erase slot, x.number < s.made := fun x hx => h.fresh x (kept.mem hx)
  have distinct : ((s.slots.erase slot).map Slot.number).Nodup := h.distinct.sublist (kept.map _)
  unfold Session.dismiss
  rw [h.drop_eq_erase hs]
  cases ho : slot.entry with
  | nested =>
    have same := (h.outers_erase slot).trans (outers_erase_nested ho)
    refine ⟨⟨h.occupancy.rise same rfl rfl, ?_, fresh, distinct⟩, ⟨?_, rfl, rfl⟩⟩
    · exact h.balance.trans (by rw [← same]; rfl)
    · exact ⟨slot, hs, rfl, rfl, rfl, rfl, by simp [ho]⟩
  | outer =>
    obtain ⟨one, none'⟩ := h.outers_erase_outer hs ho
    have gone := (h.outers_erase slot).trans none'
    have alone : s.exclusive = none := by
      cases h.occupancy with
      | nobody _ he => exact he
      | locked me hn => simp [hn] at one
      | inside _ _ he => exact he
    refine ⟨⟨.nobody gone alone rfl, ?_, fresh, distinct⟩, ⟨?_, rfl, rfl⟩⟩
    · have balance := h.balance
      simp only [one, List.length_singleton] at balance
      exact balance.trans (by rw [outers, gone]; rfl)
    · exact ⟨slot, hs, rfl, rfl, rfl, rfl, by simp [ho]⟩

end

/-! ### Making an entry -/

section
variable {s : Session}

/-- The next number is of no live entry. -/
theorem IsSound.enroll (h : s.IsSound) {t : Session} {slot : Slot} (hn : slot.number = s.made)
    (hs : t.slots = slot :: s.slots) (hm : t.made = s.made + 1) (ho : t.Occupancy)
    (hb : t.enters = t.exits + t.outers.length) : t.IsSound where
  occupancy := ho
  balance := hb
  fresh := by
    intro x hx
    rw [hs] at hx
    rcases List.mem_cons.mp hx with rfl | hx
    · omega
    · have := h.fresh x hx
      omega
  distinct := by
    have other : ∀ x ∈ s.slots, x.number ≠ slot.number := fun x hx => by
      have := h.fresh x hx
      omega
    rw [hs, List.map_cons, List.nodup_cons]
    exact ⟨by simpa using other, h.distinct⟩

/-- A thread enters again while its outer entry is alive. -/
theorem IsSound.enterNested (h : s.IsSound) {me : ThreadId} (hm : s.guard.heldBy me = true)
    (refused : Bool) :
    (s.enroll me .nested s.guard.deepen).2.IsSound ∧
      Lawful s (.enter me refused) (s.enroll me .nested s.guard.deepen).1
        (s.enroll me .nested s.guard.deepen).2 := by
  obtain ⟨slot, one, mine⟩ := h.occupancy.exists_outer hm
  have same : (s.enroll me .nested s.guard.deepen).2.outers = s.outers := rfl
  have occupied : (s.enroll me .nested s.guard.deepen).2.Occupancy := by
    cases h.occupancy with
    | nobody hn => simp [hn] at one
    | locked _ hn => simp [hn] at one
    | inside slot' hn he d hg =>
      exact .inside slot' hn he (d + 1) (congrArg Guard.deepen hg)
  refine ⟨h.enroll rfl rfl rfl occupied ?_, ⟨?_, rfl, rfl⟩⟩
  · exact h.balance
  · refine ⟨fun x hx => Nat.ne_of_lt (h.fresh x hx), rfl, rfl, ?_⟩
    exact ⟨slot, by simp [one], mine⟩

/-- The first entry is made while the gate is free, and takes it. -/
theorem IsSound.enterOuter (h : s.IsSound) (hf : s.IsFree) (me : ThreadId) :
    let made := { s with enters := s.enters + 1 }.enroll me .outer (s.guard.takeGate.settle me)
    made.2.IsSound ∧ Lawful s (.enter me false) made.1 made.2 := by
  intro made
  have one : made.2.outers = [⟨s.made, me, .outer⟩] := congrArg (_ :: ·) hf.1
  have occupied : made.2.Occupancy := .inside ⟨s.made, me, .outer⟩ one hf.2 1 rfl
  refine ⟨h.enroll rfl rfl rfl occupied ?_, ⟨?_, rfl, rfl⟩⟩
  · have balance := h.balance
    simp only [hf.1, List.length_nil] at balance
    simp only [one, List.length_singleton]
    exact congrArg (· + 1) balance
  · exact ⟨fun x hx => Nat.ne_of_lt (h.fresh x hx), rfl, rfl, rfl, hf⟩

end

/-! ### Steps and runs -/

/-- One step of any thread keeps the invariant and does what its result says. -/
theorem IsSound.step {s : Session} (h : s.IsSound) (a : Action) :
    (s.step a).2.IsSound ∧ Lawful s a (s.step a).1 (s.step a).2 := by
  have gate := h.occupancy.gate
  cases a with
  | enter me refused =>
    simp only [Session.step, admission]
    by_cases hm : s.guard.heldBy me = true
    · simpa only [hm, if_true] using h.enterNested hm refused
    cases hg : s.guard.gateTaken with
    | true =>
      simp only [hm, if_false, if_true, Bool.false_eq_true]
      exact ⟨h, ⟨by simp [← gate, hg], rfl⟩, rfl, rfl⟩
    | false =>
      have free := gate.mp hg
      simp only [hm, if_false, Bool.false_eq_true]
      cases refused with
      | true => exact ⟨h, ⟨rfl, free, rfl, hg⟩, rfl, rfl⟩
      | false => exact h.enterOuter free me
  | drop me n =>
    simp only [Session.step]
    cases hf : s.slots.find? fun slot => slot.number == n && slot.thread == me with
    | none =>
      refine ⟨h, ⟨?_, rfl⟩, rfl, rfl⟩
      simpa using hf
    | some slot =>
      have mine := List.find?_some hf
      simp only [Bool.and_eq_true, beq_iff_eq] at mine
      obtain ⟨rfl, rfl⟩ := mine
      exact h.dismiss (List.mem_of_find?_eq_some hf)
  | lockExclusive me =>
    simp only [Session.step]
    by_cases hm : s.guard.heldBy me = true
    · obtain ⟨slot, one, mine⟩ := h.occupancy.exists_outer hm
      simp only [hm, if_true]
      exact ⟨h, ⟨⟨slot, by simp [one], mine⟩, rfl⟩, rfl, rfl⟩
    cases hg : s.guard.gateTaken with
    | true =>
      simp only [hm, if_false, if_true, Bool.false_eq_true]
      exact ⟨h, ⟨by simp [← gate, hg], rfl⟩, rfl, rfl⟩
    | false =>
      have free := gate.mp hg
      simp only [hm, if_false, Bool.false_eq_true]
      have taken : s.guard.takeGate = { gateTaken := true } := by
        cases h.occupancy with
        | nobody _ _ hg' => rw [hg']; rfl
        | locked _ _ _ hg' => simp [hg'] at hg
        | inside _ _ _ _ hg' => simp [hg'] at hg
      refine ⟨⟨.locked me free.1 rfl taken, h.balance, h.fresh, h.distinct⟩, ?_, rfl, rfl⟩
      exact ⟨free, rfl, rfl⟩
  | unlockExclusive me =>
    simp only [Session.step]
    by_cases hx : s.exclusive = some me
    · simp only [hx, if_true]
      have alone : s.outers = [] := h.occupancy.apart (by simp [hx])
      have freed : s.guard.freeGate = {} := by
        cases h.occupancy with
        | nobody _ he => simp [he] at hx
        | locked _ _ _ hg => rw [hg]; rfl
        | inside _ _ he => simp [he] at hx
      refine ⟨⟨.nobody alone rfl freed, h.balance, h.fresh, h.distinct⟩, ?_, rfl, rfl⟩
      exact ⟨hx, rfl, alone, rfl⟩
    · simp only [hx, if_false]
      exact ⟨h, ⟨hx, rfl⟩, rfl, rfl⟩

theorem isSound_start : ({} : Session).IsSound where
  occupancy := .nobody rfl rfl rfl
  balance := rfl
  fresh := by simp
  distinct := by simp

/-- A run keeps the invariant, and the switch was asked as often as its results say. -/
theorem IsSound.run {s : Session} (h : s.IsSound) (actions : List Action) :
    (s.run actions).2.IsSound ∧
      (s.run actions).2.enters = s.enters + ((s.run actions).1.map Result.enters).sum ∧
      (s.run actions).2.exits = s.exits + ((s.run actions).1.map Result.exits).sum := by
  induction actions generalizing s with
  | nil => exact ⟨h, rfl, rfl⟩
  | cons a rest ih =>
    obtain ⟨hs, lawful⟩ := h.step a
    obtain ⟨hr, enters, exits⟩ := ih hs
    have he := lawful.enters
    have hx := lawful.exits
    simp only [Session.run, List.map_cons, List.sum_cons]
    exact ⟨hr, by omega, by omega⟩

/-- Mutual exclusion after a run with these results. -/
structure Excludes (s : Session) (results : List Result) : Prop where
  /-- The isolate is entered exactly while an outer entry is alive. -/
  balance : s.enters = s.exits + s.outers.length
  single : s.outers.length ≤ 1
  apart : s.exclusive ≠ none → s.outers = []
  gate : s.guard.gateTaken = false ↔ s.IsFree
  enters : s.enters = (results.map Result.enters).sum
  exits : s.exits = (results.map Result.exits).sum
  distinct : (s.slots.map Slot.number).Nodup

/-- After any steps of any threads at most one outer entry is alive, the switch let in one thread
more than it let out exactly while there is one, and the next step, whichever it is, enters the
isolate only by an outer entry made while the gate is free, leaves it only with that entry, and
changes nothing if it is refused or blocked. -/
theorem run_excludes (actions : List Action) :
    (({} : Session).run actions).2.Excludes (({} : Session).run actions).1 ∧
      ∀ a, Lawful (({} : Session).run actions).2 a
        ((({} : Session).run actions).2.step a).1 ((({} : Session).run actions).2.step a).2 := by
  obtain ⟨h, enters, exits⟩ := isSound_start.run actions
  refine ⟨?_, fun a => (h.step a).2⟩
  exact {
    balance := h.balance
    single := h.occupancy.single
    apart := h.occupancy.apart
    gate := h.occupancy.gate
    enters := by simpa using enters
    exits := by simpa using exits
    distinct := h.distinct }

/-- The depth says nothing about who is inside: here it is zero while the entry of the second thread
is alive, since the first dropped its nested entry late. The gate still keeps the third out. -/
example :
    let s := (({} : Session).run [.enter 1 false, .enter 1 false, .drop 1 0, .enter 2 false,
      .drop 1 1]).2
    s.guard.depth = 0 ∧ s.outers = [⟨2, 2, .outer⟩] ∧ (s.step (.enter 3 false)).1 = .blocked := by
  decide

end Session
end HostBridge.Guard
