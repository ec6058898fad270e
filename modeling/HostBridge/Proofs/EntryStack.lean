import HostBridge.Proofs.MutualExclusion

/-!
Entries as a stack. Where each thread drops its entries in the reverse order of making them, what
the guard has on record is exact: all live entries are of one thread, the oldest is the one that
took the gate, and the depth is their number.
-/
namespace HostBridge.Guard.Session

/-- If the step drops an entry, it is the newest one of its thread. Entries are numbered as they are
made. -/
def DropsNewest (s : Session) : Action → Prop
  | .drop me n => ∀ slot ∈ s.slots, slot.thread = me → slot.number = n →
      ∀ other ∈ s.slots, other.thread = me → other.number ≤ n
  | _ => True

/-- Each of the steps drops the newest entry of its thread, if it drops one. -/
def InOrder (s : Session) : List Action → Prop
  | [] => True
  | a :: rest => s.DropsNewest a ∧ (s.step a).2.InOrder rest

instance (s : Session) (a : Action) : Decidable (s.DropsNewest a) :=
  match a with
  | .drop _ _ => inferInstanceAs (Decidable (∀ slot ∈ s.slots, _))
  | .enter _ _ | .lockExclusive _ | .unlockExclusive _ => inferInstanceAs (Decidable True)

instance decidableInOrder : (s : Session) → (actions : List Action) → Decidable (s.InOrder actions)
  | _, [] => inferInstanceAs (Decidable True)
  | s, a :: rest =>
    have := decidableInOrder (s.step a).2 rest
    inferInstanceAs (Decidable (s.DropsNewest a ∧ (s.step a).2.InOrder rest))

/-- The live entries with the newest first, and what is on record of them. -/
inductive Stacked (s : Session) : Prop where
  | nobody (slots : s.slots = []) (guard : s.guard = { gateTaken := s.exclusive.isSome })
  | inside (me : ThreadId) (nested : List Slot) (outer : Slot)
      (slots : s.slots = nested ++ [outer]) (mine : ∀ slot ∈ s.slots, slot.thread = me)
      (above : ∀ slot ∈ nested, slot.entry = .nested) (base : outer.entry = .outer)
      (exclusive : s.exclusive = none) (guard : s.guard = ⟨true, some me, s.slots.length⟩)

/-- What every step in order keeps. -/
structure IsStack (s : Session) : Prop where
  stacked : s.Stacked
  newestFirst : s.slots.Pairwise fun newer older => older.number < newer.number
  fresh : ∀ slot ∈ s.slots, slot.number < s.made

/-- What the guard knows of the live entries, and how it meets the next step. -/
structure Accounts (s : Session) : Prop where
  depth : s.guard.depth = s.slots.length
  oneThread : ∀ slot ∈ s.slots, ∀ other ∈ s.slots, slot.thread = other.thread
  /-- The oldest entry is the only outer one. -/
  oldest : ∀ slot ∈ s.slots,
    slot.entry = .outer ↔ ∀ other ∈ s.slots, slot.number ≤ other.number
  held : ∀ me, s.guard.heldBy me = true ↔ 0 < s.guard.depth ∧ ∃ slot ∈ s.slots, slot.thread = me
  denied : ∀ me, (s.step (.lockExclusive me)).1 = .denied ↔ ∃ slot ∈ s.slots, slot.thread = me
  /-- A thread inside is let in again whatever the switch would say, which is not asked. -/
  reenters : ∀ slot ∈ s.slots, ∀ refused,
    let t := s.step (.enter slot.thread refused)
    t.1 = .entered s.made .nested ∧ t.2.enters = s.enters ∧ t.2.exits = s.exits
  /-- A drop never finds another owner on record. -/
  unreported : ∀ a, s.DropsNewest a → ∀ exited owner, (s.step a).1 ≠ .dropped exited (some owner)
  /-- Dropping the last entry brings the initial guard back. -/
  vacated : ∀ a, s.DropsNewest a → s.slots ≠ [] → (s.step a).2.slots = [] →
    (s.step a).2.guard = {}

section
variable {s : Session}

/-! ### Who is inside -/

theorem Stacked.depth (h : s.Stacked) : s.guard.depth = s.slots.length := by
  cases h with
  | nobody hs hg => rw [hs, hg]; rfl
  | inside me nested outer hs mine above base he hg => rw [hg]

/-- The thread of the live entries is the one inside. -/
theorem Stacked.heldBy_iff (h : s.Stacked) (me : ThreadId) :
    s.guard.heldBy me = true ↔ ∃ slot ∈ s.slots, slot.thread = me := by
  cases h with
  | nobody hs hg => simp [heldBy, hs, hg]
  | inside owner nested outer hs mine above base he hg =>
    have some : outer ∈ s.slots := by simp [hs]
    have inside : 0 < s.slots.length := List.length_pos_of_mem some
    simp only [heldBy, hg, inside, decide_true, Bool.true_and, beq_iff_eq, Option.some.injEq]
    constructor
    · rintro rfl
      exact ⟨outer, some, mine outer some⟩
    · rintro ⟨slot, hm, rfl⟩
      exact (mine slot hm).symm

/-- With the gate free there are no entries and no lock. -/
theorem Stacked.free (h : s.Stacked) (free : s.guard.gateTaken = false) :
    s.slots = [] ∧ s.exclusive = none ∧ s.guard = {} := by
  cases h with
  | nobody hs hg =>
    have none : s.exclusive = none := by simpa [hg] using free
    exact ⟨hs, none, by simp [hg, none]⟩
  | inside me nested outer hs mine above base he hg => simp [hg] at free

/-- The thread that has the lock is not inside. -/
theorem Stacked.locked (h : s.Stacked) {me : ThreadId} (locked : s.exclusive = some me) :
    s.slots = [] ∧ s.guard = { gateTaken := true } := by
  cases h with
  | nobody hs hg => exact ⟨hs, by simp [hg, locked]⟩
  | inside owner nested outer hs mine above base he hg => simp [he] at locked

/-! ### Making and dropping entries -/

/-- An entry of a thread inside comes on top. -/
theorem IsStack.push (h : s.IsStack) {me : ThreadId} (held : s.guard.heldBy me = true) :
    (s.enroll me .nested s.guard.deepen).2.IsStack where
  stacked := by
    obtain ⟨slot, hm, rfl⟩ := (h.stacked.heldBy_iff me).mp held
    cases h.stacked with
    | nobody hs hg => simp [hs] at hm
    | inside owner nested outer hs mine above base he hg =>
      have same : slot.thread = owner := mine slot hm
      refine .inside owner (⟨s.made, slot.thread, .nested⟩ :: nested) outer ?_ ?_ ?_ base he ?_
      · simp [enroll, hs]
      · simpa [enroll, same] using mine
      · simpa using above
      · simp [enroll, hg, deepen]
  newestFirst := List.pairwise_cons.mpr ⟨h.fresh, h.newestFirst⟩
  fresh := by
    intro x hx
    rcases List.mem_cons.mp hx with rfl | hx
    · exact Nat.lt_succ_self s.made
    · exact Nat.lt_succ_of_lt (h.fresh x hx)

/-- The newest entry is on top. -/
theorem IsStack.top (h : s.IsStack) {slot : Slot} (live : slot ∈ s.slots)
    (newest : ∀ other ∈ s.slots, other.thread = slot.thread → other.number ≤ slot.number) :
    ∃ rest, s.slots = slot :: rest := by
  have oneThread : ∀ other ∈ s.slots, other.thread = slot.thread := by
    cases h.stacked with
    | nobody hs hg => simp [hs]
    | inside me nested outer hs mine above base he hg =>
      intro other hm
      rw [mine other hm, mine slot live]
  have order := h.newestFirst
  cases hs : s.slots with
  | nil => simp [hs] at live
  | cons top rest =>
    rw [hs] at live order newest oneThread
    rcases List.mem_cons.mp live with rfl | later
    · exact ⟨rest, rfl⟩
    · have := (List.pairwise_cons.mp order).1 slot later
      have := newest top List.mem_cons_self (oneThread top List.mem_cons_self)
      omega

/-- What is left without the entry on top. -/
theorem IsStack.filter_top (h : s.IsStack) {slot : Slot} {rest : List Slot}
    (top : s.slots = slot :: rest) : s.slots.filter (·.number != slot.number) = rest := by
  have order := h.newestFirst
  rw [top] at order ⊢
  have older := (List.pairwise_cons.mp order).1
  rw [List.filter_cons_of_neg (by simp), List.filter_eq_self]
  intro x hx
  have := older x hx
  simp
  omega

/-- The owner of the entries is on record. -/
theorem Stacked.not_foreign (h : s.Stacked) {slot : Slot} (live : slot ∈ s.slots) :
    s.guard.foreignTo slot.thread = false := by
  cases h with
  | nobody hs hg => simp [hs] at live
  | inside me nested outer hs mine above base he hg => simp [foreignTo, hg, mine slot live]

/-- The entry on top is dropped and the others stay as they are. The last one vacates the guard. -/
theorem IsStack.pop (h : s.IsStack) {slot : Slot} {rest : List Slot}
    (top : s.slots = slot :: rest) :
    (s.dismiss slot).2.IsStack ∧ (s.dismiss slot).2.slots = rest ∧
      (rest = [] → (s.dismiss slot).2.guard = {}) ∧
      ∃ exited, (s.dismiss slot).1 = .dropped exited none := by
  have live : slot ∈ s.slots := by simp [top]
  have order := h.newestFirst
  have fresh := h.fresh
  rw [top] at order fresh
  have left := h.filter_top top
  cases h.stacked with
  | nobody hs hg => simp [hs] at live
  | inside me nested outer hs mine above base he hg =>
    unfold dismiss
    rw [left, h.stacked.not_foreign live]
    rw [top] at hs mine
    cases nested with
    | nil =>
      -- the only entry is the outer one
      obtain ⟨rfl, rfl⟩ := List.cons.inj hs
      simp only [base]
      refine ⟨⟨.nobody rfl ?_, List.Pairwise.nil, nofun⟩, trivial, fun _ => rfl, true, rfl⟩
      simp [he, vacate]
    | cons first nested =>
      obtain ⟨rfl, rfl⟩ := List.cons.inj hs
      simp only [above slot List.mem_cons_self]
      refine ⟨⟨?_, order.of_cons, fun x hx => fresh x (List.mem_cons_of_mem _ hx)⟩, trivial,
        ?_, false, rfl⟩
      · refine .inside me nested outer rfl ?_ ?_ base he ?_
        · exact fun x hx => mine x (List.mem_cons_of_mem _ hx)
        · exact fun x hx => above x (List.mem_cons_of_mem _ hx)
        · simp [rise, hg, top]
      · simp

/-! ### Steps and runs -/

/-- A step in order keeps the stack. It finds the owner of the entry that it drops, and the drop of
the last entry vacates the guard. -/
theorem IsStack.step (h : s.IsStack) {a : Action} (newest : s.DropsNewest a) :
    (s.step a).2.IsStack ∧ (∀ exited owner, (s.step a).1 ≠ .dropped exited (some owner)) ∧
      (s.slots ≠ [] → (s.step a).2.slots = [] → (s.step a).2.guard = {}) := by
  cases a with
  | enter me refused =>
    simp only [Session.step, admission]
    by_cases held : s.guard.heldBy me = true
    · simp only [held, if_true]
      exact ⟨h.push held, by simp [enroll], fun _ gone => by simp [enroll] at gone⟩
    cases taken : s.guard.gateTaken with
    | true =>
      simp only [held, if_false, if_true, Bool.false_eq_true]
      exact ⟨h, by simp, fun some none => (some none).elim⟩
    | false =>
      obtain ⟨hs, he, hg⟩ := h.stacked.free taken
      simp only [held, if_false, Bool.false_eq_true]
      cases refused with
      | true => exact ⟨h, by simp, fun some => (some hs).elim⟩
      | false =>
        refine ⟨⟨?_, ?_, ?_⟩, by simp [enroll], fun some => (some hs).elim⟩
        · refine .inside me [] ⟨s.made, me, .outer⟩ ?_ ?_ (by simp) rfl he ?_
          · simp [enroll, hs]
          · simp [enroll, hs]
          · simp [enroll, hs, settle, takeGate]
        · simp [enroll, hs]
        · simp [enroll, hs]
  | drop me n =>
    simp only [Session.step]
    cases found : s.slots.find? fun slot => slot.number == n && slot.thread == me with
    | none => exact ⟨h, by simp, fun some none => (some none).elim⟩
    | some slot =>
      have mine := List.find?_some found
      simp only [Bool.and_eq_true, beq_iff_eq] at mine
      obtain ⟨rfl, rfl⟩ := mine
      have live := List.mem_of_find?_eq_some found
      obtain ⟨rest, top⟩ := h.top live (newest slot live rfl rfl)
      obtain ⟨kept, left, last, exited, gave⟩ := h.pop top
      refine ⟨kept, fun exited owner => ?_, fun _ gone => last (left.symm.trans gone)⟩
      simp [gave]
  | lockExclusive me =>
    simp only [Session.step]
    by_cases held : s.guard.heldBy me = true
    · simp only [held, if_true]
      exact ⟨h, by simp, fun some none => (some none).elim⟩
    cases taken : s.guard.gateTaken with
    | true =>
      simp only [held, if_false, if_true, Bool.false_eq_true]
      exact ⟨h, by simp, fun some none => (some none).elim⟩
    | false =>
      obtain ⟨hs, he, hg⟩ := h.stacked.free taken
      simp only [held, if_false, Bool.false_eq_true]
      refine ⟨⟨.nobody hs ?_, h.newestFirst, h.fresh⟩, by simp, fun some => (some hs).elim⟩
      simp [hg, takeGate]
  | unlockExclusive me =>
    simp only [Session.step]
    by_cases locked : s.exclusive = some me
    · obtain ⟨hs, hg⟩ := h.stacked.locked locked
      simp only [locked, if_true]
      refine ⟨⟨.nobody hs ?_, h.newestFirst, h.fresh⟩, by simp, fun some => (some hs).elim⟩
      simp [hg, freeGate]
    · simp only [locked, if_false]
      exact ⟨h, by simp, fun some none => (some none).elim⟩

theorem isStack_start : ({} : Session).IsStack where
  stacked := .nobody rfl rfl
  newestFirst := List.Pairwise.nil
  fresh := nofun

/-- Steps in order keep the stack, and none of their drops finds another owner on record. -/
theorem IsStack.run (h : s.IsStack) {actions : List Action} (ordered : s.InOrder actions) :
    (s.run actions).2.IsStack ∧
      ∀ exited owner, .dropped exited (some owner) ∉ (s.run actions).1 := by
  induction actions generalizing s with
  | nil => exact ⟨h, fun _ _ => List.not_mem_nil⟩
  | cons a rest ih =>
    obtain ⟨newest, later⟩ := ordered
    obtain ⟨kept, unreported, -⟩ := h.step newest
    obtain ⟨last, unreported'⟩ := ih kept later
    refine ⟨last, fun exited owner reported => ?_⟩
    rcases List.mem_cons.mp reported with now | reported
    · exact unreported exited owner now.symm
    · exact unreported' exited owner reported

/-- In a stack the outer entry is the one that is older than all others. -/
theorem IsStack.oldest (h : s.IsStack) : ∀ slot ∈ s.slots,
    slot.entry = .outer ↔ ∀ other ∈ s.slots, slot.number ≤ other.number := by
  intro slot live
  cases h.stacked with
  | nobody hs hg => simp [hs] at live
  | inside me nested outer hs mine above base he hg =>
    have order := h.newestFirst
    rw [hs] at order live ⊢
    have younger : ∀ x ∈ nested, outer.number < x.number := fun x hx =>
      (List.pairwise_append.mp order).2.2 x hx outer (List.mem_singleton.mpr rfl)
    rcases List.mem_append.mp live with up | bottom
    · have := younger slot up
      constructor
      · intro isOuter
        rw [above slot up] at isOuter
        cases isOuter
      · intro oldest
        have := oldest outer (by simp)
        omega
    · obtain rfl := List.mem_singleton.mp bottom
      refine iff_of_true base fun other hm => ?_
      rcases List.mem_append.mp hm with up | same
      · exact Nat.le_of_lt (younger other up)
      · rw [List.mem_singleton.mp same]

theorem IsStack.accounts (h : s.IsStack) : s.Accounts where
  depth := h.stacked.depth
  oneThread := by
    intro slot live other live'
    cases h.stacked with
    | nobody hs hg => simp [hs] at live
    | inside me nested outer hs mine above base he hg => rw [mine slot live, mine other live']
  oldest := h.oldest
  held := by
    intro me
    rw [h.stacked.heldBy_iff, h.stacked.depth]
    exact ⟨fun ⟨slot, live, mine⟩ => ⟨List.length_pos_of_mem live, slot, live, mine⟩, And.right⟩
  denied := by
    intro me
    rw [← h.stacked.heldBy_iff]
    simp only [Session.step]
    by_cases held : s.guard.heldBy me = true
    · simp [held]
    · cases taken : s.guard.gateTaken <;> simp [held]
  reenters := by
    intro slot live refused
    have held := (h.stacked.heldBy_iff slot.thread).mpr ⟨slot, live, rfl⟩
    simp [Session.step, admission, held, enroll]
  unreported _ newest := (h.step newest).2.1
  vacated _ newest := (h.step newest).2.2

/-- Whatever threads enter, are refused, lock and drop: if each drops its entries in the reverse
order of making them, the live entries are a stack of one thread, which the guard has on record as
it is, and no drop is ever reported. -/
theorem nested_entries_accounted {actions : List Action}
    (ordered : ({} : Session).InOrder actions) :
    (({} : Session).run actions).2.Accounts ∧
      ∀ exited owner, .dropped exited (some owner) ∉ (({} : Session).run actions).1 := by
  obtain ⟨stack, unreported⟩ := isStack_start.run ordered
  exact ⟨stack.accounts, unreported⟩

/-- The first thread enters twice, another is blocked, and the gate passes from one to the other. -/
theorem nested_entries_accounted_handover :
    let actions : List Action := [.enter 1 false, .enter 1 true, .enter 2 false, .drop 1 1,
      .drop 1 0, .enter 2 false, .enter 2 false]
    let s := (({} : Session).run actions).2
    ({} : Session).InOrder actions ∧ s.Accounts ∧ s.guard = ⟨true, some 2, 2⟩ ∧
      s.slots = [⟨3, 2, .nested⟩, ⟨2, 2, .outer⟩] := by
  intro actions s
  have ordered : ({} : Session).InOrder actions := by decide
  exact ⟨ordered, (nested_entries_accounted ordered).1, by decide, by decide⟩

end
end HostBridge.Guard.Session
