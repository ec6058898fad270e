import HostBridge.Proofs.FreshHandles
import Mathlib.Data.Set.Card

/-!
The handle table and what was asked of it. A log of requests with their answers says which object
stands behind a handle: the one whose store gave the handle, as long as it was not released since.
The table answers every request as the log says.
-/
namespace HostBridge.HandleTable

variable {α : Type}

/-- What may be asked of a table. -/
inductive Request (α : Type) where
  | store (o : Option α)
  | get (h : Handle)
  | release (h : Handle)
  | releaseAll
  | count

inductive Answer (α : Type) where
  | handle (h : Handle)
  | object (o : Option α)
  | released (found : Bool)
  | number (n : Nat)

/-- Answers one request. -/
def ask (t : HandleTable α) : Request α → Answer α × HandleTable α
  | .store o => (.handle (t.store o).1, (t.store o).2)
  | .get h => (.object (t.get h).1, (t.get h).2.2)
  | .release h => (.released (t.release h).1.isSome, (t.release h).2)
  | .releaseAll => (.number t.releaseAll.1.length, t.releaseAll.2)
  | .count => (.number t.count, t)

/-- A new table after some requests, the newest first. -/
def after : List (Request α) → HandleTable α
  | [] => {}
  | r :: earlier => ((after earlier).ask r).2

/-- The requests to a new table with their answers, the newest first. -/
def log : List (Request α) → List (Request α × Answer α)
  | [] => []
  | r :: earlier => (r, ((after earlier).ask r).1) :: log earlier

def Request.storesObject : Request α → Bool
  | store (some _) => true
  | _ => false

/-- The object was stored under the handle, and neither it nor everything was released since. -/
def Behind (log : List (Request α × Answer α)) (h : Handle) (o : α) : Prop :=
  ∃ later earlier, log = later ++ (.store (some o), .handle h) :: earlier ∧
    ∀ e ∈ later, e.1 ≠ .release h ∧ e.1 ≠ .releaseAll

/-- The handles with an object behind them. -/
def live (log : List (Request α × Answer α)) : Set Handle := {h | ∃ o, Behind log h o}

theorem behind_nil (h : Handle) (o : α) : ¬Behind [] h o := by
  rintro ⟨later, earlier, split, -⟩
  simp at split

/-- The newest exchange either stored the object or let it be. -/
theorem behind_cons {e : Request α × Answer α} {log : List (Request α × Answer α)} {h : Handle}
    {o : α} : Behind (e :: log) h o ↔ e = (.store (some o), .handle h) ∨
      e.1 ≠ .release h ∧ e.1 ≠ .releaseAll ∧ Behind log h o := by
  constructor
  · rintro ⟨later, earlier, split, kept⟩
    cases later with
    | nil =>
      simp only [List.nil_append, List.cons.injEq] at split
      exact .inl split.1
    | cons e' later =>
      simp only [List.cons_append, List.cons.injEq] at split
      obtain ⟨rfl, rfl⟩ := split
      have here := kept e (by simp)
      exact .inr ⟨here.1, here.2, later, earlier, rfl, fun x hx => kept x (by simp [hx])⟩
  · rintro (rfl | ⟨notReleased, notCleared, later, earlier, rfl, kept⟩)
    · exact ⟨[], log, rfl, by simp⟩
    · refine ⟨e :: later, earlier, rfl, fun x hx => ?_⟩
      rcases List.mem_cons.mp hx with rfl | hx
      · exact ⟨notReleased, notCleared⟩
      · exact kept x hx

/-! ### Looking up -/

theorem lookup_erase (h h' : Handle) (entries : List (Handle × α)) :
    (erase h entries).lookup h' = if h' = h then none else entries.lookup h' := by
  induction entries with
  | nil => simp [erase]
  | cons e rest ih =>
    obtain ⟨key, a⟩ := e
    unfold erase at ih ⊢
    by_cases same : h' = key
    · by_cases gone : key = h
      · simpa [same, gone] using ih
      · simp [same, gone]
    · have differs : (h' == key) = false := by simpa using same
      by_cases gone : key = h
      · have other : (h' == h) = false := by rwa [gone] at differs
        simpa [gone, List.lookup_cons, other] using ih
      · simpa [gone, List.lookup_cons, differs] using ih

theorem find?_insert (t : HandleTable α) (a : α) (h : Handle) :
    (t.insert a).2.find? h = if h = nth t.issued then some a else t.find? h := by
  have next : (⟨t.next⟩ : Handle) = nth t.issued := rfl
  unfold find?
  rw [entries_insert, next]
  by_cases same : h = nth t.issued
  · simp [same]
  · have differs : (h == nth t.issued) = false := by simpa using same
    rw [List.lookup_cons, differs]
    simp [lookup_erase, same]

/-- A release hands out no handle. -/
theorem release_issued (t : HandleTable α) (h : Handle) : (t.release h).2.issued = t.issued := by
  unfold release
  split
  · rfl
  · split <;> rfl

/-- No object is under the null handle. -/
theorem HoldsSince.find?_null {n : Nat} {t : HandleTable α} (hn : HoldsSince n t)
    (small : t.issued < 2 ^ 63 - 1) : t.find? .null = none := by
  unfold find?
  rw [List.lookup_eq_none_iff]
  intro e he
  obtain ⟨k, -, hk, same⟩ := hn.2 e he
  have number := toInt_nth (k := k) (by omega)
  rw [same, bne_iff_ne]
  intro null
  rw [← null] at number
  simp [Handle.null] at number
  omega

section
variable {n : Nat} {t : HandleTable α} (hn : HoldsSince n t) (small : t.issued < 2 ^ 63 - 1)
include hn small

theorem HoldsSince.get_eq (h : Handle) : (t.get h).1 = t.find? h := by
  unfold get
  by_cases null : h.isNull = true
  · have zero : h = .null := by
      simp only [Handle.isNull, beq_iff_eq] at null
      cases h
      exact congrArg Handle.mk null
    rw [if_pos null, zero, hn.find?_null small]
  · rw [if_neg null]
    cases found : t.find? h with
    | some a => rfl
    | none => rfl

theorem HoldsSince.release_eq (h : Handle) :
    (t.release h).1 = t.find? h ∧
      ∀ h', (t.release h).2.find? h' = if h' = h then none else t.find? h' := by
  have kept (missing : t.find? h = none) (h' : Handle) :
      t.find? h' = if h' = h then none else t.find? h' := by
    by_cases same : h' = h
    · simp [same, missing]
    · simp [same]
  unfold release
  by_cases null : h.isNull = true
  · have zero : h = .null := by
      simp only [Handle.isNull, beq_iff_eq] at null
      cases h
      exact congrArg Handle.mk null
    have missing : t.find? h = none := by rw [zero, hn.find?_null small]
    rw [if_pos null, missing]
    exact ⟨rfl, kept missing⟩
  · rw [if_neg null]
    cases found : t.find? h with
    | some a => exact ⟨rfl, fun h' => lookup_erase h h' t.entries⟩
    | none => exact ⟨rfl, kept found⟩

end

/-! ### The table and its log -/

/-- A table stands as the log of what was asked of it says. -/
structure Traces (t : HandleTable α) (log : List (Request α × Answer α)) : Prop where
  issued : ∀ {o h}, (.store (some o), .handle h) ∈ log → t.WasIssued h
  null : ∀ {h}, (.store none, .handle h) ∈ log → h = .null
  holds : HoldsSince 0 t
  find : ∀ h o, t.find? h = some o ↔ Behind log h o
  distinct : (t.entries.map Prod.fst).Nodup

namespace Traces

variable {t : HandleTable α} {log : List (Request α × Answer α)}

theorem nil : Traces ({} : HandleTable α) [] where
  issued := nofun
  null := nofun
  holds := ⟨Nat.le_refl _, nofun⟩
  find h o := by simp [behind_nil]
  distinct := List.nodup_nil

theorem distinct_erase (hd : (t.entries.map Prod.fst).Nodup) (h : Handle) :
    ((erase h t.entries).map Prod.fst).Nodup :=
  hd.sublist (List.filter_sublist.map Prod.fst)

/-- A store is older than an exchange of another sort. -/
theorem mem_older {r : Request α} {a : Answer α} {o : Option α} {h : Handle}
    (other : ∀ o, r ≠ .store o) (mem : (.store o, .handle h) ∈ (r, a) :: log) :
    (.store o, .handle h) ∈ log := by
  rcases List.mem_cons.mp mem with here | mem
  · cases here
    exact absurd rfl (other o)
  · exact mem

/-- An exchange that neither stores nor releases moves nothing. -/
theorem cons_idle (ht : Traces t log) {t' : HandleTable α} {r : Request α} {a : Answer α}
    (entries : t'.entries = t.entries) (issued : t'.issued = t.issued)
    (stores : r.storesObject = false) (releases : ∀ h, r ≠ .release h) (clears : r ≠ .releaseAll)
    (null : ∀ h, (r, a) = (.store none, .handle h) → h = .null) : Traces t' ((r, a) :: log) where
  issued := by
    intro o h mem
    rcases List.mem_cons.mp mem with here | mem
    · cases here
      cases stores
    · unfold WasIssued
      rw [issued]
      exact ht.issued mem
  null := by
    intro h mem
    rcases List.mem_cons.mp mem with here | mem
    · exact null h here.symm
    · exact ht.null mem
  holds := by
    unfold HoldsSince
    rw [entries, issued]
    exact ht.holds
  find h o := by
    unfold find?
    rw [entries, behind_cons]
    have notStored : (r, a) ≠ (.store (some o), .handle h) := by
      intro stored
      cases stored
      cases stores
    have found := ht.find h o
    unfold find? at found
    simpa [notStored, releases h, clears] using found
  distinct := by
    rw [entries]
    exact ht.distinct

/-- An object that is stored stands behind a handle of its own. -/
theorem cons_store (ht : Traces t log) (small : t.issued < 2 ^ 63 - 1) (a : α) :
    Traces (t.insert a).2 ((.store (some a), .handle (nth t.issued)) :: log) := by
  have unused : t.find? (nth t.issued) = none := by
    cases found : t.find? (nth t.issued) with
    | none => rfl
    | some o =>
      obtain ⟨later, earlier, split, -⟩ := (ht.find _ o).mp found
      have mem : (.store (some o), .handle (nth t.issued)) ∈ log := by simp [split]
      obtain ⟨k, hk, same⟩ := ht.issued mem
      have := nth_inj (by omega) (by omega) same
      omega
  have more : (t.insert a).2.issued = t.issued + 1 := rfl
  refine ⟨?_, ?_, ht.holds.insert a, fun h o => ?_, ?_⟩
  · intro o h mem
    rcases List.mem_cons.mp mem with here | mem
    · cases here
      exact ⟨t.issued, by omega, rfl⟩
    · obtain ⟨k, hk, same⟩ := ht.issued mem
      exact ⟨k, by omega, same⟩
  · intro h mem
    rcases List.mem_cons.mp mem with here | mem
    · cases here
    · exact ht.null mem
  · rw [find?_insert, behind_cons]
    by_cases same : h = nth t.issued
    · have absent : ¬Behind log h o := by simp [← ht.find, same, unused]
      simp [same, eq_comm]
      intro behind
      exact absurd (same ▸ behind) absent
    · simpa [same, Ne.symm same] using ht.find h o
  · rw [entries_insert, List.map_cons, List.nodup_cons]
    refine ⟨?_, distinct_erase ht.distinct _⟩
    simp [erase]

theorem cons_release (ht : Traces t log) (small : t.issued < 2 ^ 63 - 1) (h : Handle) :
    Traces (t.release h).2 ((.release h, .released (t.release h).1.isSome) :: log) := by
  obtain ⟨-, found⟩ := ht.holds.release_eq small h
  refine ⟨?_, ?_, ht.holds.step (.release h), fun h' o => ?_, ?_⟩
  · intro o h' mem
    unfold WasIssued
    rw [release_issued]
    exact ht.issued (mem_older (by simp) mem)
  · exact fun mem => ht.null (mem_older (by simp) mem)
  · rw [found, behind_cons]
    by_cases same : h' = h
    · simp [same]
    · simpa [same, Ne.symm same] using ht.find h' o
  · unfold release
    split
    · exact ht.distinct
    · split
      · exact distinct_erase ht.distinct h
      · exact ht.distinct

theorem cons_releaseAll (ht : Traces t log) (a : Answer α) :
    Traces t.releaseAll.2 ((.releaseAll, a) :: log) where
  issued mem := ht.issued (mem_older (by simp) mem)
  null mem := ht.null (mem_older (by simp) mem)
  holds := ht.holds.step .releaseAll
  find h o := by simp [behind_cons, find?, releaseAll]
  distinct := List.nodup_nil

/-- Every request leaves the table as the log says. -/
theorem ask (ht : Traces t log) (small : t.issued < 2 ^ 63 - 1) (r : Request α) :
    Traces (t.ask r).2 ((r, (t.ask r).1) :: log) := by
  cases r with
  | store o =>
    cases o with
    | none =>
      refine ht.cons_idle rfl rfl rfl (fun _ => nofun) (nofun) fun h here => ?_
      cases here
      rfl
    | some a => exact ht.cons_store small a
  | get h =>
    obtain ⟨entries, issued⟩ := t.get_entries h
    exact ht.cons_idle entries issued rfl (fun _ => nofun) (nofun) fun _ => nofun
  | release h => exact ht.cons_release small h
  | releaseAll => exact ht.cons_releaseAll _
  | count => exact ht.cons_idle rfl rfl rfl (fun _ => nofun) (nofun) fun _ => nofun

/-- As many handles are live as the table has entries. -/
theorem ncard_live (ht : Traces t log) : (live log).ncard = t.entries.length := by
  have keys : live log = ↑(t.entries.map Prod.fst).toFinset := by
    ext h
    simp only [live, Set.mem_ofPred_eq, ← ht.find, List.coe_toFinset, List.mem_map]
    constructor
    · rintro ⟨o, found⟩
      obtain ⟨before, rest, split, -⟩ := List.lookup_eq_some_iff.mp found
      exact ⟨(h, o), by simp [split], rfl⟩
    · rintro ⟨e, mem, rfl⟩
      rcases found : t.find? e.1 with _ | o
      · rw [find?, List.lookup_eq_none_iff] at found
        simpa using found e mem
      · exact ⟨o, rfl⟩
  rw [keys, Set.ncard_coe_finset, List.toFinset_card_of_nodup ht.distinct, List.length_map]

end Traces

/-- As long as the numbers do not come round, a new table traces its log. -/
theorem traces_log (earlier : List (Request α))
    (few : earlier.countP Request.storesObject < 2 ^ 63 - 1) :
    Traces (after earlier) (log earlier) ∧
      (after earlier).issued = earlier.countP Request.storesObject := by
  induction earlier with
  | nil => exact ⟨Traces.nil, rfl⟩
  | cons r earlier ih =>
    have fewer : earlier.countP Request.storesObject < 2 ^ 63 - 1 := by
      rw [List.countP_cons] at few
      omega
    obtain ⟨traces, issued⟩ := ih fewer
    refine ⟨traces.ask (by omega) r, ?_⟩
    rw [List.countP_cons, ← issued]
    cases r with
    | store o =>
      cases o with
      | none => rfl
      | some a => rfl
    | get h => exact ((after earlier).get_entries h).2
    | release h => exact release_issued _ h
    | releaseAll => rfl
    | count => rfl

/-- What a table that was asked for `earlier` answers to each request. -/
structure Faithful (earlier : List (Request α)) : Prop where
  /-- A store of an object gives a positive handle above all that any store gave before. -/
  store : ∀ a, ∃ h, ((after earlier).ask (.store (some a))).1 = .handle h ∧ 0 < h.raw ∧
    ∀ o h', (.store o, .handle h') ∈ log earlier → h'.raw < h.raw
  /-- The null object has the null handle, and nothing is entered for it. -/
  store_null : (after earlier).ask (.store none) = (.handle .null, after earlier)
  /-- A look-up finds the object that stands behind the handle. -/
  get : ∀ h, ∃ found, ((after earlier).ask (.get h)).1 = .object found ∧
    ∀ a, found = some a ↔ Behind (log earlier) h a
  /-- A release finds what a look-up would have found. -/
  release : ∀ h, ∃ found, ((after earlier).ask (.get h)).1 = .object found ∧
    ((after earlier).ask (.release h)).1 = .released found.isSome
  /-- A release leaves the other handles alone. -/
  release_other : ∀ h h', h' ≠ h → ((after (.release h :: earlier)).ask (.get h')).1 =
    ((after earlier).ask (.get h')).1
  releaseAll : ((after earlier).ask .releaseAll).1 = .number (live (log earlier)).ncard
  count : ((after earlier).ask .count).1 = .number (live (log earlier)).ncard

/-- The table is a faithful map from handles to objects, whose keys are never used again. -/
theorem table_faithful (earlier : List (Request α))
    (few : earlier.countP Request.storesObject < 2 ^ 63 - 1) : Faithful earlier := by
  obtain ⟨traces, issued⟩ := traces_log earlier few
  have small : (after earlier).issued < 2 ^ 63 - 1 := by omega
  have number {k : Nat} (hk : k ≤ (after earlier).issued) : (nth k).raw.toInt = k + 1 :=
    toInt_nth (by omega)
  have positive : 0 < (nth (after earlier).issued).raw := by
    rw [Int64.lt_iff_toInt_lt, number le_rfl]
    simp
  refine ⟨fun a => ⟨nth (after earlier).issued, rfl, positive, ?_⟩, rfl, fun h => ?_, fun h => ?_,
    fun h h' other => ?_, ?_, ?_⟩
  · intro o h' given
    cases o with
    | none => exact traces.null given ▸ positive
    | some b =>
      obtain ⟨k, hk, rfl⟩ := traces.issued given
      rw [Int64.lt_iff_toInt_lt, number hk.le, number le_rfl]
      omega
  · refine ⟨_, rfl, fun a => ?_⟩
    rw [traces.holds.get_eq small, traces.find]
  · refine ⟨_, rfl, ?_⟩
    change Answer.released _ = _
    rw [(traces.holds.release_eq small h).1, traces.holds.get_eq small]
  · have released : Traces (after (.release h :: earlier)) (log (.release h :: earlier)) :=
      traces.ask small (.release h)
    have still : (after (.release h :: earlier)).issued < 2 ^ 63 - 1 := by
      change ((after earlier).release h).2.issued < _
      rwa [release_issued]
    have found : ((after (.release h :: earlier)).get h').1 = ((after earlier).get h').1 := by
      rw [released.holds.get_eq still, traces.holds.get_eq small]
      exact ((traces.holds.release_eq small h).2 h').trans (if_neg other)
    exact congrArg Answer.object found
  · rw [traces.ncard_live]
    simp [ask, HandleTable.releaseAll]
  · rw [traces.ncard_live]
    rfl

/-- Two objects are stored and the first handle is released; the second handle had been looked up
before it was given out. -/
theorem table_faithful_reused :
    let earlier : List (Request String) :=
      [.release ⟨1⟩, .store (some "b"), .get ⟨2⟩, .store (some "a")]
    earlier.countP Request.storesObject < 2 ^ 63 - 1 ∧ Faithful earlier ∧
      ((after earlier).ask (.get ⟨2⟩)).1 = .object (some "b") ∧
      ((after earlier).ask (.get ⟨1⟩)).1 = .object none ∧
      ((after earlier).ask (.store (some "a"))).1 = .handle ⟨3⟩ := by
  refine ⟨by decide, table_faithful _ (by decide), ?_, ?_, ?_⟩
  · rfl
  · rfl
  · rfl

end HostBridge.HandleTable
