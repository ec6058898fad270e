import HostBridge.Proofs.HandleHistory
import HostBridge.Proofs.Plain

/-!
Reports of unknown handles. Within a bounded memory each handle that is looked up in vain is
reported once, at the first such look-up. The memory is emptied with the table, and when it is full
and one more handle comes; from one time to the next no handle is reported twice.
-/
namespace HostBridge
namespace HandleTable

variable {α : Type}

/-- The handle names nothing, which is not known of it as it is of the null handle. -/
def misses (t : HandleTable α) (h : Handle) : Bool := !h.isNull && (t.find? h).isNone

/-- The handle that a request looks up in vain, if it does. -/
def missed? (t : HandleTable α) : Request α → Option Handle
  | .get h => if t.misses h then some h else none
  | _ => none

/-- The handle that is reported on a request, if one is. -/
def reported? (t : HandleTable α) : Request α → Option Handle
  | .get h => if (t.get h).2.1 then some h else none
  | _ => none

/-- A request that empties the memory of reported handles: a release of everything, or a look-up in
vain of a handle for which there is no room. -/
def Empties (t : HandleTable α) : Request α → Prop
  | .releaseAll => True
  | .get h => t.misses h = true ∧ h ∉ t.reported ∧ reportLimit ≤ t.reported.length
  | _ => False

/-! ### One request -/

variable {t : HandleTable α} {h : Handle}

theorem get_of_misses (missing : t.misses h = true) :
    t.get h = (none, (t.report h).1, (t.report h).2) := by
  simp only [misses, Bool.and_eq_true, Bool.not_eq_true', Option.isNone_iff_eq_none] at missing
  rw [get, if_neg (by simp [missing.1]), missing.2]

/-- A handle that is known to name nothing, or names something, is not reported. -/
theorem get_silent (known : t.misses h = false) :
    (t.get h).2.1 = false ∧ (t.get h).2.2 = t := by
  simp only [misses, Bool.and_eq_false_iff, Bool.not_eq_false', Option.isNone_eq_false_iff,
    Option.isSome_iff_exists] at known
  unfold get
  rcases known with null | ⟨a, live⟩
  · rw [if_pos null]
    exact ⟨rfl, rfl⟩
  · rw [live]
    split <;> exact ⟨rfl, rfl⟩

/-- A handle is reported that is looked up in vain and not remembered. -/
theorem get_reports : (t.get h).2.1 = true ↔ t.misses h = true ∧ h ∉ t.reported := by
  cases missing : t.misses h with
  | false => simp [get_silent missing]
  | true =>
    rw [get_of_misses missing]
    unfold report
    split <;> simp [*]

theorem reported?_get :
    t.reported? (.get h) = if t.misses h = true ∧ h ∉ t.reported then some h else none := by
  simp only [reported?, ← get_reports]

/-- A request that does not empty the memory adds what it reports. -/
theorem reported_ask {r : Request α} (kept : ¬t.Empties r) :
    (t.ask r).2.reported = (t.reported? r).toList ++ t.reported := by
  cases r with
  | store o => cases o <;> rfl
  | get h =>
    rw [reported?_get]
    change (t.get h).2.2.reported = _
    cases missing : t.misses h with
    | false => simp [get_silent missing]
    | true =>
      rw [get_of_misses missing]
      by_cases remembered : h ∈ t.reported
      · simp [report, remembered]
      · have room : ¬reportLimit ≤ t.reported.length := fun full =>
          kept ⟨missing, remembered, full⟩
        simp [report, remembered, room]
  | release h =>
    change (t.release h).2.reported = t.reported
    unfold release
    split
    · rfl
    · split <;> rfl
  | releaseAll => exact absurd trivial kept
  | count => rfl

/-- A request that empties the memory leaves what it reports. -/
theorem reported_ask_of_empties {r : Request α} (empties : t.Empties r) :
    (t.ask r).2.reported = (t.reported? r).toList := by
  cases r with
  | get h =>
    obtain ⟨missing, new, full⟩ := empties
    rw [reported?_get, if_pos ⟨missing, new⟩]
    change (t.get h).2.2.reported = _
    rw [get_of_misses missing]
    simp [report, new, full]
  | releaseAll => rfl
  | _ => exact empties.elim

/-- What is reported was looked up in vain. -/
theorem missed?_of_reported? {r : Request α} (reported : t.reported? r = some h) :
    t.missed? r = some h ∧ h ∉ t.reported := by
  cases r with
  | get k =>
    rw [reported?_get] at reported
    split at reported
    case isTrue new =>
      cases reported
      exact ⟨if_pos new.1, new.2⟩
    case isFalse => cases reported
  | _ => cases reported

/-- The memory never outgrows its limit. -/
theorem length_reported_ask (bounded : t.reported.length ≤ reportLimit) (r : Request α) :
    (t.ask r).2.reported.length ≤ reportLimit := by
  have one : (t.reported? r).toList.length ≤ 1 := by cases t.reported? r <;> simp
  by_cases empties : t.Empties r
  · rw [reported_ask_of_empties empties]
    exact one.trans (by decide)
  · rw [reported_ask empties, List.length_append]
    cases reported : t.reported? r with
    | none => simpa using bounded
    | some h =>
      obtain ⟨looked, new⟩ := missed?_of_reported? reported
      cases r with
      | get k =>
        simp only [missed?] at looked
        split at looked
        case isTrue missing =>
          cases looked
          have room : ¬reportLimit ≤ t.reported.length := fun full => empties ⟨missing, new, full⟩
          simp only [Option.toList_some, List.length_singleton]
          omega
        case isFalse => cases looked
      | _ => cases looked

/-! ### Stretches of requests -/

/-- What each of some requests that came after others comes to, the newest first. -/
def collect (f : HandleTable α → Request α → Option Handle) (before : List (Request α)) :
    List (Request α) → List Handle
  | [] => []
  | r :: earlier => (f (after (earlier ++ before)) r).toList ++ collect f before earlier

/-- The handles that were looked up in vain. -/
abbrev missed (before stretch : List (Request α)) : List Handle := collect missed? before stretch

/-- The handles that were reported. -/
abbrev warned (before stretch : List (Request α)) : List Handle := collect reported? before stretch

theorem collect_append (f : HandleTable α → Request α → Option Handle)
    (before later earlier : List (Request α)) :
    collect f before (later ++ earlier) =
      collect f (earlier ++ before) later ++ collect f before earlier := by
  induction later with
  | nil => rfl
  | cons r later ih =>
    rw [List.cons_append, collect, ih, collect, List.append_assoc, List.append_assoc]

/-- None of some requests empties the memory. -/
def KeepsMemory (before : List (Request α)) : List (Request α) → Prop
  | [] => True
  | r :: earlier => ¬(after (earlier ++ before)).Empties r ∧ KeepsMemory before earlier

/-- The memory is empty at the start and after a release of everything. -/
def Fresh (before : List (Request α)) : Prop := before = [] ∨ before.head? = some .releaseAll

variable {before stretch : List (Request α)}

theorem Fresh.reported (fresh : Fresh before) : (after before).reported = [] := by
  rcases fresh with rfl | released
  · rfl
  · obtain ⟨earlier, rfl⟩ := List.head?_eq_some_iff.mp released
    rfl

/-- As long as the memory is kept, it grows by what is reported. -/
theorem KeepsMemory.reported (kept : KeepsMemory before stretch) :
    (after (stretch ++ before)).reported = warned before stretch ++ (after before).reported := by
  induction stretch with
  | nil => rfl
  | cons r earlier ih =>
    change ((after (earlier ++ before)).ask r).2.reported = _
    rw [reported_ask kept.1, ih kept.2]
    simp [collect]

/-- As long as the memory is kept, nothing is reported that is remembered. -/
theorem KeepsMemory.nodup (kept : KeepsMemory before stretch)
    (nodup : (after before).reported.Nodup) :
    (warned before stretch ++ (after before).reported).Nodup := by
  induction stretch with
  | nil => exact nodup
  | cons r earlier ih =>
    rw [warned, collect, List.append_assoc]
    cases reported : (after (earlier ++ before)).reported? r with
    | none => exact ih kept.2
    | some h =>
      have new := (missed?_of_reported? reported).2
      rw [kept.2.reported] at new
      exact List.nodup_cons.mpr ⟨new, ih kept.2⟩

theorem nodup_reported (run : List (Request α)) : (after run).reported.Nodup := by
  induction run with
  | nil => exact List.nodup_nil
  | cons r earlier ih =>
    by_cases empties : (after earlier).Empties r
    · change ((after earlier).ask r).2.reported.Nodup
      rw [reported_ask_of_empties empties]
      cases (after earlier).reported? r <;> simp
    · have kept : KeepsMemory earlier [r] := ⟨empties, trivial⟩
      have grown := kept.nodup ih
      rwa [← kept.reported] at grown

theorem length_reported_le (run : List (Request α)) :
    (after run).reported.length ≤ reportLimit := by
  induction run with
  | nil => exact Nat.zero_le _
  | cons r earlier ih => exact length_reported_ask ih r

/-- Between two times that the memory is emptied no handle is reported twice. The request that
empties it belongs to what follows. -/
theorem nodup_warned {first : Request α} {rest : List (Request α)}
    (kept : KeepsMemory (first :: before) rest) : (warned before (rest ++ [first])).Nodup := by
  have remembered : ((after before).reported? first).toList.Sublist
      (after (first :: before)).reported := by
    change List.Sublist _ ((after before).ask first).2.reported
    by_cases empties : (after before).Empties first
    · rw [reported_ask_of_empties empties]
    · rw [reported_ask empties]
      exact List.sublist_append_left _ _
  rw [warned, collect_append]
  change (_ ++ (((after before).reported? first).toList ++ [])).Nodup
  rw [List.append_nil]
  exact (kept.nodup (nodup_reported _)).sublist ((List.Sublist.refl _).append remembered)

/-! ### Few unknown handles -/

section
variable {earlier : List (Request α)} {r : Request α}
  (memory : (after (earlier ++ before)).reported = warned before earlier)
  (same : ∀ h, h ∈ warned before earlier ↔ h ∈ missed before earlier)
include memory same

/-- A memory of few handles that were looked up in vain has room for one more. -/
theorem not_empties_of_few (other : r ≠ .releaseAll)
    (few : (missed before (r :: earlier)).toFinset.card ≤ reportLimit) :
    ¬(after (earlier ++ before)).Empties r := by
  intro empties
  cases r with
  | get h =>
    obtain ⟨missing, new, full⟩ := empties
    rw [memory] at new full
    have distinct : (h :: warned before earlier).Nodup := by
      have nodup := nodup_reported (earlier ++ before)
      rw [memory] at nodup
      exact List.nodup_cons.mpr ⟨new, nodup⟩
    have more : (h :: warned before earlier).toFinset ⊆
        (missed before (.get h :: earlier)).toFinset := by
      intro k mem
      simp only [missed, collect, missed?, missing, if_true, Option.toList_some,
        List.toFinset_append, Finset.mem_union, List.mem_toFinset, List.mem_singleton]
      rcases List.mem_cons.mp (List.mem_toFinset.mp mem) with rfl | mem
      · exact .inl rfl
      · exact .inr ((same k).mp mem)
    have counted := (Finset.card_le_card more).trans few
    rw [List.toFinset_card_of_nodup distinct, List.length_cons] at counted
    omega
  | releaseAll => exact other rfl
  | _ => exact empties.elim

/-- What is looked up in vain is reported, now or before. -/
theorem mem_warned_cons (h : Handle) :
    h ∈ warned before (r :: earlier) ↔ h ∈ missed before (r :: earlier) := by
  rw [warned, missed, collect, collect, List.mem_append, List.mem_append, same h]
  constructor
  · rintro (here | earlier)
    · rw [Option.mem_toList] at here ⊢
      exact .inl (missed?_of_reported? here).1
    · exact .inr earlier
  · rintro (here | earlier)
    · by_cases known : h ∈ missed before earlier
      · exact .inr known
      · left
        rw [Option.mem_toList] at here ⊢
        cases r with
        | get k =>
          simp only [missed?] at here
          split at here
          case isTrue missing =>
            cases here
            rw [reported?_get, memory, if_pos ⟨missing, fun mem => known ((same h).mp mem)⟩]
          case isFalse => cases here
        | _ => cases here
    · exact .inr earlier

end

/-- With few handles looked up in vain there is room for all of them, and they are remembered. -/
theorem remembers_missed (fresh : Fresh before) (one : .releaseAll ∉ stretch)
    (few : (missed before stretch).toFinset.card ≤ reportLimit) :
    KeepsMemory before stretch ∧ ∀ h, h ∈ warned before stretch ↔ h ∈ missed before stretch := by
  induction stretch with
  | nil => exact ⟨trivial, fun _ => Iff.rfl⟩
  | cons r earlier ih =>
    have fewer : (missed before earlier).toFinset ⊆ (missed before (r :: earlier)).toFinset := by
      intro h mem
      simp only [missed, collect, List.toFinset_append, Finset.mem_union]
      exact .inr mem
    obtain ⟨kept, same⟩ := ih (fun mem => one (List.mem_cons_of_mem _ mem))
      ((Finset.card_le_card fewer).trans few)
    have memory : (after (earlier ++ before)).reported = warned before earlier := by
      rw [kept.reported, fresh.reported, List.append_nil]
    have other : r ≠ .releaseAll := fun eq => one (eq ▸ List.mem_cons_self)
    exact ⟨⟨not_empties_of_few memory same other few, kept⟩, mem_warned_cons memory same⟩

/-! ### Every run -/

/-- What is reported of the look-ups in a run of requests. -/
structure ReportsOnce {P : Platform} (F : Foreign P (Exec P)) (run : List (Request P.Object)) :
    Prop where
  bounded : (after run).reported.length ≤ reportLimit
  /-- The null handle and the handles of objects are not reported. -/
  known : ∀ h, h.isNull = true ∨ ((after run).find? h).isSome = true →
    (after run).reported? (.get h) = none
  /-- Few unknown handles since the start or since a release of everything are reported once each,
  at the first look-up in vain. -/
  once : ∀ before stretch, run = stretch ++ before → Fresh before → .releaseAll ∉ stretch →
    (missed before stretch).toFinset.card ≤ reportLimit →
    (∀ h ∈ missed before stretch, (warned before stretch).count h = 1) ∧
    ∀ later h earlier, stretch = later ++ .get h :: earlier →
      (after (earlier ++ before)).misses h = true →
      ((after (earlier ++ before)).reported? (.get h) = some h ↔ h ∉ missed before earlier)
  /-- After a request, be it one that empties the memory, and until the memory is emptied next, no
  handle is reported twice. -/
  between : ∀ before first rest, run = rest ++ first :: before →
    KeepsMemory (first :: before) rest → (warned before (rest ++ [first])).Nodup
  /-- A bridge with this table makes a diagnostic of each report, and of nothing else. -/
  told : ∀ (s : State P) (h : Handle), s.bridge.handles = after run →
    ∃ t, Objects.lookup F h s = (.value ((after run).get h).1, t) ∧
      t.bridge.handles = after (.get h :: run) ∧
      t.record = ((after run).reported? (.get h)).toList.map (.diagnostic <| .unknownHandle ·) ++
        s.record

theorem reports_once_bounded {P : Platform} (F : Foreign P (Exec P))
    (run : List (Request P.Object)) : ReportsOnce F run where
  bounded := length_reported_le run
  known h known := by
    have silent : (after run).misses h = false := by
      rcases known with null | live
      · simp [misses, null]
      · simp [misses, Option.isNone_eq_false_iff.mpr live]
    rw [reported?_get, silent]
    simp
  once before stretch split fresh one few := by
    obtain ⟨kept, same⟩ := remembers_missed fresh one few
    refine ⟨fun h mem => ?_, ?_⟩
    · have nodup := (kept.nodup (nodup_reported before)).of_append_left
      exact List.count_eq_one_of_mem nodup ((same h).mpr mem)
    · rintro later h earlier rfl missing
      have fewer : (missed before earlier).toFinset ⊆
          (missed before (later ++ .get h :: earlier)).toFinset := by
        intro k mem
        rw [missed, collect_append, collect]
        simp only [List.toFinset_append, Finset.mem_union]
        exact .inr (.inr mem)
      obtain ⟨kept, same⟩ := remembers_missed fresh
        (fun mem => one (List.mem_append_right _ (List.mem_cons_of_mem _ mem)))
        ((Finset.card_le_card fewer).trans few)
      rw [reported?_get]
      simp only [kept.reported, fresh.reported, List.append_nil, same h, missing]
      simp
  between before first rest split kept := nodup_warned kept
  told s h table := by
    simp only [Objects.lookup, Exec.run_bind, Exec.bridge, Exec.run_gets, table, Exec.update,
      Exec.run_modify, reported?]
    cases ((after run).get h).2.1 <;> cases ((after run).get h).1 <;> exact ⟨_, rfl, rfl, rfl⟩

/-- A handle is looked up before its object is stored, while it is there and after it was released,
and once more after a release of everything. -/
theorem reports_once_bounded_reused :
    let stretch : List (Request Plain.platform.Object) :=
      [.get ⟨1⟩, .release ⟨1⟩, .get ⟨1⟩, .store (some (7 : Nat)), .get ⟨1⟩]
    let run := .get ⟨1⟩ :: .releaseAll :: stretch
    ReportsOnce ((System.ofPrograms Plain.idle).foreign 1) run ∧
      missed [] stretch = [⟨1⟩, ⟨1⟩] ∧ warned [] stretch = [⟨1⟩] ∧ warned [] run = [⟨1⟩, ⟨1⟩] :=
  ⟨reports_once_bounded _ _, rfl, rfl, rfl⟩

end HandleTable
end HostBridge
