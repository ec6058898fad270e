import HostBridge.MemberCache
import HostBridge.Process.Basic
import HostBridge.Proofs.FreshHandles
import Mathlib.Data.List.Perm.Basic

/-!
The book of references balances when every owner on it can be shown: each is an entry of the handle
table, a type in the cache, or a reference that an operation under way has in hand. Then nothing in
the Java VM outlasts its owners and nothing is deleted before its last owner is gone.
-/
namespace HostBridge

variable {O C : Type}

/-- The pins that a bridge keeps: one for each entry of its table and for each type in its cache. -/
def keptPins (t : HandleTable (Pin O)) (types : List (String × Pin C)) : List Nat :=
  t.entries.map (·.2.id) ++ types.map (·.2.id)

/-- The book balances with the pins that are kept and those that are in hand. -/
structure Balance (inHand : List Nat) (t : HandleTable (Pin O)) (types : List (String × Pin C))
    (r : References) : Prop where
  owners : ∀ id, r.owners.count id = (keptPins t types).count id + inHand.count id
  globals : ∀ id, id ∈ r.globals ↔ id ∈ r.owners
  once : r.globals.Nodup
  known : ∀ id ∈ r.owners, id < r.nextPin
  /-- No two of the things that are kept share a pin. -/
  apart : (keptPins t types).Nodup
  names : (types.map Prod.fst).Nodup
  handles : (t.entries.map Prod.fst).Nodup

namespace Balance

variable {E : List Nat} {t t' : HandleTable (Pin O)} {types types' : List (String × Pin C)}
  {r : References}

theorem new : Balance [] ({} : HandleTable (Pin O)) ([] : List (String × Pin C)) {} where
  owners _ := rfl
  globals _ := Iff.rfl
  once := List.nodup_nil
  known := nofun
  apart := List.nodup_nil
  names := List.nodup_nil
  handles := List.nodup_nil

/-- It does not matter in which order pins are in hand. -/
theorem perm (h : Balance E t types r) {E' : List Nat} (same : E.Perm E') :
    Balance E' t types r :=
  { h with owners := fun id => by rw [h.owners, same.count_eq] }

/-- Local references are of no account. -/
theorem locals (h : Balance E t types r) (nextLocal : Nat) (locals : List Nat) :
    Balance E t types { r with nextLocal := nextLocal, locals := locals } :=
  ⟨h.owners, h.globals, h.once, h.known, h.apart, h.names, h.handles⟩

theorem mem_owners_of_kept (h : Balance E t types r) {id : Nat} (mem : id ∈ keptPins t types) :
    id ∈ r.owners := by
  have kept := List.count_pos_iff.mpr mem
  have owned := h.owners id
  exact List.count_pos_iff.mp (by omega)

/-- Looking a handle up moves no entry. -/
theorem looked (h : Balance E t types r) (k : Handle) : Balance E (t.get k).2.2 types r := by
  have entries := (t.get_entries k).1
  refine { h with owners := ?_, apart := ?_, handles := ?_ }
  · rw [keptPins, entries]
    exact h.owners
  · rw [keptPins, entries]
    exact h.apart
  · rw [entries]
    exact h.handles

/-- What is found under a handle is kept. -/
theorem mem_kept_of_get {k : Handle} {p : Pin O} (found : (t.get k).1 = some p) :
    p.id ∈ keptPins (t.get k).2.2 types := by
  have entry : t.find? k = some p := HandleTable.find?_of_get found
  obtain ⟨before, after, split, -⟩ := List.lookup_eq_some_iff.mp entry
  rw [keptPins, (t.get_entries k).1]
  exact List.mem_append_left _ (List.mem_map.mpr ⟨(k, p), by simp [split], rfl⟩)

/-- What is found under a name is kept. -/
theorem mem_kept_of_type {name : String} {c : Pin C} (found : types.lookup name = some c) :
    c.id ∈ keptPins t types := by
  obtain ⟨before, after, split, -⟩ := List.lookup_eq_some_iff.mp found
  exact List.mem_append_right _ (List.mem_map.mpr ⟨(name, c), by simp [split], rfl⟩)

/-! ### The book -/

/-- Who has another owner entered has a pin in hand. -/
theorem share {α : Type} {p : Pin α} (h : Balance E t types r) (mem : p.id ∈ r.owners) :
    Balance (p.id :: E) t types (r.share p) :=
  { h with
    owners := fun id => by
      have owned := h.owners id
      simp only [References.share, List.count_cons]
      omega
    globals := fun id => by
      have alive := h.globals id
      simp only [References.share, List.mem_cons]
      grind
    known := fun id mem' => by
      rcases List.mem_cons.mp mem' with rfl | mem'
      · exact h.known _ mem
      · exact h.known id mem' }

/-- A pin that was in hand is dropped, and deleted if this was its last owner. -/
theorem drop {α : Type} {p : Pin α} (h : Balance (p.id :: E) t types r) :
    Balance E t types (r.drop true p) := by
  have owned (id : Nat) : (r.owners.erase p.id).count id =
      (keptPins t types).count id + E.count id := by
    have before := h.owners id
    rw [List.count_cons] at before
    rw [List.count_erase]
    omega
  have known : ∀ id ∈ r.owners.erase p.id, id < r.nextPin :=
    fun id mem => h.known id (List.mem_of_mem_erase mem)
  unfold References.drop
  by_cases more : p.id ∈ r.owners.erase p.id
  · rw [if_pos (by simpa using more)]
    refine { h with owners := owned, known, globals := fun id => (h.globals id).trans ?_ }
    by_cases same : id = p.id
    · subst same
      exact ⟨fun _ => more, List.mem_of_mem_erase⟩
    · exact (List.mem_erase_of_ne same).symm
  · rw [if_neg (by simpa using more)]
    refine { h with owners := owned, known, once := h.once.erase _, globals := fun id => ?_ }
    rw [h.once.mem_erase_iff, h.globals]
    by_cases same : id = p.id
    · subst same
      exact ⟨fun alive => absurd rfl alive.1, fun alive => absurd alive more⟩
    · rw [List.mem_erase_of_ne same]
      exact and_iff_right same

/-- A new pin is in hand, and nobody else has it. -/
theorem addPin {α : Type} (h : Balance E t types r) (target : α) :
    Balance (r.nextPin :: E) t types (r.addPin (some target)).2 ∧
      (r.addPin (some target)).2.owners.count r.nextPin = 1 := by
  have unknown : r.nextPin ∉ r.owners := fun mem => Nat.lt_irrefl _ (h.known _ mem)
  have unowned : r.owners.count r.nextPin = 0 := List.count_eq_zero.mpr unknown
  refine ⟨{ h with owners := fun id => ?_, globals := fun id => ?_, once := ?_, known := ?_ }, ?_⟩
  · have owned := h.owners id
    simp only [References.addPin, List.count_cons]
    omega
  · simp only [References.addPin, Option.isSome_some, if_true, List.mem_cons, h.globals]
  · exact List.nodup_cons.mpr ⟨fun mem => unknown ((h.globals _).mp mem), h.once⟩
  · intro id mem
    rcases List.mem_cons.mp mem with rfl | mem
    · exact Nat.lt_succ_self _
    · exact Nat.lt_succ_of_lt (h.known id mem)
  · simp [References.addPin, unowned]

/-! ### What is kept -/

/-- A pin that nobody else has is kept. -/
theorem keep {id : Nat} (h : Balance (id :: E) t types r) (alone : r.owners.count id = 1)
    (more : (keptPins t' types').Perm (id :: keptPins t types))
    (names : (types'.map Prod.fst).Nodup) (handles : (t'.entries.map Prod.fst).Nodup) :
    Balance E t' types' r :=
  { h with
    names, handles
    owners := fun id' => by
      have owned := h.owners id'
      rw [List.count_cons] at owned
      rw [more.count_eq, List.count_cons]
      omega
    apart := by
      have owned := h.owners id
      rw [List.count_cons_self] at owned
      rw [more.nodup_iff]
      exact List.nodup_cons.mpr ⟨List.count_eq_zero.mp (by omega), h.apart⟩ }

/-- What is no longer kept is in hand. -/
theorem lose {ids : List Nat} (h : Balance E t types r)
    (less : (keptPins t types).Perm (ids ++ keptPins t' types'))
    (names : (types'.map Prod.fst).Nodup) (handles : (t'.entries.map Prod.fst).Nodup) :
    Balance (ids ++ E) t' types' r :=
  { h with
    names, handles
    owners := fun id => by
      rw [h.owners, less.count_eq, List.count_append, List.count_append]
      omega
    apart := (List.nodup_append.mp (less.nodup_iff.mp h.apart)).2.1 }

/-- An entry that is found is one of the table, once. -/
theorem perm_erase {entries : List (Handle × Pin O)} (distinct : (entries.map Prod.fst).Nodup)
    {k : Handle} {p : Pin O} (found : entries.lookup k = some p) :
    entries.Perm ((k, p) :: HandleTable.erase k entries) := by
  induction entries with
  | nil => cases found
  | cons e rest ih =>
    obtain ⟨key, q⟩ := e
    obtain ⟨new, distinct⟩ := List.nodup_cons.mp distinct
    by_cases here : k = key
    · subst here
      have same : q = p := by simpa using found
      have others : HandleTable.erase k rest = rest := by
        refine List.filter_eq_self.mpr fun e he => ?_
        rw [bne_iff_ne]
        exact fun same => new (List.mem_map.mpr ⟨e, he, same⟩)
      have gone : HandleTable.erase k ((k, q) :: rest) = HandleTable.erase k rest := by
        simp [HandleTable.erase]
      rw [gone, others, same]
    · have differs : (k == key) = false := by simpa using here
      rw [List.lookup_cons, differs] at found
      have stays :
          HandleTable.erase k ((key, q) :: rest) = (key, q) :: HandleTable.erase k rest := by
        simp [HandleTable.erase, Ne.symm here]
      rw [stays]
      exact ((ih distinct found).cons _).trans (.swap _ _ _)

/-- The pin of an entry that is taken out of the table is in hand. -/
theorem erase (h : Balance E t types r) (k : Handle) :
    Balance (((t.find? k).map (·.id)).toList ++ E)
      { t with entries := HandleTable.erase k t.entries } types r := by
  refine h.lose ?_ h.names (h.handles.sublist (List.filter_sublist.map Prod.fst))
  cases found : t.find? k with
  | none =>
    rw [keptPins, keptPins, HandleTable.erase_of_find?_eq_none found]
    exact .refl _
  | some p => exact ((perm_erase h.handles found).map (·.2.id)).append_right _

/-- The pin of a handle that is released is in hand. -/
theorem release (h : Balance E t types r) (k : Handle) :
    Balance (((t.release k).1.map (·.id)).toList ++ E) (t.release k).2 types r := by
  have erased := h.erase k
  unfold HandleTable.release
  split
  · exact h
  · cases found : t.find? k with
    | none => exact h
    | some p =>
      rw [found] at erased
      exact erased

/-- An object is entered under the next handle, and the pin of what gives way to it is in hand. -/
theorem insert {p : Pin O} (h : Balance (p.id :: E) t types r) (alone : r.owners.count p.id = 1) :
    Balance (((t.replaced (some p)).map (·.id)).toList ++ E) (t.insert p).2 types r := by
  -- what gives way is taken out first, so that the handle is free
  have room := (h.erase ⟨t.next⟩).perm List.perm_middle
  refine room.keep alone ?_ h.names ?_
  · rw [keptPins, HandleTable.entries_insert]
    exact .refl _
  · rw [HandleTable.entries_insert]
    refine List.nodup_cons.mpr ⟨fun mem => ?_, room.handles⟩
    obtain ⟨e, he, same⟩ := List.mem_map.mp mem
    exact bne_iff_ne.mp (List.mem_filter.mp he).2 same

/-- All pins of the table are in hand. -/
theorem releaseAll (h : Balance E t types r) :
    Balance (t.releaseAll.1.map (·.id) ++ E) t.releaseAll.2 types r := by
  refine h.lose ?_ h.names List.nodup_nil
  rw [HandleTable.releaseAll, List.map_map]
  exact .refl _

/-- All pins of the cache are in hand. -/
theorem clearTypes (h : Balance E t types r) :
    Balance (types.map (·.2.id) ++ E) t ([] : List (String × Pin C)) r := by
  refine h.lose ?_ List.nodup_nil h.handles
  rw [keptPins, keptPins, List.map_nil, List.append_nil]
  exact List.perm_append_comm

/-- A type is entered under a name that no other one has. -/
theorem addType {c : Pin C} (h : Balance (c.id :: E) t types r) (alone : r.owners.count c.id = 1)
    {name : String} (fresh : types.lookup name = none) :
    Balance E t ((name, c) :: types) r := by
  refine h.keep alone ?_ ?_ h.handles
  · exact List.perm_middle
  · refine List.nodup_cons.mpr ⟨fun mem => ?_, h.names⟩
    obtain ⟨e, he, same⟩ := List.mem_map.mp mem
    exact bne_iff_ne.mp (List.lookup_eq_none_iff.mp fresh e he) same.symm

/-- A type that was found is entered under its name, or stays in hand if another one is there. The
one that is there in the end is kept. -/
theorem found {μ : Type} {cache : MemberCache (Pin C) μ} {c : Pin C} (name : String)
    (h : Balance (c.id :: E) t cache.types r) (alone : r.owners.count c.id = 1) :
    Balance ((if (cache.addType name c).2.1 then [] else [c.id]) ++ E) t
        (cache.addType name c).2.2.types r ∧
      (cache.addType name c).1.id ∈ keptPins t (cache.addType name c).2.2.types := by
  cases here : cache.type? name with
  | some old =>
    rw [MemberCache.addType_of_some here]
    exact ⟨h, mem_kept_of_type here⟩
  | none =>
    rw [MemberCache.addType_of_none here]
    exact ⟨h.addType alone here, mem_kept_of_type List.lookup_cons_self⟩

end Balance
end HostBridge
