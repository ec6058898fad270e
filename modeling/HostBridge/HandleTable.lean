import HostBridge.Word

/-!
The handle table: live objects by handle. Handles are handed out in increasing order and never
again, so a handle that was released names nothing for ever. Look-ups of handles that name nothing
are reported once each, within a bounded memory.
-/
namespace HostBridge

/-- Live objects by handle, how many handles have been given out, and the unknown handles already
reported. -/
structure HandleTable (α : Type) where
  issued : Nat := 0
  entries : List (Handle × α) := []
  reported : List Handle := []
  deriving Repr

namespace HandleTable

variable {α : Type}

/-- How many unknown handles are remembered. -/
def reportLimit : Nat := 1024

/-- The object behind a handle. -/
def find? (t : HandleTable α) (h : Handle) : Option α :=
  t.entries.lookup h

def count (t : HandleTable α) : Nat := t.entries.length

/-- The number of the next handle: they are counted from one and come round after the last. -/
def next (t : HandleTable α) : Int64 := .ofNat (t.issued + 1)

/-- The entries with `h` removed. -/
def erase (h : Handle) (entries : List (Handle × α)) : List (Handle × α) :=
  entries.filter (·.1 != h)

/-- Enters an object under the next handle. An entry under it is there to be replaced only after the
numbers have come round. -/
def insert (t : HandleTable α) (a : α) : Handle × HandleTable α :=
  let h : Handle := ⟨t.next⟩
  let rest := if (t.find? h).isSome then erase h t.entries else t.entries
  (h, { t with issued := t.issued + 1, entries := (h, a) :: rest })

/-- Enters an object; there is no entry for the null object, whose handle is null. -/
def store (t : HandleTable α) : Option α → Handle × HandleTable α
  | none => (.null, t)
  | some a => t.insert a

/-- What gives way to an object that is stored. -/
def replaced (t : HandleTable α) (a : Option α) : Option α := a.bind fun _ => t.find? ⟨t.next⟩

/-- Remembers that an unknown handle was looked up, and whether that is to be reported: it is unless
the handle is remembered already. A full memory is emptied before a new handle enters it. -/
def report (t : HandleTable α) (h : Handle) : Bool × HandleTable α :=
  if h ∈ t.reported then (false, t)
  else
    let kept := if reportLimit ≤ t.reported.length then [] else t.reported
    (true, { t with reported := h :: kept })

/-- Looks a handle up. The null handle is known to name nothing; another one that names nothing is
unknown and may have to be reported, which the flag says. -/
def get (t : HandleTable α) (h : Handle) : Option α × Bool × HandleTable α :=
  if h.isNull then (none, false, t)
  else
    match t.find? h with
    | some a => (some a, false, t)
    | none =>
      let (new, t) := t.report h
      (none, new, t)

/-- Takes the object of a handle out of the table. -/
def release (t : HandleTable α) (h : Handle) : Option α × HandleTable α :=
  if h.isNull then (none, t)
  else
    match t.find? h with
    | some a => (some a, { t with entries := erase h t.entries })
    | none => (none, t)

/-- Takes every object out of the table and forgets the reports. -/
def releaseAll (t : HandleTable α) : List α × HandleTable α :=
  (t.entries.map (·.2), { t with entries := [], reported := [] })

/-- What is not there need not be removed. -/
theorem erase_of_find?_eq_none {t : HandleTable α} {h : Handle} (none : t.find? h = none) :
    erase h t.entries = t.entries := by
  rw [erase, List.filter_eq_self]
  intro e mem
  rw [find?, List.lookup_eq_none_iff] at none
  have ne : h ≠ e.1 := by simpa using none e mem
  simpa using ne.symm

/-- The other entries stay as they are. -/
theorem entries_insert (t : HandleTable α) (a : α) :
    (t.insert a).2.entries = (⟨t.next⟩, a) :: erase ⟨t.next⟩ t.entries := by
  simp only [insert]
  split
  · rfl
  case isFalse none =>
    rw [erase_of_find?_eq_none (by simpa using none)]

/-- Each object that is entered raises the next number by one. -/
@[simp] theorem next_insert (t : HandleTable α) (a : α) : (t.insert a).2.next = t.next + 1 := by
  simp only [insert, next]
  exact Int64.ofNat_add (t.issued + 1) 1

@[simp] theorem find?_default (h : Handle) : ({} : HandleTable α).find? h = none := rfl

end HandleTable
end HostBridge
