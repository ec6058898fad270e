import HostBridge.Proofs.HostCalls
import HostBridge.Scenario.Heap
import Mathlib.Data.List.Infix

/-!
How a heap grows. Members are only ever added, objects only ever made, and a field keeps all values
that it was set to: what a heap is after any number of changes extends what it was before. A number
that is found under the key of a field stays the number of that field.
-/
namespace HostBridge.Scenario

/-! ### Slots -/

/-- Names a place for values: a field of an object, or a static field. -/
inductive Slot where
  | field (o : ObjectId) (name : String)
  | static (className name : String)
  deriving DecidableEq, Repr

/-- The values under a key, in order. -/
def valuesOf {K V : Type} [BEq K] (key : K) (entries : List (K × V)) : List V :=
  (entries.filter (·.1 == key)).map (·.2)

theorem head?_valuesOf {K V : Type} [BEq K] [LawfulBEq K] (key : K) (entries : List (K × V)) :
    (valuesOf key entries).head? = entries.lookup key := by
  induction entries with
  | nil => rfl
  | cons e rest ih =>
    obtain ⟨key', v⟩ := e
    rw [List.lookup_cons]
    by_cases same : key' = key
    · subst same
      simp [valuesOf]
    · have other : (key == key') = false := by simpa using Ne.symm same
      have skipped : valuesOf key ((key', v) :: rest) = valuesOf key rest := by
        simp [valuesOf, same]
      rw [skipped, ih, other]

theorem valuesOf_cons {K V : Type} [BEq K] [LawfulBEq K] [DecidableEq K] (key key' : K) (v : V)
    (entries : List (K × V)) :
    valuesOf key' ((key, v) :: entries) =
      if key' = key then v :: valuesOf key entries else valuesOf key' entries := by
  by_cases same : key' = key
  · subst same
    simp [valuesOf]
  · simp [valuesOf, same, Ne.symm same]

namespace Heap

variable {h h' h'' : Heap}

/-- All values that a slot was set to, newest first. -/
def values (h : Heap) : Slot → List (HostValue ObjectId)
  | .field o name =>
    match h.instances[o]? with
    | some i => valuesOf name i.fields
    | none => []
  | .static className name => valuesOf (className, name) h.statics

/-- How often a slot was set. -/
def timesSet (h : Heap) (slot : Slot) : Nat := (h.values slot).length

/-- What is read from a slot; void if it was never set. -/
def content (h : Heap) : Slot → HostValue ObjectId
  | .field o name => h.get o name
  | .static className name => h.getStatic className name

theorem content_eq (h : Heap) (slot : Slot) :
    h.content slot = (h.values slot).head?.getD .void := by
  cases slot with
  | field o name =>
    simp only [content, get, values]
    cases h.instances[o]? with
    | none => rfl
    | some i => simp [head?_valuesOf]
  | static className name => simp [content, getStatic, values, head?_valuesOf]

/-- Sets a slot. -/
def write (h : Heap) (slot : Slot) (v : HostValue ObjectId) : Heap :=
  match slot with
  | .field o name => h.set o name v
  | .static className name => h.setStatic className name v

/-- The slot is there: its object is on the heap, if it needs one. -/
def Has (h : Heap) : Slot → Prop
  | .field o _ => o < h.instances.size
  | .static _ _ => True

/-- A slot that is set gets a value more, and no other slot is touched. -/
theorem values_write {slot : Slot} (there : h.Has slot) (v : HostValue ObjectId) (other : Slot) :
    (h.write slot v).values other =
      if other = slot then v :: h.values slot else h.values other := by
  cases slot with
  | field o name =>
    cases other with
    | field o' name' =>
      have inside : o < h.instances.size := there
      by_cases object : o' = o
      · subst object
        simp only [write, set, values, Array.getElem?_modify, if_true, Slot.field.injEq,
          true_and]
        rw [Array.getElem?_eq_getElem inside]
        exact valuesOf_cons name name' v _
      · simp [write, set, values, Array.getElem?_modify, object, Ne.symm object]
    | static className name' => simp [write, set, values]
  | static className name =>
    cases other with
    | field o name' => simp [write, setStatic, values]
    | static className' name' =>
      simp only [write, setStatic, values, valuesOf_cons, Prod.mk.injEq, Slot.static.injEq]

/-- Setting a slot neither declares a member nor makes an object. -/
theorem find?_write (h : Heap) (slot : Slot) (v : HostValue ObjectId) (className : String)
    (key : MemberKey) : (h.write slot v).find? className key = h.find? className key := by
  cases slot <;> rfl

theorem size_write (h : Heap) (slot : Slot) (v : HostValue ObjectId) :
    (h.write slot v).instances.size = h.instances.size := by
  cases slot with
  | field o name => exact Array.size_modify
  | static className name => rfl

theorem content_write {slot : Slot} (there : h.Has slot) (v : HostValue ObjectId) (other : Slot) :
    (h.write slot v).content other = if other = slot then v else h.content other := by
  rw [content_eq, content_eq, values_write there]
  split <;> rfl

/-! ### Growth -/

/-- Under the key of a field, the number is that of the field. -/
def Fits (h : Heap) (key : LookupKey) (index : Nat) : Prop :=
  match key.kind with
  | .field => h.members[index]? = some (.field key.name)
  | .staticField => h.members[index]? = some (.staticField key.className key.name)
  | _ => True

/-- Look-ups give numbers that fit. -/
def Sound (h : Heap) : Prop := ∀ e ∈ h.table, h.Fits e.1 e.2

/-- What was there is there still, values lie in front of the older ones, and look-ups are as good
as they were. -/
structure Grows (h h' : Heap) : Prop where
  members : ∀ (i : Nat) m, h.members[i]? = some m → h'.members[i]? = some m
  table : h.table <:+ h'.table
  values : ∀ slot, h.values slot <:+ h'.values slot
  objects : h.instances.size ≤ h'.instances.size
  sound : h.Sound → h'.Sound

theorem Fits.grows {key : LookupKey} {index : Nat} (fits : h.Fits key index)
    (grows : h.Grows h') : h'.Fits key index := by
  unfold Fits at fits ⊢
  split at fits
  · exact grows.members _ _ fits
  · exact grows.members _ _ fits
  · trivial

/-- A number that a look-up gives fits. -/
theorem Sound.find? (sound : h.Sound) {className : String} {key : MemberKey} {index : Nat}
    (found : h.find? className key = some index) : h.Fits (.of className key) index := by
  have entry : (LookupKey.of className key, index) ∈ h.table := MemberCache.mem_of_lookup found
  exact sound _ entry

namespace Grows

theorem refl (h : Heap) : h.Grows h :=
  ⟨fun _ _ there => there, List.suffix_rfl, fun _ => List.suffix_rfl, le_rfl, id⟩

theorem trans (first : h.Grows h') (second : h'.Grows h'') : h.Grows h'' where
  members i m there := second.members i m (first.members i m there)
  table := first.table.trans second.table
  values slot := (first.values slot).trans (second.values slot)
  objects := first.objects.trans second.objects
  sound := second.sound ∘ first.sound

/-- What is counted besides does not matter. -/
theorem of_same (members : h'.members = h.members) (table : h'.table = h.table)
    (statics : h'.statics = h.statics) (instances : h'.instances = h.instances) : h.Grows h' := by
  have values (slot : Slot) : h'.values slot = h.values slot := by
    cases slot <;> simp only [Heap.values, statics, instances]
  constructor
  · intro i m there
    rw [members]
    exact there
  · rw [table]
  · intro slot
    rw [values]
  · rw [instances]
  · intro sound e mem
    rw [table] at mem
    have fits := sound e mem
    unfold Fits at fits ⊢
    rw [members]
    exact fits

/-- A key that was declared is declared still. -/
theorem find?_isSome (grows : h.Grows h') {className : String} {key : MemberKey}
    (declared : (h.find? className key).isSome = true) :
    (h'.find? className key).isSome = true := by
  obtain ⟨front, table⟩ := grows.table
  rw [Heap.find?, ← table, List.lookup_append]
  rw [Heap.find?] at declared
  cases front.lookup (LookupKey.of className key) with
  | none => simpa using declared
  | some index => rfl

/-- A slot that was not set since has the value that it had. -/
theorem content_eq (grows : h.Grows h') {slot : Slot} (unset : h'.timesSet slot = h.timesSet slot) :
    h'.content slot = h.content slot := by
  have values : h.values slot = h'.values slot := (grows.values slot).eq_of_length unset.symm
  rw [Heap.content_eq, Heap.content_eq, values]

theorem enter {key : LookupKey} {m : Member} (fits : (h.enter key m).Fits key h.members.size) :
    h.Grows (h.enter key m) := by
  have members (i : Nat) (m' : Member) (there : h.members[i]? = some m') :
      (h.enter key m).members[i]? = some m' := by
    obtain ⟨inside, same⟩ := Array.getElem?_eq_some_iff.mp there
    simp [Heap.enter, Array.getElem?_push, inside.ne, there]
  constructor
  · exact members
  · exact List.suffix_cons _ _
  · intro slot
    cases slot <;> exact List.suffix_rfl
  · exact le_rfl
  · intro sound e mem
    rcases List.mem_cons.mp mem with rfl | old
    · exact fits
    · have before := sound e old
      unfold Fits at before ⊢
      split at before
      · exact members _ _ before
      · exact members _ _ before
      · trivial

theorem create (className : String) : h.Grows (h.create className).2 := by
  constructor
  · exact fun _ _ there => there
  · exact List.suffix_rfl
  · intro slot
    cases slot with
    | static c n => exact List.suffix_rfl
    | field o name =>
      simp only [Heap.create, Heap.values, Array.getElem?_push]
      by_cases last : o = h.instances.size
      · subst last
        simp [valuesOf]
      · rw [if_neg last]
  · simp [Heap.create]
  · exact fun sound => sound

theorem write (slot : Slot) (v : HostValue ObjectId) : h.Grows (h.write slot v) := by
  have same : (h.write slot v).members = h.members ∧ (h.write slot v).table = h.table := by
    cases slot <;> exact ⟨rfl, rfl⟩
  by_cases there : h.Has slot
  · constructor
    · rw [same.1]
      exact fun _ _ there => there
    · rw [same.2]
    · intro other
      rw [values_write there]
      split
      case isTrue here =>
        subst here
        exact List.suffix_cons _ _
      case isFalse => exact List.suffix_rfl
    · rw [size_write]
    · intro sound e mem
      rw [same.2] at mem
      have fits := sound e mem
      unfold Fits at fits ⊢
      rw [same.1]
      exact fits
  · cases slot with
    | field o name =>
      have away : h.instances.size ≤ o := not_lt.mp there
      have untouched : (h.write (.field o name) v).instances = h.instances := by
        unfold Heap.write Heap.set
        apply Array.ext_getElem?
        intro i
        rw [Array.getElem?_modify]
        split
        case isTrue same =>
          subst same
          simp [away]
        case isFalse => rfl
      exact of_same rfl rfl rfl untouched
    | static className name => exact absurd trivial there

theorem declare (d : Declaration) : h.Grows (h.declare d) := by
  cases d with
  | constructor c s body => exact enter trivial
  | method c n s isStatic body =>
    apply enter
    cases isStatic <;> trivial
  | field c n =>
    apply enter
    simp [Fits, Heap.enter]
  | staticField c n initial =>
    have entered : h.Grows (h.enter ⟨c, n, "", .staticField⟩ (.staticField c n)) := by
      apply enter
      simp [Fits, Heap.enter]
    exact entered.trans (write (.static c n) _)

theorem declareAll (ds : List Declaration) : h.Grows (h.declareAll ds) := by
  unfold Heap.declareAll
  induction ds generalizing h with
  | nil => exact refl h
  | cons d ds ih => exact (declare d).trans ih

end Grows
end Heap
end HostBridge.Scenario
