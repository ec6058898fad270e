import HostBridge.Proofs.InMemoryLookups

/-!
Fields in memory. What was written to a field is read from it again, in the form of its kind, for as
long as the field is not written and its object is not released, and no other field changes with it.
-/
namespace HostBridge.Scenario.InMemory

open Exec Call

variable {s t : State (platform backend)} {n index : Nat} {className name d : String}
  {target : Target} {object : Option ObjectId} {k requested : ValueKind} {w : Word}
  {v : HostValue ObjectId} {α : Type}

/-! ### Slots of operations -/

/-- The field that is meant for an object, or without one. -/
def slotOf (className name : String) : Option ObjectId → Slot
  | some o => .field o name
  | none => .static className name

/-- The member that such a field is declared as. -/
def memberOf (className name : String) : Option ObjectId → Member
  | some _ => .field name
  | none => .staticField className name

/-- The object behind a handle. -/
def objectAt (s : State (platform backend)) (h : Handle) : Option ObjectId :=
  (s.bridge.handles.get h).1

/-- The target is the class, or a handle of an object that is on the heap. -/
def Aims (s : State (platform backend)) : Target → Option ObjectId → Prop
  | .static, object => object = none
  | .instance h, object =>
    ∃ o, object = some o ∧ objectAt s h = some o ∧ o < s.world.heap.instances.size

/-- The state after a field was set. -/
def written (s : State (platform backend)) (slot : Slot) (v : HostValue ObjectId) :
    State (platform backend) :=
  { s with world := { s.world with heap := s.world.heap.write slot v } }

theorem Aims.has (aims : Aims s target object) :
    s.world.heap.Has (slotOf className name object) := by
  cases target with
  | static =>
    obtain rfl : object = none := aims
    trivial
  | «instance» h =>
    obtain ⟨o, rfl, -, there⟩ := aims
    exact there

theorem Aims.looked (aims : Aims s target object) (looked : Looked s t) : Aims t target object := by
  cases target with
  | static => exact aims
  | «instance» h =>
    obtain ⟨o, rfl, found, there⟩ := aims
    exact ⟨o, rfl, (looked.get h).trans found, looked.size ▸ there⟩

theorem Aims.written (aims : Aims s target object) (slot : Slot) (v : HostValue ObjectId) :
    Aims (written s slot v) target object := by
  cases target with
  | static => exact aims
  | «instance» h =>
    obtain ⟨o, rfl, found, there⟩ := aims
    exact ⟨o, rfl, found, (s.world.heap.size_write slot v).symm ▸ there⟩

/-- The member that is known under the key of a field. -/
theorem Aims.member (aims : Aims s target object)
    (known : Known t.world ⟨className, name, d, target.fieldKind⟩ index) :
    t.world.heap.members[index]? = some (memberOf className name object) := by
  cases target with
  | static =>
    obtain rfl : object = none := aims
    exact known
  | «instance» h =>
    obtain ⟨o, rfl, -, -⟩ := aims
    exact known

/-- A field is written between look-ups. -/
theorem Looked.written (looked : Looked s t) (slot : Slot) (v : HostValue ObjectId) :
    Looked (written s slot v) (written t slot v) := by
  obtain ⟨m, heap⟩ := looked.heap
  have grows : t.world.heap.Grows (t.world.heap.write slot v) := .write slot v
  exact {
    sound := { looked.sound with
      heap := grows.sound looked.sound.heap
      members := fun e mem => (looked.sound.members e mem).grows grows }
    memory := looked.memory
    entries := looked.entries
    issued := looked.issued
    heap := ⟨m, by simp only [InMemory.written, heap]; cases slot <;> rfl⟩ }

/-! ### The host -/

section
variable (F : Foreign (platform backend) (Exec (platform backend)))

/-- The host writes the field. -/
theorem writeField_run
    (member : t.world.heap.members[index]? = some (memberOf className name object))
    (v : HostValue ObjectId) :
    (HostModel.writeField object index v : Program backend _).run F t =
      (.value (.ok ()), written t (slotOf className name object) v) := by
  unfold HostModel.writeField useHeap Act.run Act.useWorld
  dsimp only
  rw [member]
  cases object <;> rfl

/-- The host reads the value that the field was set to. -/
theorem readField_run
    (member : t.world.heap.members[index]? = some (memberOf className name object))
    (other : v ≠ .void)
    (content : t.world.heap.content (slotOf className name object) = v) (kind : ValueKind) :
    (HostModel.readField object index kind : Program backend _).run F t = (.value (.ok v), t) := by
  subst content
  unfold HostModel.readField heapGets Act.gets Act.run Act.useWorld
  dsimp only
  rw [member]
  cases object with
  | none =>
    dsimp only [memberOf, slotOf, Heap.content] at other ⊢
    generalize t.world.heap.getStatic className name = v at other ⊢
    cases v <;> first | rfl | exact absurd rfl other
  | some o =>
    dsimp only [memberOf, slotOf, Heap.content] at other ⊢
    generalize t.world.heap.get o name = v at other ⊢
    cases v <;> first | rfl | exact absurd rfl other

end

/-! ### Operations -/

theorem withType_returns {post : Except CallError α → State (platform backend) → Prop}
    {body : (platform backend).Class → Call (platform backend) α}
    (known : s.world.heap.hasClass className = true)
    (next : Returns (Looked s) (body className).run post False) :
    Returns (Looked s) (withType (system.foreign (n + 1)) className body).run post False := by
  rw [withType_cached]
  have typed : Returns (Looked s) (Members.type (system.foreign (n + 1)) className)
      (fun r t => ∃ c, r = .ok c ∧ c = className ∧ Looked s t) False :=
    (type_looked known).weaken fun r t h => ⟨className, h.1, rfl, h.2⟩
  apply returns_ofHost typed
  intro c
  apply Returns.of_and
  rintro rfl
  exact returns_ensure next fun r => (spares (n + 1) (post r)).dropType c

theorem withReceiver_returns {post : Except CallError α → State (platform backend) → Prop}
    {body : Receiver ObjectId String → Call (platform backend) α}
    (aims : Aims s target object)
    (next : ∀ receiver, objectOf receiver = object →
      Returns (Looked s) (body receiver).run post False) :
    Returns (Looked s) (withReceiver (system.foreign (n + 1)) target className body).run post
      False := by
  cases target with
  | static => exact next (.static className) aims.symm
  | «instance» h =>
    obtain ⟨o, rfl, found, -⟩ := aims
    unfold objectAt at found
    apply returns_lift_bind (lookup_looked h)
    intro r
    apply Returns.of_and
    rintro rfl
    rw [found]
    exact returns_ensure (next (.instance o) rfl) fun r => (spares (n + 1) (post r)).drop o

/-- A class with a member is found. -/
theorem hasClass_of_find? {h : Heap} {key : MemberKey}
    (found : h.find? className key = some index) : h.hasClass className = true := by
  have entry : (LookupKey.of className key, index) ∈ h.table := MemberCache.mem_of_lookup found
  have owner : (LookupKey.of className key).className = className := by
    unfold LookupKey.of
    split <;> rfl
  rw [Heap.hasClass, List.any_eq_true]
  exact ⟨_, entry, by simp [owner]⟩

/-- Where the member of a field is known. -/
def Found (s : State (platform backend)) (className name d : String) (target : Target)
    (index : Nat) (t : State (platform backend)) : Prop :=
  Known t.world ⟨className, name, d, target.fieldKind⟩ index ∧ Looked s t

theorem record_found (e : Happening (platform backend)) :
    Returns (Found s className name d target index) (Exec.record e)
      (fun _ => Found s className name d target index) False :=
  Returns.modify fun _ found => ⟨found.1, found.2.recorded _⟩

section
variable {receiver : Receiver ObjectId String} (aims : Aims s target object)
  (own : objectOf receiver = object)
include aims own

theorem callWriteField_returns (v : HostValue ObjectId) :
    Returns (Found s className name d target index)
      ((system.foreign (n + 1)).host.callWriteField ⟨className, name, d, target.fieldKind⟩ receiver
        index v)
      (fun r t => r = .ok () ∧ Looked (written s (slotOf className name object) v) t) False := by
  unfold Host.callWriteField
  apply (record_found _).bind
  intro _
  rintro t ⟨known, looked⟩
  have run := writeField_run (system.foreign n) (aims.member known) v
  rw [← own] at run
  exact .inr ⟨_, _, run, rfl, own ▸ looked.written _ v⟩

theorem callReadField_returns (other : v ≠ .void)
    (content : s.world.heap.content (slotOf className name object) = v) :
    Returns (Found s className name d target index)
      ((system.foreign (n + 1)).host.callReadField ⟨className, name, d, target.fieldKind⟩ receiver
        index k)
      (fun r t => r = .ok v ∧ Looked s t) False := by
  unfold Host.callReadField
  apply (record_found _).bind
  intro _
  rintro t ⟨known, looked⟩
  have run := readField_run (system.foreign n) (aims.member known) other
    ((looked.content _).trans content) k
  rw [← own] at run
  exact .inr ⟨_, _, run, rfl, looked⟩

end

/-- A write that is not refused sets the field. -/
theorem write_returns (aims : Aims s target object)
    (found : s.world.heap.find? className ⟨className, name, d, target.fieldKind⟩ = some index)
    (parsed : Descriptor.parseField d = .ok k) (accepted : requested.accepts k = true)
    (asked : requested ≠ .void) (stands : standsFor s w k = some v) :
    Returns (Looked s) (write (system.foreign (n + 1)) target className name d requested w).run
      (fun r t => r = .ok () ∧ Looked (written s (slotOf className name object) v) t) False := by
  rw [write_stages parsed asked accepted]
  apply withType_returns (hasClass_of_find? found)
  apply returns_lift_bind (decode_looked (Descriptor.ne_void_of_parseField parsed) stands)
  intro value
  apply Returns.of_and
  rintro rfl
  refine returns_ensure (withReceiver_returns aims fun receiver own => ?_) fun r =>
    (spares (n + 1) _).dropValue value
  apply returns_ofHost (member_looked found)
  intro member
  exact (callWriteField_returns aims own value).bind fun r =>
    Returns.pure fun t done => ⟨by rw [done.1]; rfl, done.2⟩

/-- What was new after look-ups was new before them. -/
theorem Looked.echoed {x u : State (platform backend)} {r : Word} (looked : Looked t x)
    (echoed : Echoed Eq requested k w s x u r) : Echoed Eq requested k w s t u r := by
  simp only [Echoed, NewHandle, NewText, HandleTable.WasIssued, looked.issued, looked.memory]
    at echoed ⊢
  exact echoed

/-- A read that is not refused gives the content of the field as a word. -/
theorem read_returns (aims : Aims t target object)
    (found : t.world.heap.find? className ⟨className, name, d, target.fieldKind⟩ = some index)
    (parsed : Descriptor.parseField d = .ok k) (accepted : requested.accepts k = true)
    (refused : ¬(requested = .object ∧ k = .string)) (other : v ≠ .void)
    (stands : standsFor s w k = some v)
    (content : t.world.heap.content (slotOf className name object) = v) :
    Returns (Looked t) (read (system.foreign (n + 1)) target className name d requested).run
      (fun r u => ∃ a, r = .ok a ∧ Echoed Eq requested k w s t u a) False := by
  rw [read_stages parsed (hostKind_accepted accepted refused)]
  apply withType_returns (hasClass_of_find? found)
  apply withReceiver_returns aims
  intro receiver own
  apply returns_ofHost (member_looked found)
  intro member
  have given : Returns (Found t className name d target member)
      ((system.foreign (n + 1)).host.callReadField ⟨className, name, d, target.fieldKind⟩ receiver
        member k) (fun r u => ∃ a, r = .ok a ∧ a = v ∧ Looked t u) False :=
    (callReadField_returns aims own other content).weaken fun r u h => ⟨v, h.1, rfl, h.2⟩
  apply returns_ofHost given
  intro a
  apply Returns.of_and
  rintro rfl
  apply Returns.each
  intro x looked
  have left : Returns (· = x) (encode (system.foreign (n + 1)) requested a)
      (fun r u => Echoed Eq requested k w s x u r) False :=
    encode_echoed (Descriptor.ne_void_of_parseField parsed) stands (.rfl a)
  exact left.bind fun r => Returns.pure fun u echoed => ⟨r, rfl, looked.echoed echoed⟩

/-! ### Reports -/

theorem settle_returns {x : Call (platform backend) Word} {call : CallName} {member : String}
    {pre : State (platform backend) → Prop} {post : Word → State (platform backend) → Prop}
    (hx : Returns pre x.run (fun r u => ∃ a, r = .ok a ∧ post a u) False) :
    Returns pre (Dynamic.settle call className member x) post False := by
  unfold Dynamic.settle
  apply hx.bind
  intro r
  apply Returns.of_some
  rintro a rfl
  exact Returns.pure fun _ h => h

/-- A value that a word stands for is not void. -/
theorem ne_void_of_standsFor (stands : standsFor s w k = some v) (other : k ≠ .void) :
    v ≠ .void := by
  rintro rfl
  cases k with
  | string =>
    have text : taken s w .string = some .void := stands
    simp only [taken] at text
    split at text
    · cases text
    · obtain ⟨buffer, -, same⟩ := Option.map_eq_some_iff.mp text
      cases same
  | void => exact other rfl
  | _ => cases stands

/-- The field setter gives no report. -/
theorem setField_returns (aims : Aims s target object)
    (found : s.world.heap.find? className ⟨className, name, d, target.fieldKind⟩ = some index)
    (parsed : Descriptor.parseField d = .ok k) (accepted : requested.accepts k = true)
    (asked : requested ≠ .void) (stands : standsFor s w k = some v) :
    Returns (Looked s)
      (Dynamic.setField (system.foreign (n + 1)) target className name d requested w)
      (fun _ t => Looked (written s (slotOf className name object) v) t) False := by
  have wrote : Returns (Looked s) (do
      write (system.foreign (n + 1)) target className name d requested w
      return .zero : Call (platform backend) Word).run
      (fun r t => ∃ a, r = .ok a ∧ Looked (written s (slotOf className name object) v) t)
      False := by
    rw [ExceptT.run_bind]
    apply (write_returns aims found parsed accepted asked stands).bind
    intro r
    apply Returns.of_and
    rintro rfl
    exact Returns.pure fun t looked => ⟨_, rfl, looked⟩
  exact (settle_returns wrote).bind fun _ => Returns.pure fun _ h => h

theorem getField_returns (aims : Aims t target object)
    (found : t.world.heap.find? className ⟨className, name, d, target.fieldKind⟩ = some index)
    (parsed : Descriptor.parseField d = .ok k) (accepted : requested.accepts k = true)
    (refused : ¬(requested = .object ∧ k = .string)) (stands : standsFor s w k = some v)
    (content : t.world.heap.content (slotOf className name object) = v) :
    Returns (Looked t)
      (Dynamic.getField (system.foreign (n + 1)) target className name d requested)
      (fun r u => Echoed Eq requested k w s t u r) False := by
  have other := ne_void_of_standsFor stands (Descriptor.ne_void_of_parseField parsed)
  exact settle_returns (read_returns aims found parsed accepted refused other stands content)

/-! ### The round trip -/

/-- A live receiver that was not released is the same object still, as long as the numbers of
handles have not come round. -/
theorem Aims.since (aims : Aims s target object) (sound : Sound s) (since : Since s t)
    (live : ∀ h, target = .instance h →
      (objectAt t h).isSome = true ∧ t.bridge.handles.issued < 2 ^ 63 - 1) :
    Aims t target object := by
  cases target with
  | static => exact aims
  | «instance» h =>
    obtain ⟨o, rfl, found, there⟩ := aims
    obtain ⟨still, small⟩ := live h rfl
    obtain ⟨o', found'⟩ := Option.isSome_iff_exists.mp still
    unfold objectAt at found found'
    have before : s.bridge.handles.find? h = some o := by
      rw [HandleTable.get_eq_find?] at found
      split at found
      · cases found
      · exact found
    have after : t.bridge.handles.find? h = some o' := by
      rw [since.handles.get_eq small] at found'
      exact found'
    obtain rfl := since.since.find?_eq sound.handles small before after
    exact ⟨o', rfl, found', there.trans_le since.grows.objects⟩

/-- What a field was set to is what is read from it. The field is declared, and its receiver is live
if it needs one; the setter takes the declared kind, and is not the object setter on a field of the
string class; a word for a string is the address of a text. Then the setter sets this field and no
other, and after any program by which the field is not set again and the receiver is not released,
the getter gives the form of the word, or a new handle of the object that the word named when it was
written, or a new buffer with the text. -/
theorem getField_setField (reached : Reachable s) (aims : Aims s target object)
    (declared : (s.world.heap.find? className
      ⟨className, name, d, target.fieldKind⟩).isSome = true)
    (parsed : Descriptor.parseField d = .ok k) (accepted : requested.accepts k = true)
    (asked : requested ≠ .void) (refused : ¬(requested = .object ∧ k = .string))
    (text : k = .string → w.toPointer ≠ 0 → (s.memory.buffer? w.toPointer).isSome = true)
    {limit : Nat} (positive : 0 < limit) :
    let F := system.foreign limit
    let slot := slotOf className name object
    let s₁ := (Dynamic.setField F target className name d requested w s).2
    (Dynamic.setField F target className name d requested w s).1 = .value () ∧
      (∃ v, standsFor s w k = some v ∧ ∀ other, s₁.world.heap.content other =
        if other = slot then v else s.world.heap.content other) ∧
      ∀ {α : Type} (between : Program backend α) (depth : Nat), GrowsHeap between →
        let s₂ := (system.exec depth between s₁).2
        s₂.world.heap.timesSet slot = s₁.world.heap.timesSet slot →
        (∀ h, target = .instance h →
          (objectAt s₂ h).isSome = true ∧ s₂.bridge.handles.issued < 2 ^ 63 - 1) →
        ∃ r u, Dynamic.getField F target className name d requested s₂ = (.value r, u) ∧
          Echoed Eq requested k w s s₂ u r := by
  obtain ⟨n, rfl⟩ : ∃ n, limit = n + 1 := Nat.exists_eq_add_one.mpr positive
  intro F slot s₁
  obtain ⟨v, stands⟩ := exists_standsFor text
  obtain ⟨index, found⟩ := Option.isSome_iff_exists.mp declared
  have set := setField_returns (n := n) aims found parsed accepted asked stands s
    (.refl reached.sound)
  rcases set with ⟨never, -⟩ | ⟨_, t, ran, looked⟩
  · exact never.elim
  have same : s₁ = t := congrArg Prod.snd ran
  rw [← same] at looked
  refine ⟨congrArg Prod.fst ran, ⟨v, stands, fun other => ?_⟩, ?_⟩
  · rw [looked.content]
    exact Heap.content_write aims.has v other
  intro α between depth grows s₂ unset live
  have since : Since s₁ s₂ := looked.sound.exec depth grows
  have aims₁ : Aims s₁ target object := (aims.written slot v).looked looked
  have aims₂ : Aims s₂ target object := aims₁.since looked.sound since live
  have declared₁ : (s₁.world.heap.find? className
      ⟨className, name, d, target.fieldKind⟩).isSome = true := by
    rw [looked.find?]
    exact (Heap.find?_write ..).symm ▸ declared
  obtain ⟨index₂, found₂⟩ := Option.isSome_iff_exists.mp (since.grows.find?_isSome declared₁)
  have content : s₂.world.heap.content slot = v := by
    rw [since.grows.content_eq unset, looked.content]
    exact (Heap.content_write aims.has v slot).trans (if_pos rfl)
  have got := getField_returns (n := n) aims₂ found₂ parsed accepted refused stands content s₂
    (.refl since.toSound)
  rcases got with ⟨never, -⟩ | ⟨r, u, ran, echoed⟩
  · exact never.elim
  exact ⟨r, u, ran, echoed⟩

/-! ### A field of an object -/

/-- An object that a word named comes back under a new handle. -/
theorem newHandle_of_echoed {x u : State (platform backend)} {r : Word} {o : ObjectId}
    (echoed : Echoed Eq requested .object w s x u r) (asked : requested ≠ .void)
    (named : objectAt s w.toHandle = some o) : NewHandle o x u r := by
  unfold objectAt at named
  unfold Echoed at echoed
  rw [if_neg asked] at echoed
  simp only [ValueKind.isScalar, named] at echoed
  obtain ⟨o', same, new⟩ := echoed
  rw [same]
  exact new

/-- A class of objects that name one another. -/
def chain : List Declaration := [.constructor "Link" "()V" [], .field "Link" "next"]

/-- Two objects under the first two handles. -/
@[irreducible]
def linked : State (platform backend) :=
  (system.exec 2 (do
    discard <| Act.op (.createObject "Link" "()V" [])
    discard <| Act.op (.createObject "Link" "()V" []) : Program backend Unit)
    (start .empty chain)).2

/-- The only handle of an object is released and what was looked up is forgotten. -/
def forgetful : Program backend Nat := do
  discard <| Act.op (.release ⟨2⟩)
  Act.op .clearMembers

/-- The object is named anew. -/
theorem getField_setField_linked :
    Descriptor.parseField "LLink;" = .ok .object ∧ Reachable linked ∧
      Aims linked (.instance ⟨1⟩) (some (0 : Nat)) ∧
      let s₁ := (Dynamic.setField (system.foreign 1) (.instance ⟨1⟩) "Link" "next" "LLink;" .object
        ⟨2⟩ linked).2
      let s₂ := (system.exec 1 forgetful s₁).2
      ∃ r u, Dynamic.getField (system.foreign 1) (.instance ⟨1⟩) "Link" "next" "LLink;" .object s₂ =
        (.value r, u) ∧ NewHandle (1 : Nat) s₂ u r := by
  have parsed : Descriptor.parseField "LLink;" = .ok .object := by decide
  have reached : Reachable linked := by
    unfold linked
    apply (Reachable.start .empty chain).exec
    simp
  have receiver : objectAt linked ⟨1⟩ = some 0 := by decide +kernel
  have there : 0 < linked.world.heap.instances.size := by decide +kernel
  have aims : Aims linked (.instance ⟨1⟩) (some (0 : Nat)) := ⟨0, rfl, receiver, there⟩
  have declared : (linked.world.heap.find? "Link"
      ⟨"Link", "next", "LLink;", (Target.instance ⟨1⟩).fieldKind⟩).isSome = true := by
    decide +kernel
  have named : objectAt linked ⟨2⟩ = some 1 := by decide +kernel
  have grows : GrowsHeap forgetful := by simp [forgetful]
  have trip := @getField_setField linked "Link" "next" "LLink;" (.instance ⟨1⟩) (some (0 : Nat))
    .object .object ⟨2⟩ reached aims declared parsed rfl (by decide) (by decide) nofun 1 (by decide)
  obtain ⟨r, u, ran, echoed⟩ := trip.2.2 forgetful 1 grows (by decide +kernel)
    (by rintro _ ⟨⟩; decide +kernel)
  refine ⟨parsed, reached, aims, ?_⟩
  exact ⟨r, u, ran, newHandle_of_echoed echoed (by decide) named⟩

end HostBridge.Scenario.InMemory
