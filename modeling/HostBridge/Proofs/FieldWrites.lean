import HostBridge.Proofs.Alike
import HostBridge.Proofs.CallStages
import HostBridge.Proofs.Plain
import HostBridge.Proofs.Programs

/-!
What is written to a field through the object setter. The word is taken as the descriptor says: for
a class or an array it is a handle, and the object behind it is written; for the string class it is
the address of a text, although the object getter gives handles for such fields too.
-/
namespace HostBridge

open Exec

variable {P : Platform} {α : Type}

/-- The descriptor of the string class. -/
theorem Descriptor.parseField_stringClass :
    Descriptor.parseField "Ljava/lang/String;" = .ok .string := by
  have bytes : latin1 "Ljava/lang/String;" =
      ['L', 'j', 'a', 'v', 'a', '/', 'l', 'a', 'n', 'g', '/', 'S', 't', 'r', 'i', 'n', 'g', ';'] :=
    rfl
  have name : stringClass.toList =
      ['j', 'a', 'v', 'a', '/', 'l', 'a', 'n', 'g', '/', 'S', 't', 'r', 'i', 'n', 'g'] := rfl
  unfold parseField
  rw [bytes]
  simp [run, Stage.step, Goal.reached, ofClassName, name, Stage.finish]
  rfl

/-- An object that was stored is behind its handle, unless the handles have come round. -/
theorem HandleTable.get_store {β : Type} (table : HandleTable β) (o : Option β)
    (room : (table.store o).2.next ≠ 1) : ((table.store o).2.get (table.store o).1).1 = o := by
  cases o with
  | none => rfl
  | some a =>
    have nonzero : table.next ≠ 0 := by
      rintro zero
      simp [HandleTable.store, zero] at room
    simp [HandleTable.store, HandleTable.insert, HandleTable.get, HandleTable.find?,
      Handle.isNull, nonzero]

/-! ### Hosts that differ in how they write fields -/

namespace Foreign

/-- The same foreign code with another way to write fields. -/
def withWriteField (F : Foreign P (Exec P))
    (W : Receiver P.Object P.Class → P.Member → HostValue P.Object →
      Exec P (Except HostError Unit)) : Foreign P (Exec P) :=
  { F with host := { F.host with writeField := W } }

end Foreign

/-- The only value that an operation writes to a field from `s` is `v`: what it does depends on how
fields are written at that value alone. -/
def WritesOnly (operation : Foreign P (Exec P) → Exec P α) (F : Foreign P (Exec P))
    (v : HostValue P.Object) (s : State P) : Prop :=
  ∀ W, (∀ receiver member, W receiver member v = F.host.writeField receiver member v) →
    operation (F.withWriteField W) s = operation F s

namespace Call

variable (F : Foreign P (Exec P))

/-- The value that a word is taken for as that of a field of a reference kind. A word that is an
address of no buffer is taken for none. -/
def taken (s : State P) (w : Word) : ValueKind → Option (HostValue P.Object)
  | .string =>
    if w.toPointer = 0 then some (.string none)
    else (s.memory.buffer? w.toPointer).map fun buffer => .string (some (cText buffer))
  | _ => some (.object (s.bridge.handles.get w.toHandle).1)

/-- A word for a field of the string class is never taken for an object. -/
theorem taken_string_ne {s : State P} {w : Word} (o : Option P.Object) :
    taken s w .string ≠ some (.object o) := by
  intro h
  simp only [taken] at h
  split at h
  · cases h
  · obtain ⟨buffer, -, h⟩ := Option.map_eq_some_iff.mp h
    cases h

end Call

/-! ### The value that is written -/

namespace Call

variable {F : Foreign P (Exec P)} {declared : ValueKind} {w : Word} {s t : State P}
  {v : HostValue P.Object}

/-- A look-up gives what is behind the handle. -/
theorem lookup_gives (h : Handle) :
    ∃ t, Objects.lookup F h s = (.value (s.bridge.handles.get h).1, t) := by
  unfold Objects.lookup Exec.bridge
  rw [run_bind, run_gets]
  dsimp only
  rcases s.bridge.handles.get h with ⟨found, new, table⟩
  cases new <;> cases found <;> exact ⟨_, rfl⟩

/-- A word is read as the value that it is taken for, and a wild address is fatal. -/
theorem decode_run (reference : declared.isReference = true) :
    ∃ t, decode F declared w s = (match taken s w declared with
      | some v => .value v
      | none => .halt (.wildPointer w.toPointer), t) := by
  have handled : ∃ t, (do
      return .object (← Objects.lookup F w.toHandle) : Exec P (HostValue P.Object)) s =
        (.value (.object (s.bridge.handles.get w.toHandle).1), t) := by
    obtain ⟨t, found⟩ := lookup_gives (F := F) (s := s) w.toHandle
    rw [run_bind, found]
    exact ⟨t, rfl⟩
  cases declared with
  | string =>
    simp only [decode, readText, taken]
    by_cases null : w.toPointer = 0
    · rw [if_pos null, if_pos null]
      exact ⟨s, rfl⟩
    · rw [if_neg null, if_neg null, run_bind, run_bind, run_gets]
      cases s.memory.buffer? w.toPointer with
      | none => exact ⟨s, rfl⟩
      | some buffer => exact ⟨s, rfl⟩
  | object => exact handled
  | array => exact handled
  | _ => cases reference

/-- The object setter takes every field of a reference kind. -/
theorem write_object_stages {descriptor : String}
    (parsed : Descriptor.parseField descriptor = .ok declared)
    (reference : declared.isReference = true) (target : Target) (className name : String) :
    write F target className name descriptor .object w =
      (withType F className fun type => do
        let value ← decode F declared w
        writeValue F ⟨className, name, descriptor, target.fieldKind⟩ target type value) := by
  have accepted : ValueKind.object.accepts declared = true := reference
  exact write_stages parsed nofun accepted

theorem writeValue_agree {W : Receiver P.Object P.Class → P.Member → HostValue P.Object →
      Exec P (Except HostError Unit)}
    (agree : ∀ receiver member, W receiver member v = F.host.writeField receiver member v)
    (target : Target) (key : MemberKey) (type : P.Class) :
    writeValue (F.withWriteField W) key target type v = writeValue F key target type v := by
  have called (receiver : Receiver P.Object P.Class) (member : P.Member) :
      (F.withWriteField W).host.callWriteField key receiver member v =
        F.host.callWriteField key receiver member v := by
    unfold Host.callWriteField
    exact congrArg (Exec.record _ >>= fun _ => ·) (agree receiver member)
  unfold writeValue
  simp only [called]
  rfl

variable {target : Target} {className name descriptor : String} {type : P.Class}

theorem ofHost_run {x : Exec P (Except HostError α)} {a : α} (h : x s = (.value (.ok a), t)) :
    (ofHost x).run s = (.value (.ok a), t) := by
  unfold ofHost
  change (x >>= _) s = _
  rw [run_bind, h]
  rfl

theorem lift_run {x : Exec P α} {a : α} (h : x s = (.value a, t)) :
    (liftM x : Call P α).run s = (.value (.ok a), t) := by
  change (x >>= _) s = _
  rw [run_bind, h]
  rfl

theorem lift_run_halt {x : Exec P α} {why : Halt} (h : x s = (.halt why, t)) :
    (liftM x : Call P α).run s = (.halt why, t) :=
  bind_halt h

/-- What the object setter does depends on how fields are written at the value that the word is
taken for. -/
theorem write_agree {W : Receiver P.Object P.Class → P.Member → HostValue P.Object →
      Exec P (Except HostError Unit)} (parsed : Descriptor.parseField descriptor = .ok declared)
    (reference : declared.isReference = true)
    (resolved : Members.type F className s = (.value (.ok type), t))
    (value : taken t w declared = some v)
    (agree : ∀ receiver member, W receiver member v = F.host.writeField receiver member v) :
    (write (F.withWriteField W) target className name descriptor .object w).run s =
      (write F target className name descriptor .object w).run s := by
  rw [write_object_stages parsed reference, write_object_stages parsed reference, withType_cached,
    withType_cached]
  rw [ExceptT.run_bind, ExceptT.run_bind]
  refine bind_agree rfl fun r u hr => ?_
  rw [ofHost_run resolved] at hr
  cases hr
  refine ensure_agree ?_
  obtain ⟨u, decoded⟩ := decode_run (F := F) (w := w) (s := t) reference
  rw [value] at decoded
  rw [ExceptT.run_bind, ExceptT.run_bind]
  refine bind_agree rfl fun r u' hr => ?_
  rw [lift_run decoded] at hr
  cases hr
  exact congrFun (congrArg ExceptT.run (writeValue_agree agree target _ type)) u

/-- A word that is the address of no buffer is fatal. -/
theorem write_halts (parsed : Descriptor.parseField descriptor = .ok declared)
    (reference : declared.isReference = true)
    (resolved : Members.type F className s = (.value (.ok type), t))
    (wild : taken t w declared = none) :
    ∃ u, (write F target className name descriptor .object w).run s =
      (.halt (.wildPointer w.toPointer), u) := by
  obtain ⟨u, decoded⟩ := decode_run (F := F) (w := w) (s := t) reference
  rw [wild] at decoded
  refine ⟨u, ?_⟩
  rw [write_object_stages parsed reference, withType_cached, ExceptT.run_bind, run_bind,
    ofHost_run resolved]
  have halted : (do
      let value ← decode F declared w
      writeValue F ⟨className, name, descriptor, target.fieldKind⟩ target type value :
        Call P Unit).run t = (.halt (.wildPointer w.toPointer), u) := by
    rw [ExceptT.run_bind]
    exact bind_halt (lift_run_halt decoded)
  exact ensure_halt halted

/-! ### The handle that the object getter gives -/

/-- The receiver of an operation. -/
def receiver (F : Foreign P (Exec P)) (target : Target) (type : P.Class) :
    Call P (Receiver P.Object P.Class) := do
  match target with
  | .static => return .static type
  | .instance h =>
    match ← Objects.lookup F h with
    | none => throw (.nullReceiver h)
    | some o => return .instance o

/-- The look-ups that come before a field is read. -/
def reachField (F : Foreign P (Exec P)) (target : Target) (key : MemberKey) :
    Call P (Receiver P.Object P.Class × P.Member) := do
  let type ← ofHost (Members.type F key.className)
  let receiver ← receiver F target type
  let member ← ofHost (Members.member F type key)
  return (receiver, member)

/-- When a field is read from `s`, the host gives `o` for it. -/
def FieldGives (F : Foreign P (Exec P)) (target : Target) (key : MemberKey) (asked : ValueKind)
    (o : Option P.Object) (s : State P) : Prop :=
  ∃ found member u u', (reachField F target key).run s = (.value (.ok (found, member)), u) ∧
    F.host.callReadField key found member asked u = (.value (.ok (.object o)), u')

/-- The result of a call is no word, or it is a handle of `o`, unless the handles have come round.
-/
def Named (o : Option P.Object) : Except CallError Word → State P → Prop
  | .ok w, s => s.bridge.handles.next ≠ 1 → (s.bridge.handles.get w.toHandle).1 = o
  | .error _, _ => True

variable {o : Option P.Object}

theorem upkeep_named {r : Except CallError Word} (f : P.Ledger → P.World → P.Ledger × P.World) :
    Gives (Named o r) (Exec.upkeep f) (fun _ => Named o r) := by
  refine Triple.modify fun s h => ?_
  cases r with
  | ok w => exact h
  | error e => trivial

theorem encode_named : Gives (fun _ => True)
    (liftM (encode F .object (.object o)) : Call P Word).run (Named o) := by
  have stored : Gives (fun _ => True) (Objects.store F o)
      (fun h => Named o (.ok (.ofHandle h))) := by
    unfold Objects.store
    refine Triple.bind Triple.asks fun table => ?_
    have entered : Gives (fun s => table = s.bridge.handles ∧ True)
        (Exec.update fun b => { b with handles := (table.store o).2 })
        (fun _ => Named o (.ok (.ofHandle (table.store o).1))) :=
      Triple.update fun s _ room => by
        rw [Word.toHandle_ofHandle]
        exact HandleTable.get_store table o room
    refine Triple.bind entered fun _ => ?_
    cases table.replaced o with
    | none => exact Triple.pure fun _ h => h
    | some old => exact Triple.bind (upkeep_named _) fun _ => Triple.pure fun _ h => h
  exact Triple.bind (Triple.bind stored fun h => Triple.pure fun _ named => named) fun w =>
    Triple.pure fun _ named => named

theorem withReceiver_named {target : Target} {body : Receiver P.Object P.Class → Call P Word}
    (hbody : ∀ found t, (receiver F target type).run s = (.value (.ok found), t) →
      Gives (· = t) (body found).run (Named o)) :
    Gives (· = s) (withReceiver F target type body).run (Named o) := by
  cases target with
  | static => exact hbody _ s rfl
  | «instance» h =>
    unfold withReceiver
    refine gives_bind (fun found t looked => ?_) fun _ _ => trivial
    cases found with
    | none => exact Triple.pure fun _ _ => trivial
    | some a =>
      have reached : (receiver F (.instance h) type).run s = (.value (.ok (.instance a)), t) := by
        unfold receiver
        rw [ExceptT.run_bind, run_bind, looked]
        rfl
      exact Triple.ensure (hbody _ t reached) (fun _ => upkeep_named _) Triple.any

/-- The object getter gives a handle of the object that the host gave for the field. -/
theorem read_named {asked : ValueKind} {target : Target} {className name : String}
    (parsed : Descriptor.parseField descriptor = .ok declared)
    (accepted : hostKind .object declared = .ok asked)
    (gives : FieldGives F target ⟨className, name, descriptor, target.fieldKind⟩ asked o s) :
    Gives (· = s) (read F target className name descriptor .object).run (Named o) := by
  rw [read_stages parsed accepted, withType_cached]
  obtain ⟨found, member, u, u', reached, gave⟩ := gives
  unfold reachField at reached
  refine gives_bind (fun type t typed => ?_) fun _ _ => trivial
  rw [ExceptT.run_bind, run_bind, typed] at reached
  refine Triple.ensure (withReceiver_named fun found' t' received => ?_) (fun _ => upkeep_named _)
    Triple.any
  dsimp only at reached
  rw [ExceptT.run_bind, run_bind, received] at reached
  refine gives_bind (fun member' v resolved => ?_) fun _ _ => trivial
  dsimp only at reached
  rw [ExceptT.run_bind, run_bind, resolved] at reached
  cases reached
  refine gives_bind (fun value u' given => ?_) fun _ _ => trivial
  rw [ofHost_run gave] at given
  cases given
  exact encode_named.of_imp fun _ _ => trivial

end Call

/-! ### The object setter -/

namespace Dynamic

open Call

variable {F : Foreign P (Exec P)} {declared : ValueKind} {s t : State P} {type : P.Class}
  {className descriptor : String}

/-- The object setter does the same with both where the writes are the same. -/
theorem setField_agree {G : Foreign P (Exec P)} {target : Target} {name : String} {w : Word}
    (h : (write G target className name descriptor .object w).run s =
      (write F target className name descriptor .object w).run s) :
    setField G target className name descriptor .object w s =
      setField F target className name descriptor .object w s := by
  unfold setField
  refine discard_agree ?_
  unfold settle
  refine bind_agree ?_ fun _ _ _ => rfl
  rw [ExceptT.run_bind, ExceptT.run_bind]
  exact bind_agree h fun _ _ _ => rfl

theorem setField_halts {target : Target} {name : String} {w : Word} {why : Halt} {u : State P}
    (h : (write F target className name descriptor .object w).run s = (.halt why, u)) :
    setField F target className name descriptor .object w s = (.halt why, u) := by
  have wrote : (do
      write F target className name descriptor .object w
      return .zero : Call P Word).run s = (.halt why, u) := by
    rw [ExceptT.run_bind]
    exact bind_halt h
  unfold setField settleWrite Functor.discard Functor.mapConst
  exact bind_halt (bind_halt wrote)

/-- The object setter takes its word as a handle exactly for the descriptors of classes and arrays:
what it writes then is the object behind the handle. A word for a field of the string class is the
address of a text, and is fatal if it is none. For a class or an array, the handle that the object
getter gave is written back as the object that the host gave for the field. -/
theorem setField_object_writes (parsed : Descriptor.parseField descriptor = .ok declared)
    (reference : declared.isReference = true) (target : Target) (name : String) (w : Word)
    (resolved : Members.type F className s = (.value (.ok type), t)) :
    (declared ≠ .string ↔
        taken t w declared = some (.object (t.bridge.handles.get w.toHandle).1)) ∧
      (∀ v, taken t w declared = some v →
        WritesOnly (fun F => setField F target className name descriptor .object w) F v s) ∧
      (taken t w declared = none →
        ∃ u, setField F target className name descriptor .object w s =
          (.halt (.wildPointer w.toPointer), u)) ∧
      ∀ s₀ o, declared ≠ .string →
        FieldGives F target ⟨className, name, descriptor, target.fieldKind⟩ declared o s₀ →
        (read F target className name descriptor .object).run s₀ = (.value (.ok w), s) →
        (t.bridge.handles.get w.toHandle).1 = (s.bridge.handles.get w.toHandle).1 →
        s.bridge.handles.next ≠ 1 →
        WritesOnly (fun F => setField F target className name descriptor .object w) F (.object o)
          s := by
  have writes (v : HostValue P.Object) (value : taken t w declared = some v) :
      WritesOnly (fun F => setField F target className name descriptor .object w) F v s :=
    fun W agree => setField_agree (write_agree parsed reference resolved value agree)
  have handle (other : declared ≠ .string) :
      taken t w declared = some (.object (t.bridge.handles.get w.toHandle).1) := by
    cases declared with
    | string => exact (other rfl).elim
    | _ => rfl
  refine ⟨⟨handle, fun value other => ?_⟩, writes, fun wild => ?_,
    fun s₀ o other gives got kept room => ?_⟩
  · subst other
    exact taken_string_ne _ value
  · exact (write_halts parsed reference resolved wild).imp fun _ halted => setField_halts halted
  · have accepted : hostKind .object declared = .ok declared := by
      have taken : ValueKind.object.accepts declared = true := reference
      exact hostKind_accepted taken fun text => other text.2
    have named := (read_named parsed accepted gives).of_value got
    have value := handle other
    rw [kept, named room] at value
    exact writes _ value

end Dynamic

/-! ### A field of the plain world -/

namespace Plain

/-- The plain world around a program that does nothing. -/
def calm : Foreign platform (Exec platform) :=
  (System.ofPrograms (foreign (pure (.ok ())))).foreign 2

/-- The plain world with an object in its field. -/
def stocked : State platform := { start with world := .object (some (7 : Nat)) }

/-- Writes of objects alone come through. -/
def objectsOnly (receiver : Receiver Nat String) (member : MemberKey) :
    HostValue Nat → Exec platform (Except HostError Unit)
  | .object o => calm.host.writeField receiver member (.object o)
  | _ => pure (.ok ())

end Plain

namespace Dynamic

/-- The handle of the object in the field is written back. -/
theorem setField_object_writes_plain :
    let s := ((Call.read Plain.calm .static "Point" "label" "[I" .object).run Plain.stocked).2
    Descriptor.parseField "[I" = .ok .array ∧ ValueKind.array.isReference = true ∧
      (∃ t, Members.type Plain.calm "Point" s = (.value (.ok "Point"), t)) ∧
      WritesOnly (fun F => setField F .static "Point" "label" "[I" .object (.ofHandle ⟨1⟩))
        Plain.calm (.object (some (7 : Nat))) s := by
  refine ⟨rfl, rfl, ⟨_, rfl⟩, ?_⟩
  have resolved : ∃ t, Members.type Plain.calm "Point"
      ((Call.read Plain.calm .static "Point" "label" "[I" .object).run Plain.stocked).2 =
        (.value (.ok "Point"), t) ∧
      (t.bridge.handles.get ⟨1⟩).1 = some (7 : Nat) := ⟨_, rfl, rfl⟩
  obtain ⟨t, resolved, held⟩ := resolved
  exact (setField_object_writes rfl rfl .static "label" (.ofHandle ⟨1⟩) resolved).2.2.2
    Plain.stocked (some (7 : Nat)) (by decide) ⟨_, _, _, _, rfl, rfl⟩ rfl held (by decide)

/-- A handle for a field of the string class is taken as the address of a text. The null handle is
written as no text instead of no object, and the handle that the object getter gave for the same
field is the address of no text. -/
theorem setField_object_takes_text :
    Descriptor.parseField "Ljava/lang/String;" = .ok .string ∧
      ¬ WritesOnly (fun F => setField F .static "Point" "label" "Ljava/lang/String;" .object .zero)
        Plain.calm (.object none) Plain.stocked ∧
      (setField Plain.calm .static "Point" "label" "Ljava/lang/String;" .object .zero
        Plain.stocked).2.world = .string none ∧
      ∃ s, (Call.read Plain.calm .static "Point" "label" "Ljava/lang/String;" .object).run
          Plain.stocked = (.value (.ok (.ofHandle ⟨1⟩)), s) ∧
        (s.bridge.handles.get ⟨1⟩).1 = some (7 : Nat) ∧
        ∃ u, setField Plain.calm .static "Point" "label" "Ljava/lang/String;" .object
          (.ofHandle ⟨1⟩) s = (.halt (.wildPointer 1), u) := by
  have parsed := Descriptor.parseField_stringClass
  have wrote (F : Foreign Plain.platform (Exec Plain.platform)) (w : Word) :=
    Call.write_object_stages (F := F) (w := w) parsed rfl .static "Point" "label"
  refine ⟨parsed, fun only => ?_, ?_, ?_⟩
  · have same := congrArg (·.2.world) (only Plain.objectsOnly fun _ _ => rfl)
    unfold setField at same
    simp only [wrote] at same
    cases same
  · unfold setField
    simp only [wrote]
    rfl
  · unfold setField Call.read
    simp only [wrote, parsed]
    exact ⟨_, rfl, rfl, _, rfl⟩

end Dynamic
end HostBridge
