import HostBridge.Bridge.Call

/-!
Operations that are not refused. Once its descriptor is read and what is asked for suits it, an
operation is its look-ups and the use of the member that they come to. The uses have names here, so
that what is known of the look-ups alone is put together with what is known of a use.
-/
namespace HostBridge

variable {P : Platform} (F : Foreign P (Exec P)) (key : MemberKey)

namespace Call

/-! ### Uses of a member -/

/-- What a construction does once its constructor is found. -/
def applyConstructor (d : MethodDescriptor) (words : List Word) (type : P.Class)
    (member : P.Member) : Call P Handle :=
  withArgs F d.params words fun args => do
    let o ← ofHost (F.host.callConstruct key type member args)
    Objects.store F o

/-- What a call does once its method is found. -/
def applyMethod (d : MethodDescriptor) (words : List Word) (requested kind : ValueKind)
    (found : Receiver P.Object P.Class) (member : P.Member) : Call P Word :=
  withArgs F d.params words fun args => do
    let v ← ofHost (F.host.callInvoke key found member kind args)
    encode F requested v

/-- What a read does once its field is found. -/
def applyGetter (requested kind : ValueKind) (found : Receiver P.Object P.Class)
    (member : P.Member) : Call P Word := do
  let v ← ofHost (F.host.callReadField key found member kind)
  encode F requested v

/-- Writes a value to a field and drops it. -/
def writeValue (target : Target) (type : P.Class) (value : HostValue P.Object) : Call P Unit :=
  ensure
    (withReceiver F target type fun receiver => do
      let member ← ofHost (Members.member F type key)
      ofHost (F.host.callWriteField key receiver member value))
    (F.host.dropValue value)

variable {F}

/-- Types come from the cache, unless something else is said. -/
theorem withType_cached {α : Type} (name : String) (body : P.Class → Call P α) :
    withType F name body = (do
      let c ← ofHost (Members.type F name)
      ensure (body c) (F.host.dropType c)) := rfl

/-! ### What the host is asked for -/

/-- The kind that is declared is asked for, unless a string is taken as an object. -/
theorem hostKind_accepted {requested declared : ValueKind}
    (accepted : requested.accepts declared = true)
    (other : ¬(requested = .object ∧ declared = .string)) :
    hostKind requested declared = .ok declared := by
  rw [hostKind, if_pos accepted, if_neg other]

theorem accepts_of_hostKind {requested declared kind : ValueKind}
    (asked : hostKind requested declared = .ok kind) : requested.accepts declared = true := by
  unfold hostKind at asked
  split at asked
  case isTrue accepted => exact accepted
  case isFalse => cases asked

/-- What is asked for is refused if it does not accept what is declared. -/
theorem hostKind_error {requested declared : ValueKind} {e : CallError}
    (refused : hostKind requested declared = .error e) :
    ¬requested.accepts declared = true ∧ e = .returnMismatch requested declared := by
  unfold hostKind at refused
  split at refused
  · cases refused
  · rename_i mismatch
    cases refused
    exact ⟨mismatch, rfl⟩

/-! ### Constructions and calls -/

variable {d : MethodDescriptor} {words : List Word} {className name signature : String}
  {target : Target} {requested kind : ValueKind}

/-- A construction that is not refused is its look-ups and the use of the constructor. -/
theorem construct_stages (parsed : Descriptor.parseMethod signature = .ok d)
    (void : d.result = .void) :
    construct F className signature words =
      (withType F className fun type => withReceiver F .static type fun _ => do
        let key : MemberKey := ⟨className, constructorName, signature, .constructor⟩
        let member ← ofHost (Members.member F type key)
        applyConstructor F key d words type member) := by
  unfold construct
  rw [parsed, ofDescriptor_ok, pure_bind, if_neg (not_not_intro void)]
  rfl

/-- A construction of what declares a result is refused. -/
theorem construct_refused (parsed : Descriptor.parseMethod signature = .ok d)
    (returns : d.result ≠ .void) :
    construct F className signature words = throw (.constructorReturn d.result) := by
  unfold construct
  rw [parsed, ofDescriptor_ok, pure_bind, if_pos returns]
  rfl

/-- A call that is not refused is its look-ups and the use of the method. -/
theorem invoke_stages (parsed : Descriptor.parseMethod signature = .ok d)
    (asked : hostKind requested d.result = .ok kind) :
    invoke F target className name signature requested words =
      (withType F className fun type => withReceiver F target type fun receiver => do
        let key : MemberKey := ⟨className, name, signature, target.methodKind⟩
        let member ← ofHost (Members.member F type key)
        applyMethod F key d words requested kind receiver member) := by
  unfold invoke
  rw [parsed, ofDescriptor_ok, pure_bind, asked, mk_ok, pure_bind]
  rfl

theorem invoke_refused {e : CallError} (parsed : Descriptor.parseMethod signature = .ok d)
    (asked : hostKind requested d.result = .error e) :
    invoke F target className name signature requested words = throw e := by
  unfold invoke
  rw [parsed, ofDescriptor_ok, pure_bind, asked]
  rfl

/-! ### Reads and writes -/

variable {descriptor : String} {declared : ValueKind} {w : Word}

/-- A read that is not refused is its look-ups and the use of the field. -/
theorem read_stages (parsed : Descriptor.parseField descriptor = .ok declared)
    (asked : hostKind requested declared = .ok kind) :
    read F target className name descriptor requested =
      (withType F className fun type => withReceiver F target type fun receiver => do
        let key : MemberKey := ⟨className, name, descriptor, target.fieldKind⟩
        let member ← ofHost (Members.member F type key)
        applyGetter F key requested kind receiver member) := by
  unfold read
  rw [parsed, ofDescriptor_ok, pure_bind, asked, mk_ok, pure_bind]
  rfl

/-- A write that is not refused is the look-up of the type, the reading of the word and the write of
the value. -/
theorem write_stages (parsed : Descriptor.parseField descriptor = .ok declared)
    (asked : requested ≠ .void) (accepted : requested.accepts declared = true) :
    write F target className name descriptor requested w =
      (withType F className fun type => do
        let value ← decode F declared w
        writeValue F ⟨className, name, descriptor, target.fieldKind⟩ target type value) := by
  have fits : ¬(requested = .void ∨ !requested.accepts declared) := by simp [asked, accepted]
  unfold write
  rw [parsed, ofDescriptor_ok, pure_bind, if_neg fits]
  rfl

end Call
end HostBridge
