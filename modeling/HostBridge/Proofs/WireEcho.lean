import HostBridge.Proofs.DescriptorGrammar
import HostBridge.Proofs.FailsClosed
import HostBridge.Proofs.OperationRuns
import HostBridge.Proofs.WireForms

/-!
What a word comes back as. A method that gives back its one argument shows what the bridge makes of
a word on the way in and on the way out: a scalar comes back in the form of its kind, an object
under a new handle, a text in a new buffer.
-/
namespace HostBridge

open Exec

variable {P : Platform} {α : Type}

/-! ### Descriptors -/

namespace Descriptor

/-- The descriptor of a method that takes and returns one type. -/
def ofEndo (d : String) : String := "(" ++ d ++ ")" ++ d

theorem parseMethod_ofEndo {d : String} {k : ValueKind} (parsed : parseField d = .ok k) :
    parseMethod (ofEndo d) = .ok ⟨[k], k⟩ := by
  obtain ⟨t, bytes, rfl⟩ := (parseField_iff d k).mp parsed
  have rendered : MethodType.render ⟨[t], some t⟩ = Utf8.encode (ofEndo d) := by
    have parts : Utf8.encode (ofEndo d) =
        Utf8.encode "(" ++ Utf8.encode d ++ Utf8.encode ")" ++ Utf8.encode d := by
      simp [ofEndo, Utf8.encode]
    simp [parts, ← bytes, MethodType.render, MethodType.renderResult]
    rfl
  exact (parseMethod_iff _ _).mpr ⟨_, rendered, rfl⟩

/-- No slot is void. -/
theorem ne_void_of_parseField {d : String} {k : ValueKind} (parsed : parseField d = .ok k) :
    k ≠ .void := by
  obtain ⟨t, -, rfl⟩ := (parseField_iff d k).mp parsed
  cases t with
  | primitive p => exact p.kind_ne_void
  | «class» name =>
    simp only [SlotType.kind]
    split <;> simp
  | array element => simp [SlotType.kind]

end Descriptor

/-! ### Echoes -/

/-- The value is the same, or another reference to the same object. -/
inductive HostValue.Like {O : Type} (Same : O → O → Prop) : HostValue O → HostValue O → Prop
  | value {v} (bits : v.reference? = none) : Like Same v v
  | object {o o'} (same : Same o o') : Like Same (.object (some o)) (.object (some o'))

theorem HostValue.Like.eq {O : Type} {Same : O → O → Prop} {v v' : HostValue O}
    (like : v.Like Same v') (bits : v.reference? = none) : v' = v := by
  cases like with
  | value => rfl
  | object => cases bits

namespace Call

/-- The value that a word stands for in a state; the address of no buffer stands for none. -/
def standsFor (s : State P) (w : Word) (k : ValueKind) : Option (HostValue P.Object) :=
  if k.isScalar then some (.ofScalar w k) else taken s w k

end Call

/-- The word `r` is what comes back for a word `w` of kind `k` when `requested` is asked for. The
word is read in `t`, the body is done in `x`, and the call in `u`. -/
def Echoed (Same : P.Object → P.Object → Prop) (requested k : ValueKind) (w : Word)
    (t x u : State P) (r : Word) : Prop :=
  if requested = .void then r = .zero
  else if k.isScalar then r = k.form w
  else if k = .string then
    if w.toPointer = 0 then r = .zero
    else ∃ buffer, t.memory.buffer? w.toPointer = some buffer ∧ NewText (cText buffer) x u r
  else
    match (t.bridge.handles.get w.toHandle).1 with
    | none => r = .zero
    | some o => ∃ o', Same o o' ∧ NewHandle o' x u r

namespace Call

variable {F : Foreign P (Exec P)} {Same : P.Object → P.Object → Prop} {requested k : ValueKind}
  {w : Word} {s t x : State P} {v v' : HostValue P.Object} {deep : Prop}

theorem exists_standsFor
    (text : k = .string → w.toPointer ≠ 0 → (t.memory.buffer? w.toPointer).isSome = true) :
    ∃ v, standsFor t w k = some v := by
  by_cases scalar : k.isScalar = true
  · exact ⟨_, if_pos scalar⟩
  · rw [standsFor, if_neg scalar]
    by_cases string : k = .string
    · subst string
      by_cases null : w.toPointer = 0
      · exact ⟨_, if_pos null⟩
      · obtain ⟨buffer, found⟩ := Option.isSome_iff_exists.mp (text rfl null)
        simp [taken, null, found]
    · cases k <;> simp_all [taken]

theorem decode_standsFor (other : k ≠ .void) (stands : standsFor t w k = some v) :
    ∃ y, decode F k w t = (.value v, y) := by
  unfold standsFor at stands
  split at stands
  case isTrue scalar =>
    obtain rfl := Option.some.inj stands
    exact ⟨t, congrFun (decode_scalar F scalar w) t⟩
  case isFalse scalar =>
    have reference : k.isReference = true := by
      cases k <;> simp_all [ValueKind.isScalar, ValueKind.isReference]
    obtain ⟨y, ran⟩ := decode_run (F := F) (w := w) (s := t) reference
    rw [stands] at ran
    exact ⟨y, ran⟩

theorem echoed_spared (r : Word) : F.host.Spares (Echoed Same requested k w t x · r) := by
  intro f counts u echoed
  unfold Echoed at echoed ⊢
  exact echoed

/-- A result that was not asked for is dropped. -/
theorem encode_void : Returns (· = x) (encode F .void v') (fun r _ => r = .zero) deep := by
  have dropped : F.host.Spares fun _ : State P => True := fun _ _ _ _ => trivial
  have first := ((dropped.dropValue v').of_imp fun _ _ => trivial :
    Returns (· = x) (F.host.dropValue v') (fun _ _ => True) deep)
  unfold encode
  rw [if_pos rfl]
  exact first.bind fun _ => Returns.pure fun _ _ => rfl

/-- A reference leaves as a new handle of its object, and no reference as zero. -/
theorem encode_object (asked : requested ≠ .void) (o : Option P.Object) :
    Returns (· = x) (encode F requested (.object o)) (fun r u => match o with
      | none => r = .zero
      | some o => NewHandle o x u r) deep := by
  unfold encode
  rw [if_neg asked]
  cases o with
  | none =>
    rintro u rfl
    exact .inr ⟨.zero, u, rfl, rfl⟩
  | some o => exact (store_returns o).bind fun h => Returns.pure fun _ new => new

/-- A text leaves in a new buffer, and no text as zero. -/
theorem encode_string (asked : requested ≠ .void) {text : Option String}
    (nulFree : ∀ chars, text = some chars → '\x00' ∉ chars.toList) :
    Returns (· = x) (encode F requested (.string text)) (fun r u => match text with
      | none => r = .zero
      | some chars => NewText chars x u r) deep := by
  unfold encode
  rw [if_neg asked]
  cases text with
  | none => exact Returns.pure fun _ _ => rfl
  | some chars =>
    exact (placeText_returns (nulFree chars rfl)).bind fun _ => Returns.pure fun _ new => new

/-- What the body gives back leaves as an echo. -/
theorem encode_echoed (other : k ≠ .void) (stands : standsFor t w k = some v)
    (like : v.Like Same v') :
    Returns (· = x) (encode F requested v') (fun r u => Echoed Same requested k w t x u r)
      deep := by
  by_cases asked : requested = .void
  · subst asked
    exact encode_void.weaken fun r u zero => by rw [Echoed, if_pos rfl, zero]
  unfold standsFor at stands
  unfold Echoed
  simp only [if_neg asked]
  by_cases scalar : k.isScalar = true
  · simp only [if_pos scalar, Option.some.injEq] at stands ⊢
    subst stands
    have bits : (HostValue.ofScalar w k : HostValue P.Object).reference? = none := by
      cases k <;> rfl
    rw [like.eq bits, encode_scalar F scalar asked]
    exact Returns.pure fun _ _ => rfl
  simp only [if_neg scalar] at stands ⊢
  by_cases string : k = .string
  · subst string
    simp only [taken, if_true] at stands ⊢
    by_cases null : w.toPointer = 0
    · simp only [if_pos null, Option.some.injEq] at stands ⊢
      subst stands
      rw [like.eq rfl]
      have none : Returns (· = x) (encode F requested (.string none)) (fun r _ => r = .zero) deep :=
        encode_string asked fun _ some => by cases some
      exact none
    · simp only [if_neg null] at stands ⊢
      obtain ⟨buffer, found, rfl⟩ := Option.map_eq_some_iff.mp stands
      rw [like.eq rfl]
      have whole := zero_not_mem_cText buffer
      have copied : Returns (· = x) (encode F requested (.string (some (cText buffer))))
          (fun r u => NewText (cText buffer) x u r) deep :=
        encode_string asked (by rintro _ ⟨⟩; exact whole)
      exact copied.weaken fun r u new => ⟨buffer, found, new⟩
  · have object : v = .object (t.bridge.handles.get w.toHandle).1 := by
      cases k <;> simp_all [taken, ValueKind.isScalar]
    subst object
    simp only [if_neg string]
    generalize (t.bridge.handles.get w.toHandle).1 = found at like
    cases like with
    | value bits =>
      cases found with
      | none => exact encode_object asked none
      | some o => cases bits
    | object same => exact (encode_object asked (some _)).weaken fun r u new => ⟨_, same, new⟩

end Call

/-- An echo is the word of a value of the type that was asked for. -/
theorem Echoed.exists_toWord_eq {Same : P.Object → P.Object → Prop} {c : CType} {k : ValueKind}
    {w r : Word} {t x u : State P} (accepted : c.kind.accepts k = true)
    (echoed : Echoed Same c.kind k w t x u r) : ∃ a, r = c.toWord a := by
  by_cases asked : c.kind = .void
  · rw [Echoed, if_pos asked] at echoed
    have void : c = .void := by cases c <;> first | rfl | cases asked
    subst void
    exact ⟨(), echoed⟩
  rw [Echoed, if_neg asked] at echoed
  by_cases scalar : k.isScalar = true
  · rw [if_pos scalar] at echoed
    rw [echoed]
    exact CType.exists_form_eq accepted scalar asked w
  · have wide : c = .long ∨ c = .double ∨ c = .object ∨ c = .string := by
      cases c <;> cases k <;> simp_all [CType.kind, ValueKind.accepts, ValueKind.isScalar]
    exact CType.exists_toWord_eq wide r

/-! ### Calls of an echo -/

namespace Call

variable (F : Foreign P (Exec P)) (key : MemberKey) (found : Receiver P.Object P.Class)
  (member : P.Member) (k : ValueKind) (w : Word) (t : State P)

/-- Where the word was read in `t`, the body of the member is done in `x` with the value `v'`. -/
def Answers (v : HostValue P.Object) (x : State P) (v' : HostValue P.Object) : Prop :=
  ∃ y, decode F k w t = (.value v, y) ∧
    F.host.callInvoke key found member k [v] y = (.value (.ok v'), x)

/-- The body of the member gives back the value of the word that is read in `t`, or another
reference to the same object. -/
def Echoes (Same : P.Object → P.Object → Prop) : Prop :=
  ∀ v y, decode F k w t = (.value v, y) →
    ∃ v' x, Answers F key found member k w t v x v' ∧ v.Like Same v'

variable {F key found member k w t} {Same : P.Object → P.Object → Prop} {requested : ValueKind}
  {target : Target} {className name d : String} {s : State P}

/-- One word for one parameter is read without a remark. -/
theorem decodeArgs_single {y : State P} {v : HostValue P.Object}
    (read : decode F k w t = (.value v, y)) :
    decodeArgs F [k] [w] t = (.value [v], y) := by
  have each : decodeEach F [k] [w] t = (.value [v], y) := by
    rw [decodeEach, run_bind, read]
    rfl
  exact each

/-- The call of a member that echoes comes to an echo. -/
theorem invoke_echoed (parsed : Descriptor.parseField d = .ok k)
    (accepted : requested.accepts k = true) (other : ¬(requested = .object ∧ k = .string))
    (reached : (reachField F target
      ⟨className, name, Descriptor.ofEndo d, target.methodKind⟩).run s =
        (.value (.ok (found, member)), t))
    (text : k = .string → w.toPointer ≠ 0 → (t.memory.buffer? w.toPointer).isSome = true)
    (echoes : Echoes F ⟨className, name, Descriptor.ofEndo d, target.methodKind⟩ found member k w t
      Same) :
    ∃ r u x v v', (invoke F target className name (Descriptor.ofEndo d) requested [w]).run s =
        (.value (.ok r), u) ∧
      Answers F ⟨className, name, Descriptor.ofEndo d, target.methodKind⟩ found member k w t v x
        v' ∧ Echoed Same requested k w t x u r := by
  have slot : k ≠ .void := Descriptor.ne_void_of_parseField parsed
  obtain ⟨v, stands⟩ : ∃ v, standsFor t w k = some v := exists_standsFor text
  obtain ⟨y, read⟩ := decode_standsFor (F := F) slot stands
  obtain ⟨v', x, ⟨y', read', answered⟩, like⟩ := echoes v y read
  obtain rfl : y = y' := by
    rw [read] at read'
    cases read'
    rfl
  let post (r : Except CallError Word) (u : State P) : Prop :=
    ∃ r', r = .ok r' ∧ Echoed Same requested k w t x u r'
  have spares (r : Except CallError Word) : F.host.Spares (post r) :=
    fun f counts u ⟨r', same, echoed⟩ => ⟨r', same, echoed_spared r' f counts u echoed⟩
  have left : Returns (· = x) (liftM (encode F requested v') : Call P Word).run post False :=
    (encode_echoed slot stands like).bind fun r => Returns.pure fun u echoed => ⟨r, rfl, echoed⟩
  have used : Returns (· = t) (applyMethod F
      ⟨className, name, Descriptor.ofEndo d, target.methodKind⟩ ⟨[k], k⟩ [w] requested k found
        member).run post False := by
    have args : Returns (· = t) (decodeArgs F [k] [w]) (fun vs u => vs = [v] ∧ u = y) False := by
      rintro _ rfl
      exact .inr ⟨_, _, decodeArgs_single read, rfl, rfl⟩
    unfold applyMethod withArgs
    apply returns_lift_bind args
    intro vs
    apply Returns.of_and
    rintro rfl
    have body := returns_ofHost_bind (k := fun v => liftM (encode F requested v)) answered left
    exact returns_ensure body fun r => (spares r).dropValues _
  have whole := returns_reached reached spares used s rfl
  rw [← invoke_stages (Descriptor.parseMethod_ofEndo parsed) (hostKind_accepted accepted other)]
    at whole
  rcases whole with ⟨never, -⟩ | ⟨_, u, ran, r, rfl, echoed⟩
  · exact never.elim
  · exact ⟨r, u, x, v, v', ran, ⟨y, read, answered⟩, echoed⟩

end Call

namespace Dynamic

open Call

variable {F : Foreign P (Exec P)} {Same : P.Object → P.Object → Prop} {requested k : ValueKind}
  {w : Word} {target : Target} {found : Receiver P.Object P.Class} {member : P.Member}
  {className name d : String} {s t : State P}

/-- The wire law. Where a method of one type is found, with a live receiver if it needs one, and its
body gives back its argument, the word comes back in the form of its kind, or as a new handle of the
object that it named, or in a new buffer with the text that it pointed to; through void it comes
back as zero. A form is its own form, no bits of a floating-point number are lost, and an exported
call returns the value of its type that the word stands for. -/
theorem callMethod_echoes (parsed : Descriptor.parseField d = .ok k)
    (accepted : requested.accepts k = true) (other : ¬(requested = .object ∧ k = .string))
    (reached : (reachField F target
      ⟨className, name, Descriptor.ofEndo d, target.methodKind⟩).run s =
        (.value (.ok (found, member)), t))
    (text : k = .string → w.toPointer ≠ 0 → (t.memory.buffer? w.toPointer).isSome = true)
    (echoes : Echoes F ⟨className, name, Descriptor.ofEndo d, target.methodKind⟩ found member k w t
      Same) :
    ∃ r u x v v',
      callMethod F target className name (Descriptor.ofEndo d) requested [w] s = (.value r, u) ∧
      Answers F ⟨className, name, Descriptor.ofEndo d, target.methodKind⟩ found member k w t v x
        v' ∧
      Echoed Same requested k w t x u r ∧
      (∀ c : CType, c.kind = requested → ∀ names args,
        List.Forall₂ (Export.NamedAt s.memory)
          [names.className, names.name, names.descriptor] [className, name, Descriptor.ofEndo d] →
        args.words = [w] →
        ∃ a : c.Carrier, (Export.callMethod c target names args).run F s = (.value a, u) ∧
          r = c.toWord a) ∧
      k.form (k.form w) = k.form w ∧
      (∀ bits, ValueKind.float.form (.ofFloat32 bits) = .ofFloat32 bits) ∧
      ∀ bits, ValueKind.double.form (.ofFloat64 bits) = .ofFloat64 bits := by
  obtain ⟨r, u, x, v, v', ran, answers, echoed⟩ :=
    invoke_echoed parsed accepted other reached text echoes
  have settled :
      callMethod F target className name (Descriptor.ofEndo d) requested [w] s = (.value r, u) := by
    unfold callMethod settle
    rw [run_bind, ran]
    rfl
  refine ⟨r, u, x, v, v', settled, answers, echoed, ?_, k.form_form w, ValueKind.form_float,
    fun _ => rfl⟩
  rintro c rfl names args named single
  obtain ⟨a, rfl⟩ := echoed.exists_toWord_eq accepted
  have exported := (Export.Dynamic.call c target names args).act_named (F := F) named rfl
  refine ⟨a, exported.trans ?_, rfl⟩
  rw [single]
  have mapped :
      (c.ofWord <$> callMethod F target className name (Descriptor.ofEndo d) c.kind [w]) s =
        (.value (c.ofWord (c.toWord a)), u) := by
    rw [run_map, settled]
    rfl
  rw [c.ofWord_toWord] at mapped
  exact mapped

end Dynamic

/-! ### An echo in the plain world -/

theorem HostValue.Like.rfl {O : Type} (v : HostValue O) : v.Like Eq v := by
  cases v with
  | object o =>
    cases o with
    | none => exact .value (by simp [HostValue.reference?])
    | some o => exact .object (by simp)
  | _ => exact .value (by simp [HostValue.reference?])

namespace Plain

/-- The plain world where every method gives back its argument. -/
def mirror : Foreign platform (Act platform) :=
  { idle with host := { host with invoke := fun _ _ _ args => pure (.ok (args.headD .void)) } }

/-- A buffer with a byte that is none of a text, a letter, and something behind its end. -/
def scribbled : State platform :=
  { start with memory := ⟨8192, [(4096, [0xFF, 0x41, 0, 0x42])]⟩ }

end Plain

/-- The malformed byte is replaced and what is behind the end is left out. -/
theorem Dynamic.callMethod_echoes_plain :
    let F := (System.ofPrograms Plain.mirror).foreign 1
    let d := "Ljava/lang/String;"
    let key : MemberKey := ⟨"Echo", "same", Descriptor.ofEndo d, .staticMethod⟩
    Descriptor.parseField d = .ok .string ∧
      (Call.reachField F .static key).run Plain.scribbled = (.value (.ok (.static "Echo", key)),
        ((Call.reachField F .static key).run Plain.scribbled).2) ∧
      ∃ r u x, callMethod F .static "Echo" "same" (Descriptor.ofEndo d) .string [⟨4096⟩]
          Plain.scribbled = (.value r, u) ∧ NewText "\uFFFDA" x u r := by
  intro F d key
  have reached : (Call.reachField F .static key).run Plain.scribbled =
      (.value (.ok (.static "Echo", key)),
        ((Call.reachField F .static key).run Plain.scribbled).2) := rfl
  have echoes : Call.Echoes F key (.static "Echo") key .string ⟨4096⟩
      ((Call.reachField F .static key).run Plain.scribbled).2 Eq :=
    fun v y read => ⟨v, _, ⟨y, read, rfl⟩, .rfl v⟩
  have echo := @callMethod_echoes _ F Eq .string .string ⟨4096⟩ .static (.static "Echo") key "Echo"
    "same" d Plain.scribbled _ Descriptor.parseField_stringClass rfl (by decide) reached
    (fun _ _ => rfl) echoes
  obtain ⟨r, u, x, v, v', ran, -, echoed, -⟩ := echo
  have copied : NewText "\uFFFDA" x u r := by
    simp only [Echoed] at echoed
    obtain ⟨buffer, found, new⟩ := echoed
    have scribble : buffer = [0xFF, 0x41, 0, 0x42] := Option.some.inj (found.symm.trans rfl)
    have text : cText [0xFF, 0x41, 0, 0x42] = "\uFFFDA" := by decide +kernel
    rw [scribble, text] at new
    exact new
  exact ⟨Descriptor.parseField_stringClass, reached, r, u, x, ran, copied⟩

end HostBridge
