import HostBridge.Proofs.HeapHistory
import HostBridge.Proofs.TandemPrograms
import HostBridge.Scenario.Behaviour

/-!
What scenarios do to the heap. Whatever the steps of a scenario, and whatever its handlers, sinks,
members and scripts are, they only let the heap grow.
-/
namespace HostBridge.Scenario

variable {B : Backend} {α β : Type}

/-- A use of the world by which the heap only grows. -/
def Growing (f : World → α × World) : Prop := ∀ w : World, w.heap.Grows (f w).2.heap

/-- Whatever a program does to the world, the heap only grows by it. -/
def GrowsHeap (p : Program B α) : Prop := p.UsesWorld Growing

namespace GrowsHeap

/-! ### Parts of programs -/

@[simp] theorem of_pure (a : α) : GrowsHeap (pure a : Program B α) := trivial

@[simp] theorem of_panic (m : String) : GrowsHeap (.panic m : Program B α) := trivial

@[simp] theorem of_note (n : Note) : GrowsHeap (.note n : Program B Unit) := trivial

@[simp] theorem of_op (o : Op (platform B) α) : GrowsHeap (.op o : Program B α) := trivial

@[simp] theorem of_ask (r : Request B α) : GrowsHeap (Request.ask r) := trivial

@[simp] theorem bind_iff {x : Program B α} {f : α → Program B β} :
    GrowsHeap (x >>= f) ↔ GrowsHeap x ∧ ∀ a, GrowsHeap (f a) :=
  Iff.rfl

theorem bind {x : Program B α} {f : α → Program B β} (hx : GrowsHeap x)
    (hf : ∀ a, GrowsHeap (f a)) : GrowsHeap (x >>= f) :=
  ⟨hx, hf⟩

@[simp] theorem attempt_iff {x : Program B α} : GrowsHeap x.attempt ↔ GrowsHeap x := Iff.rfl

@[simp] theorem map_iff {x : Program B α} {f : α → β} : GrowsHeap (f <$> x) ↔ GrowsHeap x :=
  ⟨fun h => h.1, fun h => ⟨h, fun _ => trivial⟩⟩

@[simp] theorem discard_iff {x : Program B α} : GrowsHeap (discard x) ↔ GrowsHeap x := map_iff

@[simp] theorem ensure_iff {x : Program B α} {after : Program B Unit} :
    GrowsHeap (x.ensure after) ↔ GrowsHeap x ∧ GrowsHeap after := by
  unfold Act.ensure
  rw [bind_iff, attempt_iff]
  constructor
  · rintro ⟨hx, rest⟩
    exact ⟨hx, (rest (.error "")).1⟩
  · rintro ⟨hx, ha⟩
    refine ⟨hx, fun r => ⟨ha, fun _ => ?_⟩⟩
    cases r <;> trivial

@[simp] theorem ite_iff {c : Prop} [Decidable c] {x y : Program B α} :
    GrowsHeap (if c then x else y) ↔ (c → GrowsHeap x) ∧ (¬c → GrowsHeap y) := by
  split <;> simp_all

theorem mapM {f : α → Program B β} (hf : ∀ a, GrowsHeap (f a)) (l : List α) :
    GrowsHeap (l.mapM f) := by
  have onwards (done : List β) : GrowsHeap (List.mapM.loop f l done) := by
    induction l generalizing done with
    | nil => trivial
    | cons a l ih => exact ⟨hf a, fun b => ih (b :: done)⟩
  exact onwards []

theorem forM {f : α → Program B Unit} (hf : ∀ a, GrowsHeap (f a)) (l : List α) :
    GrowsHeap (l.forM f) := by
  induction l with
  | nil => trivial
  | cons a l ih => exact ⟨hf a, fun _ => ih⟩

/-! ### Uses of the world -/

@[simp] theorem of_gets (f : World → α) : GrowsHeap (Act.gets f : Program B α) :=
  fun w => .refl w.heap

@[simp] theorem of_heapGets (f : Heap → α) : GrowsHeap (heapGets f : Program B α) := of_gets _

theorem of_modify {f : World → World} (grows : ∀ w : World, w.heap.Grows (f w).heap) :
    GrowsHeap (Act.modify f : Program B Unit) :=
  grows

theorem of_modifyHeap {f : Heap → Heap} (grows : ∀ h : Heap, h.Grows (f h)) :
    GrowsHeap (modifyHeap f : Program B Unit) :=
  fun w => grows w.heap

theorem of_useHeap {f : Heap → α × Heap} (grows : ∀ h : Heap, h.Grows (f h).2) :
    GrowsHeap (useHeap f : Program B α) :=
  fun w => grows w.heap

@[simp] theorem of_modifyVm (f : VmState → VmState) : GrowsHeap (modifyVm f : Program B Unit) :=
  fun w => .refl w.heap

@[simp] theorem of_modifyLibrary (f : LibraryState → LibraryState) :
    GrowsHeap (modifyLibrary f : Program B Unit) :=
  fun w => .refl w.heap

end GrowsHeap

open GrowsHeap

/-! ### Exported functions -/

theorem growsHeap_bytesAt (a : UInt64) : GrowsHeap (Export.bytesAt a : Program B _) := by
  simp [Export.bytesAt]

theorem growsHeap_textAt (a : UInt64) : GrowsHeap (Export.textAt a : Program B _) := by
  simp [Export.textAt, growsHeap_bytesAt]

theorem growsHeap_namesAt (addresses : List UInt64) :
    GrowsHeap (Export.namesAt addresses : Program B _) := by
  induction addresses with
  | nil => exact of_pure _
  | cons a rest ih =>
    have first : GrowsHeap (Export.nameAt a : Program B _) := by
      simp [Export.nameAt, growsHeap_bytesAt]
    apply first.bind
    intro name
    cases name with
    | none => exact of_pure _
    | some s => exact ih.bind fun _ => of_pure _

theorem growsHeap_exportNames {call : CallName} {names : Export.MemberNames}
    {body : (className name descriptor : String) → Program B Word}
    (grows : ∀ c n d, GrowsHeap (body c n d)) : GrowsHeap (Export.withNames call names body) := by
  apply (growsHeap_namesAt _).bind
  intro found
  split
  · exact grows _ _ _
  · simp

theorem growsHeap_createObject (className signature : UInt64) (args : Export.Arguments) :
    GrowsHeap (Export.createObject className signature args : Program B _) := by
  apply (growsHeap_namesAt _).bind
  intro found
  split <;> simp

theorem growsHeap_callMethod (t : CType) (target : Call.Target) (names : Export.MemberNames)
    (args : Export.Arguments) : GrowsHeap (Export.callMethod t target names args : Program B _) :=
  (growsHeap_exportNames fun _ _ _ => of_op _).bind fun _ => of_pure _

theorem growsHeap_getField (t : CType) (target : Call.Target) (names : Export.MemberNames) :
    GrowsHeap (Export.getField t target names : Program B _) :=
  (growsHeap_exportNames fun _ _ _ => of_op _).bind fun _ => of_pure _

theorem growsHeap_setField (t : CType) (target : Call.Target) (names : Export.MemberNames)
    (value : t.Carrier) : GrowsHeap (Export.setField t target names value : Program B _) :=
  discard_iff.mpr (growsHeap_exportNames fun _ _ _ => (of_op _).bind fun _ => of_pure _)

theorem growsHeap_sendChat (player : Int64) (message : UInt64) :
    GrowsHeap (Export.sendChat player message : Program B _) := by
  apply (growsHeap_textAt _).bind
  intro text
  cases text <;> simp

theorem growsHeap_init (path : UInt64) : GrowsHeap (Export.init path : Program B _) := by
  apply (growsHeap_textAt _).bind
  intro text
  cases text with
  | none => simp
  | some text =>
    apply (of_op _).bind
    intro launched
    cases launched <;> simp

theorem growsHeap_shutdown : GrowsHeap (Export.shutdown : Program B _) := by
  apply (of_op _).bind
  intro ended
  cases ended <;> simp

theorem growsHeap_serviceUrl : GrowsHeap (Export.serviceUrl : Program B _) := by
  apply (of_op _).bind
  intro url
  cases url <;> simp

/-! ### Words -/

theorem growsHeap_place (source : WordSource) : GrowsHeap (source.place : Program B _) := by
  cases source <;> simp [WordSource.place]

theorem growsHeap_freeAll (addresses : List (Option UInt64)) :
    GrowsHeap (freeAll addresses : Program B _) := by
  apply GrowsHeap.forM
  intro a
  cases a <;> simp

theorem growsHeap_withWords {sources : List WordSource} {body : List Word → Program B α}
    (grows : ∀ ws, GrowsHeap (body ws)) : GrowsHeap (withWords sources body) := by
  simp [withWords, GrowsHeap.mapM growsHeap_place, grows, growsHeap_freeAll]

theorem growsHeap_withWord {source : WordSource} {body : Word → Program B α}
    (grows : ∀ w, GrowsHeap (body w)) : GrowsHeap (withWord source body) := by
  simp [withWord, growsHeap_place, grows, growsHeap_freeAll]

theorem growsHeap_withNames {names : List NameSource} {body : List UInt64 → Program B α}
    (grows : ∀ addresses, GrowsHeap (body addresses)) : GrowsHeap (withNames names body) := by
  unfold withNames
  rw [bind_iff]
  constructor
  · apply GrowsHeap.mapM
    intro name
    cases name <;> simp
  · simp [grows, growsHeap_freeAll]

theorem growsHeap_withMemberNames {className name descriptor : NameSource}
    {body : Export.MemberNames → Program B α} (grows : ∀ names, GrowsHeap (body names)) :
    GrowsHeap (withMemberNames className name descriptor body) := by
  apply growsHeap_withNames
  intro addresses
  split <;> exact grows _

theorem growsHeap_withArguments {buffer : WordBuffer} {body : Export.Arguments → Program B α}
    (grows : ∀ args, GrowsHeap (body args)) : GrowsHeap (withArguments buffer body) :=
  growsHeap_withWords fun _ => grows _

theorem growsHeap_takeText (address : UInt64) : GrowsHeap (takeText address : Program B _) := by
  simp [takeText]

theorem growsHeap_tellWord (requested : ValueKind) (w : Word) :
    GrowsHeap (tellWord requested w : Program B _) := by
  simp [tellWord, growsHeap_takeText]

theorem growsHeap_tellCarrier (t : CType) (x : t.Carrier) :
    GrowsHeap (tellCarrier t x : Program B _) := by
  cases t with
  | string => exact growsHeap_takeText x
  | _ => exact of_pure _

/-! ### Plain steps -/

/-- What the backend adds lets the heap grow, too. -/
structure Bench.GrowsHeap (D : Bench B) : Prop where
  identity : ∀ o, Scenario.GrowsHeap (D.identity o)
  gauge : Scenario.GrowsHeap D.gauge
  special : ∀ step, Scenario.GrowsHeap (D.special step)

theorem growsHeap_registerPointer (k : EventKind) (body : Option (List Action)) :
    GrowsHeap (registerPointer k body : Program B _) := by
  cases body with
  | none => exact of_op _
  | some b =>
    apply (of_modify _).bind
    · exact fun _ => of_op _
    · exact fun w => .refl w.heap

theorem growsHeap_tellHostValue (v : HostValue B.Object) :
    GrowsHeap (tellHostValue v : Program B _) := by
  unfold tellHostValue
  split <;> simp

theorem growsHeap_useMember (c : B.Class) (m : B.Member) (o : B.Object) (usage : Usage)
    (requested : ValueKind) (args : List (HostValue B.Object)) :
    GrowsHeap (useMember c m o usage requested args : Program B _) := by
  have told {x : Program B (Except HostError (HostValue B.Object))} (hx : GrowsHeap x) :
      GrowsHeap (useMember.valueOr x) := by
    apply hx.bind
    intro r
    cases r with
    | error e => exact of_pure _
    | ok v => exact growsHeap_tellHostValue v
  have done {x : Program B (Except HostError Unit)} (hx : GrowsHeap x) :
      GrowsHeap (useMember.nullOr x) :=
    hx.bind fun _ => of_pure _
  cases usage with
  | construct =>
    apply (of_ask _).bind
    intro r
    cases r with
    | error e => exact of_pure _
    | ok made => cases made <;> simp
  | set | setStatic => exact done (of_ask _)
  | _ => exact told (of_ask _)

theorem growsHeap_useHost (key : MemberKey) (usage : Usage) (on : Handle) (requested : ValueKind)
    (args : List (HostValue Empty)) :
    GrowsHeap (useHost key usage on requested args : Program B _) := by
  apply (of_ask _).bind
  intro type
  cases type with
  | error e => exact of_pure _
  | ok c =>
    rw [ensure_iff]
    refine ⟨(of_ask _).bind fun member => ?_, of_ask _⟩
    cases member with
    | error e => exact of_pure _
    | ok m =>
      apply (of_ask _).bind
      intro receiver
      cases receiver with
      | none => exact of_pure _
      | some o => exact ensure_iff.mpr ⟨growsHeap_useMember .., of_ask _⟩

theorem growsHeap_launchIn (path : Path) (environment : Config.Environment) :
    GrowsHeap (launchIn path environment : Program B _) := by
  simp [launchIn]

theorem growsHeap_vmAnswer (r : Request B (Except VmError Unit)) :
    GrowsHeap (vmAnswer r : Program B _) := by
  simp [vmAnswer]

theorem growsHeap_null {x : Program B Unit} (hx : GrowsHeap x) : GrowsHeap (Step.run.null x) :=
  hx.bind fun _ => of_pure _

section
variable {D : Bench B} (bench : D.GrowsHeap)
include bench

theorem growsHeap_status : GrowsHeap (status D) := by
  simp [status, bench.gauge]

theorem growsHeap_withObject {h : Handle} {body : Option ObjectId → Program B α}
    (grows : ∀ id, GrowsHeap (body id)) : GrowsHeap (withObject D h body) := by
  apply (of_ask _).bind
  intro found
  cases found with
  | none => exact of_pure _
  | some o => simp [bench.identity o, grows]

theorem growsHeap_peek (h : Handle) (fields : List String) : GrowsHeap (peek D h fields) := by
  apply (growsHeap_withObject bench _).bind
  · intro answer
    exact of_pure _
  · intro id
    cases id <;> simp

theorem growsHeap_same (h other : Handle) : GrowsHeap (same D h other) := by
  have rest {drop : Option B.Object → Program B Unit} (each : ∀ o, GrowsHeap (drop o))
      (objects : List (Option B.Object)) (answer : Answer) :
      GrowsHeap (objects.forM drop >>= fun _ => pure answer) :=
    (GrowsHeap.forM each objects).bind fun _ => of_pure _
  apply (of_ask _).bind
  intro first
  apply (of_ask _).bind
  intro second
  cases first with
  | none => exact (of_pure _).bind fun answer => rest (by intro o; cases o <;> simp) _ answer
  | some a =>
    cases second with
    | none => exact (of_pure _).bind fun answer => rest (by intro o; cases o <;> simp) _ answer
    | some b =>
      exact (bench.identity a).bind fun _ => (bench.identity b).bind fun _ =>
        (of_pure _).bind fun answer => rest (by intro o; cases o <;> simp) _ answer

end

/-! ### All steps -/

variable {D : Bench B}

section

-- so that the steps are unfolded down to these
attribute [local irreducible] withWords withWord withNames withMemberNames

mutual

theorem growsHeap_step (bench : D.GrowsHeap) : ∀ step : Step, GrowsHeap (step.run D)
  | .set _ _ | .unset _ | .clear | .tick | .setSink _ _ => growsHeap_null (of_op _)
  | .setPointer k body | .cRegister k body => growsHeap_null (growsHeap_registerPointer k body)
  | .setAll _ => growsHeap_null (GrowsHeap.forM (fun _ => of_op _) _)
  | .isRegistered _ | .registered | .callHandler _ _ | .launchWith _ _ | .shutdown | .dispatch _ _
  | .hasSink | .chat _ _ | .preload _ | .store _ | .release _ | .releaseAll | .clearMembers =>
    (of_op _).bind fun _ => of_pure _
  | .launch path environment => growsHeap_launchIn path environment
  | .shutdownWith teardown => by
    apply (of_ask _).bind
    intro r
    have lines := growsHeap_lines bench teardown
    split
    · simp [lines]
    · exact of_pure _
  | .inside steps => by
    apply (of_ask _).bind
    intro entry
    have lines := growsHeap_lines bench steps
    cases entry <;> simp [lines]
  | .inScope steps =>
    growsHeap_null ((of_ask _).bind fun _ => (growsHeap_lines bench steps).bind fun _ => of_ask _)
  | .exclusive => (of_ask _).bind fun _ => of_pure _
  | .thread steps => by
    have lines := growsHeap_lines bench steps
    exact (of_ask _).bind fun _ => (attempt_iff.mpr lines).bind fun _ => (of_ask _).bind fun _ =>
      of_pure _
  | .status => growsHeap_status bench
  | .create _ _ words => by
    change GrowsHeap (withWords words _)
    exact growsHeap_withWords fun _ => (of_op _).bind fun _ => of_pure _
  | .call _ _ _ _ requested words => by
    change GrowsHeap (withWords words _)
    exact growsHeap_withWords fun _ => (of_op _).bind fun w => growsHeap_tellWord requested w
  | .get _ _ _ _ requested => (of_op _).bind fun w => growsHeap_tellWord requested w
  | .put _ _ _ _ _ word => by
    change GrowsHeap (withWord word _)
    exact growsHeap_withWord fun _ => growsHeap_null (of_op _)
  | .useHost key usage on requested args => growsHeap_useHost key usage on requested args
  | .peek h fields => growsHeap_peek bench h fields
  | .same h other => growsHeap_same bench h other
  | .declare members => growsHeap_null (of_modifyHeap fun _ => Heap.Grows.declareAll members)
  | .failVm _ | .onDrain _ => growsHeap_null (of_modifyVm _)
  | .onEntry steps error => by
    apply (of_gets _).bind
    intro inEntry
    split
    · exact of_pure _
    · exact growsHeap_null (of_modifyVm _)
  | .vmCalls => (of_gets _).bind fun _ => (of_modifyVm _).bind fun _ => of_pure _
  | .failPins _ => growsHeap_null (of_modifyHeap fun _ => .of_same rfl rfl rfl rfl)
  | .failJava _ => growsHeap_null (of_modify fun w => .refl w.heap)
  | .setLibrary _ => growsHeap_null (of_modifyLibrary _)
  | .vmStart _ | .vmLoad _ _ | .vmEntryPoint _ | .vmDrain => growsHeap_vmAnswer _
  | .vmExitIsolate | .vmEnterScope | .vmExitScope | .vmStop => growsHeap_null (of_ask _)
  | .cCreate className signature _ => by
    change GrowsHeap (withNames [className, signature] _)
    apply growsHeap_withNames
    intro names
    apply growsHeap_withArguments
    intro args
    exact (growsHeap_createObject _ _ args).bind fun _ => of_pure _
  | .cCall receiver className name signature type _ => by
    change GrowsHeap (withMemberNames className name signature _)
    apply growsHeap_withMemberNames
    intro names
    apply growsHeap_withArguments
    intro args
    exact (growsHeap_callMethod type (targetOf receiver) names args).bind
      (growsHeap_tellCarrier type)
  | .cGet receiver className name signature type => by
    change GrowsHeap (withMemberNames className name signature _)
    apply growsHeap_withMemberNames
    intro names
    exact (growsHeap_getField type (targetOf receiver) names).bind (growsHeap_tellCarrier type)
  | .cPut receiver className name signature type _ => by
    change GrowsHeap (withMemberNames className name signature _)
    apply growsHeap_withMemberNames
    intro names
    apply growsHeap_withWord
    intro w
    exact growsHeap_null (growsHeap_setField type (targetOf receiver) names _)
  | .cRelease _ => growsHeap_null (discard_iff.mpr (of_op _))
  | .cFreeNull => growsHeap_null (of_pure _)
  | .cHandleCount => ((of_op _).bind fun _ => of_pure _).bind fun _ => of_pure _
  | .cChat _ message => by
    change GrowsHeap (withNames [message] _)
    exact growsHeap_withNames fun _ => growsHeap_null (growsHeap_sendChat _ _)
  | .cInit path => by
    change GrowsHeap (withNames [path] _)
    exact growsHeap_withNames fun _ => (growsHeap_init _).bind fun _ => of_pure _
  | .cShutdown => growsHeap_null growsHeap_shutdown
  | .cTick => growsHeap_null (of_op _)
  | .cIsInitialized => ((of_op _).bind fun _ => of_pure _).bind fun _ => of_pure _
  | .cServiceUrl => growsHeap_serviceUrl.bind fun a => growsHeap_takeText a
  | .cVersion => of_pure _
  | .cDispatch _ _ => (of_op _).bind fun _ => of_pure _
  | .jDispatch _ _ => ((of_op _).bind fun _ => of_pure _).bind fun _ => of_pure _
  | .attach => bench.special .attach
  | .cSetJavaVm null => bench.special (.cSetJavaVm null)
  | .jInit path => bench.special (.jInit path)
  | .jShutdown => bench.special .jShutdown
  | .jTick => bench.special .jTick
  | .jSetChat => bench.special .jSetChat
  | .jServiceUrl => bench.special .jServiceUrl
  | .jOnLoad => bench.special .jOnLoad

theorem growsHeap_lines (bench : D.GrowsHeap) : ∀ lines : List Line, GrowsHeap (Line.runAll D lines)
  | [] => of_pure _
  | .mk _ step :: rest =>
    (growsHeap_step bench step).bind fun _ => (of_note _).bind fun _ => growsHeap_lines bench rest

end
end

/-! ### Handlers and sinks -/

section
variable (bench : D.GrowsHeap)
include bench

theorem growsHeap_actions (k : EventKind) (args : List Datum) (body : List Action) :
    GrowsHeap (Action.runAll D k args body) := by
  induction body with
  | nil => exact of_pure _
  | cons action rest ih =>
    cases action with
    | answer c => exact of_pure _
    | panic message => exact of_panic _
    | steps lines => exact (growsHeap_lines bench lines).bind fun _ => ih
    | within depth lines =>
      apply (of_op _).bind
      intro inside
      have followed := growsHeap_lines bench lines
      split
      · exact followed.bind fun _ => ih
      · exact ih

theorem growsHeap_handler (h : Handler) (k : EventKind) (args : Args k.params) :
    GrowsHeap (h.call D k args) := by
  have followed (body : List Action) : GrowsHeap (do
      Act.note (Note.handler k args.toList)
      Action.runAll D k args.toList body : Program B k.Output) :=
    (of_note _).bind fun _ => growsHeap_actions bench k args.toList body
  cases h with
  | script body => exact (of_pure _).bind followed
  | pointer => exact (of_gets _).bind followed

theorem growsHeap_sink (s : Sink) (player : Int64) (text : String) :
    GrowsHeap (s.call D player text) :=
  (of_note _).bind fun _ => growsHeap_lines bench s.steps

/-! ### Members of classes -/

theorem growsHeap_source (f : Frame) (source : Source) : GrowsHeap (source.eval D f) := by
  cases source with
  | field name =>
    rw [Source.eval]
    split <;> simp
  | fieldOf n name =>
    rw [Source.eval]
    split <;> simp
  | isReceiver n =>
    rw [Source.eval]
    split <;> simp
  | handle h => exact (growsHeap_withObject bench fun _ => of_pure _).bind fun _ => of_pure _
  | arguments =>
    rw [Source.eval]
    exact of_heapGets _
  | _ => exact of_pure _

theorem growsHeap_body (f : Frame) (body : List HostAction) :
    GrowsHeap (HostAction.runAll D f body) := by
  induction body with
  | nil => exact of_pure _
  | cons action rest ih =>
    cases action with
    | answer s => exact (growsHeap_source bench f s).bind fun _ => of_pure _
    | throw text => exact of_pure _
    | set field s =>
      apply (growsHeap_source bench f s).bind
      intro v
      split
      case h_1 o _ =>
        exact (of_modifyHeap fun h => .write (.field o field) v).bind fun _ => ih
      case h_2 => exact ih
    | steps lines => exact (growsHeap_lines bench lines).bind fun _ => ih
    | panic message => exact of_panic _

end

theorem growsHeap_noteMember (className name signature : String) (object : Option ObjectId)
    (args : List (HostValue ObjectId)) :
    GrowsHeap (noteMember className name signature object args : Program B _) :=
  (of_heapGets _).bind fun _ => of_note _

namespace HostModel

theorem growsHeap_countLookup : GrowsHeap (modifyHeap (·.countLookup) : Program B Unit) :=
  of_modifyHeap fun h => @Heap.Grows.of_same h h.countLookup rfl rfl rfl rfl

theorem growsHeap_resolveType (name : String) : GrowsHeap (resolveType name : Program B _) := by
  apply growsHeap_countLookup.bind
  intro _
  apply (of_heapGets _).bind
  intro found
  split <;> exact of_pure _

theorem growsHeap_resolveMember (className : String) (key : MemberKey) :
    GrowsHeap (resolveMember className key : Program B _) := by
  apply growsHeap_countLookup.bind
  intro _
  apply (of_heapGets _).bind
  intro found
  cases found <;> exact of_pure _

theorem growsHeap_thrown (text : String) :
    GrowsHeap (thrown text : Program B (Except HostError α)) := by
  apply (of_modifyHeap _).bind
  · exact fun _ => of_pure _
  · exact fun h => @Heap.Grows.of_same h h.countException rfl rfl rfl rfl

theorem growsHeap_pin (o : ObjectId) : GrowsHeap (pin o : Program B _) := by
  apply (of_heapGets _).bind
  intro full
  split <;> exact of_pure _

theorem growsHeap_create (className : String) :
    GrowsHeap (useHeap (·.create className) : Program B ObjectId) :=
  of_useHeap fun _ => .create className

theorem growsHeap_construct (bench : D.GrowsHeap) (className : String) (index : Nat)
    (args : List (HostValue ObjectId)) : GrowsHeap (construct D className index args) := by
  apply (of_heapGets _).bind
  intro member
  split
  · apply (growsHeap_create _).bind
    intro o
    apply (growsHeap_noteMember ..).bind
    intro _
    apply (growsHeap_body bench _ _).bind
    intro r
    cases r with
    | error text => exact growsHeap_thrown _
    | ok v => exact (growsHeap_pin o).bind fun _ => of_pure _
  · exact (growsHeap_create _).bind fun o => (growsHeap_pin o).bind fun _ => of_pure _
  · exact of_pure _

theorem growsHeap_invoke (bench : D.GrowsHeap) (receiver : Option ObjectId) (index : Nat)
    (result : ValueKind) (args : List (HostValue ObjectId)) :
    GrowsHeap (invoke D receiver index result args) := by
  apply (of_heapGets _).bind
  intro member
  split
  · split
    · exact of_pure _
    · apply (growsHeap_noteMember ..).bind
      intro _
      apply (growsHeap_body bench _ _).bind
      intro r
      split
      · exact growsHeap_thrown _
      · split
        · exact of_pure _
        · split
          · exact (growsHeap_pin _).bind fun _ => of_pure _
          · exact of_pure _
  · exact of_pure _

theorem growsHeap_readField (receiver : Option ObjectId) (index : Nat) (kind : ValueKind) :
    GrowsHeap (readField receiver index kind : Program B _) :=
  of_heapGets _

theorem growsHeap_writeField (receiver : Option ObjectId) (index : Nat) (v : HostValue ObjectId) :
    GrowsHeap (writeField receiver index v : Program B _) := by
  apply of_useHeap
  intro h
  split
  case h_1 name o _ => exact .write (.field o name) v
  case h_2 owner name _ => exact .write (.static owner name) v
  case h_3 => exact .refl h

end HostModel

/-! ### The VM -/

namespace VmModel

theorem growsHeap_count (e : VmEvent) : GrowsHeap (count e : Program B _) := of_modifyVm _

theorem growsHeap_failsAt (f : VmFailure) : GrowsHeap (failsAt f : Program B _) :=
  (of_gets _).bind fun _ => of_pure _

theorem growsHeap_start (config : Config) : GrowsHeap (start config : Program B _) := by
  simp [start, growsHeap_count, growsHeap_failsAt]

theorem growsHeap_loadImage (image : Image) : GrowsHeap (loadImage image : Program B _) := by
  have made : GrowsHeap (.world fun w => (.ok w.vm.isolates,
      { w with vm := { w.vm with isolates := w.vm.isolates + 1 } }) :
        Program B (Except VmError Nat)) := fun w => .refl w.heap
  apply (growsHeap_count _).bind
  intro _
  apply (growsHeap_failsAt _).bind
  intro fails
  split
  · exact of_pure _
  · exact made

theorem growsHeap_enterIsolate (i : Nat) : GrowsHeap (enterIsolate i : Program B _) := by
  apply (growsHeap_failsAt _).bind
  intro fails
  split
  · exact of_pure _
  · apply (growsHeap_count _).bind
    intro _
    apply (of_gets _).bind
    intro inside
    apply (of_modifyVm _).bind
    intro _
    split
    · exact of_pure _
    · exact of_panic _

theorem growsHeap_exitIsolate : GrowsHeap (exitIsolate : Program B _) := by
  simp [exitIsolate, growsHeap_count]

theorem growsHeap_entryPoint (bench : D.GrowsHeap) (name : String) :
    GrowsHeap (entryPoint D name) := by
  apply (growsHeap_count _).bind
  intro _
  apply (growsHeap_failsAt _).bind
  intro fails
  split
  · exact of_pure _
  · apply (of_gets _).bind
    intro script
    split
    · exact of_pure _
    case h_2 _ steps error =>
      have followed := growsHeap_lines bench steps
      cases error <;> simp [followed]

theorem growsHeap_drain (bench : D.GrowsHeap) : GrowsHeap (drain D) := by
  apply (growsHeap_failsAt _).bind
  intro fails
  split
  · exact of_pure _
  · apply (of_gets _).bind
    intro s
    have followed := growsHeap_lines bench s.onDrain
    split <;> simp [followed, growsHeap_count]

end VmModel
end HostBridge.Scenario
