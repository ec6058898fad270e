import HostBridge.Process.System
import HostBridge.Proofs.Triple

/-!
What the Java VM as a host needs in order to keep an invariant. Its operations throw, settle and
delete what they made for themselves, and an invariant that says nothing of all this is kept if the
functions of the Java VM keep it; a pin that an operation gives was made by the last of its steps.
-/
namespace HostBridge

open Exec

universe u

variable {N : Process} {α β : Type}

/-! ### The functions of the Java VM -/

/-- A Java VM whose functions that run code are all of a sort. -/
structure JavaVm.Each {m : Type → Type u} (p : {α : Type} → m α → Prop) (J : JavaVm N m) :
    Prop where
  isTold : p J.isTold
  hasRoom : p J.hasRoom
  findClass : ∀ name, p (J.findClass name)
  findMember : ∀ c sort name signature, p (J.findMember c sort name signature)
  makeString : ∀ text, p (J.makeString text)
  stringText : ∀ o, p (J.stringText o)
  isInstance : ∀ o c, p (J.isInstance o c)
  construct : ∀ c id args, p (J.construct c id args)
  invoke : ∀ receiver id result args, p (J.invoke receiver id result args)
  readField : ∀ receiver id result, p (J.readField receiver id result)
  writeField : ∀ receiver id v, p (J.writeField receiver id v)

theorem JavaVm.Each.map {m : Type → Type u} {p : {α : Type} → m α → Prop}
    {q : {α : Type} → Exec N.platform α → Prop} {f : {α : Type} → m α → Exec N.platform α}
    {J : JavaVm N m} (each : J.Each p) (hf : ∀ {α : Type} {x : m α}, p x → q (f x)) :
    (J.map f).Each q where
  isTold := hf each.isTold
  hasRoom := hf each.hasRoom
  findClass name := hf (each.findClass name)
  findMember c sort name signature := hf (each.findMember c sort name signature)
  makeString text := hf (each.makeString text)
  stringText o := hf (each.stringText o)
  isInstance o c := hf (each.isInstance o c)
  construct c id args := hf (each.construct c id args)
  invoke receiver id result args := hf (each.invoke receiver id result args)
  readField receiver id result := hf (each.readField receiver id result)
  writeField receiver id v := hf (each.writeField receiver id v)

/-- In a run that makes all code of a sort, the functions of the Java VM are of that sort. -/
theorem JavaVm.each_map {m : Type → Type u} {q : {α : Type} → Exec N.platform α → Prop}
    {f : {α : Type} → m α → Exec N.platform α} (J : JavaVm N m)
    (h : ∀ {α : Type} (x : m α), q (f x)) : (J.map f).Each q :=
  ⟨h _, h _, fun _ => h _, fun _ _ _ _ => h _, fun _ => h _, fun _ => h _, fun _ _ => h _,
    fun _ _ _ => h _, fun _ _ _ _ => h _, fun _ _ _ => h _, fun _ _ _ => h _⟩

/-! ### Holdings -/

/-- The book of references without the local ones. -/
def References.lasting (r : References) : References := { r with nextLocal := 0, locals := [] }

/-- What a bridge in a process holds: its handles and its cache, and references that last. -/
def State.holdings (s : State N.platform) :
    HandleTable N.platform.Object × MemberCache N.platform.Class N.platform.Member × References :=
  (s.bridge.handles, s.bridge.members, References.lasting s.ledger.references)

theorem State.handles_of_holdings {s t : State N.platform} (same : s.holdings = t.holdings) :
    s.bridge.handles = t.bridge.handles :=
  congrArg (·.1) same

theorem State.members_of_holdings {s t : State N.platform} (same : s.holdings = t.holdings) :
    s.bridge.members = t.bridge.members :=
  congrArg (·.2.1) same

/-! ### The engine -/

/-- What happened between a bridge, its VM and the embedding library. -/
inductive LibraryEvent (N : Process) where
  | asked (c : VmCall N.platform)
  | returned (r : VmReturn N.platform)
  | called (c : LibraryCall N.Isolate)

def Happening.libraryEvent? : Happening N.platform → Option (LibraryEvent N)
  | .vmCall c => some (.asked c)
  | .vmReturn r => some (.returned r)
  | .signal (.library c) => some (.called c)
  | _ => none

namespace State

/-- What happened between a bridge, its VM and the embedding library, the newest event first. -/
def libraryTrace (s : State N.platform) : List (LibraryEvent N) :=
  s.record.filterMap Happening.libraryEvent?

theorem libraryTrace_record (s : State N.platform) (e : Happening N.platform) :
    ({ s with record := e :: s.record } : State N.platform).libraryTrace =
      e.libraryEvent?.toList ++ s.libraryTrace := by
  unfold libraryTrace
  cases seen : e.libraryEvent? <;> simp [seen]

/-- A bridge and what it has to do with the embedding library. -/
def engine (s : State N.platform) :
    Bridge N.platform × ThreadId × FileSystem × Bool × List (LibraryEvent N) :=
  (s.bridge, s.thread, s.files, s.ledger.loaded, s.libraryTrace)

theorem engine_record (s : State N.platform) {e : Happening N.platform}
    (other : e.libraryEvent? = none) :
    s.engine = ({ s with record := e :: s.record } : State N.platform).engine := by
  rw [engine, engine, libraryTrace_record, other]
  rfl

end State

/-- An invariant of what a bridge holds and has to do with the embedding library that the functions
of the Java VM keep, with what is so of a pin from when it is made until it is passed on. -/
structure JavaContract (J : JavaVm N (Exec N.platform)) (I H : State N.platform → Prop)
    (handed : {α : Type} → Pin α → State N.platform → Prop) : Prop where
  each : J.Each fun x => Keeps I H x
  aside : ∀ {s t}, I s → s.holdings = t.holdings → s.engine = t.engine → I t
  handedAside : ∀ {α : Type} {p : Pin α} {s t}, handed p s → s.holdings = t.holdings →
    s.engine = t.engine → handed p t
  newPin : ∀ {α : Type} (target : α), Triple I (JavaThread.newPin J target)
    (fun r s => match r with
      | .ok p => handed p s
      | .error _ => I s) I H

namespace JavaContract

/-- A pin was handed over, if one was given. -/
def Handed (I : State N.platform → Prop) (handed : {α : Type} → Pin α → State N.platform → Prop) :
    Option (Pin α) → State N.platform → Prop
  | none => I
  | some p => handed p

variable {J : JavaVm N (Exec N.platform)} {I H : State N.platform → Prop}
  {handed : {α : Type} → Pin α → State N.platform → Prop}

/-- A computation that hands over a pin, if it succeeds and its value has one. -/
def Hands (I H : State N.platform → Prop) (handed : {α : Type} → Pin α → State N.platform → Prop)
    (x : Exec N.platform (Except HostError β)) (pin? : β → Option (Pin α)) : Prop :=
  Triple I x (fun r => Handed I handed (r.toOption.bind pin?)) I H

namespace Hands

variable {x : Exec N.platform (Except HostError β)} {pin? : β → Option (Pin α)}

theorem error (e : HostError) :
    Hands I H handed (pure (.error e) : Exec N.platform (Except HostError β)) pin? :=
  Triple.pure fun _ h => h

theorem ok {b : β} (none : pin? b = none) : Hands I H handed (pure (.ok b)) pin? := by
  apply Triple.pure
  intro s h
  show Handed I handed (pin? b) s
  rw [none]
  exact h

/-- A pin is handed on with another value. -/
theorem map {γ : Type} {f : β → γ} {pin?' : γ → Option (Pin α)} (hx : Hands I H handed x pin?)
    (same : ∀ b, pin?' (f b) = pin? b) : Hands I H handed (do return (← x).map f) pin?' := by
  refine Triple.bind hx fun r => Triple.pure fun s h => ?_
  cases r with
  | error e => exact h
  | ok b =>
    show Handed I handed (pin?' (f b)) s
    rw [same]
    exact h

/-- What comes after hands over what it hands over. -/
theorem after {y : Exec N.platform β} {γ : Type} {f : β → Exec N.platform (Except HostError γ)}
    {pin? : γ → Option (Pin α)} (hy : Keeps I H y) (hf : ∀ b, Hands I H handed (f b) pin?) :
    Hands I H handed (y >>= f) pin? :=
  Triple.bind hy hf

/-- What hands pins over keeps the invariant, if what is so of a pin that was made includes it. -/
theorem keeps (hx : Hands I H handed x pin?) (forget : ∀ {p : Pin α} {s}, handed p s → I s) :
    Keeps I H x := by
  refine hx.weaken fun r s h => ?_
  cases made : r.toOption.bind pin? with
  | none =>
    rw [made] at h
    exact h
  | some p =>
    rw [made] at h
    exact forget h

end Hands

/-! ### Calls from a thread -/

omit J in
theorem environment_keeps (J : JavaVm N (Exec N.platform)) :
    Keeps I H (JavaThread.environment J) := by
  unfold JavaThread.environment
  refine Keeps.gets.bind fun attached => ?_
  split
  · exact Keeps.pure
  · refine Keeps.gets.bind fun attaches => ?_
    split
    · exact Keeps.pure
    · exact Keeps.pure

variable (C : JavaContract J I H handed)
include C

theorem setPending (exception : Option String) :
    Keeps I H (JavaThread.updateLedger (N := N) ({ · with pending := exception })) :=
  fun _ h => C.aside h rfl rfl

theorem record (e : Happening N.platform) (other : e.libraryEvent? = none := by rfl) :
    Keeps I H (Exec.record e) :=
  Keeps.record fun s h => C.aside h rfl (s.engine_record other)

theorem signal (c : JavaCall N.Object N.Class N.MemberId) : Keeps I H (JavaThread.signal c) :=
  C.record _

theorem addLocal (target : α) : Keeps I H (JavaThread.addLocal (N := N) target) :=
  fun _ h => C.aside h rfl rfl

theorem dropLocal (l : Local α) : Keeps I H (JavaThread.dropLocal (N := N) l) :=
  fun _ h => C.aside h rfl rfl

theorem dropLocals (ls : List (Local α)) : Keeps I H (JavaThread.dropLocals (N := N) ls) :=
  Keeps.forM C.dropLocal ls

theorem call {x : Exec N.platform (Raised α)} (hx : Keeps I H x) :
    Keeps I H (JavaThread.call x) := by
  unfold JavaThread.call
  refine hx.bind fun r => ?_
  cases r.exception with
  | none => exact Keeps.pure
  | some text => exact (C.setPending _).bind fun _ => Keeps.pure

theorem checked {x : Exec N.platform (Raised α)} (hx : Keeps I H x) :
    Keeps I H (JavaThread.checked x) := by
  unfold JavaThread.checked
  refine (C.call hx).bind fun a => Keeps.gets.bind fun pending => ?_
  split
  · exact Keeps.pure
  · exact Keeps.pure

theorem nonNull {x : Exec N.platform (Raised (Option α))} (hx : Keeps I H x) (place : String) :
    Keeps I H (JavaThread.nonNull place x) := by
  unfold JavaThread.nonNull
  refine (C.checked hx).bind fun r => ?_
  rcases r with e | _ | a
  · exact Keeps.pure
  · exact Keeps.pure
  · exact Keeps.pure

theorem settle (during : String) (r : Except JavaError α) :
    Keeps I H (JavaThread.settle (N := N) during r) := by
  unfold JavaThread.settle
  refine Keeps.gets.bind fun pending => ?_
  split
  · exact (C.signal _).bind fun _ => (C.setPending _).bind fun _ => Keeps.pure
  · exact Keeps.pure

theorem makeString (text : String) : Keeps I H (JavaThread.makeString J text) :=
  (C.signal _).bind fun _ => C.nonNull (C.each.makeString text) _

theorem stringText (o : Option N.Object) : Keeps I H (JavaThread.stringText J o) := by
  unfold JavaThread.stringText
  refine (C.nonNull (C.each.findClass _) _).bind fun r => ?_
  cases r with
  | error e => exact Keeps.pure
  | ok c =>
    cases o with
    | none => exact Keeps.pure
    | some o =>
      refine (C.each.isInstance o c).bind fun found => ?_
      split
      · exact C.nonNull (C.each.stringText o) _
      · exact Keeps.pure

/-- What was made lasts beyond the local reference. -/
theorem pin (l : Local α) : Hands I H handed (JavaThread.pin J l) some := by
  refine Triple.bind (C.newPin l.target) fun r => ?_
  cases r with
  | error e => exact Triple.bind (C.dropLocal l) fun _ => Triple.pure fun _ h => h
  | ok p =>
    have dropped : Triple (handed p) (JavaThread.dropLocal (N := N) l) (fun _ => handed p) I H :=
      fun _ h => C.handedAside h rfl rfl
    exact Triple.bind dropped fun _ => Triple.pure fun _ h => h

theorem pinGiven (given : Option α) : Hands I H handed (JavaThread.pinGiven J given) id := by
  unfold JavaThread.pinGiven
  cases given with
  | none => exact .ok rfl
  | some target => exact .after (C.addLocal target) fun l => (C.pin l).map fun _ => rfl

theorem attach : Keeps I H (JavaThread.attach (N := N)) := by
  have known : Keeps I H (JavaThread.updateLedger (N := N) ({ · with attached := true })) :=
    fun _ h => C.aside h rfl rfl
  unfold JavaThread.attach
  refine Keeps.gets.bind fun attached => ?_
  split
  · exact Keeps.pure
  · exact known.bind fun _ => Keeps.pure

theorem capture : Keeps I H (JavaThread.capture J) := by
  unfold JavaThread.capture
  refine C.each.isTold.bind fun told => ?_
  split
  · exact C.attach.discard.bind fun _ => Keeps.pure
  · exact Keeps.pure

theorem request (r : JavaRequest N.Object α) : Keeps I H (r.run J) := by
  cases r with
  | attach => exact C.attach
  | capture => exact C.capture
  | readText o => exact C.stringText o
  | makeText text => exact C.makeString text
  | census => exact Keeps.gets

/-! ### Values -/

theorem lower (v : HostValue (Pin N.Object)) : Keeps I H (JavaHost.lower J v) := by
  cases v with
  | string text =>
    cases text with
    | none => exact Keeps.pure
    | some text =>
      refine (C.makeString text).bind fun r => ?_
      cases r with
      | error e => exact Keeps.pure
      | ok o => exact (C.addLocal o).bind fun _ => Keeps.pure
  | _ => exact Keeps.pure

theorem lowerAll (vs : List (HostValue (Pin N.Object))) : Keeps I H (JavaHost.lowerAll J vs) := by
  induction vs with
  | nil => exact Keeps.pure
  | cons v rest ih =>
    unfold JavaHost.lowerAll
    refine (C.lower v).bind fun r => ?_
    cases r with
    | error e => exact Keeps.pure
    | ok made =>
      refine ih.bind fun r => ?_
      cases r with
      | error e => exact Keeps.pure
      | ok others => exact Keeps.pure

/-- An object is handed over, and a text comes without a pin. -/
theorem lift (kind : ValueKind) (x : Given N.Object kind) :
    Hands I H handed (JavaHost.lift J kind x) HostValue.reference? := by
  have given (o : Option N.Object) :
      Hands I H handed (do return (← JavaThread.pinGiven J o).map HostValue.object)
        HostValue.reference? :=
    (C.pinGiven o).map fun p => by cases p <;> rfl
  cases kind with
  | object => exact given x
  | array => exact given x
  | string =>
    cases x with
    | none => exact .ok rfl
    | some o =>
      refine .after (C.addLocal o) fun l => .after (C.stringText (some o)) fun text =>
        .after (C.dropLocal l) fun _ => ?_
      cases text with
      | error e => exact .error _
      | ok text => exact .ok rfl
  | _ => exact .ok rfl

/-! ### Operations -/

theorem resolveType (name : String) : Hands I H handed (JavaHost.resolveType J name) some := by
  unfold JavaHost.resolveType
  refine .after (environment_keeps J) fun r => ?_
  cases r with
  | error e => exact .error _
  | ok _ =>
    refine .after (C.nonNull (C.each.findClass _) _) fun found =>
      .after (C.settle _ found) fun r => ?_
    rcases r with e | c
    · cases e <;> exact .error _
    · exact .after (C.addLocal c) fun l => C.pin l

theorem resolveMember (type : Pin N.Class) (key : MemberKey) :
    Keeps I H (JavaHost.resolveMember J type key) := by
  unfold JavaHost.resolveMember
  refine (environment_keeps J).bind fun r => ?_
  cases r with
  | error e => exact Keeps.pure
  | ok _ =>
    refine (C.nonNull (C.each.findMember _ _ _ _) _).bind fun found =>
      (C.settle _ found).bind fun r => ?_
    cases r with
    | error e => exact Keeps.pure
    | ok id => exact Keeps.pure

theorem construct (type : Pin N.Class) (member : JavaMember N.MemberId)
    (args : List (HostValue (Pin N.Object))) :
    Hands I H handed (JavaHost.construct J type member args) id := by
  unfold JavaHost.construct
  split
  · exact .error _
  · refine .after (environment_keeps J) fun r => ?_
    cases r with
    | error e => exact .error _
    | ok _ =>
      refine .after (C.lowerAll args) fun r => ?_
      rcases r with e | ⟨values, locals⟩
      · exact .error _
      · refine .after (C.signal _) fun _ =>
          .after (C.nonNull (C.each.construct _ _ values) _) fun made =>
          .after (C.settle _ made) fun made => .after (C.dropLocals locals) fun _ => ?_
        cases made with
        | error e => exact .error _
        | ok o => exact C.pinGiven (some o)

theorem invoke (receiver : Receiver (Pin N.Object) (Pin N.Class))
    (member : JavaMember N.MemberId) (result : ValueKind)
    (args : List (HostValue (Pin N.Object))) :
    Hands I H handed (JavaHost.invoke J receiver member result args) HostValue.reference? := by
  unfold JavaHost.invoke
  refine .after (environment_keeps J) fun r => ?_
  cases r with
  | error e => exact .error _
  | ok _ =>
    refine .after (C.lowerAll args) fun r => ?_
    rcases r with e | ⟨values, locals⟩
    · exact .error _
    · dsimp only
      split
      · exact .after (C.dropLocals locals) fun _ => .error _
      · refine .after (C.signal _) fun _ =>
          .after (C.checked (C.each.invoke _ _ result values)) fun given =>
          .after (C.settle _ given) fun given => .after (C.dropLocals locals) fun _ => ?_
        cases given with
        | error e => exact .error _
        | ok x => exact C.lift result x

omit C in
theorem withFieldReceiver {place : String} {receiver : Receiver (Pin N.Object) (Pin N.Class)}
    {body : Receiver N.Object (Option N.Class) → Exec N.platform (Except JavaError α)}
    (hbody : ∀ target, Keeps I H (body target)) :
    Keeps I H (JavaHost.withFieldReceiver place receiver body) := by
  unfold JavaHost.withFieldReceiver
  split
  · exact hbody _
  · exact hbody _
  · exact Keeps.pure

theorem readField (receiver : Receiver (Pin N.Object) (Pin N.Class))
    (member : JavaMember N.MemberId) (kind : ValueKind) :
    Hands I H handed (JavaHost.readField J receiver member kind) HostValue.reference? := by
  unfold JavaHost.readField
  refine .after (environment_keeps J) fun r => ?_
  cases r with
  | error e => exact .error _
  | ok _ =>
    dsimp only
    split
    · exact .error _
    · refine .after (withFieldReceiver fun target => ?_) fun given =>
        .after (C.settle _ given) fun r => ?_
      · split
        · exact Keeps.pure
        · exact C.checked (C.each.readField target _ kind)
      · cases r with
        | error e => exact .error _
        | ok x => exact C.lift kind x

theorem writeField (receiver : Receiver (Pin N.Object) (Pin N.Class))
    (member : JavaMember N.MemberId) (value : HostValue (Pin N.Object)) :
    Keeps I H (JavaHost.writeField J receiver member value) := by
  unfold JavaHost.writeField
  refine (environment_keeps J).bind fun r => ?_
  cases r with
  | error e => exact Keeps.pure
  | ok _ =>
    refine (C.lower value).bind fun r => ?_
    rcases r with e | ⟨lowered, made⟩
    · exact Keeps.pure
    · dsimp only
      split
      · exact (C.dropLocals _).bind fun _ => Keeps.pure
      · refine (withFieldReceiver fun target => ?_).bind fun r =>
          (C.settle _ r).bind fun r => (C.dropLocals _).bind fun _ => ?_
        · exact (C.call (C.each.writeField target _ lowered)).bind fun _ => Keeps.pure
        · split
          · exact (C.record _).bind fun _ => Keeps.pure
          · exact Keeps.pure

end JavaContract
end HostBridge
