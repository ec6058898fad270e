import HostBridge.Proofs.Inert

/-!
What dynamic calls need of the calls they make on the host. A use of a member is proper when its
token was resolved for the names at hand, its receiver is of the sort that the kind of the member
asks for, and its values are of the variants that the descriptor declares. A family of invariants
that withstands look-ups and proper uses withstands every dynamic call.
-/
namespace HostBridge

open Exec

variable {P : Platform} {α β : Type}

/-- Each value is of the variant of its kind, and there are as many values as kinds. -/
def HostValue.Match {O : Type} (values : List (HostValue O)) (kinds : List ValueKind) : Prop :=
  List.Forall₂ (fun v k => v.hasKind k) values kinds

/-- The kind asked for on behalf of a declared one: the declared one itself, but for a string that
is taken as an object. -/
def ValueKind.StandsFor (asked declared : ValueKind) : Prop :=
  asked = declared ∨ (asked = .object ∧ declared = .string)

/-- The kind asked for is accepted on behalf of the declared one. -/
theorem Call.standsFor_of_hostKind {requested declared kind : ValueKind}
    (h : Call.hostKind requested declared = .ok kind) : kind.StandsFor declared := by
  unfold Call.hostKind at h
  split at h
  · split at h
    case isTrue taken => exact .inr ⟨(Except.ok.inj h).symm, taken.2⟩
    case isFalse => exact .inl (Except.ok.inj h).symm
  · cases h

/-- A receiver of the sort that the kind of a member asks for; that of a static member is a type
known under the name of its class. -/
def Receiver.Fits (key : MemberKey) (instanceKind staticKind : MemberKind)
    (typeKnown : String → P.Class → Prop) : Receiver P.Object P.Class → Prop
  | .instance _ => key.kind = instanceKind
  | .static type => key.kind = staticKind ∧ typeKnown key.className type

/-- A use of a member that is well typed and uses the token of that member, by what is known of
types and members. Look-ups are proper as they are. -/
def HostCall.Proper (typeKnown : String → P.Class → Prop)
    (memberKnown : MemberKey → P.Member → Prop) : HostCall P → Prop
  | .construct key type member args =>
    key.kind = .constructor ∧ typeKnown key.className type ∧ memberKnown key member ∧
      ∃ d, Descriptor.parseMethod key.signature = .ok d ∧ d.result = .void ∧
        HostValue.Match args d.params
  | .invoke key receiver member result args =>
    receiver.Fits key .method .staticMethod typeKnown ∧ memberKnown key member ∧
      ∃ d, Descriptor.parseMethod key.signature = .ok d ∧ result.StandsFor d.result ∧
        HostValue.Match args d.params
  | .readField key receiver member kind =>
    receiver.Fits key .field .staticField typeKnown ∧ memberKnown key member ∧
      ∃ k, Descriptor.parseField key.signature = .ok k ∧ kind.StandsFor k
  | .writeField key receiver member value =>
    receiver.Fits key .field .staticField typeKnown ∧ memberKnown key member ∧
      ∃ k, Descriptor.parseField key.signature = .ok k ∧ value.hasKind k
  | _ => True

/-! ### Look-ups -/

/-- A type is found in the cache, or the host is asked for it and what it gives is entered. Sharing
and dropping a type changes nothing of what is said. -/
theorem Members.type_triple_of_upkeep {F : Foreign P (Exec P)} {name : String}
    {pre E H : State P → Prop} {post : Except HostError P.Class → State P → Prop}
    (given : P.Class → State P → Prop)
    (shared : ∀ r type, Triple (post r) (F.host.shareType type) (fun _ => post r) E H)
    (dropped : ∀ r type, Triple (post r) (F.host.dropType type) (fun _ => post r) E H)
    (there : ∀ s type, pre s → s.bridge.members.type? name = some type → post (.ok type) s)
    (resolve : Triple pre (F.host.callResolveType name)
      (fun r s => match r with
        | .ok token => given token s
        | .error e => post (.error e) s) E H)
    (enter : ∀ token s, given token s →
      post (.ok (s.bridge.members.addType name token).1) { s with bridge :=
        { s.bridge with members := (s.bridge.members.addType name token).2.2 } }) :
    Triple pre (Members.type F name) post E H := by
  have handed (kept : P.Class) : Triple (post (.ok kept)) (do
      F.host.shareType kept
      return .ok kept : Exec P (Except HostError P.Class)) post E H :=
    (shared _ kept).bind fun _ => Triple.pure fun s h => h
  unfold Members.type
  refine Triple.bind Triple.asks fun cache => ?_
  cases found : cache.type? name with
  | some type =>
    refine (handed type).of_imp fun s h => ?_
    obtain ⟨rfl, h⟩ := h
    exact there s type h found
  | none =>
    refine Triple.bind (resolve.of_imp fun _ h => h.2) fun r => ?_
    cases r with
    | error e => exact Triple.pure fun s h => h
    | ok token =>
      refine Triple.bind Triple.asks fun cache => ?_
      rcases added : cache.addType name token with ⟨kept, fresh, cache'⟩
      have entered : Triple (fun s => cache = s.bridge.members ∧ given token s)
          (Exec.update fun b => { b with members := cache' }) (fun _ => post (.ok kept)) E H := by
        apply Triple.update
        rintro s ⟨rfl, h⟩
        have h := enter token s h
        rwa [added] at h
      apply entered.bind
      intro _
      cases fresh with
      | true => exact handed kept
      | false => exact (dropped _ token).bind fun _ => handed kept

/-- What is said does not depend on what the two sides keep for themselves. -/
theorem Members.type_triple {F : Foreign P (Exec P)} {name : String} {pre E H : State P → Prop}
    {post : Except HostError P.Class → State P → Prop} (given : P.Class → State P → Prop)
    (aside : ∀ r s l w, post r s → post r { s with ledger := l, world := w })
    (there : ∀ s type, pre s → s.bridge.members.type? name = some type → post (.ok type) s)
    (resolve : Triple pre (F.host.callResolveType name)
      (fun r s => match r with
        | .ok token => given token s
        | .error e => post (.error e) s) E H)
    (enter : ∀ token s, given token s →
      post (.ok (s.bridge.members.addType name token).1) { s with bridge :=
        { s.bridge with members := (s.bridge.members.addType name token).2.2 } }) :
    Triple pre (Members.type F name) post E H :=
  type_triple_of_upkeep given (fun r _ => Triple.modify fun s h => aside r s _ _ h)
    (fun r _ => Triple.modify fun s h => aside r s _ _ h) there resolve enter

/-- A member is found in the cache, or the host is asked for it and what it gives is entered. -/
theorem Members.member_triple {F : Foreign P (Exec P)} {type : P.Class} {key : MemberKey}
    {pre E H : State P → Prop} {post : Except HostError P.Member → State P → Prop}
    (given : P.Member → State P → Prop)
    (there : ∀ s m, pre s → s.bridge.members.member? key = some m → post (.ok m) s)
    (resolve : Triple pre (F.host.callResolveMember type key)
      (fun r s => match r with
        | .ok token => given token s
        | .error e => post (.error e) s) E H)
    (enter : ∀ token s, given token s →
      post (.ok (s.bridge.members.addMember key token).1) { s with bridge :=
        { s.bridge with members := (s.bridge.members.addMember key token).2 } }) :
    Triple pre (Members.member F type key) post E H := by
  unfold Members.member
  refine Triple.bind Triple.asks fun cache => ?_
  cases found : cache.member? key with
  | some m =>
    refine Triple.pure fun s h => ?_
    obtain ⟨rfl, h⟩ := h
    exact there s m h found
  | none =>
    refine Triple.bind (resolve.of_imp fun _ h => h.2) fun r => ?_
    cases r with
    | error e => exact Triple.pure fun s h => h
    | ok token =>
      refine Triple.bind Triple.asks fun cache => ?_
      rcases added : cache.addMember key token with ⟨kept, cache'⟩
      have entered : Triple (fun s => cache = s.bridge.members ∧ given token s)
          (Exec.update fun b => { b with members := cache' }) (fun _ => post (.ok kept)) E H := by
        apply Triple.update
        rintro s ⟨rfl, h⟩
        have h := enter token s h
        rwa [added] at h
      exact entered.bind fun _ => Triple.pure fun s h => h

/-! ### Contracts -/

/-- The end of a call: what it was for, and after that what is done in any case. -/
theorem Call.triple_ensure {pre J H : State P → Prop} {x : Call P α} {after : Exec P Unit}
    (hx : Triple pre x.run (fun _ => J) J H) (ha : Keeps J H after) :
    Triple pre (Call.ensure x after).run (fun _ => J) J H :=
  Triple.ensure hx (fun _ => ha) ha

/-- A use of a member, and what is done with what it gave. -/
theorem Call.triple_use {pre J H : State P → Prop} {x : Exec P (Except HostError α)}
    {f : α → Call P β} (hx : Triple pre x (fun _ => J) J H) (hf : ∀ a, Keeps J H (f a).run) :
    Triple pre (Call.ofHost x >>= f).run (fun _ => J) J H :=
  Call.triple_bind (Triple.bind hx fun _ => Keeps.pure) hf fun _ _ h => h

/-- What a host gives is given on as it is. -/
theorem Call.gives_ofHost {pre : State P → Prop} {x : Exec P (Except HostError α)}
    {given : α → State P → Prop} (hx : Gives pre x (fun r s => ∀ a, r = .ok a → given a s)) :
    Gives pre (Call.ofHost x).run (fun r s => ∀ a, r = .ok a → given a s) := by
  refine Triple.bind hx fun r => Triple.pure fun s h a same => ?_
  cases r with
  | error e => cases same
  | ok b =>
    cases same
    exact h a rfl

/-- A preload that succeeds leaves what its look-up of the type and then that of the member leave.
-/
theorem Call.preload_gives {F : Foreign P (Exec P)} {key : MemberKey} {pre post : State P → Prop}
    {given : P.Class → State P → Prop}
    (aside : ∀ {s} l w, post s → post { s with ledger := l, world := w })
    (typed : Gives pre (Members.type F key.className) (fun r s => ∀ c, r = .ok c → given c s))
    (found : ∀ c, Gives (given c) (Members.member F c key) (fun r s => ∀ m, r = .ok m → post s)) :
    Gives pre (Call.preload F key).run (fun r s => r = .ok () → post s) := by
  have resolved : Gives pre (Call.withType F key.className fun c => do
      discard <| Call.ofHost (Members.member F c key)).run (fun r s => r = .ok () → post s) := by
    refine Call.triple_bind (Call.gives_ofHost typed) (fun c => ?_) fun _ _ _ => nofun
    have looked : Gives (given c) (discard (Call.ofHost (Members.member F c key)) : Call P Unit).run
        (fun r s => r = .ok () → post s) := by
      refine Call.triple_bind (Call.gives_ofHost (found c)) (fun m => ?_) fun _ _ _ => nofun
      exact Triple.pure fun _ h _ => h m rfl
    refine Triple.ensure (looked.of_imp fun s h => h c rfl) (fun _ => ?_) Triple.any
    exact Triple.modify fun s h ok => aside _ _ (h ok)
  unfold Call.preload
  split
  · rw [ExceptT.run_bind]
    cases Descriptor.parseField key.signature with
    | error e => exact Triple.pure fun _ _ => nofun
    | ok d => exact resolved
  · rw [ExceptT.run_bind]
    cases Descriptor.parseMethod key.signature with
    | error e => exact Triple.pure fun _ _ => nofun
    | ok d => exact resolved

/-- What dynamic calls need in order to keep an invariant `J`. From the look-ups of a call to its
use of a member a stronger one may be in force, whose index says what is known of types and members;
it need not outlive the use. -/
structure CallContract (F : Foreign P (Exec P)) (J : State P → Prop) {ι : Type}
    (I : ι → State P → Prop) (H : State P → Prop) where
  /-- The second index knows what the first one knows. -/
  Le : ι → ι → Prop
  typeKnown : ι → String → P.Class → Prop
  memberKnown : ι → MemberKey → P.Member → Prop
  forget : ∀ {i s}, I i s → J s
  typeKnown_mono : ∀ {i j name type}, Le i j → typeKnown i name type → typeKnown j name type
  outer : Withstands F J H
  inner : ∀ i, Withstands F (I i) H
  type : ∀ name, Triple J (Members.type F name)
    (fun r s => match r with
      | .ok type => ∃ j, typeKnown j name type ∧ I j s
      | .error _ => J s) J H
  member : ∀ i type key, typeKnown i key.className type →
    Triple (I i) (Members.member F type key)
      (fun r s => match r with
        | .ok member => ∃ j, (Le i j ∧ memberKnown j key member) ∧ I j s
        | .error _ => J s) J H
  construct : ∀ i key type member args,
    (HostCall.construct key type member args).Proper (typeKnown i) (memberKnown i) →
      Triple (I i) (F.host.callConstruct key type member args) (fun _ => J) J H
  invoke : ∀ i key receiver member result args,
    (HostCall.invoke key receiver member result args).Proper (typeKnown i) (memberKnown i) →
      Triple (I i) (F.host.callInvoke key receiver member result args) (fun _ => J) J H
  readField : ∀ i key receiver member kind,
    (HostCall.readField key receiver member kind).Proper (typeKnown i) (memberKnown i) →
      Triple (I i) (F.host.callReadField key receiver member kind) (fun _ => J) J H
  writeField : ∀ i key receiver member value,
    (HostCall.writeField key receiver member value).Proper (typeKnown i) (memberKnown i) →
      Triple (I i) (F.host.callWriteField key receiver member value) (fun _ => J) J H

namespace CallContract

variable {F : Foreign P (Exec P)} {J : State P → Prop} {ι : Type} {I : ι → State P → Prop}
  {H : State P → Prop} (C : CallContract F J I H) {i : ι}
include C

/-- A part that keeps what is known. -/
theorem inside {x : Exec P α} {post : α → State P → Prop} (hx : Triple (I i) x post (I i) H) :
    Triple (I i) x post J H :=
  hx.conseq (fun _ h => h) (fun _ _ h => h) (fun _ => C.forget) fun _ h => h

/-! ### Parts of an operation -/

/-- Goes on with a type that is known under its name. -/
theorem withType {name : String} {body : P.Class → Call P α}
    (hbody : ∀ j type, C.typeKnown j name type →
      Triple (I j) (body type).run (fun _ => J) J H) :
    Keeps J H (Call.withType F name body).run := by
  have found : Triple J (Call.ofHost (Members.type F name)).run (fun r s => match r with
      | .ok type => ∃ j, C.typeKnown j name type ∧ I j s
      | .error _ => J s) J H := by
    refine Triple.bind (C.type name) fun r => Triple.pure fun s h => ?_
    cases r <;> exact h
  refine Call.triple_bind found (fun type => ?_) fun _ _ h => h
  refine Triple.of_exists fun j => Triple.of_and fun known => ?_
  exact Call.triple_ensure (hbody j type known) (C.outer.upkeep (.dropType type))

/-- Goes on with the token of a member. -/
theorem withMember {type : P.Class} {key : MemberKey} {body : P.Member → Call P α}
    (known : C.typeKnown i key.className type)
    (hbody : ∀ j member, C.Le i j → C.memberKnown j key member →
      Triple (I j) (body member).run (fun _ => J) J H) :
    Triple (I i) (do
      let member ← Call.ofHost (Members.member F type key)
      body member).run (fun _ => J) J H := by
  have found : Triple (I i) (Call.ofHost (Members.member F type key)).run (fun r s => match r with
      | .ok member => ∃ j, (C.Le i j ∧ C.memberKnown j key member) ∧ I j s
      | .error _ => J s) J H := by
    refine Triple.bind (C.member i type key known) fun r => Triple.pure fun s h => ?_
    cases r <;> exact h
  refine Call.triple_bind found (fun member => ?_) fun _ _ h => h
  refine Triple.of_exists fun j => Triple.of_and fun ⟨hij, found⟩ => ?_
  exact hbody j member hij found

/-- Goes on with a receiver that fits the target. -/
theorem withReceiver {target : Call.Target} {type : P.Class}
    {body : Receiver P.Object P.Class → Call P α}
    (hinstance : ∀ h o, target = .instance h →
      Triple (I i) (body (.instance o)).run (fun _ => J) J H)
    (hstatic : target = .static → Triple (I i) (body (.static type)).run (fun _ => J) J H) :
    Triple (I i) (Call.withReceiver F target type body).run (fun _ => J) J H := by
  cases target with
  | static => exact hstatic rfl
  | «instance» h =>
    have looked : Triple (I i) (liftM (Objects.lookup F h) : Call P _).run
        (fun _ => I i) J H :=
      C.inside (Call.keeps_lift ((C.inner i).lookup h))
    refine Call.triple_bind looked (fun found => ?_) fun _ _ => C.forget
    cases found with
    | none => exact Triple.pure fun _ => C.forget
    | some o => exact Call.triple_ensure (hinstance h o rfl) (C.outer.upkeep (.drop o))

/-- Goes on with a member and with a receiver of the sort that its kind asks for. -/
theorem withReceivedMember {target : Call.Target} {type : P.Class} {key : MemberKey}
    (instanceKind staticKind : MemberKind) {body : Receiver P.Object P.Class → P.Member → Call P α}
    (onInstance : ∀ h, target = .instance h → key.kind = instanceKind)
    (onStatic : target = .static → key.kind = staticKind)
    (known : C.typeKnown i key.className type)
    (hbody : ∀ j receiver member,
      receiver.Fits key instanceKind staticKind (C.typeKnown j) → C.memberKnown j key member →
        Triple (I j) (body receiver member).run (fun _ => J) J H) :
    Triple (I i) (Call.withReceiver F target type fun receiver => do
      let member ← Call.ofHost (Members.member F type key)
      body receiver member).run (fun _ => J) J H := by
  refine C.withReceiver (fun h o on => ?_) fun on => ?_
  · exact C.withMember known fun j member _ found => hbody j _ member (onInstance h on) found
  · refine C.withMember known fun j member hij found => hbody j _ member ?_ found
    exact ⟨onStatic on, C.typeKnown_mono hij known⟩

/-- Goes on with arguments that match the parameters. -/
theorem withArgs {params : List ValueKind} {words : List Word}
    {body : List (HostValue P.Object) → Call P α}
    (hbody : ∀ args, HostValue.Match args params →
      Triple (I i) (body args).run (fun _ => J) J H) :
    Triple (I i) (Call.withArgs F params words body).run (fun _ => J) J H := by
  have decoded : Triple (I i) (liftM (Call.decodeArgs F params words) : Call P _).run
      (fun r s => match r with
        | .ok args => HostValue.Match args params ∧ I i s
        | .error _ => I i s) J H :=
    C.inside <|
      Triple.bind ((C.inner i).decodeArgs params words) fun _ => Triple.pure fun _ h => h
  refine Call.triple_bind decoded (fun args => ?_) fun _ _ => C.forget
  refine Triple.of_and fun matched => Call.triple_ensure (hbody args matched) ?_
  exact Keeps.forM (fun v => C.outer.dropValue v) args

/-! ### Operations -/

theorem construct_keeps (className signature : String) (words : List Word) :
    Keeps J H (Call.construct F className signature words).run := by
  unfold Call.construct
  refine Call.keeps_bind_ofDescriptor fun d parsed => ?_
  split
  case isTrue => exact Call.keeps_throw_bind
  case isFalse returns =>
    refine C.withType fun j type known => ?_
    refine C.withMember known fun k member hjk found => ?_
    refine C.withArgs fun args matched => ?_
    refine Call.triple_use (C.construct k _ type member args ?_) fun o =>
      Call.keeps_lift (C.outer.store o)
    exact ⟨rfl, C.typeKnown_mono hjk known, found, d, parsed, not_not.mp returns, matched⟩

theorem invoke_keeps (target : Call.Target) (className name signature : String)
    (requested : ValueKind) (words : List Word) :
    Keeps J H (Call.invoke F target className name signature requested words).run := by
  unfold Call.invoke
  refine Call.keeps_bind_ofDescriptor fun d parsed => ?_
  refine Call.keeps_bind_result fun kind accepted => ?_
  have asked := Call.standsFor_of_hostKind accepted
  refine C.withType fun j type known => ?_
  refine C.withReceivedMember .method .staticMethod (by rintro _ rfl; rfl) (by rintro rfl; rfl)
    known fun k receiver member fits found => ?_
  refine C.withArgs fun args matched => ?_
  refine Call.triple_use (C.invoke k _ receiver member kind args ?_) fun v =>
    Call.keeps_lift (C.outer.encode requested v)
  exact ⟨fits, found, d, parsed, asked, matched⟩

theorem read_keeps (target : Call.Target) (className name descriptor : String)
    (requested : ValueKind) :
    Keeps J H (Call.read F target className name descriptor requested).run := by
  unfold Call.read
  refine Call.keeps_bind_ofDescriptor fun declared parsed => ?_
  refine Call.keeps_bind_result fun kind accepted => ?_
  have asked := Call.standsFor_of_hostKind accepted
  refine C.withType fun j type known => ?_
  refine C.withReceivedMember .field .staticField (by rintro _ rfl; rfl) (by rintro rfl; rfl) known
    fun k receiver member fits found => ?_
  refine Call.triple_use (C.readField k _ receiver member kind ?_) fun v =>
    Call.keeps_lift (C.outer.encode requested v)
  exact ⟨fits, found, declared, parsed, asked⟩

theorem write_keeps (target : Call.Target) (className name descriptor : String)
    (requested : ValueKind) (w : Word) :
    Keeps J H (Call.write F target className name descriptor requested w).run := by
  unfold Call.write
  refine Call.keeps_bind_ofDescriptor fun declared parsed => ?_
  split
  case isTrue => exact Call.keeps_throw_bind
  case isFalse =>
    refine C.withType fun j type known => ?_
    have decoded : Triple (I j) (liftM (Call.decode F declared w) : Call P _).run
        (fun r s => match r with
          | .ok value => value.hasKind declared ∧ I j s
          | .error _ => I j s) J H :=
      C.inside <|
        Triple.bind ((C.inner j).decode declared w) fun _ => Triple.pure fun _ h => h
    refine Call.triple_bind decoded (fun value => ?_) fun _ _ => C.forget
    refine Triple.of_and fun matched => ?_
    refine Call.triple_ensure ?_ (C.outer.dropValue value)
    refine C.withReceivedMember .field .staticField (by rintro _ rfl; rfl) (by rintro rfl; rfl)
      known fun k receiver member fits found => ?_
    refine Triple.bind (C.writeField k _ receiver member value ?_) fun _ => Keeps.pure
    exact ⟨fits, found, declared, parsed, matched⟩

theorem preload_keeps (key : MemberKey) : Keeps J H (Call.preload F key).run := by
  have resolve : Keeps J H (Call.withType F key.className fun type => do
      discard <| Call.ofHost (Members.member F type key)).run := by
    refine C.withType fun j type known => ?_
    exact C.withMember known fun k member _ _ => Triple.pure fun _ => C.forget
  unfold Call.preload
  split
  · exact Call.keeps_bind (Call.keeps_bind_ofDescriptor fun _ _ => Call.keeps_pure)
      fun _ => resolve
  · exact Call.keeps_bind (Call.keeps_bind_ofDescriptor fun _ _ => Call.keeps_pure)
      fun _ => resolve

/-! ### Operations that report -/

theorem settle_keeps (call : CallName) (className member : String) {x : Call P Word}
    (hx : Keeps J H x.run) : Keeps J H (Dynamic.settle call className member x) := by
  refine hx.bind fun r => ?_
  cases r with
  | ok w => exact Keeps.pure
  | error e => exact (C.outer.sendReport _).bind fun _ => Keeps.pure

theorem createObject_keeps (className signature : String) (words : List Word) :
    Keeps J H (Dynamic.createObject F className signature words) := by
  refine (C.construct_keeps className signature words).bind fun r => ?_
  cases r with
  | ok h => exact Keeps.pure
  | error e => exact (C.outer.sendReport _).bind fun _ => Keeps.pure

theorem callMethod_keeps (target : Call.Target) (className name signature : String)
    (requested : ValueKind) (words : List Word) :
    Keeps J H (Dynamic.callMethod F target className name signature requested words) :=
  C.settle_keeps _ className name (C.invoke_keeps target className name signature requested words)

theorem getField_keeps (target : Call.Target) (className name descriptor : String)
    (requested : ValueKind) :
    Keeps J H (Dynamic.getField F target className name descriptor requested) :=
  C.settle_keeps _ className name (C.read_keeps target className name descriptor requested)

theorem setField_keeps (target : Call.Target) (className name descriptor : String)
    (requested : ValueKind) (w : Word) :
    Keeps J H (Dynamic.setField F target className name descriptor requested w) :=
  (C.settle_keeps _ className name <| Call.keeps_bind
    (C.write_keeps target className name descriptor requested w) fun _ =>
      Call.keeps_pure).discard

end CallContract

/-- A family of invariants that the calls on the host keep. An index says what is known of types and
members besides; a look-up that succeeds leads to an index with more. -/
structure HostContract (F : Foreign P (Exec P)) {ι : Type} (I : ι → State P → Prop)
    (H : State P → Prop) where
  /-- The second index knows what the first one knows. -/
  Le : ι → ι → Prop
  typeKnown : ι → String → P.Class → Prop
  memberKnown : ι → MemberKey → P.Member → Prop
  weaken : ∀ {i j s}, Le i j → I j s → I i s
  typeKnown_mono : ∀ {i j name type}, Le i j → typeKnown i name type → typeKnown j name type
  withstands : ∀ i, Withstands F (I i) H
  type : ∀ i name, Triple (I i) (Members.type F name)
    (fun r s => match r with
      | .ok type => ∃ j, (Le i j ∧ typeKnown j name type) ∧ I j s
      | .error _ => I i s) (I i) H
  member : ∀ i type key, Triple (I i) (Members.member F type key)
    (fun r s => match r with
      | .ok member => ∃ j, (Le i j ∧ memberKnown j key member) ∧ I j s
      | .error _ => I i s) (I i) H
  construct : ∀ i key type member args,
    (HostCall.construct key type member args).Proper (typeKnown i) (memberKnown i) →
      Keeps (I i) H (F.host.callConstruct key type member args)
  invoke : ∀ i key receiver member result args,
    (HostCall.invoke key receiver member result args).Proper (typeKnown i) (memberKnown i) →
      Keeps (I i) H (F.host.callInvoke key receiver member result args)
  readField : ∀ i key receiver member kind,
    (HostCall.readField key receiver member kind).Proper (typeKnown i) (memberKnown i) →
      Keeps (I i) H (F.host.callReadField key receiver member kind)
  writeField : ∀ i key receiver member value,
    (HostCall.writeField key receiver member value).Proper (typeKnown i) (memberKnown i) →
      Keeps (I i) H (F.host.callWriteField key receiver member value)

namespace HostContract

variable {F : Foreign P (Exec P)} {ι : Type} {I : ι → State P → Prop} {H : State P → Prop}

/-- From an index on, the indices whose invariants say no less are in force within a call. -/
def calls (C : HostContract F I H) (i : ι) :
    CallContract F (I i) (fun j : {j // ∀ s, I j s → I i s} => I j) H where
  Le j k := C.Le j k
  typeKnown j := C.typeKnown j
  memberKnown j := C.memberKnown j
  forget {j s} h := j.2 s h
  typeKnown_mono := C.typeKnown_mono
  outer := C.withstands i
  inner j := C.withstands j
  type name := (C.type i name).weaken fun r s h => by
    cases r with
    | ok type =>
      obtain ⟨j, ⟨hij, known⟩, h⟩ := h
      exact ⟨⟨j, fun _ => C.weaken hij⟩, known, h⟩
    | error e => exact h
  member j type key _ := (C.member j type key).conseq (fun _ h => h)
    (fun r s h => by
      cases r with
      | ok member =>
        obtain ⟨k, ⟨hjk, known⟩, h⟩ := h
        exact ⟨⟨k, fun s h => j.2 s (C.weaken hjk h)⟩, ⟨hjk, known⟩, h⟩
      | error e => exact j.2 s h)
    j.2 fun _ h => h
  construct j key type member args proper := (C.construct j key type member args proper).conseq
    (fun _ h => h) (fun _ => j.2) j.2 fun _ h => h
  invoke j key receiver member result args proper :=
    (C.invoke j key receiver member result args proper).conseq (fun _ h => h) (fun _ => j.2) j.2
      fun _ h => h
  readField j key receiver member kind proper :=
    (C.readField j key receiver member kind proper).conseq (fun _ h => h) (fun _ => j.2) j.2
      fun _ h => h
  writeField j key receiver member value proper :=
    (C.writeField j key receiver member value proper).conseq (fun _ h => h) (fun _ => j.2) j.2
      fun _ h => h

end HostContract

/-! ### Invariants that know nothing -/

/-- An invariant that the cache and the calls on the host have no part in, and that the code of the
host keeps. -/
structure Unaware (F : Foreign P (Exec P)) (I H : State P → Prop) : Prop
    extends Withstands F I H where
  members : ∀ {s} (c : MemberCache P.Class P.Member), I s →
    I { s with bridge := { s.bridge with members := c } }
  hostCall : ∀ {s} (c : HostCall P), I s → I { s with record := .host c :: s.record }
  resolveType : ∀ name, Keeps I H (F.host.resolveType name)
  resolveMember : ∀ type key, Keeps I H (F.host.resolveMember type key)
  construct : ∀ type member args, Keeps I H (F.host.construct type member args)
  invoke : ∀ receiver member result args, Keeps I H (F.host.invoke receiver member result args)
  readField : ∀ receiver member kind, Keeps I H (F.host.readField receiver member kind)
  writeField : ∀ receiver member value, Keeps I H (F.host.writeField receiver member value)

namespace Unaware

variable {F : Foreign P (Exec P)} {I H : State P → Prop} (U : Unaware F I H)
include U

theorem recordHost (c : HostCall P) : Keeps I H (Exec.record (.host c)) :=
  Keeps.modify fun _ => U.hostCall c

theorem type_keeps (name : String) : Keeps I H (Members.type F name) := by
  apply Members.type_triple_of_upkeep fun _ => I
  · exact fun _ type => U.upkeep (.shareType type)
  · exact fun _ type => U.upkeep (.dropType type)
  · exact fun _ _ h _ => h
  · have resolved : Keeps I H (F.host.callResolveType name) := by
      refine (U.recordHost _).bind fun _ => (U.resolveType name).bind fun r => ?_
      cases r with
      | ok c => exact (U.recordHost _).bind fun _ => Keeps.pure
      | error e => exact Keeps.pure
    exact resolved.weaken fun r _ h => by cases r <;> exact h
  · exact fun _ _ h => U.members _ h

theorem member_keeps (type : P.Class) (key : MemberKey) :
    Keeps I H (Members.member F type key) := by
  apply Members.member_triple fun _ => I
  · exact fun _ _ h _ => h
  · have resolved : Keeps I H (F.host.callResolveMember type key) := by
      refine (U.recordHost _).bind fun _ => (U.resolveMember type key).bind fun r => ?_
      cases r with
      | ok m => exact (U.recordHost _).bind fun _ => Keeps.pure
      | error e => exact Keeps.pure
    exact resolved.weaken fun r _ h => by cases r <;> exact h
  · exact fun _ _ h => U.members _ h

end Unaware

/-- Invariants that know nothing withstand all uses of members. -/
def HostContract.ofUnaware {F : Foreign P (Exec P)} {ι : Type} {I : ι → State P → Prop}
    {H : State P → Prop} (U : ∀ i, Unaware F (I i) H) : HostContract F I H where
  Le := Eq
  typeKnown _ _ _ := True
  memberKnown _ _ _ := True
  weaken := by
    rintro i j s rfl h
    exact h
  typeKnown_mono _ _ := trivial
  withstands i := (U i).toWithstands
  type i name := ((U i).type_keeps name).weaken fun r _ h => by
    cases r with
    | ok type => exact ⟨i, ⟨rfl, trivial⟩, h⟩
    | error e => exact h
  member i type key := ((U i).member_keeps type key).weaken fun r _ h => by
    cases r with
    | ok member => exact ⟨i, ⟨rfl, trivial⟩, h⟩
    | error e => exact h
  construct i _ type member args _ :=
    ((U i).recordHost _).bind fun _ => (U i).construct type member args
  invoke i _ receiver member result args _ :=
    ((U i).recordHost _).bind fun _ => (U i).invoke receiver member result args
  readField i _ receiver member kind _ :=
    ((U i).recordHost _).bind fun _ => (U i).readField receiver member kind
  writeField i _ receiver member value _ :=
    ((U i).recordHost _).bind fun _ => (U i).writeField receiver member value

end HostBridge
