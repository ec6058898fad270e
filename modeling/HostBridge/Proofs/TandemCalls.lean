import HostBridge.Proofs.HostCalls
import HostBridge.Proofs.Tandem

/-!
Dynamic operations in tandem. A relation that is respected by the bridge, by the host's functions
and by the counts of references is respected by every operation on objects, members and values.
-/
namespace HostBridge

open Exec

variable {P : Platform} {α : Type}

/-- A relation that the host respects too. What it resolves a name or a key to is known as its own.
-/
structure HostSteady (F : Foreign P (Exec P)) (typeKnown : String → P.Class → Prop)
    (memberKnown : P.World → MemberKey → P.Member → Prop) (R : State P → State P → Prop) : Prop
    extends Steady F typeKnown memberKnown R where
  resolveType : ∀ name, Tandem R (F.host.resolveType name)
    (fun r s t => (∀ c, r = .ok c → typeKnown name c) ∧ R s t) R
  resolveMember : ∀ c key, typeKnown key.className c → Tandem R (F.host.resolveMember c key)
    (fun r s t => (∀ m, r = .ok m → memberKnown s.world key m) ∧ R s t) R
  construct : ∀ c m args, InStep R (F.host.construct c m args)
  invoke : ∀ receiver m kind args, InStep R (F.host.invoke receiver m kind args)
  readField : ∀ receiver m kind, InStep R (F.host.readField receiver m kind)
  writeField : ∀ receiver m v, InStep R (F.host.writeField receiver m v)

variable {F : Foreign P (Exec P)} {typeKnown : String → P.Class → Prop}
  {memberKnown : P.World → MemberKey → P.Member → Prop} {R : State P → State P → Prop}

/-! ### Objects, memory and values -/

namespace Steady

variable (steady : Steady F typeKnown memberKnown R)
include steady

/-- The table that was read is changed by a step. -/
theorem setHandles {table table' : HandleTable P.Object} (step : table.Step table') :
    Tandem (fun s t => table = s.bridge.handles ∧ R s t)
      (Exec.update fun b : Bridge P => { b with handles := table' }) (fun _ => R) R := by
  apply steady.updates (p := fun s => table = s.bridge.handles)
  rintro s rfl
  exact .handles step

theorem store (o : Option P.Object) : InStep R (Objects.store F o) := by
  unfold Objects.store
  apply steady.reads.bind
  intro table
  apply (steady.setHandles (.store o)).bind
  intro _
  cases table.replaced o with
  | none => exact InStep.pure
  | some old => exact (steady.drop old).bind fun _ => InStep.pure

theorem lookup (h : Handle) : InStep R (Objects.lookup F h) := by
  unfold Objects.lookup
  apply steady.reads.bind
  intro table
  have step := HandleTable.Step.get (t := table) h
  rcases got : table.get h with ⟨found, new, table'⟩
  rw [got] at step
  apply (steady.setHandles step).bind
  intro _
  have shared (o : P.Object) : InStep R (F.host.share o >>= fun _ => pure (some o)) :=
    (steady.upkeep (.shareObject o)).bind fun _ => InStep.pure
  cases new <;> cases found
  · exact InStep.pure
  · exact shared _
  · exact (steady.report _).bind fun _ => InStep.pure
  · exact (steady.report _).bind fun _ => shared _

theorem release (h : Handle) : InStep R (Objects.release F h) := by
  unfold Objects.release
  apply steady.reads.bind
  intro table
  have step := HandleTable.Step.release (t := table) h
  rcases got : table.release h with ⟨found, table'⟩
  rw [got] at step
  apply (steady.setHandles step).bind
  intro _
  cases found with
  | none => exact InStep.pure
  | some o => exact (steady.drop o).bind fun _ => InStep.pure

theorem releaseAll : InStep R (Objects.releaseAll F) := by
  unfold Objects.releaseAll
  apply steady.reads.bind
  intro table
  apply (steady.setHandles .releaseAll).bind
  intro _
  exact (InStep.forM steady.drop _).bind fun _ => InStep.pure

theorem setMemory (f : Memory → Memory) :
    InStep R (Exec.modify fun s => { s with memory := f s.memory }) := by
  apply InStep.change
  intro s t related
  have same : t.memory = s.memory := by rw [steady.agree related]
  rw [same]
  exact steady.memory (f s.memory) related

theorem readText (address : UInt64) : InStep R (Call.readText address) := by
  unfold Call.readText
  split
  · exact InStep.pure
  · apply (steady.asks fun _ _ _ _ => rfl).bind
    intro buffer
    cases buffer with
    | none => exact Tandem.halt
    | some bytes => exact InStep.pure

theorem placeText (text : String) : InStep R (Call.placeText (P := P) text) := by
  unfold Call.placeText
  apply (steady.asks fun _ _ _ _ => rfl).bind
  intro memory
  exact (InStep.change fun _ _ => steady.memory _).bind fun _ => InStep.pure

theorem decode (kind : ValueKind) (w : Word) : InStep R (Call.decode F kind w) := by
  cases kind with
  | string => exact (steady.readText _).bind fun _ => InStep.pure
  | object | array => exact (steady.lookup _).bind fun _ => InStep.pure
  | _ => exact InStep.pure

theorem decodeEach (kinds : List ValueKind) (words : List Word) :
    InStep R (Call.decodeEach F kinds words) := by
  induction kinds generalizing words with
  | nil => exact InStep.pure
  | cons kind kinds ih =>
    cases words with
    | nil => exact (ih []).bind fun _ => InStep.pure
    | cons w words =>
      exact (steady.decode kind w).bind fun _ => (ih words).bind fun _ => InStep.pure

theorem decodeArgs (params : List ValueKind) (words : List Word) :
    InStep R (Call.decodeArgs F params words) := by
  unfold Call.decodeArgs
  split
  · exact (steady.report _).bind fun _ => steady.decodeEach params words
  · exact steady.decodeEach params words

theorem encode (requested : ValueKind) (v : HostValue P.Object) :
    InStep R (Call.encode F requested v) := by
  unfold Call.encode
  split
  · exact (steady.dropValue v).bind fun _ => InStep.pure
  · cases v with
    | string text =>
      cases text with
      | none => exact InStep.pure
      | some text => exact (steady.placeText text).bind fun _ => InStep.pure
    | object o => exact (steady.store o).bind fun _ => InStep.pure
    | _ => exact InStep.pure

/-- The cache is emptied. -/
theorem clearMembers : InStep R (Members.clear F) := by
  unfold Members.clear
  apply steady.asksBridge.bind
  intro cache
  apply (steady.update fun _ => .forget).bind
  intro _
  exact (InStep.forM steady.dropType _).bind fun _ => InStep.pure

end Steady

/-! ### Look-ups -/

namespace HostSteady

variable (steady : HostSteady F typeKnown memberKnown R)
include steady

theorem callResolveType (name : String) : Tandem R (F.host.callResolveType name)
    (fun r s t => (∀ c, r = .ok c → typeKnown name c) ∧ R s t) R := by
  unfold Host.callResolveType
  apply Tandem.bind (steady.log _)
  intro _
  apply Tandem.bind (steady.resolveType name)
  intro r
  apply Tandem.of_and
  intro known
  cases r with
  | error e => exact Tandem.pure fun _ _ related => ⟨nofun, related⟩
  | ok c =>
    apply Tandem.bind (steady.log _)
    intro _
    exact Tandem.pure fun _ _ related => ⟨known, related⟩

/-- What the host resolves a key to is known as its own until the next change. -/
theorem callResolveMember {c : P.Class} {key : MemberKey} (own : typeKnown key.className c) :
    Tandem R (F.host.callResolveMember c key)
      (fun r s t => (∀ m, r = .ok m → memberKnown s.world key m) ∧ R s t) R := by
  unfold Host.callResolveMember
  apply Tandem.bind (steady.log _)
  intro _
  apply Tandem.bind (steady.resolveMember c key own)
  intro r
  cases r with
  | error e => exact Tandem.pure fun _ _ found => ⟨nofun, found.2⟩
  | ok m =>
    have logged : Tandem
        (fun s t =>
          (∀ m', .ok m = (.ok m' : Except HostError _) → memberKnown s.world key m') ∧ R s t)
        (record (.host (.memberFound key m)))
        (fun _ s t => (∀ m', .ok m = (.ok m' : Except HostError _) → memberKnown s.world key m') ∧
          R s t) R :=
      Tandem.modify fun _ _ found => ⟨found.1, steady.record _ found.2⟩
    exact logged.bind fun _ => Tandem.pure fun _ _ found => found

/-- The types in the cache are known under their names. -/
theorem readsTypes : Tandem R (Exec.bridge (·.members)) (fun cache s t =>
    (∀ e ∈ cache.types, typeKnown e.1 e.2) ∧ cache = s.bridge.members ∧ R s t) R := by
  apply steady.reads.weaken
  rintro cache s t ⟨rfl, related⟩
  exact ⟨steady.known related, rfl, related⟩

theorem sharesType {name : String} {c : P.Class} (known : typeKnown name c) : Tandem R (do
    F.host.shareType c
    return .ok c : Exec P (Except HostError P.Class))
    (fun r s t => (∀ c, r = .ok c → typeKnown name c) ∧ R s t) R := by
  apply Tandem.bind (steady.upkeep (.shareClass c))
  intro _
  exact Tandem.pure fun _ _ related => ⟨fun _ same => by cases same; exact known, related⟩

/-- A type that was found is entered and given, unless another one is there by then. -/
theorem learnsType {name : String} {c : P.Class} (found : typeKnown name c) : Tandem R (do
    let (kept, fresh, cache) := (← Exec.bridge (·.members)).addType name c
    Exec.update fun b => { b with members := cache }
    if !fresh then F.host.dropType c
    F.host.shareType kept
    return .ok kept : Exec P (Except HostError P.Class))
    (fun r s t => (∀ c, r = .ok c → typeKnown name c) ∧ R s t) R := by
  apply Tandem.bind steady.readsTypes
  intro cache
  apply Tandem.of_and
  intro own
  obtain ⟨there, only, -⟩ := cache.addType_spec name c
  have mine : typeKnown name (cache.addType name c).1 := by
    rcases only _ there with old | new
    · exact own _ old
    · have same : (cache.addType name c).1 = c := congrArg Prod.snd new
      rw [same]
      exact found
  have learnt : Tandem (fun s t => cache = s.bridge.members ∧ R s t)
      (Exec.update fun b : Bridge P => { b with members := (cache.addType name c).2.2 })
      (fun _ => R) R := by
    apply steady.updates (p := fun s => cache = s.bridge.members)
    rintro s rfl
    exact .learnType found
  generalize cache.addType name c = added at mine learnt ⊢
  obtain ⟨kept, fresh, cache⟩ := added
  apply Tandem.bind learnt
  intro _
  cases fresh with
  | true => exact steady.sharesType mine
  | false => exact Tandem.bind (steady.dropType c) fun _ => steady.sharesType mine

/-- A type that is given for a name is known as its own, from wherever it comes. -/
theorem type (name : String) : Tandem R (Members.type F name)
    (fun r s t => (∀ c, r = .ok c → typeKnown name c) ∧ R s t) R := by
  unfold Members.type
  apply Tandem.bind steady.readsTypes
  intro cache
  apply Tandem.of_and
  intro own
  have start (x : Exec P (Except HostError P.Class)) {mid : Except HostError P.Class →
      State P → State P → Prop} (hx : Tandem R x mid R) :
      Tandem (fun s t => cache = s.bridge.members ∧ R s t) x mid R :=
    hx.conseq (fun _ _ h => h.2) fun _ _ _ h => h
  cases found : cache.type? name with
  | some c =>
    have known : typeKnown name c := own (name, c) (MemberCache.mem_of_lookup found)
    exact start _ (steady.sharesType known)
  | none =>
    apply start
    apply Tandem.bind (steady.callResolveType name)
    intro r
    apply Tandem.of_and
    intro known
    cases r with
    | error e => exact Tandem.pure fun _ _ related => ⟨nofun, related⟩
    | ok c => exact steady.learnsType (known c rfl)

/-- The member of a key on the type of its class. -/
theorem member {c : P.Class} {key : MemberKey} (own : typeKnown key.className c) :
    InStep R (Members.member F c key) := by
  unfold Members.member
  apply steady.asksBridge.bind
  intro cache
  cases cache.member? key with
  | some m => exact InStep.pure
  | none =>
    apply Tandem.bind (steady.callResolveMember own)
    intro r
    cases r with
    | error e => exact Tandem.pure fun _ _ found => found.2
    | ok m =>
      have read : Tandem
          (fun s t => (∀ m', .ok m = (.ok m' : Except HostError _) → memberKnown s.world key m') ∧
            R s t)
          (Exec.bridge (·.members))
          (fun cache s t => (cache = s.bridge.members ∧ memberKnown s.world key m) ∧ R s t) R := by
        apply (Tandem.gets ?_).weaken
        · rintro later s t ⟨rfl, found⟩
          exact ⟨⟨rfl, found.1 m rfl⟩, found.2⟩
        · intro s t found
          rw [steady.agree found.2]
      apply Tandem.bind read
      intro later
      have learnt : Tandem
          (fun s t => (later = s.bridge.members ∧ memberKnown s.world key m) ∧ R s t)
          (Exec.update fun b : Bridge P => { b with members := (later.addMember key m).2 })
          (fun _ => R) R := by
        apply steady.updates (p := fun s => later = s.bridge.members ∧ memberKnown s.world key m)
        rintro s ⟨rfl, known⟩
        exact .learnMember known
      exact learnt.bind fun _ => InStep.pure

/-! ### Parts of an operation -/

theorem withType {name : String} {body : P.Class → Call P α}
    (hbody : ∀ c, typeKnown name c → InStep R (body c).run) :
    InStep R (Call.withType F name body).run := by
  rw [Call.withType_cached, Call.run_ofHost_bind]
  apply Tandem.bind (steady.type name)
  intro r
  apply Tandem.of_and
  intro known
  cases r with
  | error e => exact InStep.pure
  | ok c => exact Call.inStep_ensure (hbody c (known c rfl)) (steady.dropType c)

theorem withReceiver {target : Call.Target} {c : P.Class}
    {body : Receiver P.Object P.Class → Call P α} (hbody : ∀ r, InStep R (body r).run) :
    InStep R (Call.withReceiver F target c body).run := by
  cases target with
  | static => exact hbody _
  | «instance» h =>
    apply Call.inStep_bind (Call.inStep_lift (steady.lookup h))
    intro found
    cases found with
    | none => exact Call.inStep_throw
    | some o => exact Call.inStep_ensure (hbody _) (steady.drop o)

theorem withArgs {params : List ValueKind} {words : List Word}
    {body : List (HostValue P.Object) → Call P α} (hbody : ∀ args, InStep R (body args).run) :
    InStep R (Call.withArgs F params words body).run := by
  apply Call.inStep_bind (Call.inStep_lift (steady.decodeArgs params words))
  intro args
  exact Call.inStep_ensure (hbody args) (InStep.forM steady.dropValue args)

theorem withMember {c : P.Class} {key : MemberKey} (own : typeKnown key.className c)
    {body : P.Member → Call P α} (hbody : ∀ m, InStep R (body m).run) :
    InStep R (Call.ofHost (Members.member F c key) >>= body).run :=
  Call.inStep_bind (Call.inStep_ofHost (steady.member own)) hbody

/-! ### Operations -/

theorem construct_inStep (className signature : String) (words : List Word) :
    InStep R (Call.construct F className signature words).run := by
  unfold Call.construct
  apply Call.inStep_result
  intro d
  split
  · exact Call.inStep_throw_bind
  · apply steady.withType
    intro c own
    apply steady.withMember own
    intro m
    apply steady.withArgs
    intro args
    apply Call.inStep_bind
    · exact Call.inStep_ofHost ((steady.log _).bind fun _ => steady.construct c m args)
    · exact fun o => Call.inStep_lift (steady.store o)

theorem invoke_inStep (target : Call.Target) (className name signature : String)
    (requested : ValueKind) (words : List Word) :
    InStep R (Call.invoke F target className name signature requested words).run := by
  unfold Call.invoke
  apply Call.inStep_result
  intro d
  apply Call.inStep_result
  intro kind
  apply steady.withType
  intro c own
  apply steady.withReceiver
  intro receiver
  apply steady.withMember own
  intro m
  apply steady.withArgs
  intro args
  apply Call.inStep_bind
  · exact Call.inStep_ofHost ((steady.log _).bind fun _ => steady.invoke receiver m kind args)
  · exact fun v => Call.inStep_lift (steady.encode requested v)

theorem read_inStep (target : Call.Target) (className name descriptor : String)
    (requested : ValueKind) :
    InStep R (Call.read F target className name descriptor requested).run := by
  unfold Call.read
  apply Call.inStep_result
  intro declared
  apply Call.inStep_result
  intro kind
  apply steady.withType
  intro c own
  apply steady.withReceiver
  intro receiver
  apply steady.withMember own
  intro m
  apply Call.inStep_bind
  · exact Call.inStep_ofHost ((steady.log _).bind fun _ => steady.readField receiver m kind)
  · exact fun v => Call.inStep_lift (steady.encode requested v)

theorem write_inStep (target : Call.Target) (className name descriptor : String)
    (requested : ValueKind) (w : Word) :
    InStep R (Call.write F target className name descriptor requested w).run := by
  unfold Call.write
  apply Call.inStep_result
  intro declared
  split
  · exact Call.inStep_throw_bind
  · apply steady.withType
    intro c own
    apply Call.inStep_bind (Call.inStep_lift (steady.decode declared w))
    intro v
    apply Call.inStep_ensure ?_ (steady.dropValue v)
    apply steady.withReceiver
    intro receiver
    apply steady.withMember own
    intro m
    exact Call.inStep_ofHost ((steady.log _).bind fun _ => steady.writeField receiver m v)

theorem preload_inStep (key : MemberKey) : InStep R (Call.preload F key).run := by
  have resolve : InStep R (Call.withType F key.className fun c => do
      discard <| Call.ofHost (Members.member F c key)).run := by
    apply steady.withType
    intro c own
    exact steady.withMember own fun _ => InStep.pure
  unfold Call.preload
  split
  · exact Call.inStep_bind (Call.inStep_result fun _ => InStep.pure) fun _ => resolve
  · exact Call.inStep_bind (Call.inStep_result fun _ => InStep.pure) fun _ => resolve

/-! ### Operations that report -/

theorem settle_inStep (call : CallName) (className member : String) {x : Call P Word}
    (hx : InStep R x.run) : InStep R (Dynamic.settle call className member x) := by
  apply hx.bind
  intro r
  cases r with
  | ok w => exact InStep.pure
  | error e => exact (steady.report _).bind fun _ => InStep.pure

/-- Every call of the interface that is about a member. -/
theorem about_inStep (o : Op P α) (about : o.key?.isSome = true) : InStep R (o.run F) := by
  cases o with
  | createObject className signature words =>
    apply (steady.construct_inStep className signature words).bind
    intro r
    cases r with
    | ok h => exact InStep.pure
    | error e => exact (steady.report _).bind fun _ => InStep.pure
  | callMethod target className name signature requested words =>
    exact steady.settle_inStep _ _ _
      (steady.invoke_inStep target className name signature requested words)
  | getField target className name descriptor requested =>
    exact steady.settle_inStep _ _ _
      (steady.read_inStep target className name descriptor requested)
  | setField target className name descriptor requested w =>
    apply InStep.discard
    apply steady.settle_inStep
    have written := steady.write_inStep target className name descriptor requested w
    exact Call.inStep_bind written fun _ => InStep.pure
  | preload key => exact steady.preload_inStep key
  | _ => cases about

/-- Every call of the interface that is about objects, memory or reports. -/
theorem plain_inStep (o : Op P α) (plain : o.isPlain = true) : InStep R (o.run F) := by
  cases o with
  | copyHandle h => exact (steady.lookup h).bind fun o => steady.store o
  | release h => exact steady.release h
  | releaseAll => exact steady.releaseAll
  | handleCount => exact steady.asksBridge
  | place bytes =>
    apply (steady.asks fun _ _ _ _ => rfl).bind
    intro memory
    exact (InStep.change fun _ _ => steady.memory _).bind fun _ => InStep.pure
  | readBuffer address =>
    apply (steady.asks fun _ _ _ _ => rfl).bind
    intro buffer
    cases buffer with
    | none => exact Tandem.halt
    | some bytes => exact InStep.pure
  | free address => exact steady.setMemory (·.free address)
  | report d => exact steady.report d
  | _ => cases plain

end HostSteady
end HostBridge
