import HostBridge.Proofs.HiddenCache
import HostBridge.Proofs.Permits

/-!
Dynamic operations in foreign code of two kinds that differ in look-ups alone: with the cache or
without it, they come to the same.
-/
namespace HostBridge

open Exec

variable {P : Platform} {α : Type}

variable {σ : Sight P} {L : Lookups P}

/-- Two computations that return the same, unseen, are alike. -/
theorem Like.alike_of_returns {x y : Exec P α} {a : α}
    (hx : ∀ s, Returns (Like σ L s) x fun b t => b = a ∧ Like σ L s t)
    (hy : ∀ s, Returns (Like σ L s) y fun b t => b = a ∧ Like σ L s t) :
    Alike (Like σ L) x y := by
  refine Alike.of_returns (a := a) (fun s t h => ?_) fun s t h => ?_
  · refine ((hx t).of_imp fun u same => ?_).weaken fun b u h => ⟨h.1, h.2.symm⟩
    exact same ▸ h.symm
  · refine (hy s).of_imp fun u same => ?_
    exact same ▸ h

/-- Foreign code of two kinds whose look-ups have the same fixed outcomes, which are not seen, and
that is alike otherwise. -/
structure Foreign.Twins (F G : Foreign P (Exec P)) (σ : Sight P) (L : Lookups P) : Prop where
  left : F.HidesLookups σ L
  right : G.HidesLookups σ L
  share : ∀ o, Alike (Like σ L) (F.host.share o) (G.host.share o)
  drop : ∀ o, Alike (Like σ L) (F.host.drop o) (G.host.drop o)
  construct : ∀ type member args,
    Alike (Like σ L) (F.host.construct type member args) (G.host.construct type member args)
  invoke : ∀ receiver member result args, Alike (Like σ L)
    (F.host.invoke receiver member result args) (G.host.invoke receiver member result args)
  readField : ∀ receiver member kind, Alike (Like σ L) (F.host.readField receiver member kind)
    (G.host.readField receiver member kind)
  writeField : ∀ receiver member value, Alike (Like σ L)
    (F.host.writeField receiver member value) (G.host.writeField receiver member value)

namespace Foreign.Twins

variable {F G : Foreign P (Exec P)} (twins : F.Twins G σ L) (R S : Resolution)
include twins

/-! ### Objects and values -/

theorem dropType (c : P.Class) : Alike (Like σ L) (F.host.dropType c) (G.host.dropType c) :=
  Like.alike_of_returns (a := ())
    (fun _ => (twins.left.dropType_returns c).weaken fun _ _ h => ⟨rfl, h⟩)
    fun _ => (twins.right.dropType_returns c).weaken fun _ _ h => ⟨rfl, h⟩

theorem lookup (h : Handle) : Alike (Like σ L) (Objects.lookup F h) (Objects.lookup G h) := by
  unfold Objects.lookup
  refine (Like.handles_alike (f := id)).bind fun table => ?_
  rcases table.get h with ⟨found, new, table'⟩
  refine (Like.setHandles_alike table').bind fun _ => ?_
  cases found with
  | none =>
    cases new with
    | false => exact Alike.pure
    | true => exact (Like.record_alike _).bind fun _ => Alike.pure
  | some o =>
    have shared : Alike (Like σ L) (F.host.share o >>= fun _ => pure (some o))
        (G.host.share o >>= fun _ => pure (some o)) := (twins.share o).bind fun _ => Alike.pure
    cases new with
    | false => exact shared
    | true => exact (Like.record_alike _).bind fun _ => shared

theorem store (o : Option P.Object) :
    Alike (Like σ L) (Objects.store F o) (Objects.store G o) := by
  unfold Objects.store
  refine (Like.handles_alike (f := id)).bind fun table => ?_
  refine (Like.setHandles_alike _).bind fun _ => ?_
  cases table.replaced o with
  | none => exact Alike.pure
  | some old => exact (twins.drop old).bind fun _ => Alike.pure

theorem release (h : Handle) : Alike (Like σ L) (Objects.release F h) (Objects.release G h) := by
  unfold Objects.release
  refine (Like.handles_alike (f := id)).bind fun table => ?_
  rcases table.release h with ⟨found, table'⟩
  refine (Like.setHandles_alike table').bind fun _ => ?_
  cases found with
  | none => exact Alike.pure
  | some o => exact (twins.drop o).bind fun _ => Alike.pure

theorem releaseAll : Alike (Like σ L) (Objects.releaseAll F) (Objects.releaseAll G) :=
  (Like.handles_alike (f := id)).bind fun _ => (Like.setHandles_alike _).bind fun _ =>
    (Alike.forM twins.drop _).bind fun _ => Alike.pure

theorem dropValue (v : HostValue P.Object) :
    Alike (Like σ L) (F.host.dropValue v) (G.host.dropValue v) := by
  unfold Host.dropValue
  split
  · exact twins.drop _
  · exact Alike.pure

theorem decode (kind : ValueKind) (w : Word) :
    Alike (Like σ L) (Call.decode F kind w) (Call.decode G kind w) := by
  cases kind with
  | string => exact (Like.readText_alike _).bind fun _ => Alike.pure
  | object | array => exact (twins.lookup _).bind fun _ => Alike.pure
  | _ => exact Alike.pure

theorem decodeEach (kinds : List ValueKind) (words : List Word) :
    Alike (Like σ L) (Call.decodeEach F kinds words) (Call.decodeEach G kinds words) := by
  induction kinds generalizing words with
  | nil => exact Alike.pure
  | cons kind kinds ih =>
    cases words with
    | nil => exact (ih []).bind fun _ => Alike.pure
    | cons w words =>
      exact (twins.decode kind w).bind fun _ => (ih words).bind fun _ => Alike.pure

theorem decodeArgs (params : List ValueKind) (words : List Word) :
    Alike (Like σ L) (Call.decodeArgs F params words) (Call.decodeArgs G params words) := by
  unfold Call.decodeArgs
  split
  · exact (Like.record_alike _).bind fun _ => twins.decodeEach params words
  · exact twins.decodeEach params words

theorem encode (requested : ValueKind) (v : HostValue P.Object) :
    Alike (Like σ L) (Call.encode F requested v) (Call.encode G requested v) := by
  unfold Call.encode
  split
  · exact (twins.dropValue v).bind fun _ => Alike.pure
  · cases v with
    | string text =>
      cases text with
      | none => exact Alike.pure
      | some text => exact (Like.placeText_alike text).bind fun _ => Alike.pure
    | object o => exact (twins.store o).bind fun _ => Alike.pure
    | _ => exact Alike.pure

/-! ### Parts of an operation -/

theorem withType {name : String} {body body' : P.Class → Call P α}
    (hbody : ∀ type, Alike (Like σ L) (body type).run (body' type).run) :
    Alike (Like σ L) (Call.withType F name body R).run (Call.withType G name body' S).run := by
  have found : Alike (Like σ L) (R.type F name) (S.type G name) :=
    Like.alike_of_returns (fun _ => twins.left.type_returns R name)
      fun _ => twins.right.type_returns S name
  refine Call.alike_bind (Call.alike_ofHost found) fun type => ?_
  exact Call.alike_ensure (hbody type) (twins.dropType type)

theorem withMember {type : P.Class} {key : MemberKey} {body body' : P.Member → Call P α}
    (hbody : ∀ member, Alike (Like σ L) (body member).run (body' member).run) :
    Alike (Like σ L) (Call.ofHost (R.member F type key) >>= body).run
      (Call.ofHost (S.member G type key) >>= body').run := by
  have found : Alike (Like σ L) (R.member F type key) (S.member G type key) :=
    Like.alike_of_returns (fun _ => twins.left.member_returns R type key)
      fun _ => twins.right.member_returns S type key
  exact Call.alike_bind (Call.alike_ofHost found) hbody

theorem withReceiver {target : Call.Target} {type : P.Class}
    {body body' : Receiver P.Object P.Class → Call P α}
    (hbody : ∀ receiver, Alike (Like σ L) (body receiver).run (body' receiver).run) :
    Alike (Like σ L) (Call.withReceiver F target type body).run
      (Call.withReceiver G target type body').run := by
  cases target with
  | static => exact hbody _
  | «instance» h =>
    refine Call.alike_bind (Call.alike_lift (twins.lookup h)) fun found => ?_
    cases found with
    | none => exact Call.alike_throw
    | some o => exact Call.alike_ensure (hbody _) (twins.drop o)

theorem withArgs {params : List ValueKind} {words : List Word}
    {body body' : List (HostValue P.Object) → Call P α}
    (hbody : ∀ args, Alike (Like σ L) (body args).run (body' args).run) :
    Alike (Like σ L) (Call.withArgs F params words body).run
      (Call.withArgs G params words body').run := by
  refine Call.alike_bind (Call.alike_lift (twins.decodeArgs params words)) fun args => ?_
  exact Call.alike_ensure (hbody args) (Alike.forM twins.dropValue args)

/-! ### Operations -/

theorem construct_alike (className signature : String) (words : List Word) :
    Alike (Like σ L) (Call.construct F className signature words R).run
      (Call.construct G className signature words S).run := by
  unfold Call.construct
  refine Call.alike_bind_result fun d => ?_
  split
  · exact Alike.pure
  · refine twins.withType R S fun type => twins.withMember R S fun member => ?_
    refine twins.withArgs fun args => ?_
    refine Call.alike_bind (Call.alike_ofHost ?_) fun o => Call.alike_lift (twins.store o)
    exact (Like.record_alike _).bind fun _ => twins.construct type member args

theorem invoke_alike (target : Call.Target) (className name signature : String)
    (requested : ValueKind) (words : List Word) :
    Alike (Like σ L) (Call.invoke F target className name signature requested words R).run
      (Call.invoke G target className name signature requested words S).run := by
  unfold Call.invoke
  refine Call.alike_bind_result fun d => Call.alike_bind_result fun kind => ?_
  refine twins.withType R S fun type => twins.withReceiver fun receiver => ?_
  refine twins.withMember R S fun member => twins.withArgs fun args => ?_
  refine Call.alike_bind (Call.alike_ofHost ?_) fun v => Call.alike_lift (twins.encode requested v)
  exact (Like.record_alike _).bind fun _ => twins.invoke receiver member kind args

theorem read_alike (target : Call.Target) (className name descriptor : String)
    (requested : ValueKind) :
    Alike (Like σ L) (Call.read F target className name descriptor requested R).run
      (Call.read G target className name descriptor requested S).run := by
  unfold Call.read
  refine Call.alike_bind_result fun declared => Call.alike_bind_result fun kind => ?_
  refine twins.withType R S fun type => twins.withReceiver fun receiver => ?_
  refine twins.withMember R S fun member => ?_
  refine Call.alike_bind (Call.alike_ofHost ?_) fun v => Call.alike_lift (twins.encode requested v)
  exact (Like.record_alike _).bind fun _ => twins.readField receiver member kind

theorem write_alike (target : Call.Target) (className name descriptor : String)
    (requested : ValueKind) (w : Word) :
    Alike (Like σ L) (Call.write F target className name descriptor requested w R).run
      (Call.write G target className name descriptor requested w S).run := by
  unfold Call.write
  refine Call.alike_bind_result fun declared => ?_
  split
  · exact Alike.pure
  · refine twins.withType R S fun type => ?_
    refine Call.alike_bind (Call.alike_lift (twins.decode declared w)) fun value => ?_
    refine Call.alike_ensure ?_ (twins.dropValue value)
    refine twins.withReceiver fun receiver => twins.withMember R S fun member => ?_
    exact Call.alike_ofHost ((Like.record_alike _).bind fun _ =>
      twins.writeField receiver member value)

theorem preload_alike (key : MemberKey) :
    Alike (Like σ L) (Call.preload F key R).run (Call.preload G key S).run := by
  have resolved : Alike (Like σ L)
      (Call.withType F key.className (R := R) fun type => do
        discard <| Call.ofHost (R.member F type key)).run
      (Call.withType G key.className (R := S) fun type => do
        discard <| Call.ofHost (S.member G type key)).run :=
    twins.withType R S fun type => twins.withMember R S fun member => Call.alike_pure
  unfold Call.preload
  split
  · exact Call.alike_bind (Call.alike_bind Alike.pure fun _ => Call.alike_pure) fun _ => resolved
  · exact Call.alike_bind (Call.alike_bind Alike.pure fun _ => Call.alike_pure) fun _ => resolved

theorem clear_alike : Alike (Like σ L) (R.clear F >>= fun _ => pure ())
    (S.clear G >>= fun _ => pure ()) :=
  Like.alike_of_returns (a := ())
    (fun _ => (twins.left.clear_returns R).bind fun _ => Returns.pure fun _ h => ⟨rfl, h⟩)
    fun _ => (twins.right.clear_returns S).bind fun _ => Returns.pure fun _ h => ⟨rfl, h⟩

omit twins in
theorem settle_alike (call : CallName) (className member : String) {x y : Call P Word}
    (h : Alike (Like σ L) x.run y.run) :
    Alike (Like σ L) (Dynamic.settle call className member x)
      (Dynamic.settle call className member y) := by
  refine h.bind fun r => ?_
  cases r with
  | ok w => exact Alike.pure
  | error e => exact (Like.record_alike _).bind fun _ => Alike.pure

/-- A plain call of the interface comes to the same. -/
theorem plain_alike (o : Op P α) (plain : o.isPlain = true) :
    Alike (Like σ L) (o.run F) (o.run G) := by
  cases o with
  | copyHandle h => exact (twins.lookup h).bind fun o => twins.store o
  | release h => exact twins.release h
  | releaseAll => exact twins.releaseAll
  | handleCount => exact Like.handles_alike
  | place bytes =>
    exact (Like.memory_alike (f := id)).bind fun _ => (Like.setMemory_alike fun _ => _).bind
      fun _ => Alike.pure
  | readBuffer address =>
    refine (Like.memory_alike (f := (·.buffer? address))).bind fun buffer => ?_
    cases buffer with
    | none => exact Alike.halt
    | some bytes => exact Alike.pure
  | free address => exact Like.setMemory_alike (·.free address)
  | report d => exact Like.record_alike _
  | _ => cases plain

/-- A call of the interface about a member comes to the same. -/
theorem op_alike (o : Op P α) (dynamic : o.isPlain = true ∨ o.key?.isSome = true) :
    Alike (Like σ L) (o.runBy R F) (o.runBy S G) := by
  rcases dynamic with plain | about
  · have same (R : Resolution) (F : Foreign P (Exec P)) : o.runBy R F = o.run F := by
      cases o with
      | createObject | callMethod | getField | setField | preload | clearMembers => cases plain
      | _ => rfl
    rw [same R F, same S G]
    exact twins.plain_alike o plain
  · cases o with
    | createObject className signature words =>
      refine (twins.construct_alike R S className signature words).bind fun r => ?_
      cases r with
      | ok h => exact Alike.pure
      | error e => exact (Like.record_alike _).bind fun _ => Alike.pure
    | callMethod target className name signature requested words =>
      exact settle_alike _ _ _
        (twins.invoke_alike R S target className name signature requested words)
    | getField target className name descriptor requested =>
      exact settle_alike _ _ _ (twins.read_alike R S target className name descriptor requested)
    | setField target className name descriptor requested w =>
      refine Alike.discard (settle_alike _ _ _ ?_)
      exact Call.alike_bind (twins.write_alike R S target className name descriptor requested w)
        fun _ => Call.alike_pure
    | preload key => exact twins.preload_alike R S key
    | _ => cases about

end Foreign.Twins
end HostBridge
