import HostBridge.Proofs.HandleHistory
import HostBridge.Proofs.HostCalls
import HostBridge.Proofs.JavaReferences
import HostBridge.Proofs.Permits
import HostBridge.Proofs.Stages

/-!
What the calls of the interface do to the book of references. What an operation takes in hand it
drops at its end, however it ends, and a pin that it was handed it keeps under a new handle or
drops; so the book balances after it with what was in hand before.
-/
namespace HostBridge

open Exec

variable {N : Process} {α β : Type}

/-! ### Pins in hand -/

/-- A computation that leaves pins in the hands of its caller. -/
def Exec.Lends (x : Exec N.platform α) (pins : α → List Nat) : Prop :=
  ∀ inHand, Triple (Balanced inHand) x (fun a => Balanced (pins a ++ inHand)) (Balanced inHand)
    fun _ => True

/-- A computation that leaves pins in the hands of its caller and does not panic. -/
def Exec.Takes (x : Exec N.platform α) (pins : α → List Nat) : Prop :=
  ∀ inHand {E : State N.platform → Prop},
    Triple (Balanced inHand) x (fun a => Balanced (pins a ++ inHand)) E fun _ => True

/-- A computation that drops pins that were in hand. -/
def Exec.Drops (x : Exec N.platform Unit) (pins : List Nat) : Prop :=
  ∀ inHand {E : State N.platform → Prop},
    Triple (Balanced (pins ++ inHand)) x (fun _ => Balanced inHand) E fun _ => True

/-- What is taken in hand for a computation is dropped after it. -/
theorem Exec.Lends.use {x : Exec N.platform α} {pins : α → List Nat} (hx : x.Lends pins)
    {body : α → Exec N.platform β} {after : α → Exec N.platform Unit}
    (hbody : ∀ a, (body a).Balances) (hafter : ∀ a, (after a).Drops (pins a)) :
    (x >>= fun a => (body a).ensure (after a)).Balances :=
  fun inHand => Triple.bind (hx inHand) fun a =>
    Triple.ensure (hbody a (pins a ++ inHand)) (fun _ => hafter a inHand) (hafter a inHand)

theorem Exec.Takes.lends {x : Exec N.platform α} {pins : α → List Nat} (hx : x.Takes pins) :
    x.Lends pins :=
  fun inHand => hx inHand

theorem Exec.Drops.forM {f : α → Exec N.platform Unit} {pins : α → List Nat}
    (hf : ∀ a, (f a).Drops (pins a)) (l : List α) : (l.forM f).Drops (l.flatMap pins) := by
  intro inHand E
  induction l with
  | nil => exact Triple.pure fun _ h => h
  | cons a l ih =>
    have first := hf a (l.flatMap pins ++ inHand) (E := E)
    rw [← List.append_assoc] at first
    exact Triple.bind first fun _ => ih

/-- A pin that was handed over is in hand. -/
theorem Handed.balanced {given : Option Nat} {inHand : List Nat} {s : State N.platform}
    (h : Handed given inHand s) : Balanced (given.toList ++ inHand) s := by
  cases given with
  | none => exact h
  | some id => exact h.1

/-- The book balances, and a pin is among those that are kept. -/
def Kept (id : Nat) (inHand : List Nat) (s : State N.platform) : Prop :=
  Balanced inHand s ∧
    id ∈ keptPins (O := N.Object) (C := N.Class) s.bridge.handles s.bridge.members.types

/-- The table is changed to one that keeps less, and what is no longer kept is in hand. -/
theorem setHandles_lends {table table' : HandleTable N.platform.Object} {pins : List Nat}
    (step : ∀ {inHand types r}, Balance (C := N.Class) inHand table types r →
      Balance (C := N.Class) (pins ++ inHand) table' types r)
    (inHand : List Nat) {E : State N.platform → Prop} :
    Triple (fun s => table = s.bridge.handles ∧ Balanced inHand s)
      (Exec.update fun b : Bridge N.platform => { b with handles := table' })
      (fun _ => Balanced (pins ++ inHand)) E fun _ => True := by
  rintro s ⟨rfl, h⟩
  exact step h

namespace Host.Balances

variable {F : Foreign N.platform (Exec N.platform)} (host : F.host.Balances)
include host

/-! ### Objects and types -/

theorem drop (o : N.platform.Object) : (F.host.drop o).Drops [Process.objectId o] := by
  unfold Host.drop
  rw [host.dropObject]
  exact fun _ _ _ h => Balance.drop h

theorem dropType (c : N.platform.Class) : (F.host.dropType c).Drops [Process.classId c] := by
  unfold Host.dropType
  rw [host.dropClass]
  exact fun _ _ _ h => Balance.drop h

theorem share (o : N.platform.Object) (inHand : List Nat) {E : State N.platform → Prop} :
    Triple (Kept (Process.objectId o) inHand) (F.host.share o)
      (fun _ => Balanced (Process.objectId o :: inHand)) E fun _ => True := by
  unfold Host.share
  rw [host.shareObject]
  exact fun _ h => h.1.share (h.1.mem_owners_of_kept h.2)

theorem shareType (c : N.platform.Class) (inHand : List Nat) {E : State N.platform → Prop} :
    Triple (Kept (Process.classId c) inHand) (F.host.shareType c)
      (fun _ => Balanced (Process.classId c :: inHand)) E fun _ => True := by
  unfold Host.shareType
  rw [host.shareClass]
  exact fun _ h => h.1.share (h.1.mem_owners_of_kept h.2)

/-- An object that nobody else has is kept under a new handle. -/
theorem store (o : Option N.platform.Object) (inHand : List Nat) {E : State N.platform → Prop} :
    Triple (Handed (o.map Process.objectId) inHand) (Objects.store F o) (fun _ => Balanced inHand)
      E fun _ => True := by
  unfold Objects.store
  refine Triple.bind Triple.asks fun table => ?_
  have entered : Triple
      (fun s => table = s.bridge.handles ∧ Handed (o.map Process.objectId) inHand s)
      (Exec.update fun b : Bridge N.platform => { b with handles := (table.store o).2 })
      (fun _ => Balanced (((table.replaced o).map Process.objectId).toList ++ inHand)) E
      fun _ => True := by
    rintro s ⟨rfl, h⟩
    cases o with
    | none => exact h
    | some p => exact h.1.insert h.2
  refine Triple.bind entered fun _ => ?_
  cases table.replaced o with
  | none => exact Triple.pure fun _ h => h
  | some old => exact Triple.bind (host.drop old inHand) fun _ => Triple.pure fun _ h => h

/-- A reference to what is behind a handle is in hand. -/
theorem lookup (h : Handle) :
    (Objects.lookup F h).Takes fun o => (o.map Process.objectId).toList := by
  intro inHand E
  unfold Objects.lookup
  refine Triple.bind Triple.asks fun table => ?_
  have looked : Triple (fun s => table = s.bridge.handles ∧ Balanced inHand s)
      (Exec.update fun b : Bridge N.platform => { b with handles := (table.get h).2.2 })
      (fun _ s => Balanced inHand s ∧
        ∀ o, (table.get h).1 = some o → Kept (Process.objectId o) inHand s)
      E fun _ => True := by
    rintro s ⟨rfl, balanced⟩
    have stays := Balance.looked balanced h
    exact ⟨stays, fun o found => ⟨stays, Balance.mem_kept_of_get found⟩⟩
  rcases got : table.get h with ⟨found, new, table'⟩
  rw [got] at looked
  refine Triple.bind looked fun _ => ?_
  cases new <;> cases found
  · exact Triple.pure fun _ h => h.1
  · exact Triple.bind ((host.share _ inHand).of_imp fun s h => h.2 _ rfl) fun _ =>
      Triple.pure fun _ h => h
  · exact Triple.bind (Triple.record fun _ kept => kept.1) fun _ => Triple.pure fun _ h => h
  · refine Triple.bind (Triple.record fun s h => ?_) fun _ =>
      Triple.bind (host.share _ inHand) fun _ => Triple.pure fun _ h => h
    exact h.2 _ rfl

theorem release (h : Handle) : (Objects.release F h).Balances := by
  intro inHand
  unfold Objects.release
  refine Triple.bind Triple.asks fun table => ?_
  have step {inHand types r} (b : Balance (C := N.Class) inHand table types r) :
      Balance (C := N.Class) (((table.release h).1.map Process.objectId).toList ++ inHand)
        (table.release h).2 types r := b.release h
  rcases got : table.release h with ⟨found, table'⟩
  rw [got] at step
  refine Triple.bind (setHandles_lends step inHand) fun _ => ?_
  cases found with
  | none => exact Triple.pure fun _ h => h
  | some p => exact Triple.bind (host.drop p inHand) fun _ => Triple.pure fun _ h => h

theorem releaseAll : (Objects.releaseAll F).Balances := by
  intro inHand
  unfold Objects.releaseAll
  refine Triple.bind Triple.asks fun table => ?_
  have step {inHand types r} (b : Balance (C := N.Class) inHand table types r) :
      Balance (C := N.Class) (table.releaseAll.1.map Process.objectId ++ inHand)
        table.releaseAll.2 types r := b.releaseAll
  rw [List.map_eq_flatMap] at step
  refine Triple.bind (setHandles_lends step inHand) fun _ => ?_
  exact Triple.bind (Exec.Drops.forM host.drop _ inHand) fun _ => Triple.pure fun _ h => h

/-! ### The cache -/

/-- A type that was found twice is dropped, and the one in the cache stays. -/
theorem dropType_kept (c kept : N.platform.Class) (inHand : List Nat)
    {E : State N.platform → Prop} :
    Triple (Kept (Process.classId kept) ([Process.classId c] ++ inHand)) (F.host.dropType c)
      (fun _ => Kept (Process.classId kept) inHand) E fun _ => True :=
  fun s h => ⟨host.dropType c inHand (E := E) s h.1, h.2⟩

theorem callResolveType (name : String) :
    (F.host.callResolveType name).Hands fun c => some (Process.classId c) := by
  refine (Exec.Balances.record _).bind_hands fun _ inHand => ?_
  refine Triple.bind (host.resolveType name inHand) fun r => ?_
  cases r with
  | error e => exact Triple.pure fun _ h => h
  | ok c =>
    have noted (e : Happening N.platform) : Triple (Fresh (Process.classId c) inHand)
        (Exec.record e) (fun _ => Fresh (Process.classId c) inHand) (Balanced inHand)
        fun _ => True := fun _ h => h
    exact Triple.bind (noted _) fun _ => Triple.pure fun _ h => h

/-- A reference to the type of a name is in hand. -/
theorem type (name : String) :
    (Members.type F name).Lends fun r => (r.toOption.map Process.classId).toList := by
  intro inHand
  unfold Members.type
  have shared (c : N.platform.Class) {E : State N.platform → Prop} :
      Triple (Kept (Process.classId c) inHand) (do
          F.host.shareType c
          return (.ok c : Except HostError N.platform.Class))
        (fun r => Balanced ((r.toOption.map Process.classId).toList ++ inHand)) E fun _ => True :=
    Triple.bind (host.shareType c inHand) fun _ => Triple.pure fun _ h => h
  refine Triple.bind Triple.asks fun cache => ?_
  split
  · rename_i c found
    refine (shared c).of_imp ?_
    rintro s ⟨rfl, h⟩
    exact ⟨h, Balance.mem_kept_of_type found⟩
  · refine Triple.bind ((host.callResolveType name inHand).of_imp fun _ h => h.2) fun r => ?_
    cases r with
    | error e => exact Triple.pure fun _ h => h
    | ok c =>
      -- the look-up may have run code that cached a type of this name: then that one stays
      refine Triple.bind Triple.asks fun cache => ?_
      have entered {E : State N.platform → Prop} :
          Triple (fun s => cache = s.bridge.members ∧ Fresh (Process.classId c) inHand s)
            (Exec.update fun b : Bridge N.platform =>
              { b with members := (cache.addType name c).2.2 })
            (fun _ => Kept (Process.classId (cache.addType name c).1)
              ((if (cache.addType name c).2.1 then [] else [Process.classId c]) ++ inHand))
            E fun _ => True := by
        rintro s ⟨rfl, h⟩
        exact h.1.found name h.2
      rcases added : cache.addType name c with ⟨kept, fresh, cache'⟩
      rw [added] at entered
      refine Triple.bind entered fun _ => ?_
      cases fresh with
      | true => exact shared kept
      | false => exact Triple.bind (host.dropType_kept c kept inHand) fun _ => shared kept

theorem callResolveMember (type : N.platform.Class) (key : MemberKey) :
    (F.host.callResolveMember type key).Balances := by
  refine .bind (.record _) fun _ => .bind (host.resolveMember type key) fun r => ?_
  cases r with
  | error e => exact .pure _
  | ok m => exact .bind (.record _) fun _ => .pure _

theorem member (type : N.platform.Class) (key : MemberKey) :
    (Members.member F type key).Balances := by
  unfold Members.member
  refine .bind (.gets _) fun cache => ?_
  split
  · exact .pure _
  · refine .bind (host.callResolveMember type key) fun r => ?_
    cases r with
    | error e => exact .pure _
    | ok m =>
      intro inHand
      refine Triple.bind Triple.asks fun cache => ?_
      have entered : Triple (fun s => cache = s.bridge.members ∧ Balanced inHand s)
          (Exec.update fun b : Bridge N.platform => { b with members := (cache.addMember key m).2 })
          (fun _ => Balanced inHand) (Balanced inHand) fun _ => True := by
        rintro s ⟨rfl, h⟩
        have types := (s.bridge.members.addMember_spec key m).2.2
        change Balance inHand _ (s.bridge.members.addMember key m).2.types _
        rw [types]
        exact h
      exact Triple.bind entered fun _ => Triple.pure fun _ h => h

/-- The types of the cache are dropped. -/
theorem clearMembers : (Members.clear F).Balances := by
  intro inHand
  unfold Members.clear
  refine Triple.bind Triple.asks fun cache => ?_
  have emptied : Triple (fun s => cache = s.bridge.members ∧ Balanced inHand s)
      (Exec.update fun b : Bridge N.platform => { b with members := b.members.clear })
      (fun _ => Balanced ((cache.types.map (·.2)).flatMap (fun c => [Process.classId c]) ++ inHand))
      (Balanced inHand) fun _ => True := by
    rintro s ⟨rfl, h⟩
    rw [← List.map_eq_flatMap, List.map_map]
    exact h.clearTypes
  refine Triple.bind emptied fun _ => ?_
  exact Triple.bind (Exec.Drops.forM host.dropType _ inHand) fun _ => Triple.pure fun _ h => h

/-! ### Words and values -/

theorem dropValue (v : HostValue N.platform.Object) :
    (F.host.dropValue v).Drops (Process.pin? v).toList := by
  unfold Host.dropValue Process.pin?
  cases v.reference? with
  | none => exact fun _ _ => Triple.pure fun _ h => h
  | some o => exact host.drop o

theorem dropValues (vs : List (HostValue N.platform.Object)) :
    (F.host.dropValues vs).Drops (Process.pins vs) :=
  Exec.Drops.forM host.dropValue vs

theorem decode (kind : ValueKind) (w : Word) :
    (Call.decode F kind w).Takes fun v => (Process.pin? v).toList := by
  have looked : Exec.Takes (do return HostValue.object (← Objects.lookup F w.toHandle))
      fun v => (Process.pin? v).toList :=
    fun inHand _ => Triple.bind (host.lookup _ inHand) fun o => Triple.pure fun _ h => by
      cases o <;> exact h
  cases kind with
  | object | array => exact looked
  | string =>
    intro inHand E
    refine Triple.bind ?_ fun _ => Triple.pure fun _ h => h
    unfold Call.readText
    split
    · exact Triple.pure fun _ h => h
    · refine Triple.bind Triple.asked fun buffer => ?_
      cases buffer with
      | none => exact Triple.halt fun _ _ => trivial
      | some bytes => exact Triple.pure fun _ h => h
  | _ => exact fun _ _ => Triple.pure fun _ h => h

theorem decodeEach (kinds : List ValueKind) (words : List Word) :
    (Call.decodeEach F kinds words).Takes Process.pins := by
  induction kinds generalizing words with
  | nil => exact fun _ _ => Triple.pure fun _ h => h
  | cons kind kinds ih =>
    cases words with
    | nil =>
      refine fun inHand _ => Triple.bind (ih [] inHand) fun vs => Triple.pure fun _ h => ?_
      cases kind <;> exact h
    | cons w words =>
      refine fun inHand _ => Triple.bind (host.decode kind w inHand) fun v =>
        Triple.bind (ih words _) fun vs => Triple.pure fun _ h => h.perm ?_
      have first : Process.pins (v :: vs) = (Process.pin? v).toList ++ Process.pins vs :=
        List.flatMap_cons
      rw [first, ← List.append_assoc]
      exact List.perm_append_comm.append_right _

theorem decodeArgs (params : List ValueKind) (words : List Word) :
    (Call.decodeArgs F params words).Takes Process.pins := by
  unfold Call.decodeArgs
  split
  · exact fun inHand _ => Triple.bind (Triple.record fun _ h => h) fun _ =>
      host.decodeEach params words inHand
  · exact host.decodeEach params words

/-- An object that was handed over is kept, or dropped if it was not asked for. -/
theorem encode (requested : ValueKind) (v : HostValue N.platform.Object) (inHand : List Nat)
    {E : State N.platform → Prop} :
    Triple (Handed (Process.pin? v) inHand) (Call.encode F requested v)
      (fun _ => Balanced inHand) E fun _ => True := by
  unfold Call.encode
  split
  · exact Triple.bind ((host.dropValue v inHand).of_imp fun _ h => h.balanced) fun _ =>
      Triple.pure fun _ h => h
  · cases v with
    | string text =>
      cases text with
      | none => exact Triple.pure fun _ h => h
      | some text =>
        refine Triple.bind ?_ fun _ => Triple.pure fun _ h => h
        exact Triple.bind Triple.asked fun _ => Triple.bind (Triple.modify fun _ h => h) fun _ =>
          Triple.pure fun _ h => h
    | object o =>
      refine Triple.bind ((host.store o inHand).of_imp fun _ h => ?_) fun _ =>
        Triple.pure fun _ h => h
      cases o <;> exact h
    | _ => exact Triple.pure fun _ h => h

/-! ### Parts of an operation -/

/-- The type of an operation is in hand until its end. -/
theorem withType {name : String} {body : N.platform.Class → Call N.platform α}
    (hbody : ∀ c, (body c).run.Balances) : (Call.withType F name body).run.Balances := by
  intro inHand
  rw [Call.withType_cached, Call.run_ofHost_bind]
  refine Triple.bind (host.type name inHand) fun r => ?_
  cases r with
  | error e => exact Triple.pure fun _ h => h
  | ok c =>
    exact Triple.ensure (hbody c _) (fun _ => host.dropType c inHand) (host.dropType c inHand)

/-- So is its receiver. -/
theorem withReceiver {target : Call.Target} {type : N.platform.Class}
    {body : Receiver N.platform.Object N.platform.Class → Call N.platform α}
    (hbody : ∀ r, (body r).run.Balances) : (Call.withReceiver F target type body).run.Balances := by
  unfold Call.withReceiver
  cases target with
  | static => exact hbody _
  | «instance» h =>
    intro inHand
    rw [Call.run_lift_bind]
    refine Triple.bind (host.lookup h inHand) fun found => ?_
    cases found with
    | none => exact Triple.pure fun _ h => h
    | some o => exact Triple.ensure (hbody _ _) (fun _ => host.drop o inHand) (host.drop o inHand)

/-- So are the objects among its arguments. -/
theorem withArgs {params : List ValueKind} {words : List Word}
    {body : List (HostValue N.platform.Object) → Call N.platform α}
    (hbody : ∀ args, (body args).run.Balances) :
    (Call.withArgs F params words body).run.Balances := by
  unfold Call.withArgs
  rw [Call.run_lift_bind]
  exact (host.decodeArgs params words).lends.use hbody fun args => host.dropValues args

omit host in
/-- What was handed over is passed on to who keeps or drops it. -/
theorem handOn {x : Exec N.platform (Except HostError β)} {id? : β → Option Nat}
    (hx : x.Hands id?) {k : β → Exec N.platform α}
    (hk : ∀ b inHand, Triple (Handed (id? b) inHand) (k b) (fun _ => Balanced inHand)
      (Balanced inHand) fun _ => True) :
    (Call.ofHost x >>= fun b => (liftM (k b) : Call N.platform α)).run.Balances := by
  intro inHand
  rw [Call.run_ofHost_bind]
  refine Triple.bind (hx inHand) fun r => ?_
  cases r with
  | error e => exact Triple.pure fun _ h => h
  | ok b => exact Triple.bind (hk b inHand) fun _ => Triple.pure fun _ h => h

theorem bindMember {type : N.platform.Class} {key : MemberKey}
    {body : N.platform.Member → Call N.platform α} (hbody : ∀ m, (body m).run.Balances) :
    (Call.ofHost (Members.member F type key) >>= body).run.Balances :=
  fun inHand => Call.keeps_bind (Call.keeps_ofHost (host.member type key inHand)) fun m =>
    hbody m inHand

/-! ### Operations -/

theorem construct_balances (className signature : String) (words : List Word) :
    (Call.construct F className signature words).run.Balances := by
  intro inHand
  unfold Call.construct
  refine Call.keeps_bind_ofDescriptor fun d parsed => ?_
  split
  case isTrue => exact Call.keeps_throw_bind
  case isFalse =>
    refine host.withType (fun c => host.bindMember fun m => host.withArgs fun args => ?_) inHand
    exact handOn ((Exec.Balances.record _).bind_hands fun _ => host.construct c m args)
      fun o inHand => host.store o inHand

theorem invoke_balances (target : Call.Target) (className name signature : String)
    (requested : ValueKind) (words : List Word) :
    (Call.invoke F target className name signature requested words).run.Balances := by
  intro inHand
  unfold Call.invoke
  refine Call.keeps_bind_ofDescriptor fun d parsed => Call.keeps_bind_result fun kind _ => ?_
  refine host.withType (fun c => host.withReceiver fun r => host.bindMember fun m =>
    host.withArgs fun args => ?_) inHand
  exact handOn ((Exec.Balances.record _).bind_hands fun _ => host.invoke r m kind args)
    fun v inHand => host.encode requested v inHand

theorem read_balances (target : Call.Target) (className name descriptor : String)
    (requested : ValueKind) :
    (Call.read F target className name descriptor requested).run.Balances := by
  intro inHand
  unfold Call.read
  refine Call.keeps_bind_ofDescriptor fun declared parsed =>
    Call.keeps_bind_result fun kind _ => ?_
  refine host.withType (fun c => host.withReceiver fun r => host.bindMember fun m => ?_) inHand
  exact handOn ((Exec.Balances.record _).bind_hands fun _ => host.readField r m kind)
    fun v inHand => host.encode requested v inHand

theorem write_balances (target : Call.Target) (className name descriptor : String)
    (requested : ValueKind) (w : Word) :
    (Call.write F target className name descriptor requested w).run.Balances := by
  intro inHand
  unfold Call.write
  refine Call.keeps_bind_ofDescriptor fun declared parsed => ?_
  split
  case isTrue => exact Call.keeps_throw_bind
  case isFalse =>
    refine host.withType (fun c => ?_) inHand
    rw [Call.run_lift_bind]
    refine (host.decode declared w).lends.use (fun v => ?_) fun v => host.dropValue v
    refine host.withReceiver fun r => host.bindMember fun m inHand => Call.keeps_ofHost ?_
    exact ((Exec.Balances.record _).bind fun _ => host.writeField r m v) inHand

theorem preload_balances (key : MemberKey) : (Call.preload F key).run.Balances := by
  have resolves : (Call.withType F key.className fun type => do
      discard <| Call.ofHost (Members.member F type key)).run.Balances :=
    host.withType fun c inHand =>
      Call.keeps_bind (Call.keeps_ofHost (host.member c key inHand)) fun _ => Call.keeps_pure
  intro inHand
  unfold Call.preload
  split
  · exact Call.keeps_bind (Call.keeps_bind_ofDescriptor fun _ _ => Call.keeps_pure)
      fun _ => resolves inHand
  · exact Call.keeps_bind (Call.keeps_bind_ofDescriptor fun _ _ => Call.keeps_pure)
      fun _ => resolves inHand

theorem attempt_balances (o : Operation α) : (o.attempt F).run.Balances := by
  cases o with
  | create className signature words => exact host.construct_balances className signature words
  | call target className name signature requested words =>
    exact host.invoke_balances target className name signature requested words
  | get target className name descriptor requested =>
    exact host.read_balances target className name descriptor requested
  | set target className name descriptor requested w =>
    exact host.write_balances target className name descriptor requested w

/-- An operation leaves the book balanced, whether it fails or not. -/
theorem operation_balances (o : Operation α) : (o.op.run F).Balances := by
  rw [Operation.run_eq]
  refine .bind (host.attempt_balances o) fun r => ?_
  cases r with
  | ok a => exact .pure a
  | error e => exact .bind (.record _) fun _ => .pure _

end Host.Balances
end HostBridge
