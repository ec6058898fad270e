import HostBridge.Proofs.CallReferences
import HostBridge.Proofs.ProcessContract

/-!
What programs do to the book of references. A session leaves it alone but for its end, which drops
what the table and the cache keep; so the book balances after every call of the interface that makes
no second handle of an object, and after every program of such calls, however deep foreign code
nests.
-/
namespace HostBridge

open Exec

variable {N : Process} {α β : Type}

namespace Process

/-- Surroundings of a bridge that leave the book balanced. -/
structure Surroundings.Balances (S : Surroundings N (Exec N.platform)) : Prop where
  java : S.java.Balances
  library : S.library.Each fun x => x.Balances
  handler : ∀ h k args, (S.handler h k args).Balances
  sink : ∀ s player text, (S.sink s player text).Balances

namespace Surroundings.Balances

variable {S : Surroundings N (Exec N.platform)} (around : S.Balances)
  {extra : {α : Type} → N.Extra α → Exec N.platform α}
include around

theorem contract (inHand : List Nat) :
    ProcessContract S (Balanced inHand) (fun _ => True) fun p => Fresh p.id inHand where
  toJavaContract := around.java.contract inHand
  beside := Balanced.aside
  halts _ _ := trivial
  library := around.library.map fun h => h inHand
  handler h k args := around.handler h k args inHand
  sink s player text := around.sink s player text inHand

theorem host : (foreign S extra).host.Balances := JavaHost.host_balances around.java

theorem clear : (Lifecycle.clear (foreign S extra)).Balances :=
  .bind (.modify fun _ _ h => h) fun _ =>
    .bind around.host.clearMembers.discard fun _ => around.host.releaseAll.discard

theorem session :
    SessionContract (foreign S extra) (Balanced (N := N)) fun _ => True :=
  .ofUseBlind (fun inHand => (around.contract inHand).blind) around.clear

/-! ### Calls of the interface -/

theorem about_balances (o : Op N.platform α) (about : o.key?.isSome = true) :
    (o.run (foreign S extra)).Balances := by
  cases o with
  | createObject className signature words =>
    exact around.host.operation_balances (.create className signature words)
  | callMethod target className name signature requested words =>
    exact around.host.operation_balances (.call target className name signature requested words)
  | getField target className name descriptor requested =>
    exact around.host.operation_balances (.get target className name descriptor requested)
  | setField target className name descriptor requested w =>
    exact around.host.operation_balances (.set target className name descriptor requested w)
  | preload key => exact around.host.preload_balances key
  | _ => cases about

theorem interface (inHand : List Nat) :
    InterfaceContract (foreign S extra) (Balanced inHand) fun _ => True :=
  (around.contract inHand).interface fun o about => around.about_balances o about inHand

end Surroundings.Balances
end Process

/-! ### Programs -/

/-- Whether a call of the interface makes another handle of an object. -/
def Op.isCopying {P : Platform} : Op P α → Bool
  | copyHandle _ => true
  | _ => false

/-- A program that makes no second handle of an object. -/
def Act.NeverCopies {P : Platform} {α : Type} : Act P α → Prop
  | .bind x f => x.NeverCopies ∧ ∀ b, (f b).NeverCopies
  | .attempt x => x.NeverCopies
  | .op o => o.isCopying = false
  | .pure _ | .panic _ | .note _ | .world _ | .extra _ => True

namespace Process

namespace Surroundings.Balances

variable {S : Surroundings N (Exec N.platform)} (around : S.Balances)
  {extra : {α : Type} → N.Extra α → Exec N.platform α}
include around

/-- A call of the interface leaves the book balanced unless it makes a second handle of an object.
-/
theorem op_balances (o : Op N.platform α) (single : o.isCopying = false) :
    (o.run (foreign S extra)).Balances := by
  by_cases use : o.isPlain = false ∧ o.isClearing = false
  · exact fun inHand => (around.interface inHand).op_keeps o use.1 use.2
  cases o with
  | copyHandle h => cases single
  | release h => exact around.host.release h
  | releaseAll => exact around.host.releaseAll
  | handleCount => exact .gets _
  | place bytes => exact .bind (.gets _) fun _ => .bind (.modify fun _ _ h => h) fun _ => .pure _
  | readBuffer address =>
    refine .bind (.gets _) fun buffer => ?_
    cases buffer with
    | none => exact .halt _
    | some bytes => exact .pure _
  | free address => exact .modify fun _ _ h => h
  | report d => exact .record _
  | shutdown => exact around.session.shutdown_keeps
  | clearMembers => exact around.host.clearMembers
  | _ => exact absurd ⟨rfl, rfl⟩ use

theorem act_balances (more : ∀ {α : Type} (o : N.Extra α), (extra o).Balances)
    {a : Act N.platform α} (never : a.NeverCopies) : (a.run (foreign S extra)).Balances := by
  induction a with
  | pure a => exact .pure a
  | bind x f ihx ihf => exact .bind (ihx never.1) fun b => ihf b (never.2 b)
  | panic m => exact .panic m
  | attempt x ih => exact (ih never).attempt
  | note n => exact .record _
  | world f => exact fun _ _ h => h
  | op o => exact around.op_balances o never
  | extra o =>
    cases o with
    | inl r => exact fun inHand => (around.contract inHand).request r
    | inr o => exact more o

end Surroundings.Balances

/-! ### Systems -/

/-- Surroundings whose programs make no second handle of an object. -/
structure Surroundings.NeverCopies (S : Surroundings N (Act N.platform)) : Prop where
  java : S.java.Each fun a => a.NeverCopies
  library : S.library.Each fun a => a.NeverCopies
  handler : ∀ h k args, (S.handler h k args).NeverCopies
  sink : ∀ s player text, (S.sink s player text).NeverCopies

/-- Surroundings with a Java VM that has room for every reference and deletes those that it is told
to delete, since every thread can be attached to it. -/
structure Surroundings.Ample (S : Surroundings N (Act N.platform)) : Prop where
  attaches : ∀ w, S.java.attaches w = true
  room : ∀ F s b t, S.java.hasRoom.run F s = (.value b, t) → b = true

variable {S : Surroundings N (Act N.platform)}
  {extra : {α : Type} → N.Extra α → Act N.platform α}

/-- Surroundings given as programs leave the book balanced if these do where they run. -/
theorem Surroundings.Ample.balances (ample : S.Ample) (never : S.NeverCopies) {limit : Nat}
    (run : ∀ {α : Type} {a : Act N.platform α}, a.NeverCopies →
      ((system S extra).exec limit a).Balances) :
    (S.map fun a => (system S extra).exec limit a).Balances where
  java := {
    toEach := never.java.map run
    attaches := ample.attaches
    room := fun s t b ran => by
      cases limit with
      | zero => cases ran
      | succ limit => exact ample.room _ s b t ran }
  library := never.library.map run
  handler h k args := run (never.handler h k args)
  sink s player text := run (never.sink s player text)

/-- A program leaves the book balanced, whatever it runs into and however deep. -/
theorem exec_balances (ample : S.Ample) (never : S.NeverCopies)
    (others : ∀ {α : Type} (o : N.Extra α), (extra o).NeverCopies) (limit : Nat)
    {a : Act N.platform α} (ha : a.NeverCopies) : ((system S extra).exec limit a).Balances := by
  induction limit generalizing α with
  | zero => exact .halt _
  | succ limit ih =>
    -- the surroundings run their programs one level further in
    exact (ample.balances never ih).act_balances (fun o => ih (others o)) ha

end Process
end HostBridge
