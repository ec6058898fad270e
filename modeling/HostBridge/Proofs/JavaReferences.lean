import HostBridge.Proofs.JavaContract
import HostBridge.Proofs.ReferenceBook

/-!
What operations on the Java VM do to the book of references. Whatever a call throws, the book
balances after it, with what was in hand before and with the pin that the call gave, which nobody
else has yet.
-/
namespace HostBridge

open Exec

variable {N : Process} {α β : Type}

namespace Process

/-- The pin of an object. -/
abbrev objectId (o : N.platform.Object) : Nat := Pin.id (α := N.Object) o

/-- The pin of a type. -/
abbrev classId (c : N.platform.Class) : Nat := Pin.id (α := N.Class) c

/-- The pin that a value holds. -/
abbrev pin? (v : HostValue N.platform.Object) : Option Nat := v.reference?.map objectId

/-- The pins that values hold. -/
abbrev pins (vs : List (HostValue N.platform.Object)) : List Nat :=
  vs.flatMap fun v => (pin? v).toList

end Process

/-! ### The book of a state -/

/-- The book balances with pins in hand. -/
def Balanced (inHand : List Nat) (s : State N.platform) : Prop :=
  Balance inHand s.bridge.handles s.bridge.members.types s.ledger.references

/-- The book balances, and one of the pins in hand has no other owner. -/
def Fresh (id : Nat) (inHand : List Nat) (s : State N.platform) : Prop :=
  Balanced (id :: inHand) s ∧ s.ledger.references.owners.count id = 1

/-- The book balances after a pin was handed over, if one was, which nobody else has. -/
def Handed (given : Option Nat) (inHand : List Nat) : State N.platform → Prop :=
  match given with
  | none => Balanced inHand
  | some id => Fresh id inHand

/-- A computation after which the book balances as before, whatever is in hand, if it comes back. -/
def Exec.Balances (x : Exec N.platform α) : Prop :=
  ∀ inHand, Keeps (Balanced inHand) (fun _ => True) x

/-- A computation that hands over a new pin, if it succeeds and its value has one. -/
def Exec.Hands (x : Exec N.platform (Except HostError α)) (id? : α → Option Nat) : Prop :=
  ∀ inHand, Triple (Balanced inHand) x (fun r => Handed (r.toOption.bind id?) inHand)
    (Balanced inHand) fun _ => True

namespace Exec.Balances

variable {x : Exec N.platform α} {f : α → Exec N.platform β}

theorem pure (a : α) : Balances (pure a : Exec N.platform α) := fun _ => Keeps.pure

theorem bind (hx : Balances x) (hf : ∀ a, Balances (f a)) : Balances (x >>= f) :=
  fun inHand => (hx inHand).bind fun a => hf a inHand

theorem discard (hx : Balances x) : Balances (Functor.discard x) :=
  fun inHand => (hx inHand).discard

theorem gets (f : State N.platform → α) : Balances (Exec.gets f) := fun _ => Keeps.gets

theorem modify {f : State N.platform → State N.platform}
    (h : ∀ inHand s, Balanced inHand s → Balanced inHand (f s)) : Balances (Exec.modify f) :=
  fun inHand => Keeps.modify (h inHand)

theorem record (e : Happening N.platform) : Balances (Exec.record e) := modify fun _ _ h => h

theorem panic (m : String) : Balances (Exec.panic m : Exec N.platform α) := fun _ => Keeps.panic

theorem halt (w : Halt) : Balances (Exec.halt w : Exec N.platform α) :=
  fun _ => Keeps.halt fun _ _ => trivial

theorem attempt (hx : Balances x) : Balances x.attempt := fun inHand => (hx inHand).attempt

/-- What comes after hands over what it hands over. -/
theorem bind_hands {f : α → Exec N.platform (Except HostError β)} {id? : β → Option Nat}
    (hx : Balances x) (hf : ∀ a, (f a).Hands id?) : (x >>= f).Hands id? :=
  fun inHand => Triple.bind (hx inHand) fun a => hf a inHand

end Exec.Balances

/-! ### The Java VM -/

/-- A Java VM whose functions leave the book balanced, which always has room for another reference
and deletes the references that it is told to delete. -/
structure JavaVm.Balances (J : JavaVm N (Exec N.platform)) : Prop
    extends JavaVm.Each (fun x => x.Balances) J where
  attaches : ∀ w, J.attaches w = true
  room : ∀ s t b, J.hasRoom s = (.value b, t) → b = true

theorem Balanced.aside {inHand : List Nat} {s t : State N.platform} (h : Balanced inHand s)
    (same : s.holdings = t.holdings) : Balanced inHand t := by
  obtain ⟨handles, same⟩ := Prod.mk.inj same
  obtain ⟨members, references⟩ := Prod.mk.inj same
  have lasting : Balance inHand s.bridge.handles s.bridge.members.types
      (References.lasting s.ledger.references) := h.locals 0 []
  rw [handles, members, references] at lasting
  exact lasting.locals t.ledger.references.nextLocal t.ledger.references.locals

theorem Fresh.aside {id : Nat} {inHand : List Nat} {s t : State N.platform} (h : Fresh id inHand s)
    (same : s.holdings = t.holdings) : Fresh id inHand t := by
  have references := (Prod.mk.inj (Prod.mk.inj same).2).2
  have owners := congrArg (fun r : References => r.owners.count id) references
  exact ⟨h.1.aside same, owners.symm.trans h.2⟩

namespace JavaVm.Balances

variable {J : JavaVm N (Exec N.platform)} (vm : J.Balances)
include vm

/-- A new pin has one owner, since there is room for it. -/
theorem newPin (target : α) (inHand : List Nat) : Triple (Balanced inHand)
    (JavaThread.newPin J target)
    (fun r s => match r with
      | .ok p => Fresh p.id inHand s
      | .error _ => Balanced inHand s) (Balanced inHand) fun _ => True := by
  have room : Triple (Balanced inHand) J.hasRoom (fun b s => b = true ∧ Balanced inHand s)
      (Balanced inHand) fun _ => True := by
    intro s h
    have kept := vm.hasRoom inHand s h
    rcases run : J.hasRoom s with ⟨b | m | w, t⟩ <;> rw [run] at kept
    · exact ⟨vm.room s t b run, kept⟩
    · exact kept
    · trivial
  unfold JavaThread.newPin
  refine Triple.bind (vm.isTold inHand) fun told => ?_
  split
  · refine Triple.bind room fun b => Triple.of_and fun hb => ?_
    subst hb
    have added : Triple (Balanced inHand)
        (JavaThread.useReferences (N := N) (·.addPin (some target)))
        (fun p => Fresh p.id inHand) (Balanced inHand) fun _ => True :=
      fun s h => h.addPin target
    exact Triple.bind added fun p => Triple.pure fun _ h => h
  · exact Triple.pure fun _ h => h

theorem contract (inHand : List Nat) :
    JavaContract J (Balanced inHand) (fun _ => True) fun p => Fresh p.id inHand where
  each := vm.toEach.map fun h => h inHand
  aside h same _ := h.aside same
  handedAside h same _ := h.aside same
  newPin target := vm.newPin target inHand

end JavaVm.Balances

/-- A pin that a contract hands over is new in the book. -/
theorem Exec.Hands.of_contract {x : Exec N.platform (Except HostError β)}
    {pin? : β → Option (Pin α)} {id? : β → Option Nat}
    (hx : ∀ inHand, JavaContract.Hands (Balanced inHand) (fun _ => True)
      (fun p => Fresh p.id inHand) x pin?)
    (same : ∀ b, id? b = (pin? b).map (·.id)) : x.Hands id? := by
  intro inHand
  refine (hx inHand).weaken fun r s h => ?_
  cases r with
  | error e => exact h
  | ok b =>
    show Handed (id? b) inHand s
    rw [same]
    change JavaContract.Handed _ _ (pin? b) s at h
    cases given : pin? b <;> rw [given] at h <;> exact h

/-! ### The host -/

/-- A host that keeps the book: it enters owners and takes them away, hands over new pins and leaves
the book balanced besides. -/
structure Host.Balances (H : Host N.platform (Exec N.platform)) : Prop where
  shareObject : ∀ o, H.shareObject o = JavaHost.onReferences (N := N) (·.share o)
  dropObject : ∀ o, H.dropObject o = JavaHost.onReferences (N := N) (·.drop true o)
  shareClass : ∀ c, H.shareClass c = JavaHost.onReferences (N := N) (·.share c)
  dropClass : ∀ c, H.dropClass c = JavaHost.onReferences (N := N) (·.drop true c)
  resolveType : ∀ name, (H.resolveType name).Hands fun c => some (Process.classId c)
  resolveMember : ∀ type key, (H.resolveMember type key).Balances
  construct : ∀ type member args,
    (H.construct type member args).Hands fun o => o.map Process.objectId
  invoke : ∀ receiver member result args,
    (H.invoke receiver member result args).Hands Process.pin?
  readField : ∀ receiver member kind, (H.readField receiver member kind).Hands Process.pin?
  writeField : ∀ receiver member value, (H.writeField receiver member value).Balances

/-- The Java VM keeps the book as a host if it does so with its functions. -/
theorem JavaHost.host_balances {J : JavaVm N (Exec N.platform)} (vm : J.Balances) :
    (JavaHost.host J).Balances where
  shareObject _ := rfl
  dropObject o := by
    funext ledger world
    exact congrArg (fun reachable => onReferences (·.drop reachable o) ledger world)
      (vm.attaches world)
  shareClass _ := rfl
  dropClass c := by
    funext ledger world
    exact congrArg (fun reachable => onReferences (·.drop reachable c) ledger world)
      (vm.attaches world)
  resolveType name :=
    .of_contract (fun inHand => (vm.contract inHand).resolveType name) fun _ => rfl
  resolveMember type key inHand := (vm.contract inHand).resolveMember type key
  construct type member args :=
    .of_contract (fun inHand => (vm.contract inHand).construct type member args) fun _ => rfl
  invoke receiver member result args :=
    .of_contract (fun inHand => (vm.contract inHand).invoke receiver member result args)
      fun _ => rfl
  readField receiver member kind :=
    .of_contract (fun inHand => (vm.contract inHand).readField receiver member kind) fun _ => rfl
  writeField receiver member value inHand :=
    (vm.contract inHand).writeField receiver member value

end HostBridge
