import HostBridge.Proofs.Triple

/-!
Code that leaves the bridge alone. While a VM does not call back, the bridge is known through its
calls.
-/
namespace HostBridge

open Exec

variable {P : Platform} {α : Type}

/-- A computation that changes nothing of the bridge. -/
def Exec.LeavesBridge (x : Exec P α) : Prop := ∀ s, (x s).2.bridge = s.bridge

/-- Foreign code of whose VM nothing but entry points and drains uses the bridge. -/
structure Foreign.VmLeavesBridge (F : Foreign P (Exec P)) : Prop where
  start : ∀ config, (F.vm.start config).LeavesBridge
  loadImage : ∀ image, (F.vm.loadImage image).LeavesBridge
  enterIsolate : ∀ i, (F.vm.enterIsolate i).LeavesBridge
  exitIsolate : F.vm.exitIsolate.LeavesBridge
  enterScope : F.vm.enterScope.LeavesBridge
  exitScope : F.vm.exitScope.LeavesBridge
  shutdownIsolate : ∀ i, (F.vm.shutdownIsolate i).LeavesBridge
  stop : F.vm.stop.LeavesBridge

/-- States with a certain bridge. -/
def HasBridge (b : Bridge P) (s : State P) : Prop := s.bridge = b

namespace HasBridge

variable {b : Bridge P}

theorem update {E H : State P → Prop} (f : Bridge P → Bridge P) :
    Triple (HasBridge b) (Exec.update f) (fun _ => HasBridge (f b)) E H :=
  Triple.update fun _ h => congrArg f h

theorem keeps {x : Exec P α} (hx : x.LeavesBridge) :
    Gives (HasBridge b) x (fun _ => HasBridge b) := by
  intro s hs
  have h : (x s).2.bridge = b := (hx s).trans hs
  rcases hrun : x s with ⟨a | m | w, t⟩ <;> rw [hrun] at h
  · exact h
  · trivial
  · trivial

theorem tryCall {c : VmCall P} {x : Exec P (Except VmError α)} {done : α → VmReturn P}
    (hx : x.LeavesBridge) :
    Gives (HasBridge b) (Vm.tryCall c x done) (fun _ => HasBridge b) :=
  Triple.bind (Triple.record fun _ h => h) fun _ => (keeps hx).bind fun _ =>
    Triple.bind (Triple.record fun _ h => h) fun _ => Triple.pure fun _ h => h

theorem call {c : VmCall P} {x : Exec P Unit} (hx : x.LeavesBridge) :
    Gives (HasBridge b) (do
      Exec.record (.vmCall c)
      x) (fun _ => HasBridge b) :=
  Triple.bind (Triple.record fun _ h => h) fun _ => keeps hx

end HasBridge
end HostBridge
