import HostBridge.Proofs.Deeds
import HostBridge.Proofs.Programs

/-!
The programs of a host. Where a host is given as programs, to ask it is to run one of them, after
the call was put on record. A token that comes of a look-up is put on record after the run.
-/
namespace HostBridge

variable {P : Platform}

/-! ### Look-ups -/

/-- A look-up by the host, whose token is put on record when it succeeds. This is how types and
members are looked up. -/
def Host.resolving {β : Type} (call : HostCall P) (found : β → HostCall P)
    (x : Exec P (Except HostError β)) : Exec P (Except HostError β) := do
  Exec.record (.host call)
  let r ← x
  if let .ok token := r then Exec.record (.host (found token))
  return r

namespace Host

variable (H : Host P (Exec P))

theorem callResolveType_eq (name : String) :
    H.callResolveType name =
      resolving (.resolveType name) (.typeFound name) (H.resolveType name) := by
  unfold callResolveType resolving
  congr 1; funext _; congr 1; funext r
  cases r <;> rfl

theorem callResolveMember_eq (type : P.Class) (key : MemberKey) :
    H.callResolveMember type key =
      resolving (.resolveMember type key) (.memberFound key) (H.resolveMember type key) := by
  unfold callResolveMember resolving
  congr 1; funext _; congr 1; funext r
  cases r <;> rfl

end Host

/-! ### Bodies -/

/-- A program of a host, with the call that is put on record before it runs and the token that is
put on record after it. -/
structure HostBody (P : Platform) where
  {β : Type}
  call : HostCall P
  program : Act P β
  token? : Outcome β → Option (HostCall P)

/-- The token of a look-up that succeeded. -/
def HostBody.found {γ : Type} (token : γ → HostCall P) :
    Outcome (Except HostError γ) → Option (HostCall P)
  | .value (.ok t) => some (token t)
  | _ => none

namespace Ask

/-- The program that answers. -/
def body (H : Host P (Act P)) : Ask P → HostBody P
  | .type name => ⟨.resolveType name, H.resolveType name, HostBody.found (.typeFound name)⟩
  | .member c key =>
    ⟨.resolveMember c key, H.resolveMember c key, HostBody.found (.memberFound key)⟩
  | .construct key c m args => ⟨.construct key c m args, H.construct c m args, fun _ => none⟩
  | .invoke key r m result args =>
    ⟨.invoke key r m result args, H.invoke r m result args, fun _ => none⟩
  | .readField key r m kind => ⟨.readField key r m kind, H.readField r m kind, fun _ => none⟩
  | .writeField key r m v => ⟨.writeField key r m v, H.writeField r m v, fun _ => none⟩

/-- The state in which that program runs. -/
def entered (H : Host P (Act P)) (a : Ask P) (s : State P) : State P :=
  { s with record := .host (a.body H).call :: s.record }

/-- How that program runs, with foreign code nested less than `limit` deep. -/
def answered (F : Foreign P (Act P)) (limit : Nat) (a : Ask P) (s : State P) :
    Outcome (a.body F.host).β × State P :=
  (System.ofPrograms F).exec limit (a.body F.host).program (a.entered F.host s)

/-- The state after the question. -/
def after (F : Foreign P (Act P)) (limit : Nat) (a : Ask P) (s : State P) : State P :=
  let r := a.answered F limit s
  { r.2 with
    record := (((a.body F.host).token? r.1).map Happening.host).toList ++ r.2.record }

variable {F : Foreign P (Act P)}

/-- To ask is to run that program. -/
theorem run_state (limit : Nat) (a : Ask P) (s : State P) :
    (a.run ((System.ofPrograms F).foreign limit).host s).2 = a.after F limit s := by
  have looked {γ δ : Type} (call : HostCall P) (found : γ → HostCall P) (reply : γ → δ)
      (b : Act P (Except HostError γ)) :
      ((Except.map reply <$> Host.resolving call found ((System.ofPrograms F).exec limit b)) s).2 =
        let r := (System.ofPrograms F).exec limit b { s with record := .host call :: s.record }
        { r.2 with
          record := ((HostBody.found found r.1).map Happening.host).toList ++ r.2.record } := by
    rw [Exec.run_map]
    unfold Host.resolving
    change (((System.ofPrograms F).exec limit b >>= _) { s with record := _ :: s.record }).2 = _
    rw [Exec.run_bind]
    rcases (System.ofPrograms F).exec limit b { s with record := .host call :: s.record } with
      ⟨(e | t) | m | w, u⟩ <;> rfl
  cases a with
  | type name =>
    change ((Except.map HostReply.type <$> Host.callResolveType _ name) s).2 = _
    rw [Host.callResolveType_eq]
    exact looked _ _ _ (F.host.resolveType name)
  | member c key =>
    change ((Except.map HostReply.member <$> Host.callResolveMember _ c key) s).2 = _
    rw [Host.callResolveMember_eq]
    exact looked _ _ _ (F.host.resolveMember c key)
  | _ => exact congrArg Prod.snd (Exec.run_map _ _ s)

theorem after_bridge (limit : Nat) (a : Ask P) (s : State P) :
    (a.after F limit s).bridge = (a.answered F limit s).2.bridge := rfl

theorem after_record (limit : Nat) (a : Ask P) (s : State P) : (a.after F limit s).record =
    (((a.body F.host).token? (a.answered F limit s).1).map Happening.host).toList ++
      (a.answered F limit s).2.record := rfl

theorem body_within {p : Permit P} (lookups : F.LookupsWithin p) (bodies : F.BodiesWithin p)
    (a : Ask P) : (a.body F.host).program.Within p := by
  cases a with
  | type name => exact lookups.type name
  | member c key => exact lookups.member c key
  | construct key c m args => exact bodies.construct c m args
  | invoke key r m result args => exact bodies.invoke r m result args
  | readField key r m kind => exact bodies.readField r m kind
  | writeField key r m v => exact bodies.writeField r m v

end Ask
end HostBridge
