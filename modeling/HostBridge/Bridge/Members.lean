import HostBridge.Bridge.Foreign

/-!
Types and members by name. A name is resolved by the host once and found in the cache from then on.
The cache holds one reference to each of its types; who asks for a type gets a reference of its own.
An operation may also do without the cache, and have the host look everything up.
-/
namespace HostBridge

variable {P : Platform} (F : Foreign P (Exec P))

namespace Members

/-- The type of a name. What the host code did while it resolved the name is taken into account: if
an entry is there by then, it stands. -/
def type (name : String) : Exec P (Except HostError P.Class) := do
  match (← Exec.bridge (·.members)).type? name with
  | some c => do
    F.host.shareType c
    return .ok c
  | none =>
    match ← F.host.callResolveType name with
    | .error e => return .error e
    | .ok c => do
      let (kept, fresh, cache) := (← Exec.bridge (·.members)).addType name c
      Exec.update fun b => { b with members := cache }
      if !fresh then F.host.dropType c
      F.host.shareType kept
      return .ok kept

/-- The member of a key, resolved on `type` if need be. -/
def member (type : P.Class) (key : MemberKey) : Exec P (Except HostError P.Member) := do
  match (← Exec.bridge (·.members)).member? key with
  | some m => return .ok m
  | none =>
    match ← F.host.callResolveMember type key with
    | .error e => return .error e
    | .ok m => do
      let (kept, cache) := (← Exec.bridge (·.members)).addMember key m
      Exec.update fun b => { b with members := cache }
      return .ok kept

/-- Empties the cache and tells how many entries were in it. -/
def clear : Exec P Nat := do
  let cache ← Exec.bridge (·.members)
  Exec.update fun b => { b with members := b.members.clear }
  (cache.types.map (·.2)).forM F.host.dropType
  return cache.size

end Members

/-- Where types and members come from. -/
inductive Resolution where
  /-- From the cache, which the host fills. -/
  | cached
  /-- From the host, each time. -/
  | anew
  deriving DecidableEq, Repr

namespace Resolution

variable (R : Resolution)

def type (name : String) : Exec P (Except HostError P.Class) :=
  match R with
  | .cached => Members.type F name
  | .anew => F.host.callResolveType name

def member (type : P.Class) (key : MemberKey) : Exec P (Except HostError P.Member) :=
  match R with
  | .cached => Members.member F type key
  | .anew => F.host.callResolveMember type key

/-- Without a cache there is nothing to be emptied. -/
def clear : Exec P Nat :=
  match R with
  | .cached => Members.clear F
  | .anew => pure 0

end Resolution
end HostBridge
