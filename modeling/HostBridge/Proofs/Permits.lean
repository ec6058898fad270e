import HostBridge.Bridge.Program

/-!
Classes of programs by what they ask of a bridge and what they do with their memory.
-/
namespace HostBridge

variable {P : Platform} {α : Type}

/-! ### Calls of the interface -/

/-- Whether a call of the interface is about objects, memory or reports. -/
def Op.isPlain : Op P α → Bool
  | copyHandle _ | release _ | releaseAll | handleCount => true
  | place _ | readBuffer _ | free _ => true
  | report _ => true
  | _ => false

/-- The member that a call of the interface is about. -/
def Op.key? : Op P α → Option MemberKey
  | createObject className signature _ =>
    some ⟨className, Call.constructorName, signature, .constructor⟩
  | callMethod target className name signature _ _ =>
    some ⟨className, name, signature, target.methodKind⟩
  | getField target className name descriptor _ =>
    some ⟨className, name, descriptor, target.fieldKind⟩
  | setField target className name descriptor _ _ =>
    some ⟨className, name, descriptor, target.fieldKind⟩
  | preload key => some key
  | _ => none

/-- Whether a call of the interface is about objects, memory, reports or a member. -/
def Op.isDynamic (o : Op P α) : Bool := o.isPlain || o.key?.isSome

/-- A dynamic operation, or a call that is about the cache. -/
def Op.isHostly : Op P α → Bool
  | clearMembers | memberCounts => true
  | o => o.isDynamic

def Op.isPreload : Op P α → Bool
  | preload _ => true
  | _ => false

/-- Whether a call of the interface is one that may drop what is in the cache. -/
def Op.isClearing : Op P α → Bool
  | shutdown | clearMembers => true
  | _ => false

/-! ### Programs -/

/-- A class of programs. -/
structure Permit (P : Platform) where
  op : {β : Type} → Op P β → Prop
  world : {β : Type} → (P.World → β × P.World) → Prop
  /-- Whether panics and notes are permitted. -/
  loud : Prop
  /-- Whether clears of the cache are permitted. -/
  clears : Prop

/-- Programs whose calls of the interface are dynamic operations or about the cache. -/
def Permit.dynamic (P : Platform) : Permit P where
  op o := o.isHostly = true
  world _ := True
  loud := True
  clears := False

/-- A program that keeps to what is permitted. How many entries a clear dropped is of no use to it,
since there are none without a cache. -/
inductive Act.Within (p : Permit P) : {α : Type} → Act P α → Prop
  | pure {α : Type} (a : α) : Within p (.pure a)
  | bind {α β : Type} {x : Act P β} {f : β → Act P α} (hx : x.Within p)
      (hf : ∀ b, (f b).Within p) : Within p (.bind x f)
  | attempt {α : Type} {x : Act P α} (hx : x.Within p) : Within p (.attempt x)
  | panic {α : Type} (loud : p.loud) (m : String) : Within p (.panic m : Act P α)
  | note (loud : p.loud) (n : P.Note) : Within p (.note n)
  | world {α : Type} {f : P.World → α × P.World} (h : p.world f) : Within p (.world f)
  | op {α : Type} {o : Op P α} (h : p.op o) : Within p (.op o)
  | clear {α : Type} (clears : p.clears) {a : Act P α} (ha : a.Within p) :
      Within p (.bind (.op .clearMembers) fun _ => a)

/-- What a program attempts keeps to what is permitted, if it attempts anything. -/
def Act.AttemptsWithin (p : Permit P) : Act P α → Prop
  | .attempt x => x.Within p
  | _ => True

theorem Act.Within.attempts {p : Permit P} {a : Act P α} (h : a.Within p) : a.AttemptsWithin p := by
  cases h with
  | attempt hx => exact hx
  | _ => trivial

namespace Foreign

/-- The look-ups of a host keep to what is permitted. -/
structure LookupsWithin (F : Foreign P (Act P)) (p : Permit P) : Prop where
  type : ∀ name, (F.host.resolveType name).Within p
  member : ∀ type key, (F.host.resolveMember type key).Within p

/-- What a host does besides look-ups keeps to what is permitted. -/
structure BodiesWithin (F : Foreign P (Act P)) (p : Permit P) : Prop where
  construct : ∀ type member args, (F.host.construct type member args).Within p
  invoke : ∀ receiver member result args, (F.host.invoke receiver member result args).Within p
  readField : ∀ receiver member kind, (F.host.readField receiver member kind).Within p
  writeField : ∀ receiver member value, (F.host.writeField receiver member value).Within p

end Foreign
end HostBridge
