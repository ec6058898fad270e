import HostBridge.Proofs.HostBodies
import HostBridge.Proofs.Plain
import HostBridge.Proofs.SessionBlind

/-!
The calls on the host are well typed. Every use of a member comes with a token that the host itself
gave for the names at hand, earlier in the same history, with a receiver of the sort that the member
asks for and with one value of the right variant for each parameter.
-/
namespace HostBridge

open Exec

variable {P : Platform} {α : Type}

/-! ### Records -/

/-- The host gave this type for a name. -/
def TypeFound (happenings : List (Happening P)) (name : String) (type : P.Class) : Prop :=
  .host (.typeFound name type) ∈ happenings

/-- The host gave this token for a member. -/
def MemberFound (happenings : List (Happening P)) (key : MemberKey) (member : P.Member) : Prop :=
  .host (.memberFound key member) ∈ happenings

/-- Every call on the host is proper by what came before it; the newest happening is the first. -/
def HostCallsProper : List (Happening P) → Prop
  | [] => True
  | .host c :: before => c.Proper (TypeFound before) (MemberFound before) ∧ HostCallsProper before
  | _ :: before => HostCallsProper before

theorem HostCall.Proper.mono {c : HostCall P} {typeKnown typeKnown' : String → P.Class → Prop}
    {memberKnown memberKnown' : MemberKey → P.Member → Prop}
    (h : c.Proper typeKnown memberKnown)
    (types : ∀ name type, typeKnown name type → typeKnown' name type)
    (members : ∀ key member, memberKnown key member → memberKnown' key member) :
    c.Proper typeKnown' memberKnown' := by
  have fits {key : MemberKey} {instanceKind staticKind : MemberKind}
      {receiver : Receiver P.Object P.Class}
      (h : receiver.Fits key instanceKind staticKind typeKnown) :
      receiver.Fits key instanceKind staticKind typeKnown' := by
    cases receiver with
    | «instance» o => exact h
    | static type => exact ⟨h.1, types _ _ h.2⟩
  cases c with
  | construct key type member args =>
    obtain ⟨kind, known, found, matched⟩ := h
    exact ⟨kind, types _ _ known, members _ _ found, matched⟩
  | invoke key receiver member result args =>
    obtain ⟨receives, found, matched⟩ := h
    exact ⟨fits receives, members _ _ found, matched⟩
  | readField key receiver member kind =>
    obtain ⟨receives, found, matched⟩ := h
    exact ⟨fits receives, members _ _ found, matched⟩
  | writeField key receiver member value =>
    obtain ⟨receives, found, matched⟩ := h
    exact ⟨fits receives, members _ _ found, matched⟩
  | _ => trivial

theorem HostCallsProper.cons {h : Happening P} {r : List (Happening P)} (hr : HostCallsProper r)
    (hc : ∀ c, h = .host c → c.Proper (TypeFound r) (MemberFound r)) :
    HostCallsProper (h :: r) := by
  cases h with
  | host c => exact ⟨hc c rfl, hr⟩
  | _ => exact hr

theorem HostCallsProper.of_append {after before : List (Happening P)}
    (h : HostCallsProper (after ++ before)) : HostCallsProper before := by
  induction after with
  | nil => exact h
  | cons e after ih =>
    cases e with
    | host c => exact ih h.2
    | _ => exact ih h

/-! ### Tokens in the cache -/

namespace MemberCache

variable {γ μ : Type} {c : MemberCache γ μ}

/-- What is found is there. -/
theorem mem_of_lookup {κ ν : Type} [BEq κ] [LawfulBEq κ] {l : List (κ × ν)} {key : κ} {token : ν}
    (h : l.lookup key = some token) : (key, token) ∈ l := by
  obtain ⟨before, after, split, -⟩ := List.lookup_eq_some_iff.mp h
  rw [split]
  exact List.mem_append_right before List.mem_cons_self

/-- The type that is kept is in the new cache, which has nothing but it and what was there. -/
theorem addType_spec (c : MemberCache γ μ) (name : String) (token : γ) :
    (name, (c.addType name token).1) ∈ (c.addType name token).2.2.types ∧
      (∀ e ∈ (c.addType name token).2.2.types, e ∈ c.types ∨ e = (name, token)) ∧
      (c.addType name token).2.2.members = c.members := by
  cases found : c.type? name with
  | some old =>
    rw [addType_of_some found]
    exact ⟨mem_of_lookup found, fun _ => .inl, rfl⟩
  | none =>
    rw [addType_of_none found]
    exact ⟨List.mem_cons_self, fun e he => (List.mem_cons.mp he).symm, rfl⟩

theorem addMember_spec (c : MemberCache γ μ) (key : MemberKey) (token : μ) :
    (key, (c.addMember key token).1) ∈ (c.addMember key token).2.members ∧
      (∀ e ∈ (c.addMember key token).2.members, e ∈ c.members ∨ e = (key, token)) ∧
      (c.addMember key token).2.types = c.types := by
  cases found : c.member? key with
  | some old =>
    rw [addMember_of_some found]
    exact ⟨mem_of_lookup found, fun _ => .inl, rfl⟩
  | none =>
    rw [addMember_of_none found]
    exact ⟨List.mem_cons_self, fun e he => (List.mem_cons.mp he).symm, rfl⟩

end MemberCache

/-! ### States whose cache has its tokens from the host -/

/-- Every token in the cache was given by the host, and every call was proper. -/
structure Sound (s : State P) : Prop where
  types : ∀ e ∈ s.bridge.members.types, TypeFound s.record e.1 e.2
  members : ∀ e ∈ s.bridge.members.members, MemberFound s.record e.1 e.2
  calls : HostCallsProper s.record

/-- Sound states that have come by a certain record. -/
def SoundFrom (r : List (Happening P)) (s : State P) : Prop := Sound s ∧ r <:+ s.record

/-- States in which every call so far was proper. -/
def Proper (s : State P) : Prop := HostCallsProper s.record

namespace SoundFrom

variable {r : List (Happening P)} {s : State P}

theorem self (h : SoundFrom r s) : SoundFrom s.record s := ⟨h.1, List.suffix_rfl⟩

/-- A happening after the others. -/
theorem record {h : Happening P} (hs : SoundFrom r s)
    (hc : ∀ c, h = .host c → c.Proper (TypeFound s.record) (MemberFound s.record)) :
    SoundFrom r { s with record := h :: s.record } where
  left := {
    types := fun e he => List.mem_cons_of_mem h (hs.1.types e he)
    members := fun e he => List.mem_cons_of_mem h (hs.1.members e he)
    calls := hs.1.calls.cons hc }
  right := hs.2.trans (List.suffix_cons h s.record)

theorem recordOther {h : Happening P} (hs : SoundFrom r s) (other : ∀ c, h ≠ .host c) :
    SoundFrom r { s with record := h :: s.record } :=
  hs.record fun c hc => (other c hc).elim

/-- A call that is proper by the record that was come by. -/
theorem recordCall {c : HostCall P} (hs : SoundFrom r s)
    (hc : c.Proper (TypeFound r) (MemberFound r)) :
    SoundFrom r { s with record := .host c :: s.record } := by
  refine hs.record fun c' h => ?_
  cases h
  exact hc.mono (fun _ _ h => hs.2.subset h) fun _ _ h => hs.2.subset h

theorem recordCall_keeps {c : HostCall P} (hc : c.Proper (TypeFound r) (MemberFound r)) :
    Keeps (SoundFrom r) Proper (Exec.record (.host c)) :=
  Keeps.modify fun _ hs => hs.recordCall hc

theorem inert : Inert (SoundFrom r) Proper where
  handles _ h := ⟨⟨h.1.types, h.1.members, h.1.calls⟩, h.2⟩
  memory _ h := ⟨⟨h.1.types, h.1.members, h.1.calls⟩, h.2⟩
  sides _ _ h := ⟨⟨h.1.types, h.1.members, h.1.calls⟩, h.2⟩
  report _ h := h.recordOther fun _ => nofun
  halts _ h := h.1.calls

theorem programBlind (r : List (Happening P)) : ProgramBlind (SoundFrom r) where
  set _ _ _ _ h := ⟨⟨h.1.types, h.1.members, h.1.calls⟩, h.2⟩
  record e own h := h.recordOther fun c => by
    rintro rfl
    cases own

/-- The cache takes in a type that the host gave. -/
theorem addType {name : String} {type : P.Class} (hs : SoundFrom r s)
    (found : TypeFound s.record name type) :
    SoundFrom r { s with
      bridge := { s.bridge with members := (s.bridge.members.addType name type).2.2 } } := by
  obtain ⟨-, only, rest⟩ := s.bridge.members.addType_spec name type
  refine ⟨⟨fun e he => ?_, fun e he => hs.1.members e (rest ▸ he), hs.1.calls⟩, hs.2⟩
  rcases only e he with he | rfl
  · exact hs.1.types e he
  · exact found

theorem addMember {key : MemberKey} {member : P.Member} (hs : SoundFrom r s)
    (found : MemberFound s.record key member) :
    SoundFrom r { s with
      bridge := { s.bridge with members := (s.bridge.members.addMember key member).2 } } := by
  obtain ⟨-, only, rest⟩ := s.bridge.members.addMember_spec key member
  refine ⟨⟨fun e he => hs.1.types e (rest ▸ he), fun e he => ?_, hs.1.calls⟩, hs.2⟩
  rcases only e he with he | rfl
  · exact hs.1.members e he
  · exact found

variable {F : Foreign P (Exec P)}

/-- A look-up that succeeded leads to a later record, in which the token is. -/
def Learnt {β : Type} (r : List (Happening P)) (known : List (Happening P) → β → Prop) :
    Except HostError β → State P → Prop
  | .ok token, s => ∃ r', (r <:+ r' ∧ known r' token) ∧ SoundFrom r' s
  | .error _, s => SoundFrom r s

theorem resolve_learnt {β : Type} {r : List (Happening P)} {x : Exec P (Except HostError β)}
    (call : HostCall P) (found : β → HostCall P) (asked : ∀ T M, call.Proper T M)
    (given : ∀ token T M, (found token).Proper T M) (hx : Keeps (SoundFrom r) Proper x) :
    Triple (SoundFrom r) (Host.resolving call found x)
      (Learnt r fun r' token => .host (found token) ∈ r') (SoundFrom r) Proper := by
  refine Triple.bind (recordCall_keeps (asked _ _)) fun _ => Triple.bind hx fun result => ?_
  cases result with
  | error e => exact Triple.pure fun _ h => h
  | ok token =>
    have recorded : Triple (SoundFrom r) (Exec.record (.host (found token)))
        (fun _ => Learnt r (fun r' token => .host (found token) ∈ r') (.ok token)) (SoundFrom r)
        Proper := by
      refine Triple.record fun s h => ?_
      have later := h.recordCall (given token _ _)
      exact ⟨_, ⟨later.2, List.mem_cons_self⟩, later.self⟩
    exact recorded.bind fun _ => Triple.pure fun _ h => h

/-- A type comes from the host, now or earlier. -/
theorem type_learnt (r : List (Happening P)) (name : String)
    (resolve : ∀ r, Keeps (SoundFrom r) Proper (F.host.resolveType name)) :
    Triple (SoundFrom r) (Members.type F name) (Learnt r fun r' => TypeFound r' name)
      (SoundFrom r) Proper := by
  have resolved : Triple (SoundFrom r) (F.host.callResolveType name)
      (Learnt r fun r' => TypeFound r' name) (SoundFrom r) Proper := by
    rw [Host.callResolveType_eq]
    exact resolve_learnt (.resolveType name) (.typeFound name) (fun _ _ => trivial)
      (fun _ _ _ => trivial) (resolve r)
  apply Members.type_triple fun type => Learnt r (fun r' => TypeFound r' name) (.ok type)
  · intro result s l w h
    cases result with
    | error e => exact inert.sides l w h
    | ok type =>
      obtain ⟨r', later, h⟩ := h
      exact ⟨r', later, inert.sides l w h⟩
  · intro s type h found
    exact ⟨_, ⟨h.2, h.1.types _ (MemberCache.mem_of_lookup found)⟩, h.self⟩
  · refine resolved.weaken fun result s h => ?_
    cases result <;> exact h
  · intro type s h
    obtain ⟨r', ⟨suffix, found⟩, h⟩ := h
    have spec := s.bridge.members.addType_spec name type
    have sound := h.addType (h.2.subset found)
    exact ⟨_, ⟨suffix.trans sound.2, sound.1.types _ spec.1⟩, sound.self⟩

/-- A member comes from the host, now or earlier. -/
theorem member_learnt (r : List (Happening P)) (type : P.Class) (key : MemberKey)
    (resolve : ∀ r, Keeps (SoundFrom r) Proper (F.host.resolveMember type key)) :
    Triple (SoundFrom r) (Members.member F type key) (Learnt r fun r' => MemberFound r' key)
      (SoundFrom r) Proper := by
  have resolved : Triple (SoundFrom r) (F.host.callResolveMember type key)
      (Learnt r fun r' => MemberFound r' key) (SoundFrom r) Proper := by
    rw [Host.callResolveMember_eq]
    exact resolve_learnt (.resolveMember type key) (.memberFound key) (fun _ _ => trivial)
      (fun _ _ _ => trivial) (resolve r)
  apply Members.member_triple fun member => Learnt r (fun r' => MemberFound r' key) (.ok member)
  · intro s member h found
    exact ⟨_, ⟨h.2, h.1.members _ (MemberCache.mem_of_lookup found)⟩, h.self⟩
  · refine resolved.weaken fun result s h => ?_
    cases result <;> exact h
  · intro member s h
    obtain ⟨r', ⟨suffix, found⟩, h⟩ := h
    have spec := s.bridge.members.addMember_spec key member
    have sound := h.addMember (h.2.subset found)
    exact ⟨_, ⟨suffix.trans sound.2, sound.1.members _ spec.1⟩, sound.self⟩

end SoundFrom

/-! ### Programs -/

namespace System

variable {F : Foreign P (Act P)} {limit : Nat}

section

variable (run : ∀ {β : Type} (b : Act P β) (r : List (Happening P)),
  Keeps (SoundFrom r) Proper ((ofPrograms F).exec limit b))
include run

theorem soundSession (r : List (Happening P)) :
    SessionBlind ((ofPrograms F).foreign limit) (SoundFrom r) Proper where
  toInert := SoundFrom.inert
  __ := startedCalls_ofPrograms SoundFrom.inert.toDetached
    (fun _ _ h => h.recordOther fun _ => nofun) (fun _ h => h.recordOther fun _ => nofun)
    (fun _ _ _ h => h.recordOther fun _ => nofun) fun b => run b r
  callStart _ h := h.recordOther fun _ => nofun
  session _ _ _ _ h := ⟨⟨h.1.types, h.1.members, h.1.calls⟩, h.2⟩
  handlers _ h := ⟨⟨h.1.types, h.1.members, h.1.calls⟩, h.2⟩
  cleared h := ⟨⟨nofun, nofun, h.1.calls⟩, h.2⟩

/-- Sound states withstand the calls on the host. -/
def soundHost : HostContract ((ofPrograms F).foreign limit) (SoundFrom (P := P)) Proper where
  Le r r' := r <:+ r'
  typeKnown := TypeFound
  memberKnown := MemberFound
  weaken later h := ⟨h.1, later.trans h.2⟩
  typeKnown_mono later h := later.subset h
  withstands _ := SoundFrom.inert.withstands _
  type r name := (SoundFrom.type_learnt r name fun r => run _ r).weaken fun result _ h => by
    cases result <;> exact h
  member r type key :=
    (SoundFrom.member_learnt r type key fun r => run _ r).weaken fun result _ h => by
      cases result <;> exact h
  construct r _ _ _ _ proper := (SoundFrom.recordCall_keeps proper).bind fun _ => run _ r
  invoke r _ _ _ _ _ proper := (SoundFrom.recordCall_keeps proper).bind fun _ => run _ r
  readField r _ _ _ _ proper := (SoundFrom.recordCall_keeps proper).bind fun _ => run _ r
  writeField r _ _ _ _ proper := (SoundFrom.recordCall_keeps proper).bind fun _ => run _ r

/-- Sound states withstand whatever a program asks for. -/
def soundContract : ProgramContract ((ofPrograms F).foreign limit) (SoundFrom (P := P)) Proper :=
  .ofPrograms (soundHost run) SoundFrom.programBlind
    (SessionContract.ofBlind (soundSession run)).kept
    (fun r => (soundSession run r).clearMembers_keeps) run

end

/-- Every program leaves the states that it starts from sound, whatever comes of it. -/
theorem exec_keeps_sound (F : Foreign P (Act P)) (limit : Nat) (a : Act P α)
    (r : List (Happening P)) : Keeps (SoundFrom r) Proper ((ofPrograms F).exec limit a) :=
  exec_keeps (fun _ _ h => h.1.calls) (fun _ run => soundContract run) limit a r

/-- A happening of a history splits the record that it is the history of. -/
theorem record_split {s : State P} {before after : List (Happening P)} {e : Happening P}
    (happened : s.history = before ++ e :: after) :
    s.record = after.reverse ++ e :: before.reverse := by
  rw [← List.reverse_reverse s.record]
  change s.history.reverse = _
  rw [happened]
  simp

/-- Every call that a bridge makes on the host with a member is well typed, and its tokens were
given by the host for the names that stand with it, earlier in the same history. -/
theorem history_proper (F : Foreign P (Act P)) (limit : Nat)
    (turns : List (ThreadId × Act P Unit)) {s : State P} (new : s.bridge.members = {})
    (unrecorded : s.record = []) {before after : List (Happening P)} {c : HostCall P}
    (called : ((ofPrograms F).runTurns limit turns s).history = before ++ .host c :: after) :
    c.Proper (fun name type => .host (.typeFound name type) ∈ before)
      (fun key member => .host (.memberFound key member) ∈ before) := by
  have sound : SoundFrom [] s := by
    refine ⟨⟨?_, ?_, ?_⟩, List.nil_suffix⟩
    · rw [new]
      nofun
    · rw [new]
      nofun
    · rw [unrecorded]
      trivial
  have proper : Proper ((ofPrograms F).runTurns limit turns s) :=
    runTurns_keeps (fun _ h => h.1.calls)
      (fun _ _ h => ⟨⟨h.1.types, h.1.members, h.1.calls⟩, h.2⟩)
      (fun a => exec_keeps_sound F limit a []) turns sound
  unfold Proper at proper
  rw [record_split called] at proper
  have now : c.Proper (TypeFound before.reverse) (MemberFound before.reverse) :=
    proper.of_append.1
  exact now.mono (fun _ _ h => List.mem_reverse.mp h) fun _ _ h => List.mem_reverse.mp h

end System
end HostBridge
