import HostBridge.Proofs.CallStages
import HostBridge.Proofs.HostAsked
import HostBridge.Proofs.KeptMembers
import HostBridge.Proofs.ShutdownReset
import HostBridge.Proofs.TextCopies

/-!
Messages to the callback. When the callback is installed, its type and its member get into the
cache, and a message looks nothing up as long as they are there. A shutdown empties the cache and
leaves the sink, so the next message has the callback looked up again, by whatever thread sends it.
-/
namespace HostBridge

open Exec

variable {P : Platform} {α : Type}

namespace Asks

variable {F : Foreign P (Exec P)} {s t : State P} {call : HostCall P}

/-- What comes after a step that leaves the record alone. -/
theorem after {β : Type} {x : Exec P α} {mid : α → State P → Prop} {f : α → Exec P β}
    (hx : Triple (· = s) x mid (fun _ => False) fun _ => False)
    (h : ∀ a t, mid a t → t.record = s.record ∧ Asks t call (f a)) : Asks s call (x >>= f) := by
  apply Triple.bind (hx.conseq (fun _ h => h) (fun _ _ h => h) (fun _ => False.elim)
    fun _ => False.elim)
  intro a
  apply Triple.of_pre
  intro t reached
  obtain ⟨silent, h⟩ := h a t reached
  unfold Asks at h
  rwa [silent] at h

theorem ensure {x : Exec P α} {last : Exec P Unit} (hx : Asks s call x)
    (hlast : Keeps (GrownFrom (.host call :: s.record)) (GrownFrom (.host call :: s.record)) last) :
    Asks s call (x.ensure last) :=
  Triple.ensure hx (fun _ => hlast) hlast

end Asks

/-- The state with a copy of a text in memory. -/
def State.withCopy (u : State P) (text : String) : State P :=
  { u with memory := (u.memory.placeText text).2 }

/-! ### The call of the callback -/

theorem MemberCache.Holds.knows {γ μ : Type} {c : MemberCache γ μ} {key : MemberKey} {type : γ}
    {member : μ} (held : c.Holds key type member) : c.Knows key :=
  ⟨by rw [hasType, held.1]; rfl, by rw [hasMember, held.2]; rfl⟩

namespace Chat

/-- What the callback is called with: the player and the text as it is read from its copy. -/
def callbackArgs (m : Memory) (player : Int64) (text : String) : List (HostValue P.Object) :=
  [.long player, .string (if (m.placeText text).1 = 0 then none else some text)]

variable (F : Foreign P (Exec P))

/-- The use of the callback with the copy of a text. -/
def useCallback (player : Int64) (address : UInt64) (type : P.Class) (member : P.Member) :
    Call P Word :=
  Call.applyMethod F callbackKey ⟨[.long, .string], .void⟩ [.ofInt64 player, .ofPointer address]
    .void .void (.static type) member

/-- The call with the copy of a text, once the type of the callback is there. -/
def callWith (player : Int64) (address : UInt64) (type : P.Class) : Call P Word := do
  let member ← Call.ofHost (Members.member F type callbackKey)
  useCallback F player address type member

theorem invoke_callback (player : Int64) (address : UInt64) :
    Call.invoke F .static callbackKey.className callbackKey.name callbackKey.signature .void
        [.ofInt64 player, .ofPointer address] =
      Call.withType F callbackClass (callWith F player address) := by
  have parsed : Descriptor.parseMethod callbackKey.signature = .ok ⟨[.long, .string], .void⟩ := by
    decide +kernel
  exact Call.invoke_stages parsed rfl

variable {F} {u : State P} {player : Int64} {text : String}

/-- A message asks what the call of the callback asks. -/
theorem asks_send {call : HostCall P} (sink : u.bridge.chatSink = some .callback)
    (nulFree : '\x00' ∉ text.toList)
    (h : Asks (u.withCopy text) call
      (Call.withType F callbackClass (callWith F player (u.memory.placeText text).1)).run) :
    Asks u call (send F player text) := by
  have whole : ¬text.toList.any (· == '\x00') = true := by simpa using nulFree
  have settled : Asks (u.withCopy text) call
      (Dynamic.callMethod F .static callbackKey.className callbackKey.name callbackKey.signature
        .void [.ofInt64 player, .ofPointer (u.memory.placeText text).1]) := by
    unfold Dynamic.callMethod Dynamic.settle
    rw [invoke_callback]
    apply h.bind
    intro r
    cases r with
    | ok w => exact Keeps.pure
    | error e => exact Keeps.bind (GrownFrom.inert.sendReport _) fun _ => Keeps.pure
  have called : Asks u call (callBack F player text) := by
    unfold callBack
    rw [if_neg whole]
    have copied : Triple (· = u) (Call.placeText text) (fun address t =>
        address = (u.memory.placeText text).1 ∧ t = u.withCopy text) (fun _ => False)
        fun _ => False := by
      rintro t rfl
      exact ⟨rfl, rfl⟩
    apply Asks.after copied
    rintro address t ⟨rfl, rfl⟩
    exact ⟨rfl, Asks.ensure (settled.bind fun _ => Keeps.pure) (Keeps.modify fun _ h => h)⟩
  unfold send
  apply Asks.of_bridge
  rw [sink]
  exact called.bind fun _ => Keeps.pure

/-! ### What a message asks -/

section
variable (grown : ∀ r, Unaware F (GrownFrom r) (GrownFrom r))
include grown

theorem useCallback_grows (r : List (Happening P)) (address : UInt64) (type : P.Class)
    (member : P.Member) :
    Keeps (GrownFrom r) (GrownFrom r) (useCallback F player address type member).run := by
  apply Call.keeps_bind (Call.keeps_lift ?_)
  · intro args
    apply Call.keeps_ensure
    · apply Call.keeps_bind (Call.keeps_ofHost ?_)
      · exact fun v => Call.keeps_lift ((grown r).encode .void v)
      · exact ((grown r).recordHost _).bind fun _ => (grown r).invoke _ _ _ _
    · exact Keeps.forM (fun v => (grown r).dropValue v) args
  · exact ((grown r).decodeArgs _ _).weaken fun _ _ h => h.2

theorem callWith_grows (r : List (Happening P)) (address : UInt64) (type : P.Class) :
    Keeps (GrownFrom r) (GrownFrom r) (callWith F player address type).run :=
  Call.keeps_bind (Call.keeps_ofHost ((grown r).member_keeps type callbackKey)) fun member =>
    useCallback_grows grown r address type member

/-- Without its type, the callback's class is looked up. -/
theorem send_asks_type (sink : u.bridge.chatSink = some .callback)
    (nulFree : '\x00' ∉ text.toList)
    (missing : u.bridge.members.hasType callbackClass = false) :
    Asks u (.resolveType callbackClass) (send F player text) := by
  apply asks_send sink nulFree
  have asked : Asks (u.withCopy text) (.resolveType callbackClass)
      (Call.ofHost (Members.type F callbackClass)).run :=
    Asks.bind (Asks.type missing fun r => (grown r).resolveType _) fun _ => Keeps.pure
  apply asked.bind
  intro r
  cases r with
  | error e => exact Keeps.pure
  | ok type =>
    exact Call.keeps_ensure (callWith_grows grown _ _ type) ((grown _).upkeep (.dropType _))

end

/-- The state is another one in nothing but what the two sides keep for themselves. -/
def Beside (u t : State P) : Prop :=
  t.bridge = u.bridge ∧ t.memory = u.memory ∧ t.record = u.record

/-- What a call with a type asks that is in the cache is what comes after the type. -/
theorem asks_withType {call : HostCall P} {body : P.Class → Call P Word} {name : String}
    {type : P.Class} (cached : u.bridge.members.type? name = some type)
    (h : ∀ t, Beside u t → Asks t call (body type).run) :
    Asks u call (Call.withType F name body).run := by
  have shared : Triple (· = u) (do
      F.host.shareType type
      return .ok type : Exec P (Except HostError P.Class))
      (fun r t => r = .ok type ∧ Beside u t) (fun _ => False) fun _ => False := by
    rintro t rfl
    exact ⟨rfl, rfl, rfl, rfl⟩
  have found : Triple (· = u) (Call.ofHost (Members.type F name)).run
      (fun r t => r = .ok type ∧ Beside u t) (fun _ => False) fun _ => False := by
    apply Triple.bind ((Known.type_agree F cached).triple shared fun t same => by rw [same]; rfl)
    intro r
    apply Triple.pure
    rintro t ⟨rfl, same⟩
    exact ⟨rfl, same⟩
  apply Asks.after found
  rintro r t ⟨rfl, same⟩
  exact ⟨same.2.2, Asks.ensure (h t same) (GrownFrom.inert.upkeep _)⟩

/-- The copy of a text is read as the text. -/
theorem decodeArgs_copy {m : Memory} (nulFree : '\x00' ∉ text.toList)
    (placed : u.memory = (m.placeText text).2) :
    Triple (· = u) (Call.decodeArgs F [.long, .string]
        [.ofInt64 player, .ofPointer (m.placeText text).1])
      (fun args t => args = callbackArgs m player text ∧ t = u) (fun _ => False)
      fun _ => False := by
  have read : Triple (· = u) (Call.readText (m.placeText text).1)
      (fun found t => found = (if (m.placeText text).1 = 0 then none else some text) ∧ t = u)
      (fun _ => False) fun _ => False := by
    unfold Call.readText
    split
    · exact Triple.pure fun t same => ⟨rfl, same⟩
    · apply Triple.bind Triple.asks
      intro found
      apply Triple.of_pre
      rintro t ⟨rfl, rfl⟩
      rw [placed, Memory.buffer?_placeText]
      apply Triple.pure
      rintro t rfl
      exact ⟨congrArg some (cText_cBuffer nulFree), rfl⟩
  have first : Triple (· = u) (Call.decode F .long (.ofInt64 player))
      (fun v t => v = .long player ∧ t = u) (fun _ => False) fun _ => False :=
    Triple.pure fun t same => ⟨by rw [Word.toInt64_ofInt64], same⟩
  have second : Triple (· = u) (Call.decode F .string (.ofPointer (m.placeText text).1))
      (fun v t => v = .string (if (m.placeText text).1 = 0 then none else some text) ∧ t = u)
      (fun _ => False) fun _ => False := by
    apply read.bind
    intro found
    apply Triple.pure
    rintro t ⟨rfl, same⟩
    exact ⟨rfl, same⟩
  have rest : Triple (· = u) (Call.decodeEach F [.string] [.ofPointer (m.placeText text).1])
      (fun vs t => vs = [.string (if (m.placeText text).1 = 0 then none else some text)] ∧ t = u)
      (fun _ => False) fun _ => False := by
    apply second.bind
    intro v
    apply Triple.of_and
    rintro rfl
    exact Triple.pure fun t same => ⟨rfl, same⟩
  apply first.bind
  intro v
  apply Triple.of_and
  rintro rfl
  apply rest.bind
  intro vs
  apply Triple.of_and
  rintro rfl
  exact Triple.pure fun t same => ⟨rfl, same⟩

section
variable (grown : ∀ r, Unaware F (GrownFrom r) (GrownFrom r)) {type : P.Class}
  (sink : u.bridge.chatSink = some .callback) (nulFree : '\x00' ∉ text.toList)
include grown sink nulFree

/-- With its type and without itself, the callback is looked up in the type. -/
theorem send_asks_member (cached : u.bridge.members.type? callbackClass = some type)
    (missing : u.bridge.members.hasMember callbackKey = false) :
    Asks u (.resolveMember type callbackKey) (send F player text) := by
  apply asks_send sink nulFree
  apply asks_withType (u := u.withCopy text) cached
  rintro t ⟨bridge, -, -⟩
  change t.bridge = u.bridge at bridge
  rw [← bridge] at missing
  have asked : Asks t (.resolveMember type callbackKey)
      (Call.ofHost (Members.member F type callbackKey)).run :=
    Asks.bind (Asks.member missing fun r => (grown r).resolveMember _ _) fun _ => Keeps.pure
  apply asked.bind
  intro r
  cases r with
  | error e => exact Keeps.pure
  | ok member => exact useCallback_grows grown _ _ type member

/-- With both, the first call on the host is that of the callback. -/
theorem send_invokes {member : P.Member} (held : u.bridge.members.Holds callbackKey type member) :
    Asks u (.invoke callbackKey (.static type) member .void
      (callbackArgs u.memory player text)) (send F player text) := by
  apply asks_send sink nulFree
  apply asks_withType (u := u.withCopy text) held.1
  rintro t ⟨bridge, memory, -⟩
  have found : Triple (· = t) (Call.ofHost (Members.member F type callbackKey)).run
      (fun r t' => r = .ok member ∧ t' = t) (fun _ => False) fun _ => False := by
    have there : t.bridge.members.member? callbackKey = some member := by
      rw [bridge]
      exact held.2
    have given : Triple (· = t) (pure (.ok member) : Exec P (Except HostError P.Member))
        (fun r t' => r = .ok member ∧ t' = t) (fun _ => False) fun _ => False :=
      Triple.pure fun t' same => ⟨rfl, same⟩
    apply Triple.bind ((Known.member_agree F there).triple given fun t' same => by rw [same]; rfl)
    intro r
    apply Triple.of_and
    rintro rfl
    exact Triple.pure fun t' same => ⟨rfl, same⟩
  apply Asks.after found
  rintro r t' ⟨rfl, rfl⟩
  refine ⟨rfl, ?_⟩
  have decoded : Triple (· = t') (liftM (Call.decodeArgs F [.long, .string]
        [.ofInt64 player, .ofPointer (u.memory.placeText text).1]) : Call P _).run
      (fun r t'' => r = .ok (callbackArgs u.memory player text) ∧ t'' = t') (fun _ => False)
      fun _ => False := by
    apply (decodeArgs_copy nulFree memory).bind
    intro args
    apply Triple.of_and
    rintro rfl
    exact Triple.pure fun t same => ⟨rfl, same⟩
  apply Asks.after decoded
  rintro r t'' ⟨rfl, rfl⟩
  have invoked : Asks t'' (.invoke callbackKey (.static type) member .void
      (callbackArgs u.memory player text)) (F.host.callInvoke callbackKey (.static type) member
        .void (callbackArgs u.memory player text)) :=
    Asks.bind (Asks.record _) fun _ => (grown _).invoke _ _ _ _
  refine ⟨rfl, Asks.ensure (Asks.bind (invoked.bind fun _ => Keeps.pure) fun r => ?_)
    (Keeps.forM (fun v => (GrownFrom.inert.withstands F).dropValue v) _)⟩
  cases r with
  | error e => exact Keeps.pure
  | ok v => exact Call.keeps_lift ((GrownFrom.inert.withstands F).encode .void v)

end

/-- With both, look-ups have no part in a message. -/
theorem send_known (sink : u.bridge.chatSink = some .callback)
    (known : u.bridge.members.Knows callbackKey)
    (X : String → Exec P (Except HostError P.Class))
    (Y : P.Class → MemberKey → Exec P (Except HostError P.Member)) :
    send (F.withLookups X Y) player text u = send F player text u := by
  unfold send
  apply bind_agree rfl
  intro found t read
  obtain ⟨rfl, rfl⟩ : found = some .callback ∧ t = u := by
    cases read
    exact ⟨sink, rfl⟩
  apply bind_agree ?_ fun _ _ _ => rfl
  unfold callBack
  split
  · rfl
  · apply bind_agree rfl
    intro address t placed
    cases placed
    apply ensure_agree
    apply discard_agree
    exact Op.run_known F (o := .callMethod .static callbackKey.className callbackKey.name
      callbackKey.signature .void [.ofInt64 player, .ofPointer (t.memory.placeText text).1]) rfl
      (s := t.withCopy text) known X Y

/-! ### Installation -/

/-- Where the callback was installed, its type and its member are in the cache. -/
theorem installCallback_holds {t : State P}
    (htype : ∀ c, Keeps (KeptSince c) (KeptSince c) (F.host.resolveType callbackKey.className))
    (hmember : ∀ c type, Keeps (KeptSince c) (KeptSince c)
      (F.host.resolveMember type callbackKey))
    (installed : installCallback F u = (.value true, t)) :
    t.bridge.chatSink = some .callback ∧
      ∃ type member, t.bridge.members.Holds callbackKey type member := by
  have preloaded := KeptSince.preload callbackKey htype hmember
  have h : Gives (fun _ => True) (installCallback F) (fun r s => r = true →
      s.bridge.chatSink = some .callback ∧
        ∃ type member, s.bridge.members.Holds callbackKey type member) := by
    apply preloaded.bind
    intro r
    cases r with
    | error e => exact Triple.bind Triple.any fun _ => Triple.pure fun _ _ => nofun
    | ok _ =>
      have put : Gives (fun s : State P => .ok () = (.ok () : Except CallError Unit) →
            ∃ type member, s.bridge.members.Holds callbackKey type member)
          (setSink (some .callback)) (fun _ s => s.bridge.chatSink = some .callback ∧
            ∃ type member, s.bridge.members.Holds callbackKey type member) :=
        Triple.update fun s held => ⟨rfl, held rfl⟩
      exact put.bind fun _ => Triple.pure fun _ h _ => h
  exact (h.of_imp fun _ _ => trivial).of_value installed rfl

end Chat

/-! ### Runs -/

theorem GrownFrom.lasting (r : List (Happening P)) :
    Lasting fun (_ : HandleTable P.Object) (record : List (Happening P)) => r <:+ record where
  handles _ h := h
  record e h := h.trans (List.suffix_cons e _)

/-- A message to the callback goes to it through these tokens, and looks nothing up. -/
structure Chat.Delivers (F : Foreign P (Exec P)) (u : State P) (type : P.Class)
    (member : P.Member) (player : Int64) (text : String) : Prop where
  invokes : Asks u (.invoke callbackKey (.static type) member .void
    (callbackArgs u.memory player text)) (send F player text)
  known : ∀ X Y, send (F.withLookups X Y) player text u = send F player text u

namespace System

variable {F : Foreign P (Act P)}

theorem grown_unaware (F : Foreign P (Act P)) (depth : Nat) (r : List (Happening P)) :
    Unaware ((ofPrograms F).foreign depth) (GrownFrom r) (GrownFrom r) :=
  (GrownFrom.lasting r).unaware fun b => (GrownFrom.lasting r).exec_keeps F depth b

/-- Messages go to the callback through the tokens that were in the cache when it was installed, and
look nothing up, until a session is ended or the cache is cleared. After the end of a session the
sink is still there, and the next message has the class of the callback looked up again. -/
theorem callback_lookups (never : F.NeverClears) (limit depth : Nat)
    (turns : List (ThreadId × Act P Unit)) {s t : State P} (new : s.bridge = {})
    (thread : ThreadId)
    (installed : Chat.installCallback ((ofPrograms F).foreign depth)
      { (ofPrograms F).runTurns limit turns s with thread := thread } = (.value true, t)) :
    t.bridge.chatSink = some .callback ∧
    (∃ type member, t.bridge.members.Holds Chat.callbackKey type member ∧
      ∀ limit depth later thread player text, (∀ turn ∈ later, turn.2.NeverClears) →
        '\x00' ∉ text.toList →
        ((ofPrograms F).runTurns limit later t).bridge.chatSink = some .callback →
        Chat.Delivers ((ofPrograms F).foreign depth)
          { (ofPrograms F).runTurns limit later t with thread := thread } type member player
          text) ∧
    ∀ limit depth later thread v, ((ofPrograms F).foreign depth).EndsAlone →
      Lifecycle.shutdown ((ofPrograms F).foreign depth)
        { (ofPrograms F).runTurns limit later t with thread := thread } = (.value (.ok true), v) →
      v.bridge.chatSink = ((ofPrograms F).runTurns limit later t).bridge.chatSink ∧
        ∀ depth thread player text, '\x00' ∉ text.toList → v.bridge.chatSink = some .callback →
          Asks { v with thread := thread } (.resolveType Chat.callbackClass)
            (Chat.send ((ofPrograms F).foreign depth) player text) := by
  have kept {β : Type} {b : Act P β} (hb : b.NeverClears) (c : MemberCache P.Class P.Member) :
      Keeps (KeptSince c) (KeptSince c) ((ofPrograms F).exec depth b) := exec_kept never depth hb
  obtain ⟨sink, type, member, held⟩ := Chat.installCallback_holds
    (fun c => kept (never.resolveType _) c) (fun c type => kept (never.resolveMember type _) c)
    installed
  refine ⟨sink, ⟨type, member, held, ?_⟩, ?_⟩
  · intro limit depth later thread player text each nulFree sink
    have held := held.extends (runTurns_kept never limit each t)
    exact {
      invokes := Chat.send_invokes (grown_unaware F depth)
        (u := { (ofPrograms F).runTurns limit later t with thread := thread }) sink nulFree held
      known := Chat.send_known
        (u := { (ofPrograms F).runTurns limit later t with thread := thread }) sink held.knows }
  · have before := GateState.runTurns_settled F limit turns (s := s) (by rw [new])
    have settled : GateState.Settled t := by
      have kept := GateState.exec_keeps F (depth + 1) (.op .installCallback) .settled
      have from_before := kept.of_imp
        (fun u (same : u = { (ofPrograms F).runTurns limit turns s with thread := thread }) => by
          rw [same]; exact before)
      exact from_before.of_value installed
    intro limit depth later thread v alone ended
    have renewed := Lifecycle.shutdown_renewed alone
      (s := { (ofPrograms F).runTurns limit later t with thread := thread })
      (GateState.runTurns_settled_from F limit later settled) ended
    refine ⟨by rw [renewed]; rfl, ?_⟩
    intro depth thread player text nulFree sink
    apply Chat.send_asks_type (grown_unaware F depth) (u := { v with thread := thread }) sink
      nulFree
    change v.bridge.members.hasType Chat.callbackClass = false
    rw [renewed]
    rfl

end System

/-! ### The plain world -/

namespace Plain

theorem idle_neverClears : idle.NeverClears where
  resolveType _ := trivial
  resolveMember _ _ := trivial
  construct _ _ _ := trivial
  invoke _ _ _ _ := trivial
  readField _ _ _ := trivial
  writeField _ _ _ := trivial
  start _ := trivial
  loadImage _ := trivial
  enterIsolate _ := trivial
  exitIsolate := trivial
  enterScope := trivial
  exitScope := trivial
  entryPoint _ := trivial
  drain := trivial
  shutdownIsolate _ := trivial
  stop := trivial
  handler _ _ _ := trivial
  sink _ _ _ := trivial
  extra o := nomatch o

/-- The plain world while a session runs. -/
def session : State platform := (System.ofPrograms idle).runTurns 2 [(0, launching)] start

/-- The callback is installed while the session runs, and then the session ends. -/
theorem callback_installs : ∃ t v,
    Chat.installCallback ((System.ofPrograms idle).foreign 1) { session with thread := 0 } =
      (.value true, t) ∧
    Lifecycle.shutdown ((System.ofPrograms idle).foreign 1) { t with thread := 0 } =
      (.value (.ok true), v) ∧
    v.bridge.chatSink = some .callback ∧ v.bridge.members.hasType Chat.callbackClass = false := by
  obtain ⟨image, launched⟩ := launching_runs
  unfold session
  rw [System.runTurns_cons (s := start) launched]
  exact ⟨_, _, rfl, rfl, rfl, rfl⟩

end Plain

/-- A message between the installation and the end of the session is delivered on another thread;
one after it has the class looked up by the thread that sends it. -/
theorem System.callback_lookups_plain :
    let G := (ofPrograms Plain.idle).foreign 1
    Plain.idle.NeverClears ∧ Plain.start.bridge = {} ∧ G.EndsAlone ∧ ∃ t v,
      Chat.installCallback G { Plain.session with thread := 0 } = (.value true, t) ∧
      Lifecycle.shutdown G { t with thread := 0 } = (.value (.ok true), v) ∧
      (∃ type member, Chat.Delivers G { t with thread := 1 } type member 7 "one") ∧
      Asks { v with thread := 1 } (.resolveType Chat.callbackClass) (Chat.send G 7 "two") := by
  obtain ⟨t, v, installed, ended, -⟩ := Plain.callback_installs
  have found := callback_lookups Plain.idle_neverClears 2 1 [(0, Plain.launching)]
    (s := Plain.start) rfl 0 installed
  obtain ⟨sink, ⟨type, member, -, delivers⟩, again⟩ := found
  have whole : '\x00' ∉ "one".toList ∧ '\x00' ∉ "two".toList := by decide
  obtain ⟨kept, asks⟩ := again 1 1 [] 0 v Plain.idle_endsAlone ended
  refine ⟨Plain.idle_neverClears, rfl, Plain.idle_endsAlone, t, v, installed, ended,
    ⟨type, member, ?_⟩, ?_⟩
  · exact delivers 1 1 [] 1 7 "one" nofun whole.1 sink
  · exact asks 1 1 7 "two" whole.2 (kept.trans sink)

/-- Messages do have the callback looked up again: one that is sent after the end of a session asks
the host for the class, on a thread other than that of the installation. -/
theorem Chat.callback_found_again :
    let G := (System.ofPrograms Plain.idle).foreign 1
    ∃ t v, installCallback G { Plain.session with thread := 0 } = (.value true, t) ∧
      Lifecycle.shutdown G { t with thread := 0 } = (.value (.ok true), v) ∧
      v.bridge.chatSink = some .callback ∧
      .host (.resolveType callbackClass) :: v.record <:+
        (send G 7 "two" { v with thread := 1 }).2.record := by
  obtain ⟨t, v, installed, ended, sink, missing⟩ := Plain.callback_installs
  refine ⟨t, v, installed, ended, sink, ?_⟩
  exact (send_asks_type (System.grown_unaware Plain.idle 1) (u := { v with thread := 1 }) sink
    (by decide) missing).ends

end HostBridge
