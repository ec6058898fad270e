import HostBridge.Export.Calls
import HostBridge.Proofs.ChatDelivery

/-!
Messages one after another. Each of them that has a text goes to the callback once, in the order in
which they are sent, and what one of them meets with there does not change what becomes of the
others. A message without a text, or without a sink to go to, comes to nothing but a warning.
-/
namespace HostBridge

open Exec

/-- A message as foreign code sends it: the bytes of its text, up to a zero byte, are in memory, or
it has none. -/
structure ChatMessage where
  thread : ThreadId
  player : Int64
  bytes : Option (List UInt8)

namespace Chat

/-! ### The exported function -/

/-- Sends a message. The text is in a buffer that is there as long as the call; a message without
one is a null address. -/
def post {P : Platform} (player : Int64) : Option (List UInt8) → Act P Unit
  | none => Export.sendChat player 0
  | some bytes => do
    let address ← Act.op (.place (cBuffer bytes))
    Export.sendChat player address
    Act.op (.free address)

section
variable {P : Platform} {F : Foreign P (Exec P)} {s : State P} {player : Int64}
  {bytes : List UInt8}

/-- Nothing after the first zero byte is read. -/
theorem cText_terminated (bytes : List UInt8) : cText (cBuffer bytes) = cText bytes := by
  have same : cBytes (cBuffer bytes) = cBytes bytes := by
    induction bytes with
    | nil => rfl
    | cons b bytes ih =>
      unfold cBytes cBuffer at ih ⊢
      rw [List.cons_append, List.takeWhile_cons, List.takeWhile_cons, ih]
  rw [cText, same, cText]

theorem sendChat_run {address : UInt64} {buffer : List UInt8} (nonzero : address ≠ 0)
    (found : s.memory.buffer? address = some buffer) :
    (Export.sendChat player address).run F s = discard (send F player (cText buffer)) s := by
  have read : (Export.textAt address).run F s = (.value (some (cText buffer)), s) := by
    change ((Export.bytesAt address).run F >>= fun b => pure (b.map Utf8.decodeLossy)) s = _
    rw [run_bind, Export.bytesAt_run nonzero found]
    rfl
  change ((Export.textAt address).run F >>= _) s = _
  rw [run_bind, read]
  rfl

/-- A null message is dropped with a warning. -/
theorem post_null :
    (post player none).run F s = (.value (), s.report (.chatWithoutMessage player)) :=
  rfl

/-- The state with a buffer placed. -/
def placed (s : State P) (buffer : List UInt8) : State P :=
  { s with memory := (s.memory.place buffer).2 }

/-- Any other message is sent as the text that its bytes are read as. -/
theorem post_run : (post player (some bytes)).run F s = (do
      discard (send F player (cText bytes))
      Exec.modify fun t =>
        { t with memory := t.memory.free (s.memory.place (cBuffer bytes)).1 })
    (placed s (cBuffer bytes)) := by
  have sent : (Export.sendChat player (s.memory.place (cBuffer bytes)).1).run F
      (placed s (cBuffer bytes)) =
      discard (send F player (cText bytes)) (placed s (cBuffer bytes)) := by
    rw [sendChat_run (s.memory.place_ne_zero _) (s.memory.buffer?_place _), cText_terminated]
  change ((Export.sendChat player (s.memory.place (cBuffer bytes)).1).run F >>= _)
    (placed s (cBuffer bytes)) = _
  rw [run_bind, sent, run_bind]
  rfl

/-- Without a sink a message is dropped with a warning. -/
theorem post_sinkless (none : s.bridge.chatSink = none) : ∃ m : Memory,
    (post player (some bytes)).run F s =
      (.value (), { s.report (.noChatSink player) with memory := m }) := by
  have dropped : discard (send F player (cText bytes)) (placed s (cBuffer bytes)) =
      (.value (), (placed s (cBuffer bytes)).report (.noChatSink player)) := by
    have asked : Exec.bridge (·.chatSink) (placed s (cBuffer bytes)) =
        (.value Option.none, placed s (cBuffer bytes)) := by
      rw [← none]
      rfl
    have sent : send F player (cText bytes) (placed s (cBuffer bytes)) =
        (.value false, (placed s (cBuffer bytes)).report (.noChatSink player)) := by
      unfold send
      rw [run_bind, asked]
      rfl
    change (send F player (cText bytes) >>= fun _ => pure ()) _ = _
    rw [run_bind, sent]
    rfl
  rw [post_run, run_bind, dropped]
  exact ⟨_, rfl⟩

end

/-! ### Sequences -/

section
variable {N : Process}

/-- What becomes of a message, by the records before and after it. -/
def Conveys (J : JavaVm N (Exec N.platform)) (C : Callback N) (message : ChatMessage)
    (r r' : List (Happening N.platform)) : Prop :=
  match message.bytes with
  | none => r' = .diagnostic (.chatWithoutMessage message.player) :: r
  | some bytes => Delivered J C message.player (cText bytes) r r'

/-- What becomes of messages, one after another. -/
inductive Conveyed (J : JavaVm N (Exec N.platform)) (C : Callback N) :
    List ChatMessage → List (Happening N.platform) → List (Happening N.platform) → Prop
  | nil {r} : Conveyed J C [] r r
  | cons {message rest r r' r''} : Conveys J C message r r' → Conveyed J C rest r' r'' →
    Conveyed J C (message :: rest) r r''

/-- The Java VM does not come back from one of the messages. Those before it were conveyed. -/
def StuckAmong (J : JavaVm N (Exec N.platform)) (C : Callback N) (messages : List ChatMessage)
    (r : List (Happening N.platform)) : Prop :=
  ∃ done thread player bytes rest r', messages = done ++ ⟨thread, player, some bytes⟩ :: rest ∧
    Conveyed J C done r r' ∧ Stuck J C player (cText bytes) r'

theorem StuckAmong.cons {J : JavaVm N (Exec N.platform)} {C : Callback N} {message : ChatMessage}
    {rest : List ChatMessage} {r r' : List (Happening N.platform)}
    (conveys : Conveys J C message r r') (stuck : StuckAmong J C rest r') :
    StuckAmong J C (message :: rest) r := by
  obtain ⟨done, thread, player, bytes, rest, r'', rfl, conveyed, stuck⟩ := stuck
  exact ⟨message :: done, thread, player, bytes, rest, r'', rfl, .cons conveys conveyed, stuck⟩

/-- A message with a text is delivered, unless the Java VM does not come back. -/
theorem post_delivers {S : Process.Surroundings N (Exec N.platform)}
    {extra : {α : Type} → N.Extra α → Exec N.platform α} {C : Callback N}
    (serves : Serves S.java C) (each : S.java.Each fun x => Keeps C.Cached C.Cached x)
    {player : Int64} {bytes : List UInt8} {r : List (Happening N.platform)} :
    Sends S.java C player (cText bytes) r (fun s => s.record = r ∧ Poised C s)
      ((post player (some bytes)).run (Process.foreign S extra))
      (fun _ => Sent S.java C player (cText bytes) r) := by
  rintro s ⟨rfl, h⟩
  have sent : Sends S.java C player (cText bytes) s.record
      (fun t => t.record = s.record ∧ Poised C t)
      (discard (send (Process.foreign S extra) player (cText bytes)))
      (fun _ => Sent S.java C player (cText bytes) s.record) :=
    (send_delivers serves each (zero_not_mem_cText bytes)).discard
  rw [post_run]
  refine Triple.bind sent (fun _ => ?_) (placed s (cBuffer bytes))
    ⟨rfl, h.aside rfl rfl rfl rfl⟩
  exact Triple.modify fun t h => ⟨h.aside rfl rfl rfl rfl, h.delivered⟩

/-- The program that sends a message, with its thread. -/
def turn (message : ChatMessage) : ThreadId × Act N.platform Unit :=
  (message.thread, post message.player message.bytes)

end
end Chat

namespace Process

open Chat

variable {N : Process}

/-- The Java VM of a process, with its code nested at most so deep. -/
abbrev Surroundings.javaAt (S : Surroundings N (Act N.platform))
    (extra : {α : Type} → N.Extra α → Act N.platform α) (depth : Nat) :
    JavaVm N (Exec N.platform) :=
  S.java.map fun a => (system S extra).exec depth a

variable {S : Surroundings N (Act N.platform)} {extra : {α : Type} → N.Extra α → Act N.platform α}
  {C : Callback N} {depth : Nat}

/-- One message after another, each finds all as the first one did. -/
theorem runTurns_conveys (serves : Serves (S.javaAt extra depth) C)
    (each : (S.javaAt extra depth).Each fun x =>
      Keeps C.Cached C.Cached x) (messages : List ChatMessage) {s : State N.platform}
    (h : Poised C s) :
    Conveyed (S.javaAt extra depth) C messages s.record
        ((system S extra).runTurns (depth + 1) (messages.map turn) s).record ∨
      StuckAmong (S.javaAt extra depth) C messages s.record := by
  induction messages generalizing s with
  | nil => exact .inl .nil
  | cons message rest ih =>
    obtain ⟨thread, player, bytes⟩ := message
    have poised : Poised C { s with thread := thread } := h.aside rfl rfl rfl rfl
    cases bytes with
    | none =>
      have warned : (system S extra).exec (depth + 1) (post player none)
          { s with thread := thread } =
          (.value (), State.report { s with thread := thread } (.chatWithoutMessage player)) :=
        post_null
      have next : Poised C
          (State.report { s with thread := thread } (.chatWithoutMessage player)) :=
        poised.aside rfl rfl rfl rfl
      rw [List.map_cons, turn, System.runTurns_cons warned]
      exact (ih next).imp (.cons rfl) (.cons rfl)
    | some bytes =>
      have posted : Sends (S.javaAt extra depth) C player
          (cText bytes) s.record (fun t => t.record = s.record ∧ Poised C t)
          ((system S extra).exec (depth + 1) (post player (some bytes)))
          (fun _ => Sent (S.javaAt extra depth) C player
            (cText bytes) s.record) := post_delivers serves each
      have delivers := posted { s with thread := thread } ⟨rfl, poised⟩
      rcases ran : (system S extra).exec (depth + 1) (post player (some bytes))
        { s with thread := thread } with ⟨⟨⟩ | m | w, t⟩ <;> rw [ran] at delivers
      · rw [List.map_cons, turn, System.runTurns_cons ran]
        exact (ih delivers.toPoised).imp (.cons delivers.delivered) (.cons delivers.delivered)
      · exact .inr ⟨[], thread, player, bytes, rest, s.record, rfl, .nil, delivers⟩
      · exact .inr ⟨[], thread, player, bytes, rest, s.record, rfl, .nil, delivers⟩

/-- What becomes of messages that are sent from a state on. -/
structure ConveysChat (S : Surroundings N (Act N.platform))
    (extra : {α : Type} → N.Extra α → Act N.platform α) (depth : Nat) (C : Callback N)
    (s : State N.platform) : Prop where
  /-- Each message is conveyed, in order, unless the Java VM does not come back from one. -/
  conveyed : ∀ messages,
    Conveyed (S.javaAt extra depth) C messages s.record
        ((system S extra).runTurns (depth + 1) (messages.map turn) s).record ∨
      StuckAmong (S.javaAt extra depth) C messages s.record
  /-- A null message comes to a warning and nothing else, wherever it is sent. -/
  null : ∀ limit player t, (system S extra).exec (limit + 1) (post player none) t =
    (.value (), t.report (.chatWithoutMessage player))
  /-- So does any message while there is no sink. -/
  sinkless : ∀ limit player bytes t, t.bridge.chatSink = none → ∃ m : Memory,
    (system S extra).exec (limit + 1) (post player (some bytes)) t =
      (.value (), { t.report (.noChatSink player) with memory := m })
  warnings : ∀ player, (Diagnostic.chatWithoutMessage player).level = .warning ∧
    (Diagnostic.noChatSink player).level = .warning
  /-- No text of a message is one for which the callback is not called. -/
  nulFree : ∀ bytes, (cText bytes).toList.any (· == '\x00') = false
  /-- What is well-formed arrives as it is. -/
  unaltered : ∀ bytes text, cBytes bytes = Utf8.encode text → cText bytes = text

/-- Messages to the callback are neither lost nor made twice, altered or put in another order. For
each that has a text the Java VM is called once, with the player and a string of the text, and what
is thrown there is told and cleared before the next one. -/
theorem chat_conveyed (only : S.FindsOnly callbackKey C.type C.id)
    (serves : Serves (S.javaAt extra depth) C) (limit : Nat)
    (turns : List (ThreadId × Act N.platform Unit)) {s : State N.platform} (new : s.bridge = {})
    (ready : Ready C ((system S extra).runTurns limit turns s)) :
    ConveysChat S extra depth C ((system S extra).runTurns limit turns s) where
  conveyed messages := by
    have start : C.Cached s := ⟨by rw [new]; exact nofun, by rw [new]; exact nofun⟩
    have cached : C.Cached ((system S extra).runTurns limit turns s) :=
      runTurns_named only limit turns start
    exact runTurns_conveys serves (S.java.each_map fun a => exec_named only depth a) messages
      ⟨ready, cached⟩
  null limit player t := post_null
  sinkless limit player bytes t none := post_sinkless none
  warnings player := ⟨rfl, rfl⟩
  nulFree bytes := by
    have whole := zero_not_mem_cText bytes
    exact List.any_eq_false.mpr fun c mem zero => whole (eq_of_beq zero ▸ mem)
  unaltered bytes text same := by rw [cText, same, Utf8.decodeLossy_encode]

end Process

/-! ### A process with a touchy Java VM -/

namespace Plain

/-- A Java VM whose methods throw when they are called for the player of number seven. -/
def touchyVm : JavaVm process (Act process.platform) :=
  { unrulyVm with
    invoke := fun _ _ result args => pure ⟨.zero result,
      match args with
      | .long player :: _ => if player = 7 then some "not seven" else none
      | _ => none⟩ }

/-- The process with that Java VM. -/
def touchy : Process.Surroundings process (Act process.platform) := { unruly with java := touchyVm }

def touchySystem : System process.platform := Process.system touchy fun o => nomatch o

/-- The callback there, which can always be called. -/
def touchyCallback : Chat.Callback process := ⟨(), (), fun _ => True⟩

/-- The process before anything happened. -/
def beforehand : State process.platform where
  ledger := { attached := true }
  world := ()

/-- The process once the callback is installed. -/
def installed : State process.platform :=
  touchySystem.runTurns 2 [(0, (Act.op .installCallback).bind fun _ => pure ())] beforehand

/-- Three messages: the first one has a zero byte in it, the second one is null, and the third one
is not well-formed. -/
def messages : List ChatMessage :=
  [⟨1, 7, some [104, 105, 0, 33]⟩, ⟨2, 8, none⟩, ⟨3, -1, some [0xFF, 33]⟩]

/-- The arguments of a call of a method in the Java VM. -/
def arguments? : Happening process.platform → Option (List (HostValue String))
  | .signal (.java (.invoke _ _ _ args)) => some args
  | _ => none

theorem touchy_serves : Chat.Serves (touchy.javaAt (fun o => nomatch o) 1) touchyCallback where
  attaches _ _ := rfl
  isTold _ _ h := ⟨rfl, h⟩
  hasRoom _ _ h := ⟨rfl, h⟩
  findClass _ _ h := ⟨rfl, h⟩
  findMember _ _ h := ⟨rfl, h⟩
  makeString text _ _ h := ⟨⟨text, rfl⟩, h⟩
  onChatMessage _ _ _ h := h

theorem touchy_finds : touchy.FindsOnly Chat.callbackKey () () where
  findClass _ _ _ _ _ _ := rfl
  findMember _ _ _ _ _ _ := rfl
  hasRoom F s room t ran := by
    cases ran
    rfl

instance : DecidableEq process.platform.Sink := inferInstanceAs (DecidableEq Unit)

theorem installed_ready : Chat.Ready touchyCallback installed where
  sink := by decide +kernel
  attached := by decide +kernel
  able := trivial
  settled := by decide +kernel

end Plain

namespace Process

open Chat

/-- Two of three messages have a text. The callback throws at the first one, and gets the other one
with its replacement character all the same. -/
theorem chat_conveyed_plain :
    let t := Plain.touchySystem.runTurns 2 (Plain.messages.map turn) Plain.installed
    Plain.touchy.FindsOnly callbackKey () () ∧
      Serves (Plain.touchy.javaAt (fun o => nomatch o) 1) Plain.touchyCallback ∧
      Plain.beforehand.bridge = {} ∧ Ready Plain.touchyCallback Plain.installed ∧
      Conveyed (Plain.touchy.javaAt (fun o => nomatch o) 1) Plain.touchyCallback Plain.messages
        Plain.installed.record t.record ∧
      t.history.filterMap Plain.arguments? =
        [[.long 7, .object (some "hi")], [.long (-1), .object (some "\uFFFD!")]] := by
  have conveys := chat_conveyed (C := Plain.touchyCallback) Plain.touchy_finds Plain.touchy_serves 2
    [(0, (Act.op .installCallback).bind fun _ => pure ())] (s := Plain.beforehand) rfl
    Plain.installed_ready
  have calls : (Plain.touchySystem.runTurns 2 (Plain.messages.map turn)
      Plain.installed).history.filterMap Plain.arguments? =
        [[.long 7, .object (some "hi")], [.long (-1), .object (some "\uFFFD!")]] := by
    decide +kernel
  refine ⟨Plain.touchy_finds, Plain.touchy_serves, rfl, Plain.installed_ready, ?_, calls⟩
  refine (conveys.conveyed Plain.messages).resolve_right ?_
  rintro ⟨_, _, _, _, _, _, -, -, o, s, -, never⟩
  exact never _ _ rfl

end Process
end HostBridge
