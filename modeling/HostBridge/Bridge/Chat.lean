import HostBridge.Bridge.Call

/-!
Chat messages from the program to the host. They go to the sink that is installed, which outlives
sessions: one of foreign code, or the callback method of the host.
-/
namespace HostBridge.Chat

variable {P : Platform} (F : Foreign P (Exec P))

/-- The class of the host that owns the callback. -/
def callbackClass : String := "com/redstone/DartBridge"

/-- The static method that takes a player and a message. -/
def callbackKey : MemberKey :=
  ⟨callbackClass, "onChatMessage", "(JLjava/lang/String;)V", .staticMethod⟩

def setSink (sink : Option (ChatSink P.Sink)) : Exec P Unit :=
  Exec.update fun b => { b with chatSink := sink }

def hasSink : Exec P Bool := Exec.bridge (·.chatSink.isSome)

/-- Calls the callback with a copy of the message that lives as long as the call. -/
def callBack (player : Int64) (text : String) : Exec P Unit := do
  if text.toList.any (· == '\x00') then
    Exec.report (.chatContainsNul player)
  else do
    let address ← Call.placeText text
    let call := Dynamic.callMethod F .static callbackKey.className callbackKey.name
      callbackKey.signature .void [.ofInt64 player, .ofPointer address]
    (discard call).ensure (Exec.modify fun s => { s with memory := s.memory.free address })

/-- Sends a message to a player; without a sink it is lost. -/
def send (player : Int64) (text : String) : Exec P Bool := do
  match ← Exec.bridge (·.chatSink) with
  | none =>
    Exec.report (.noChatSink player)
    return false
  | some .callback => do
    callBack F player text
    return true
  | some (.custom sink) => do
    F.callSink sink player text
    return true

/-- Makes the callback of the host the sink. The callback is resolved now, by the thread that asks,
since the host may not find it from others. -/
def installCallback : Exec P Bool := do
  match ← (Call.preload F callbackKey).run with
  | .error e =>
    Exec.report (.chatCallbackUnavailable e)
    return false
  | .ok () => do
    setSink (some .callback)
    return true

end HostBridge.Chat
