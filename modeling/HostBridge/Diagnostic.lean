import HostBridge.Error
import HostBridge.Event
import HostBridge.Guard

/-!
Diagnostics: what the bridge reports to whoever reads its log. Each is a case of its own, with the
level, the message and the fields under which it is written.
-/
namespace HostBridge

/-- The dynamic operations, as they are named in reports. -/
inductive CallName where
  | createObject
  | callMethod
  | callStaticMethod
  | getField
  | getStaticField
  | setField
  | setStaticField
  deriving DecidableEq, Repr

def CallName.display : CallName → String
  | createObject => "create_object"
  | callMethod => "call_method"
  | callStaticMethod => "call_static_method"
  | getField => "get_field"
  | getStaticField => "get_static_field"
  | setField => "set_field"
  | setStaticField => "set_static_field"

/-- A report of the bridge. -/
inductive Diagnostic where
  /-- A handle that names nothing was looked up, for the first time in a while. -/
  | unknownHandle (handle : Handle)
  | createFailed (className signature : String) (error : CallError)
  | callFailed (call : CallName) (className member : String) (error : CallError)
  | argumentCount (expected supplied : Nat)
  /-- A name in an exported call was null or no text. -/
  | nameRejected (call : CallName) (error : CallError)
  /-- A write of a field was rejected; the reason is the message. -/
  | fieldWriteRejected (reason : String)
  | badPort (value : String)
  | noChatSink (player : Int64)
  | drainFailed (error : VmError)
  | bootFailed (error : VmError)
  | enterFailed (error : VmError)
  | shutdownInside
  | handlerPanicked (event : EventKind)
  /-- An entry was dropped by a thread other than the owner on record. -/
  | foreignRelease (owner : Option ThreadId)
  | launchFailed (image : Path) (error : BridgeError)
  | shutdownRefused (error : BridgeError)
  | chatCallbackUnavailable (error : CallError)
  | chatContainsNul (player : Int64)
  | chatWithoutMessage (player : Int64)
  | nullImagePath
  | unreadableImagePath (text : String)
  | javaVmUnavailable (text : String)
  | javaVmInvalid (text : String)
  | serviceUrlUnavailable (text : String)
  deriving DecidableEq, Repr

/-- How serious a report is. -/
inductive Level where
  | warning
  | error
  deriving DecidableEq, Repr

def Level.display : Level → String
  | warning => "WARN"
  | error => "ERROR"

/-- The value of a field of a report. -/
inductive FieldValue where
  | text (s : String)
  | number (n : Int)
  deriving DecidableEq, Repr

namespace Diagnostic

def level : Diagnostic → Level
  | unknownHandle _ | createFailed .. | callFailed .. | argumentCount .. | nameRejected ..
  | fieldWriteRejected _ | badPort _ | noChatSink _ | drainFailed _ | chatContainsNul _
  | chatWithoutMessage _ => .warning
  | _ => .error

def message : Diagnostic → String
  | unknownHandle _ => "lookup of unknown handle"
  | createFailed .. => "create_object failed"
  | callFailed .. => "dynamic call returned zero value"
  | argumentCount .. => "argument count does not match signature"
  | nameRejected .. => "returning zero value"
  | fieldWriteRejected reason => reason
  | badPort _ => "ignoring invalid " ++ Config.Environment.servicePortName
  | noChatSink _ => "no chat sink installed; dropping message"
  | drainFailed _ => "microtask drain failed"
  | bootFailed _ => "VM initialization failed"
  | enterFailed _ => "isolate enter failed"
  | shutdownInside => "shutdown requested from inside the isolate; ignoring"
  | handlerPanicked _ => "event handler panicked"
  | foreignRelease _ => "isolate guard released by a thread that does not own it"
  | launchFailed .. => "bridge initialization failed"
  | shutdownRefused _ => "bridge shutdown refused"
  | chatCallbackUnavailable _ => "chat callback unavailable"
  | chatContainsNul _ => "chat message contains NUL; dropped"
  | chatWithoutMessage _ => "send_chat_message with a null message"
  | nullImagePath => "dart_bridge_init called with a null path"
  | unreadableImagePath _ => "init called without a readable script path"
  | javaVmUnavailable _ => "could not obtain the JavaVM"
  | javaVmInvalid _ => "invalid JavaVM pointer"
  | serviceUrlUnavailable _ => "could not build service URL string"

/-- The fields in the order of writing. The number of a thread says nothing to a reader, so an owner
is shown only where there is none. -/
def fields (describe : Cause → String) : Diagnostic → List (String × FieldValue)
  | unknownHandle h => [("handle", .number h.raw.toInt)]
  | createFailed c s e => [("class", .text c), ("signature", .text s), ("err", .text e.message)]
  | callFailed op c m e =>
    [("op", .text op.display), ("class", .text c), ("member", .text m), ("err", .text e.message)]
  | argumentCount expected supplied =>
    [("expected", .number expected), ("supplied", .number supplied)]
  | nameRejected op e => [("op", .text op.display), ("err", .text e.message)]
  | badPort v => [("value", .text v)]
  | noChatSink p | chatContainsNul p | chatWithoutMessage p => [("player_id", .number p.toInt)]
  | drainFailed e | bootFailed e | enterFailed e => [("err", .text (e.message describe))]
  | handlerPanicked k => [("event", .text k.name)]
  | foreignRelease none => [("owner", .text "None")]
  | launchFailed image e =>
    [("err", .text (e.message describe)), ("image", .text image.text)]
  | shutdownRefused e => [("err", .text (e.message describe))]
  | chatCallbackUnavailable e => [("err", .text e.message)]
  | unreadableImagePath t | javaVmUnavailable t | javaVmInvalid t | serviceUrlUnavailable t =>
    [("err", .text t)]
  | fieldWriteRejected _ | foreignRelease (some _) | shutdownInside | nullImagePath => []

end Diagnostic
end HostBridge
