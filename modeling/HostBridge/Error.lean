import HostBridge.Config
import HostBridge.Descriptor
import HostBridge.Word

/-!
Failures of each layer, as causes, with one wording each. Where a failure has a cause outside the
bridge, the wording takes a description of that cause from whoever shows it.
-/
namespace HostBridge

/-- The phases in the life of an embedded VM. -/
inductive Phase where
  | uninitialized
  | initializing
  | running
  | shuttingDown
  deriving DecidableEq, Repr, Inhabited

def Phase.display : Phase → String
  | .uninitialized => "uninitialized"
  | .initializing => "initializing"
  | .running => "running"
  | .shuttingDown => "shutting down"

/-- A cause that lies outside the bridge: a file, the text of a settings file, or the dynamic
loader. -/
inductive Cause where
  | file (e : FileError)
  | json (e : JsonError)
  | loader
  deriving DecidableEq, Repr

namespace DescriptorError

def message : DescriptorError → String
  | empty => "signature is empty"
  | missingOpenParen => "method signature must start with `(`"
  | unterminatedParams => "parameter list is not closed"
  | missingReturn => "missing return type"
  | unexpectedChar found position =>
    "unexpected `" ++ String.singleton found ++ "` at position " ++ toString position
  | unterminatedClass position =>
    "class name starting at position " ++ toString position ++ " has no terminating `;`"
  | voidParameter position =>
    "`V` at position " ++ toString position ++ " is only valid as a return type"
  | trailing position => "trailing input after position " ++ toString position

end DescriptorError

/-- Failures that a host reports. -/
inductive HostError where
  | unavailable
  | typeNotFound (name : String)
  | memberNotFound (className name signature : String) (kind : MemberKind)
  | memberKindMismatch (kind : MemberKind)
  | pinFailed (reason : String)
  | exception (during : String)
  | interface (text : String)
  deriving DecidableEq, Repr

def HostError.message : HostError → String
  | unavailable => "host runtime is not attached"
  | typeNotFound name => "type `" ++ name ++ "` not found"
  | memberNotFound className name signature kind =>
    kind.display ++ " `" ++ name ++ "` with signature `" ++ signature ++ "` not found on `" ++
      className ++ "`"
  | memberKindMismatch kind => "member token does not match a " ++ kind.display ++ " operation"
  | pinFailed reason => "could not pin host reference: " ++ reason
  | exception during => "host exception raised during " ++ during
  | interface text => "host interface error: " ++ text

/-- Reasons why a dynamic call gives its zero value. -/
inductive CallError where
  | descriptor (e : DescriptorError)
  | host (e : HostError)
  | nullReceiver (handle : Handle)
  | returnMismatch (requested declared : ValueKind)
  | constructorReturn (declared : ValueKind)
  | badName
  deriving DecidableEq, Repr

def CallError.message : CallError → String
  | descriptor e => e.message
  | host e => e.message
  | nullReceiver handle =>
    "receiver handle " ++ handle.display ++ " does not refer to a live object"
  | returnMismatch requested declared =>
    "`" ++ requested.display ++ "` result requested but the signature returns `" ++
      declared.display ++ "`"
  | constructorReturn declared =>
    "constructor signature must return `V`, found `" ++ declared.display ++ "`"
  | badName => "type or member name is null or not UTF-8"

/-- Failures of an embedded VM. -/
inductive VmError where
  | library (path : Path)
  | missingSymbol (symbol : String)
  | notLoaded
  | startFailed
  | imageUnreadable (path : Path) (cause : FileError)
  | imageLoad (path : Path) (reason : String)
  | enterFailed (reason : String)
  | entryPointMissing (name : String)
  | entryPointFailed (name message : String)
  | microtask (message : String)
  deriving DecidableEq, Repr

def VmError.message (describe : Cause → String) : VmError → String
  | library path => "failed to load VM library `" ++ path.text ++ "`: " ++ describe .loader
  | missingSymbol symbol => "VM library is missing symbol `" ++ symbol ++ "`: " ++ describe .loader
  | notLoaded => "VM library is not loaded"
  | startFailed => "VM subsystem failed to start"
  | imageUnreadable path cause =>
    "program image `" ++ path.text ++ "` is not readable: " ++ describe (.file cause)
  | imageLoad path reason => "program image `" ++ path.text ++ "` could not be loaded: " ++ reason
  | enterFailed reason => "could not enter the isolate: " ++ reason
  | entryPointMissing name => "entry point `" ++ name ++ "` not found"
  | entryPointFailed name message => "entry point `" ++ name ++ "` raised: " ++ message
  | microtask message => "microtask queue reported: " ++ message

def ConfigError.message (describe : Cause → String) : ConfigError → String
  | io path cause => "could not read `" ++ path.text ++ "`: " ++ describe (.file cause)
  | json path cause => "invalid config `" ++ path.text ++ "`: " ++ describe (.json cause)

/-- Failures of the life cycle. -/
inductive BridgeError where
  | invalidState (phase : Phase)
  | shutdownFromIsolate
  | vm (e : VmError)
  | config (e : ConfigError)
  deriving DecidableEq, Repr

def BridgeError.message (describe : Cause → String) : BridgeError → String
  | invalidState phase => "bridge is " ++ phase.display
  | shutdownFromIsolate => "shutdown requested from inside the isolate"
  | vm e => e.message describe
  | config e => e.message describe

end HostBridge
