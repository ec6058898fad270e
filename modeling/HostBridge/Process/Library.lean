import HostBridge.Process.JavaVm

/-!
The embedding library as a record of functions, and how the loader finds it.
-/
namespace HostBridge

universe u

/-- What a function of the library gives beside nothing: a handle that is no error, or one that is,
with the bytes of its message if it has one. -/
inductive LibraryAnswer where
  | success
  | value
  | error (message : Option (List UInt8))
  deriving DecidableEq, Repr, Inhabited

/-- The text of an answer that is an error. -/
def LibraryAnswer.errorText? : LibraryAnswer → Option String
  | .error none => some "unknown error"
  | .error (some bytes) => some (cText bytes)
  | .success | .value => none

/-- The embedding library, and how it is recognised. -/
structure Library (N : Process) (m : Type → Type u) where
  /-- Whether the loader takes a file for a library, by the file's content, and then whether the
  library exports a name. -/
  exports : List UInt8 → Option (String → Bool)
  /-- The content of the file that the loader's search comes upon for a name without a slash. -/
  search : FileSystem → String → Option (List UInt8)
  /-- Whether the program itself exports a name. -/
  programExports : String → Bool
  start : (service : Bool) → (port : UInt16) → m Bool
  /-- The isolate of a script; null if it cannot be loaded. -/
  loadScript : (script packages : String) → m N.Isolate
  enterIsolate : N.Isolate → m Unit
  exitIsolate : m Unit
  shutdownIsolate : m Unit
  enterScope : m Unit
  exitScope : m Unit
  rootLibrary : m LibraryAnswer
  invoke : String → m LibraryAnswer
  drain : m LibraryAnswer
  stop : m Unit

/-- The same library with its functions run in another way. -/
def Library.map {N : Process} {m : Type → Type u} {n : Type → Type} (f : {α : Type} → m α → n α)
    (L : Library N m) : Library N n where
  exports := L.exports
  search := L.search
  programExports := L.programExports
  start service port := f (L.start service port)
  loadScript script packages := f (L.loadScript script packages)
  enterIsolate i := f (L.enterIsolate i)
  exitIsolate := f L.exitIsolate
  shutdownIsolate := f L.shutdownIsolate
  enterScope := f L.enterScope
  exitScope := f L.exitScope
  rootLibrary := f L.rootLibrary
  invoke name := f (L.invoke name)
  drain := f L.drain
  stop := f L.stop

namespace Library

variable {N : Process} {m : Type → Type u} (L : Library N m)

/-! ### Loading -/

/-- The names that the library has to export, in the order in which they are looked for. -/
def symbols : List String :=
  ["DartDll_Initialize", "DartDll_LoadScript", "DartDll_DrainMicrotaskQueue", "DartDll_Shutdown",
    "Dart_EnterIsolate", "Dart_ExitIsolate", "Dart_ShutdownIsolate", "Dart_EnterScope",
    "Dart_ExitScope", "Dart_RootLibrary", "Dart_IsError", "Dart_GetError",
    "Dart_NewStringFromCString", "Dart_Invoke"]

/-- The file name that the loader sees: one zero at the end of a name says nothing. -/
def loaderName (text : String) : String :=
  match text.toList.reverse with
  | '\x00' :: rest => String.ofList rest.reverse
  | _ => text

/-- What the loader finds under a path. A name with a slash in it is that of a file, any other name
is searched for, and the empty name is that of the program itself. -/
def find (fs : FileSystem) (path : Path) : Option (String → Bool) :=
  let name := loaderName path.text
  if name = "" then some L.programExports
  else
    let content :=
      if name.toList.contains '/' then (fs.read ⟨name⟩).toOption else L.search fs name
    content.bind L.exports

/-- Looks for the library under a path. -/
def load (fs : FileSystem) (path : Path) : Except VmError Unit :=
  match L.find fs path with
  | none => .error (.library path)
  | some exported =>
    match symbols.find? fun s => !exported s with
    | some missing => .error (.missingSymbol missing)
    | none => .ok ()

end Library
end HostBridge
