import HostBridge.Path
import HostBridge.Text.Utf8

/-!
A tree of files below a working directory. Reading walks the path one component at a time, so a
missing component is found before anything that comes after it is looked at.
-/
namespace HostBridge

/-- Why a file could not be read. -/
inductive FileError where
  | notFound
  | isADirectory
  | notADirectory
  | invalidData
  | invalidInput
  | invalidFilename
  deriving DecidableEq, Repr

namespace FileError

/-- The name of the kind of failure. -/
def display : FileError → String
  | notFound => "NotFound"
  | isADirectory => "IsADirectory"
  | notADirectory => "NotADirectory"
  | invalidData => "InvalidData"
  | invalidInput => "InvalidInput"
  | invalidFilename => "InvalidFilename"

end FileError

/-- The files and the directories that exist, named by their components from the working directory.
Every directory above a file or a directory exists too. -/
structure FileSystem where
  files : List (List String × List UInt8)
  directories : List (List String)
  deriving DecidableEq, Repr, Inhabited

namespace FileSystem

/-- Nothing but the working directory. -/
def empty : FileSystem := ⟨[], []⟩

/-- The components of a path, with the ones that say nothing left out. -/
def components (p : Path) : List String :=
  p.parts.filter fun c => c != "" && c != "."

/-- Adds a file; the last one written under a name is the one that is read. -/
def addFile (fs : FileSystem) (p : Path) (content : List UInt8) : FileSystem :=
  { fs with files := (components p, content) :: fs.files }

/-- Adds an empty directory. -/
def addDirectory (fs : FileSystem) (p : Path) : FileSystem :=
  { fs with directories := components p :: fs.directories }

def content? (fs : FileSystem) (name : List String) : Option (List UInt8) :=
  fs.files.lookup name

/-- Whether a directory of this name exists: the working directory, one that was made, or one that
something lies in. -/
def isDirectory (fs : FileSystem) (name : List String) : Bool :=
  name.isEmpty || fs.directories.any (name.isPrefixOf ·) ||
    fs.files.any fun f => name.isPrefixOf f.1 && name.length < f.1.length

/-- A place that a walk has reached: a name below the working directory, or a directory above it
(`0` is the nearest), below which nothing is known by name. -/
inductive Place where
  | below (name : List String)
  | above (steps : Nat)
  deriving DecidableEq, Repr

/-- Names are at most this many bytes long, and paths less than `pathLimit`. -/
def nameLimit : Nat := 255

def pathLimit : Nat := 4096

/-- One component from a place. -/
def enter (fs : FileSystem) (place : Place) (component : String) : Except FileError Place :=
  match place with
  | .above n =>
    if component = ".." then .ok (.above (n + 1))
    else if component = "" ∨ component = "." then .ok (.above n)
    else if nameLimit < component.utf8ByteSize then .error .invalidFilename
    else .error .notFound
  | .below name =>
    if (fs.content? name).isSome then .error .notADirectory
    else if component = "" ∨ component = "." then .ok (.below name)
    else if component = ".." then
      .ok (if name.isEmpty then .above 0 else .below name.dropLast)
    else if nameLimit < component.utf8ByteSize then .error .invalidFilename
    else
      let next := name ++ [component]
      if (fs.content? next).isSome || fs.isDirectory next then .ok (.below next)
      else .error .notFound

/-- The place that a path names. -/
def walk (fs : FileSystem) (p : Path) : Except FileError Place :=
  if p.text.toList.any (· == '\x00') then .error .invalidInput
  else if p.text = "" then .error .notFound
  else if pathLimit ≤ p.text.utf8ByteSize then .error .invalidFilename
  else p.parts.foldlM fs.enter (if p.isAbsolute then .above 0 else .below [])

/-- The bytes of a file. -/
def read (fs : FileSystem) (p : Path) : Except FileError (List UInt8) :=
  match fs.walk p with
  | .error e => .error e
  | .ok (.above _) => .error .isADirectory
  | .ok (.below name) =>
    match fs.content? name with
    | some bytes => .ok bytes
    | none => .error .isADirectory

/-- The text of a file, which has to be well-formed UTF-8. -/
def readText (fs : FileSystem) (p : Path) : Except FileError String :=
  match fs.read p with
  | .error e => .error e
  | .ok bytes =>
    match Utf8.decode? bytes with
    | some text => .ok text
    | none => .error .invalidData

end FileSystem
end HostBridge
