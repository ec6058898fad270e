/-!
Paths as text. A path is read from its end: separators that repeat, a separator at the end and `.`
components other than a leading one say nothing. What is left of a path keeps its spelling, since
paths are shown to the reader as they were given.
-/
namespace HostBridge

/-- A path, spelled as it was given. -/
structure Path where
  text : String
  deriving DecidableEq, Repr, Inhabited

namespace Path

/-- The last component of a path that has one. -/
inductive Last where
  | root
  | current
  | parent
  | name (s : String)
  deriving DecidableEq, Repr

/-- How many leading characters stand for the root or for the current directory and so belong to no
later component. The argument is the path from its end. -/
def anchorLength (reversed : List Char) : Nat :=
  match reversed.reverse with
  | '/' :: _ => 1
  | ['.'] => 1
  | '.' :: '/' :: _ => 1
  | _ => 0

/-- The reversed text after the last separator, and what stands before that separator; a text
without separators is one component. The first `anchor` characters of the text are not looked at. -/
def splitLast (anchor : Nat) (reversed : List Char) : List Char × List Char :=
  let body := reversed.take (reversed.length - anchor)
  let kept := reversed.drop (reversed.length - anchor)
  (body.takeWhile (· != '/'), (body.dropWhile (· != '/')).drop 1 ++ kept)

/-- Drops what says nothing from the end, given as much fuel as there are characters. -/
def trimEnd : Nat → List Char → List Char
  | 0, reversed => reversed
  | fuel + 1, reversed =>
    if reversed.length ≤ anchorLength reversed then reversed
    else
      let (component, before) := splitLast (anchorLength reversed) reversed
      if component = [] ∨ component = ['.'] then trimEnd fuel before else reversed

/-- The last component and the path before it. -/
def splitLast? (p : Path) : Option (Last × Path) :=
  let reversed := p.text.toList.reverse
  let trimmed := trimEnd reversed.length reversed
  if trimmed.length ≤ anchorLength trimmed then
    match trimmed.reverse with
    | '/' :: _ => some (.root, ⟨""⟩)
    | '.' :: _ => some (.current, ⟨""⟩)
    | _ => none
  else
    let (component, before) := splitLast (anchorLength trimmed) trimmed
    let rest : Path := ⟨String.ofList (trimEnd before.length before).reverse⟩
    if component = ['.', '.'] then some (.parent, rest)
    else some (.name (String.ofList component.reverse), rest)

/-- The path without its last component; the root and the empty path have none. -/
def parent? (p : Path) : Option Path :=
  match p.splitLast? with
  | none | some (.root, _) => none
  | some (_, rest) => some rest

/-- The last component when it is a name. -/
def fileName? (p : Path) : Option String :=
  match p.splitLast? with
  | some (.name s, _) => some s
  | _ => none

/-- Whether the path starts at the root. -/
def isAbsolute (p : Path) : Bool :=
  p.text.toList.head? == some '/'

/-- The texts between the separators. -/
def parts (p : Path) : List String := (p.text.toList.splitOn '/').map String.ofList

/-- `q` taken from the directory `p`. -/
def join (p q : Path) : Path :=
  if q.isAbsolute then q
  else
    match p.text.toList.getLast? with
    | none | some '/' => ⟨p.text ++ q.text⟩
    | some _ => ⟨p.text ++ "/" ++ q.text⟩

end Path
end HostBridge
