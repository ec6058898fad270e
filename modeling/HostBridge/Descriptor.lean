import HostBridge.Kind
import HostBridge.Text.Utf8

/-!
Type descriptors: one letter for a primitive, `L` name `;` for a class, `[` before the element of an
array, and a parenthesised parameter list before the result of a method. The reader is a machine
that takes one byte at a time, so an error always names the byte at which it stopped.
-/
namespace HostBridge

/-- Why a text is no descriptor. Positions count bytes from zero. -/
inductive DescriptorError where
  | empty
  | missingOpenParen
  | unterminatedParams
  | missingReturn
  | unexpectedChar (found : Char) (position : Nat)
  | unterminatedClass (position : Nat)
  | voidParameter (position : Nat)
  | trailing (position : Nat)
  deriving DecidableEq, Repr

/-- A method descriptor after reading: the kinds of the parameters in order, and of the result. -/
structure MethodDescriptor where
  params : List ValueKind
  result : ValueKind
  deriving DecidableEq, Repr, Inhabited

namespace Descriptor

/-- The class whose objects are strings. -/
def stringClass : String := "java/lang/String"

/-- The kind that a single letter stands for. -/
def ofLetter? : Char → Option ValueKind
  | 'Z' => some .boolean
  | 'B' => some .byte
  | 'C' => some .char
  | 'S' => some .short
  | 'I' => some .int
  | 'J' => some .long
  | 'F' => some .float
  | 'D' => some .double
  | 'V' => some .void
  | _ => none

/-- The kind of a class by its name. -/
def ofClassName (name : List Char) : ValueKind :=
  if name = stringClass.toList then .string else .object

/-- What the type being read is for: the next parameter after the ones in `before` (latest first),
the result after all parameters, or a field. -/
inductive Goal where
  | param (before : List ValueKind)
  | result (params : List ValueKind)
  | field
  deriving DecidableEq, Repr

/-- Where the machine stands: before a type (`array` says whether after a `[`), inside a class name
that began at `start`, or after everything. -/
inductive Stage where
  | atType (goal : Goal) (array : Bool)
  | inName (goal : Goal) (array : Bool) (start : Nat) (read : List Char)
  | complete (descriptor : MethodDescriptor)
  deriving DecidableEq, Repr

/-- The stage after a type of kind `kind` was read for `goal`. -/
def Goal.reached (kind : ValueKind) : Goal → Stage
  | .param before => .atType (.param (kind :: before)) false
  | .result params => .complete ⟨params, kind⟩
  | .field => .complete ⟨[], kind⟩

/-- Whether a bare `V` may stand here: only as the result. -/
def Goal.allowsVoid : Goal → Bool
  | .result _ => true
  | _ => false

/-- One byte, given as its Latin-1 character, at position `pos`. -/
def Stage.step (pos : Nat) (c : Char) : Stage → Except DescriptorError Stage
  | .complete _ => .error (.trailing pos)
  | .inName goal array start read =>
    if c = ';' then
      if read = [] then .error (.unexpectedChar ';' pos)
      else .ok (goal.reached (if array then .array else ofClassName read.reverse))
    else .ok (.inName goal array start (c :: read))
  | .atType goal array =>
    if c = 'L' then .ok (.inName goal array pos [])
    else if c = '[' then .ok (.atType goal true)
    else
      match goal, array, c with
      | .param before, false, ')' => .ok (.atType (.result before.reverse) false)
      | _, _, _ =>
        match ofLetter? c with
        | none => .error (.unexpectedChar c pos)
        | some .void =>
          if array || !goal.allowsVoid then .error (.voidParameter pos)
          else .ok (goal.reached .void)
        | some kind => .ok (goal.reached (if array then .array else kind))

/-- The end of the text. -/
def Stage.finish : Stage → Except DescriptorError MethodDescriptor
  | .complete d => .ok d
  | .inName _ _ start _ => .error (.unterminatedClass start)
  | .atType (.param _) false => .error .unterminatedParams
  | .atType _ _ => .error .missingReturn

/-- The machine from position `pos` to the end of the text. -/
def run (pos : Nat) (stage : Stage) : List Char → Except DescriptorError MethodDescriptor
  | [] => stage.finish
  | c :: rest =>
    match stage.step pos c with
    | .ok next => run (pos + 1) next rest
    | .error e => .error e

/-- The bytes of a text, each as the Latin-1 character of its value. -/
def latin1 (s : String) : List Char :=
  (Utf8.encode s).map fun b => Char.ofNat b.toNat

/-- Reads a method descriptor. -/
def parseMethod (s : String) : Except DescriptorError MethodDescriptor :=
  match latin1 s with
  | [] => .error .empty
  | '(' :: rest => run 1 (.atType (.param []) false) rest
  | _ :: _ => .error .missingOpenParen

/-- Reads the descriptor of a field. -/
def parseField (s : String) : Except DescriptorError ValueKind :=
  match latin1 s with
  | [] => .error .empty
  | cs => (run 0 (.atType .field false) cs).map (·.result)

end Descriptor
end HostBridge
