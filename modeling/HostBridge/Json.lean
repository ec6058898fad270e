import HostBridge.Text.Quoted
import HostBridge.Text.Utf8

/-!
A reader of JSON text that is told what to expect. It stops at the first fault and tells three kinds
apart: the text is malformed, the text ended early, or a well-formed value is of the wrong sort.
Reading goes on byte by byte and never looks past the value asked for, so of two faults the earlier
one wins.
-/
namespace HostBridge

/-- Why a JSON text was refused. -/
inductive JsonError where
  | malformed
  | endedEarly
  | wrongData (text : String)
  deriving DecidableEq, Repr

namespace Json

/-- A reader takes a value off the front of the remaining bytes. -/
abbrev Reader := StateT (List UInt8) (Except JsonError)

def malformed {α : Type} : Reader α := throw .malformed

def endedEarly {α : Type} : Reader α := throw .endedEarly

def wrongData {α : Type} (text : String) : Reader α := throw (.wrongData text)

/-- A byte as the character of its value. -/
def toChar (b : UInt8) : Char := Char.ofNat b.toNat

def isBlank (b : UInt8) : Bool := b == 0x20 || b == 0x0A || b == 0x09 || b == 0x0D

/-- The next byte, left in place. -/
def peek? : Reader (Option Char) := return (← get).head?.map toChar

/-- Drops one byte. -/
def skip : Reader Unit := modify List.tail

/-- Drops blanks and gives the byte after them, left in place. -/
def peekToken? : Reader (Option Char) := do
  modify (·.dropWhile isBlank)
  peek?

/-- Takes exactly these letters. -/
def letters : List Char → Reader Unit
  | [] => return
  | c :: rest => do
    match ← peek? with
    | none => endedEarly
    | some d => if d = c then do skip; letters rest else malformed

/-! ### Strings -/

/-- Where a reader stands inside a string: between characters, after a backslash, inside the four
digits of a code unit (`value` is `none` once a digit was wrong, `high` the leading surrogate that
came before), or where the second half of a surrogate pair has to begin. -/
inductive StringStage where
  | plain
  | escape
  | unit (left : Nat) (value : Option Nat) (high : Option Nat)
  | lowBackslash (high : Nat)
  | lowLetter (high : Nat)
  deriving DecidableEq, Repr

/-- The byte that a one-letter escape stands for. -/
def shortEscape? : Char → Option UInt8
  | '"' => some 0x22
  | '\\' => some 0x5C
  | '/' => some 0x2F
  | 'b' => some 0x08
  | 'f' => some 0x0C
  | 'n' => some 0x0A
  | 'r' => some 0x0D
  | 't' => some 0x09
  | _ => none

/-- What four digits mean: a character, the first half of a pair, or a fault. -/
inductive UnitMeaning where
  | character (c : Char)
  | high (n : Nat)
  | fault
  deriving DecidableEq, Repr

def unitMeaning (value : Option Nat) (high : Option Nat) : UnitMeaning :=
  match value, high with
  | none, _ => .fault
  | some n, none =>
    if 0xDC00 ≤ n ∧ n ≤ 0xDFFF then .fault
    else if 0xD800 ≤ n ∧ n ≤ 0xDBFF then .high n
    else .character (Char.ofNat n)
  | some n, some h =>
    if 0xDC00 ≤ n ∧ n ≤ 0xDFFF then
      .character (Char.ofNat ((h - 0xD800) * 0x400 + (n - 0xDC00) + 0x10000))
    else .fault

/-- The bytes of a string up to its closing quote, after the opening one. -/
def stringBytes : StringStage → List UInt8 → Except JsonError (List UInt8 × List UInt8)
  | _, [] => .error .endedEarly
  | .plain, b :: rest =>
    if b = 0x22 then .ok ([], rest)
    else if b = 0x5C then stringBytes .escape rest
    else if b < 0x20 then .error .malformed
    else (stringBytes .plain rest).map fun (bytes, left) => (b :: bytes, left)
  | .escape, b :: rest =>
    if b = 0x75 then stringBytes (.unit 4 (some 0) none) rest
    else
      match shortEscape? (toChar b) with
      | some e => (stringBytes .plain rest).map fun (bytes, left) => (e :: bytes, left)
      | none => .error .malformed
  | .unit left value high, b :: rest =>
    let value := value.bind fun n => (Hex.value? (toChar b)).map (n * 16 + ·)
    if 1 < left then stringBytes (.unit (left - 1) value high) rest
    else
      match unitMeaning value high with
      | .fault => .error .malformed
      | .high n => stringBytes (.lowBackslash n) rest
      | .character c =>
        (stringBytes .plain rest).map fun (bytes, left) =>
          (String.utf8EncodeChar c ++ bytes, left)
  | .lowBackslash high, b :: rest =>
    if b = 0x5C then stringBytes (.lowLetter high) rest else .error .malformed
  | .lowLetter high, b :: rest =>
    if b = 0x75 then stringBytes (.unit 4 (some 0) (some high)) rest else .error .malformed

/-- The rest of a string whose opening quote was taken. -/
def stringBody : Reader String := fun bytes =>
  (stringBytes .plain bytes).map fun (content, left) => (Utf8.decodeLossy content, left)

/-! ### Numbers -/

/-- A number by the way it is written: with neither fraction nor exponent and within 64 bits, or
any other. -/
inductive Number where
  | natural (n : Nat)
  | negative (n : Nat)
  | real
  deriving DecidableEq, Repr

def isDigit (b : UInt8) : Bool := 0x30 ≤ b && b ≤ 0x39

/-- Takes the digits in front. -/
def digits : Reader (List Nat) := fun bytes =>
  .ok ((bytes.takeWhile isDigit).map (·.toNat - 0x30), bytes.dropWhile isDigit)

/-- A decimal in reading: the digits kept, the power of ten that they are to be multiplied with, and
whether another digit no longer fits. At most 64 bits of digits are kept. -/
structure Decimal where
  significand : Nat
  exponent : Int
  full : Bool
  deriving DecidableEq, Repr

/-- One more digit before the point. A digit that does not fit only scales. -/
def Decimal.integerDigit (d : Decimal) (digit : Nat) : Decimal :=
  let n := d.significand * 10 + digit
  if d.full || UInt64.size ≤ n then { d with exponent := d.exponent + 1, full := true }
  else { d with significand := n }

/-- One more digit after the point. A digit that does not fit is dropped. -/
def Decimal.fractionDigit (d : Decimal) (digit : Nat) : Decimal :=
  let n := d.significand * 10 + digit
  if d.full || UInt64.size ≤ n then { d with full := true }
  else { d with significand := n, exponent := d.exponent - 1 }

/-- The nearest number of at most 53 significant bits, a tie going to the even one. -/
def roundToDouble (n : Nat) : Nat :=
  let unit := Nat.pow 2 (n.log2 - 52)
  let low := n / unit * unit
  let rest := n - low
  if 2 * rest < unit ∨ 2 * rest = unit ∧ (n / unit) % 2 = 0 then low else low + unit

/-- Whether the value lies beyond the largest double. -/
def Decimal.overflows (d : Decimal) : Bool :=
  if d.significand = 0 ∨ d.exponent < 0 then false
  else if 308 < d.exponent then true
  else
    decide (Nat.pow 2 1024 - Nat.pow 2 970 ≤
      roundToDouble d.significand * roundToDouble (Nat.pow 10 d.exponent.toNat))

/-- At least one digit, as a fraction and an exponent need. -/
def someDigits : Reader (List Nat) := do
  match ← digits with
  | [] => do
    match ← peek? with
    | none => endedEarly
    | some _ => malformed
  | ds => return ds

/-- The fraction after a point. -/
def fraction (d : Decimal) : Reader Decimal := do
  return (← someDigits).foldl Decimal.fractionDigit { d with full := false }

/-- The exponent after its letter. -/
def exponent (d : Decimal) : Reader Decimal := do
  let sign ← peek?
  if sign = some '+' ∨ sign = some '-' then skip
  let n : Nat := (← someDigits).foldl (fun n digit => n * 10 + digit) 0
  return { d with exponent := if sign = some '-' then d.exponent - n else d.exponent + n }

/-- A number after its sign. -/
def number (positive : Bool) : Reader Number := do
  let ds ← digits
  match ds with
  | [] => do
    match ← peek? with
    | none => endedEarly
    | some _ => malformed
  | 0 :: _ :: _ => malformed
  | _ => do
    let d := ds.foldl Decimal.integerDigit ⟨0, 0, false⟩
    let pointed := (← peek?) = some '.'
    let d ← if pointed then do skip; fraction d else pure d
    let letter ← peek?
    let scaled := letter = some 'e' ∨ letter = some 'E'
    let d ← if scaled then do skip; exponent d else pure d
    if d.overflows then malformed
    else if pointed ∨ scaled ∨ d.full then return .real
    else if positive then return .natural d.significand
    else if d.significand = 0 ∨ Nat.pow 2 63 < d.significand then return .real
    else return .negative d.significand

/-! ### What was found in place of what was expected -/

def Number.describe : Number → String
  | .natural n => "integer `" ++ toString n ++ "`"
  | .negative n => "integer `-" ++ toString n ++ "`"
  | .real => "floating point"

/-- Refuses the value in front because of its sort. Scalars are read first, so that a fault inside
them is reported instead. -/
def refuse {α : Type} (expected : String) : Reader α := do
  let wrong (found : String) : Reader α :=
    wrongData ("invalid type: " ++ found ++ ", expected " ++ expected)
  match ← peek? with
  | none => malformed
  | some 'n' => do letters ['n', 'u', 'l', 'l']; wrong "null"
  | some 't' => do letters ['t', 'r', 'u', 'e']; wrong "boolean `true`"
  | some 'f' => do letters ['f', 'a', 'l', 's', 'e']; wrong "boolean `false`"
  | some '-' => do skip; wrong (← number false).describe
  | some '"' => do skip; wrong ("string " ++ Text.quote (← stringBody))
  | some '[' => wrong "sequence"
  | some '\x7b' => wrong "map"
  | some c =>
    if '0' ≤ c ∧ c ≤ '9' then do wrong (← number true).describe
    else malformed

/-- The first byte of a value. -/
def valueStart : Reader Char := do
  match ← peekToken? with
  | none => endedEarly
  | some c => return c

/-- A string. -/
def text (expected : String) : Reader String := do
  if (← valueStart) = '"' then do skip; stringBody else refuse expected

/-- A boolean. -/
def boolean (expected : String) : Reader Bool := do
  match ← valueStart with
  | 't' => do letters ['t', 'r', 'u', 'e']; return true
  | 'f' => do letters ['f', 'a', 'l', 's', 'e']; return false
  | _ => refuse expected

/-- An integer of at most 16 bits. -/
def word16 (expected : String) : Reader UInt16 := do
  let c ← valueStart
  if c = '-' ∨ '0' ≤ c ∧ c ≤ '9' then do
    if c = '-' then skip
    match ← number (c != '-') with
    | .natural n =>
      if n < UInt16.size then return UInt16.ofNat n
      else wrongData ("invalid value: " ++ (Number.natural n).describe ++ ", expected " ++ expected)
    | .negative n =>
      wrongData ("invalid value: " ++ (Number.negative n).describe ++ ", expected " ++ expected)
    | .real => wrongData ("invalid type: " ++ Number.real.describe ++ ", expected " ++ expected)
  else refuse expected

/-- `null`, or a value. -/
def optional {α : Type} (value : Reader α) : Reader (Option α) := do
  match ← peekToken? with
  | some 'n' => do letters ['n', 'u', 'l', 'l']; return none
  | _ => return some (← value)

/-! ### Structure -/

/-- The key of the next member of an object, or `none` before the closing brace. -/
def nextKey? (first : Bool) : Reader (Option String) := do
  let key : Reader (Option String) := do
    match ← peekToken? with
    | some '"' => do skip; return some (← stringBody)
    | some _ => malformed
    | none => endedEarly
  match ← peekToken? with
  | some '\x7d' => return none
  | some c =>
    if first then key
    else if c = ',' then do skip; key
    else malformed
  | none => endedEarly

/-- The colon between a key and its value. -/
def colon : Reader Unit := do
  match ← peekToken? with
  | some ':' => skip
  | some _ => malformed
  | none => endedEarly

/-- Whether an array has another item, which is then next. -/
def nextItem? (first : Bool) : Reader Bool := do
  match ← peekToken? with
  | some ']' => return false
  | some c =>
    if first then return true
    else if c = ',' then do
      skip
      match ← peekToken? with
      | some ']' => malformed
      | some _ => return true
      | none => endedEarly
    else malformed
  | none => endedEarly

/-- The closing bracket of an array or brace of an object. -/
def close (bracket : Char) : Reader Unit := do
  match ← peekToken? with
  | some c => if c = bracket then skip else malformed
  | none => endedEarly

/-- Nothing but blanks is left. -/
def finished : Reader Unit := do
  match ← peekToken? with
  | some _ => malformed
  | none => return

/-- A whole text read as one value. -/
def parse {α : Type} (value : Reader α) (s : String) : Except JsonError α :=
  (do let v ← value; finished; return v : Reader α).run' (Utf8.encode s)

end Json
end HostBridge
