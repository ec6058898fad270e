import HostBridge.HostValue

/-!
Values of the host as compact JSON: an object with one member, whose name tells the variant. Floats
are written as their bits, and objects as the name of their class.
-/
namespace HostBridge.Scenario

/-- One character inside a JSON text. -/
def escapeChar (c : Char) : List Char :=
  match c with
  | '"' => ['\\', '"']
  | '\\' => ['\\', '\\']
  | '\x08' => ['\\', 'b']
  | '\x0c' => ['\\', 'f']
  | '\n' => ['\\', 'n']
  | '\r' => ['\\', 'r']
  | '\t' => ['\\', 't']
  | c => if c.toNat < 0x20 then '\\' :: 'u' :: (Hex.fixed 4 c.toNat).toList else [c]

/-- A text in quotes. -/
def quoteJson (s : String) : String :=
  String.ofList ('"' :: s.toList.flatMap escapeChar ++ ['"'])

/-- An object with one member. -/
def oneMember (name value : String) : String :=
  "\x7b" ++ quoteJson name ++ ":" ++ value ++ "\x7d"

def optionJson : Option String → String
  | some s => quoteJson s
  | none => "null"

def valueJson : HostValue String → String
  | .void => oneMember "V" "null"
  | .boolean b => oneMember "Z" (if b then "true" else "false")
  | .byte n => oneMember "B" (toString n.toInt)
  | .char n => oneMember "C" (toString n.toNat)
  | .short n => oneMember "S" (toString n.toInt)
  | .int n => oneMember "I" (toString n.toInt)
  | .long n => oneMember "J" (toString n.toInt)
  | .float b => oneMember "F" (quoteJson ("0x" ++ Hex.fixed 8 b.toNat))
  | .double b => oneMember "D" (quoteJson ("0x" ++ Hex.fixed 16 b.toNat))
  | .string s => oneMember "T" (optionJson s)
  | .object o => oneMember "O" (optionJson o)

/-- Values as an array. -/
def valuesJson (vs : List (HostValue String)) : String :=
  "[" ++ String.intercalate "," (vs.map valueJson) ++ "]"

end HostBridge.Scenario
