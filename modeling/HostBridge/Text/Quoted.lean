import HostBridge.Text.Classes
import HostBridge.Text.Hex

/-!
Text in double quotes for messages: quotes, backslashes and the common controls have short escapes,
and what cannot be seen or would attach to its neighbour is written by its code point.
-/
namespace HostBridge.Text

/-- The hexadecimal digits of a number without leading zeros. -/
def hexDigits (n : Nat) : List Char :=
  match (Hex.digits 6 n).dropWhile (· == '0') with
  | [] => ['0']
  | ds => ds

/-- One character as it stands between the quotes. -/
def escape (c : Char) : List Char :=
  match c with
  | '\x00' => ['\\', '0']
  | '\t' => ['\\', 't']
  | '\r' => ['\\', 'r']
  | '\n' => ['\\', 'n']
  | '\\' => ['\\', '\\']
  | '"' => ['\\', '"']
  | c =>
    if isExtending c || !isPrintable c then
      ['\\', 'u', '\x7b'] ++ hexDigits c.toNat ++ ['\x7d']
    else [c]

/-- The text between double quotes. -/
def quote (s : String) : String :=
  String.ofList ('"' :: s.toList.flatMap escape ++ ['"'])

end HostBridge.Text
