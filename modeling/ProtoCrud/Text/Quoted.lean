import ProtoCrud.Text.Letter

/-!
# Quoted text

Text between double quotes, with an escape for each character that may not stand for itself: the
quote and the backslash, five control characters with a letter of their own, and every other
character that is not visible on its own, by its code point.
-/

namespace ProtoCrud.Text

/-- The digits of a code point in base sixteen, without leading zeros. -/
def hexDigits (code : Nat) : List Char :=
  Nat.toDigits 16 code

def escapeLetter? : Char → Option Char
  | '\x00' => some '0'
  | '\t' => some 't'
  | '\r' => some 'r'
  | '\n' => some 'n'
  | '"' => some '"'
  | '\\' => some '\\'
  | _ => none

/-- One character as quoted text shows it. -/
def escape (c : Char) : List Char :=
  match escapeLetter? c with
  | some letter => ['\\', letter]
  | none =>
    if isVisible c then [c]
    else ['\\', 'u', '\x7b'] ++ hexDigits c.toNat ++ ['\x7d']

def quoted (text : String) : String :=
  String.ofList ('"' :: text.toList.flatMap escape ++ ['"'])

end ProtoCrud.Text
