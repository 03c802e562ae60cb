import Gazette.Text.Unmarked

/-!
# Quoted text

Messages and descriptions show a text between double quotes, so that its ends and its
hidden characters can be seen.  The quote and the backslash are escaped, the four common
controls have a letter each, and a character without a mark of its own is written as its
code point in braces.
-/

set_option autoImplicit false

namespace Gazette.Quoted

/-- The form of one character inside quotes. -/
def escape (c : Char) : List Char :=
  match c with
  | '\x00' => ['\\', '0']
  | '\t' => ['\\', 't']
  | '\n' => ['\\', 'n']
  | '\r' => ['\\', 'r']
  | '"' => ['\\', '"']
  | '\\' => ['\\', '\\']
  | c =>
    if Unmarked.holds c then
      ['\\', 'u', '\x7b'] ++ (Nat.toDigits 16 c.toNat) ++ ['\x7d']
    else [c]

end Gazette.Quoted

namespace Gazette

/-- A text between double quotes, with its hidden characters made visible. -/
def quoted (text : String) : String :=
  String.ofList ('"' :: (text.toList.flatMap Quoted.escape ++ ['"']))

end Gazette
