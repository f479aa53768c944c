import Footprint.Text.Character
import Footprint.Text.Mark
import Footprint.Text.Unassigned

namespace Footprint.Text

def isObscure (c : Char) : Bool :=
  isControl c || (isBlank c && c ≠ ' ') || isMark c || isFormat c || isIgnorable c
    || isUnassigned c

def quotedChar (c : Char) : List Char :=
  match c with
  | '\x00' => ['\\', '0']
  | '\t' => ['\\', 't']
  | '\n' => ['\\', 'n']
  | '\r' => ['\\', 'r']
  | '"' => ['\\', '"']
  | '\\' => ['\\', '\\']
  | c =>
    if isObscure c then
      '\\' :: 'u' :: '\x7b' :: Nat.toDigits 16 c.toNat ++ ['\x7d']
    else
      [c]

def quoted (s : String) : String :=
  .ofList ('"' :: s.toList.flatMap quotedChar ++ ['"'])

end Footprint.Text
