import Footprint.Json

namespace Footprint.Json

def hexDigit (n : Nat) : Char :=
  (Nat.digitChar n)

def escape (c : Char) : List Char :=
  match c with
  | '"' => ['\\', '"']
  | '\\' => ['\\', '\\']
  | '\x08' => ['\\', 'b']
  | '\x0c' => ['\\', 'f']
  | '\n' => ['\\', 'n']
  | '\r' => ['\\', 'r']
  | '\t' => ['\\', 't']
  | c =>
    if c.toNat < 0x20 then
      ['\\', 'u', '0', '0', hexDigit (c.toNat / 16), hexDigit (c.toNat % 16)]
    else
      [c]

def quote (s : String) : String :=
  .ofList ('"' :: s.toList.flatMap escape ++ ['"'])

def quoteString (text : Option String) : String :=
  quote (text.getD "\ufffd")

def Number.write : Number → String
  | .unsigned n => toString n
  | .negative n => "-" ++ toString n
  | .decimal literal => literal

mutual

def compact : Json → String
  | .null => "null"
  | .bool b => if b then "true" else "false"
  | .number n => n.write
  | .string text => quoteString text
  | .array items => "[" ++ String.intercalate "," (compactItems items) ++ "]"
  | .object members => "\x7b" ++ String.intercalate "," (compactMembers members) ++ "\x7d"

def compactItems : List Json → List String
  | [] => []
  | item :: items => compact item :: compactItems items

def compactMembers : List (Option String × Json) → List String
  | [] => []
  | (key, value) :: members =>
    (quoteString key ++ ":" ++ compact value) :: compactMembers members

end

def lineStart (level : Nat) : String :=
  "\n" ++ String.ofList (List.replicate (2 * level) ' ')

def block (level : Nat) (first last : String) (items : List String) : String :=
  if items.isEmpty then
    first ++ last
  else
    first ++ lineStart (level + 1) ++ String.intercalate ("," ++ lineStart (level + 1)) items
      ++ lineStart level ++ last

mutual

def prettyAt (level : Nat) : Json → String
  | .array items => block level "[" "]" (prettyItems (level + 1) items)
  | .object members => block level "\x7b" "\x7d" (prettyMembers (level + 1) members)
  | .null => "null"
  | .bool b => if b then "true" else "false"
  | .number n => n.write
  | .string text => quoteString text

def prettyItems (level : Nat) : List Json → List String
  | [] => []
  | item :: items => prettyAt level item :: prettyItems level items

def prettyMembers (level : Nat) : List (Option String × Json) → List String
  | [] => []
  | (key, value) :: members =>
    (quoteString key ++ ": " ++ prettyAt level value) :: prettyMembers level members

end

def pretty (value : Json) : String :=
  prettyAt 0 value

end Footprint.Json
