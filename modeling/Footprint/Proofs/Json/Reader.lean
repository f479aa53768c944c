import Footprint.Json.Reader
import Footprint.Proofs.Json.Token
import Mathlib.Data.List.Forall2

namespace Footprint.Json

mutual

def tokens : Json → List Token
  | .null => [.null]
  | .bool b => [.bool b]
  | .number n => [.number n]
  | .string text => [.string text]
  | .array items => .beginArray :: ([.comma].intercalate (itemTokens items) ++ [.endArray])
  | .object members => .beginObject :: ([.comma].intercalate (memberTokens members) ++ [.endObject])

def itemTokens : List Json → List (List Token)
  | [] => []
  | item :: items => tokens item :: itemTokens items

def memberTokens : List (Option String × Json) → List (List Token)
  | [] => []
  | (key, value) :: members => (.string key :: .colon :: tokens value) :: memberTokens members

end

/-- Whether a value has a written form of its own: its strings are texts, its numbers literals. -/
inductive IsWritable : Json → Prop where
  | null : IsWritable .null
  | bool (b : Bool) : IsWritable (.bool b)
  | number {n : Number} (literal : Token.IsLiteral n) : IsWritable (.number n)
  | text (s : String) : IsWritable (text s)
  | array {items : List Json} (each : ∀ item ∈ items, IsWritable item) : IsWritable (.array items)
  | object {members : List (Option String × Json)} (keys : ∀ m ∈ members, m.1.isSome)
    (values : ∀ m ∈ members, IsWritable m.2)
    : IsWritable (.object members)

section Lexing

variable {level : Nat} {first last : String} {firstToken lastToken : Token} {xs : List String}
  {tss : List (List Token)} {rest : List Char}

end Lexing

section Reading

open Reader

variable {r : Reader} {frames : List Frame} {document value : Json} {token : Token}
  {items : List Json} {members : List (Option String × Json)}

section Entries

variable {β : Type} {frame : List β → Frame} {entry : β → List Token} {first next : Awaiting}

end Entries

end Reading

end Footprint.Json
