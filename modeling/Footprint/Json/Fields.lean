import Footprint.Json

namespace Footprint.Json

def text? : Json → Option String
  | .string text => text
  | _ => none

def bool? : Json → Option Bool
  | .bool b => some b
  | _ => none

def natural? (limit : Nat) : Json → Option Nat
  | .number (.unsigned n) => if n < limit then some n else none
  | _ => none

def byte? (value : Json) : Option UInt8 :=
  (natural? 256 value).map UInt8.ofNat

def list? {α : Type} (item? : Json → Option α) : Json → Option (List α)
  | .array items => items.mapM item?
  | _ => none

abbrev Fields := List (String × Json)

def named? (members : List (Option String × Json)) : Option Fields :=
  members.mapM fun (key, value) => key.map (·, value)

def fields? (names : List String) : Json → Option Fields
  | .array items => if items.length ≤ names.length then some (names.zip items) else none
  | .object members =>
    match named? members with
    | some named =>
      let known := named.filter (·.1 ∈ names)
      if (known.map Prod.fst).Nodup then some known else none
    | none => none
  | _ => none

namespace Fields

variable {α : Type}

def required (fields : Fields) (name : String) (read? : Json → Option α) : Option α :=
  match fields.lookup name with
  | some value => read? value
  | none => none

def optional (fields : Fields) (name : String) (read? : Json → Option α) (default : α)
    : Option α :=
  match fields.lookup name with
  | some value => read? value
  | none => some default

end Fields

end Footprint.Json
