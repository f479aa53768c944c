/-!
This module contains the values of JSON documents. They keep as much of the written form as decides
whether a value can be read as a field of a record: how a number is written, and whether a string
denotes a text.
-/

namespace Footprint

inductive Json.Number where
  | unsigned (n : Nat)
  /-- Digits after a minus sign; `-0` is one of these. -/
  | negative (n : Nat)
  | decimal (literal : String)
  deriving DecidableEq, Repr

/--
A JSON value. A string stands for `none` if its escapes name a surrogate without its partner, since
it then denotes no text.
-/
inductive Json where
  | null
  | bool (b : Bool)
  | number (n : Json.Number)
  | string (text : Option String)
  | array (items : List Json)
  | object (members : List (Option String × Json))
  deriving Repr

namespace Json

instance : Inhabited Json where
  default := null

def text (s : String) : Json :=
  string (some s)

def natural (n : Nat) : Json :=
  number (.unsigned n)

def integer (i : Int) : Json :=
  number (if i < 0 then .negative i.natAbs else .unsigned i.natAbs)

def record (members : List (String × Json)) : Json :=
  object (members.map fun (key, value) => (some key, value))

def list {α : Type} (item : α → Json) (xs : List α) : Json :=
  array (xs.map item)

def optional {α : Type} (item : α → Json) (x : Option α) : Json :=
  (x.map item).getD null

end Json

end Footprint
