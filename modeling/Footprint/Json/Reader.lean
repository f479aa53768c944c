import Footprint.Json.Token

namespace Footprint.Json

inductive Frame where
  | array (items : List Json)
  | object (members : List (Option String × Json))
  | member (members : List (Option String × Json)) (key : Option String)
  deriving Repr

inductive Awaiting where
  | value
  | firstItem
  | key
  | firstKey
  | colon
  | separator
  | nothing
  deriving DecidableEq, Repr

structure Reader where
  awaiting : Awaiting
  frames : List Frame
  document : Json

namespace Reader

def start : Reader where
  awaiting := .value
  frames := []
  document := .null

def take (r : Reader) (value : Json) : Option Reader :=
  match r.frames with
  | [] => some { r with awaiting := .nothing, document := value }
  | .array items :: frames =>
    some { r with awaiting := .separator, frames := .array (value :: items) :: frames }
  | .member members key :: frames =>
    some { r with awaiting := .separator, frames := .object ((key, value) :: members) :: frames }
  | .object _ :: _ => none

def takeValue (r : Reader) : Token → Option Reader
  | .beginArray => some { r with awaiting := .firstItem, frames := .array [] :: r.frames }
  | .beginObject => some { r with awaiting := .firstKey, frames := .object [] :: r.frames }
  | .null => r.take .null
  | .bool b => r.take (.bool b)
  | .number n => r.take (.number n)
  | .string text => r.take (.string text)
  | _ => none

def takeKey (r : Reader) (key : Option String) : Option Reader :=
  match r.frames with
  | .object members :: frames =>
    some { r with awaiting := .colon, frames := .member members key :: frames }
  | _ => none

def closeArray (r : Reader) : Option Reader :=
  match r.frames with
  | .array items :: frames => { r with frames := frames }.take (.array items.reverse)
  | _ => none

def closeObject (r : Reader) : Option Reader :=
  match r.frames with
  | .object members :: frames => { r with frames := frames }.take (.object members.reverse)
  | _ => none

def continueFrame (r : Reader) : Option Reader :=
  match r.frames with
  | .array _ :: _ => some { r with awaiting := .value }
  | .object _ :: _ => some { r with awaiting := .key }
  | _ => none

def step (r : Reader) (token : Token) : Option Reader :=
  match r.awaiting, token with
  | .value, t => r.takeValue t
  | .firstItem, .endArray => r.closeArray
  | .firstItem, t => r.takeValue t
  | .key, .string key => r.takeKey key
  | .firstKey, .string key => r.takeKey key
  | .firstKey, .endObject => r.closeObject
  | .colon, .colon => some { r with awaiting := .value }
  | .separator, .comma => r.continueFrame
  | .separator, .endArray => r.closeArray
  | .separator, .endObject => r.closeObject
  | _, _ => none

end Reader

def ofTokens? (tokens : List Token) : Option Json := do
  let r ← tokens.foldlM Reader.step Reader.start
  if r.awaiting = .nothing then some r.document else none

def parse? (document : String) : Option Json := do
  ofTokens? (← Token.lex? document.toList)

end Footprint.Json
