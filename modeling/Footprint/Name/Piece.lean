import Footprint.Text.Character

namespace Footprint.Name

open Footprint.Text

inductive Piece where
  | plain (c : Char)
  | scope
  | arguments (args : List (List Char))
  deriving DecidableEq, Repr

mutual

def outside : List Char → List Piece
  | [] => []
  | '<' :: cs => inside 0 [] [] cs
  | ':' :: ':' :: cs => .scope :: outside cs
  | c :: cs => .plain c :: outside cs

/--
Reads on inside an argument list, `depth` further brackets deep. The argument being read and the
finished ones are kept in reverse. A list that is never closed leaves no piece.
-/
def inside (depth : Nat) (argument : List Char) (finished : List (List Char))
    : List Char → List Piece
  | [] => []
  | c :: cs =>
    if c = '<' then
      inside (depth + 1) (c :: argument) finished cs
    else if c = '>' then
      match depth with
      | 0 => .arguments (trim argument.reverse :: finished).reverse :: outside cs
      | depth + 1 => inside depth (c :: argument) finished cs
    else if c = ',' ∧ depth = 0 then
      inside depth [] (trim argument.reverse :: finished) cs
    else
      inside depth (c :: argument) finished cs

end

def pieces (name : List Char) : List Piece :=
  outside name

def dropLeadingScope : List Piece → List Piece
  | .scope :: rest => if .scope ∈ rest then .scope :: rest else rest
  | ps => ps

end Footprint.Name
