/-!
This module contains the removal of control characters and of control sequences, by which a text
could act on the terminal that shows it. What remains are blanks, line ends and visible characters.
-/

namespace Footprint.Text

inductive ControlMode where
  | text
  | escape
  | shortSequence
  | sequence
  | command
  | deviceStart
  | deviceParameters
  | deviceIntermediates
  | string
  deriving DecidableEq, Repr

def isLayoutControl (c : Char) : Bool :=
  c = '\t' || c = '\n' || c = '\x0c' || c = '\r'

def isShown (c : Char) : Bool :=
  isLayoutControl c || (' ' ≤ c && c ≠ '\x7f')

def endsString (c : Char) : Bool :=
  (String.utf8EncodeChar c).contains 0x9c

namespace ControlMode

def shows (m : ControlMode) (c : Char) : Bool :=
  match m with
  | text => isShown c
  | escape | shortSequence | sequence => isLayoutControl c
  | command | deviceStart | deviceParameters | deviceIntermediates | string => false

def behindEscape (c : Char) : ControlMode :=
  match c with
  | '[' => sequence
  | ']' => command
  | 'P' => deviceStart
  | 'X' => string
  | '^' => string
  | '_' => string
  | c =>
    if ' ' ≤ c && c ≤ '/' then shortSequence
    else if '0' ≤ c && c ≤ '~' then text
    else escape

/--
The mode behind a character of what comes before a string for a device. Parameters may begin with a
mark and have none later; they come before the intermediates. What is malformed hides its string.
-/
def behindHeader (m : ControlMode) (c : Char) : ControlMode :=
  if ' ' ≤ c && c ≤ '/' then deviceIntermediates
  else if '0' ≤ c && c ≤ '?' then
    if m = deviceIntermediates || (m = deviceParameters && '<' ≤ c) then string
    else deviceParameters
  else if '@' ≤ c && c ≤ '~' then string
  else m

def next (m : ControlMode) (c : Char) : ControlMode :=
  -- These two break off whatever sequence they stand in.
  if c = '\x18' || c = '\x1a' then text
  else if c = '\x1b' then escape
  else
    match m with
    | text => text
    | escape => behindEscape c
    | shortSequence => if '0' ≤ c && c ≤ '~' then text else shortSequence
    | sequence => if '@' ≤ c && c ≤ '~' then text else sequence
    | command => if c = '\x07' then text else command
    | deviceStart | deviceParameters | deviceIntermediates => m.behindHeader c
    | string => if endsString c then text else string

/--
The mode behind a character that is shown. A sequence in which one has been shown goes on where the
text after it is interrupted, unless that text holds a character beyond ASCII.
-/
def behindShown (m : ControlMode) (c : Char) : ControlMode :=
  if c.toNat < 0x80 then m else text

end ControlMode

def shownChars (m : ControlMode) (showing : Bool) : List Char → List Char
  | [] => []
  | c :: rest =>
    if (showing && isShown c) || m.shows c then
      c :: shownChars (m.behindShown c) true rest
    else
      shownChars (m.next c) false rest

def withoutControls (s : String) : String :=
  .ofList (shownChars .text false s.toList)

end Footprint.Text
