import Footprint.Text.Width.Ligature
import Footprint.Text.Width.Pictograph

/-!
This module contains the width of texts in columns of a terminal. It is the sum of the widths of the
characters, unless several of them are drawn as a single picture or letter.
-/

namespace Footprint.Text

inductive Selector where
  | picture
  | text
  | fullwidth
  deriving DecidableEq, Repr

def Selector.ofChar? (c : Char) : Option Selector :=
  match c with
  | '\ufe0f' => some picture
  | '\ufe0e' => some text
  | '\ufe01' => some fullwidth
  | _ => none

def isCurlyQuote (c : Char) : Bool :=
  c = '\u2018' || c = '\u2019' || c = '\u201c' || c = '\u201d'

def keyFrame : Char := '\u20e3'

def taggedFlag : Char := .ofNat 0x1f3f4

def tagEnd : Char := .ofNat 0xe007f

inductive Sequel where
  | other
  | pictograph
  | tint
  | regionals (count : Nat)
  | joined
  | joinedKey
  | joinedRegionals (count : Nat)
  | joinedTag (letters digits : Nat)
  /-- A letter with what has been drawn as one with it. `tied` tells of a joiner before them. -/
  | letter (l : Ligature) (tied : Bool)
  deriving DecidableEq, Repr

/--
What stands behind a character: selectors, as far as they matter, and what follows them. In front of
letters all selectors in a row matter, in front of anything else only the first one does.
-/
structure Context where
  sequel : Sequel := .other
  selectors : List Selector := []
  deriving DecidableEq, Repr

namespace Sequel

def ofChar (c : Char) : Sequel :=
  if isTint c then tint
  else if isRegional c then regionals 1
  else if isPictograph c then pictograph
  else
    match Ligature.ofChar? c with
    | some l => letter l false
    | none => other

def behind (s : Sequel) (selector : Selector) : Sequel :=
  match s, selector with
  | letter .kiratRaiE _, _ => other
  | letter .kiratRaiAi _, _ => other
  | letter l tied, _ => letter l tied
  | joined, .picture => joined
  | joinedKey, .picture => joinedKey
  | _, _ => other

def unselected (s : Sequel) : Sequel :=
  match s with
  | letter l tied => letter l tied
  | _ => other

def behindJoiner (s : Sequel) : Sequel :=
  match s with
  | pictograph => joined
  | tint => joined
  | regionals count => if 2 ≤ count then joined else other
  | joinedRegionals count => if 2 ≤ count then joined else other
  | letter l _ => if l.admitsJoiner then letter l true else other
  | _ => other

def joinedRegionalsWidth (count : Nat) : Int :=
  if count % 2 = 0 then count - 2 else count

/-- How a tag goes on to the left: three digits or two letters, then up to four letters more. -/
def extendTag? (letters digits : Nat) (c : Char) : Option Sequel :=
  if isTagLetter c then
    if digits = 0 && letters < 6 then some (joinedTag (letters + 1) 0) else none
  else if isTagDigit c then
    if digits = 0 && letters ≤ 4 || digits = 1 || digits = 2 then
      some (joinedTag letters (digits + 1))
    else none
  else if c = taggedFlag then
    if digits = 0 && 3 ≤ letters || digits = 3 then some pictograph else none
  else none

def extendPicture? (s : Sequel) (c : Char) : Option (Int × Sequel) :=
  match s with
  | tint => if isTintable c then some (0, pictograph) else none
  | regionals count => if isRegional c then some (1, regionals (count + 1)) else none
  | joined =>
    if c = keyFrame then some (0, joinedKey)
    else if isRegional c then some (1, joinedRegionals 1)
    else if isTint c then some (0, tint)
    else if c = tagEnd then some (0, joinedTag 0 0)
    else if isPictograph c then some (0, pictograph)
    else none
  | joinedRegionals count =>
    if isRegional c then
      some (joinedRegionalsWidth (count + 1) - joinedRegionalsWidth count,
        joinedRegionals (count + 1))
    else none
  | joinedTag letters digits => (extendTag? letters digits c).map fun s => (0, s)
  | _ => none

def extend? (s : Sequel) (c : Char) : Option (Int × Sequel) :=
  if c = joiner then some (0, s.behindJoiner)
  else
    match s with
    | letter l tied =>
      if l.skips c then some (0, s)
      else (l.extend? tied c).map fun (w, rest) => (w, rest.elim other (letter · false))
    | _ => s.extendPicture? c

def extend (s : Sequel) (c : Char) : Int × Sequel :=
  (s.extend? c).getD (charWidth c, ofChar c)

end Sequel

namespace Context

def extendSelected? (x : Context) (c : Char) : Option (Int × Sequel) :=
  if x.selectors.head? = some .picture && isSelectable c then
    some (if x.sequel = .joined || x.sequel = .joinedKey then 0 else 2, .pictograph)
  else if x.selectors.contains .text && isNarrowAsText c then
    some (1, .other)
  else if x.selectors.contains .fullwidth && isCurlyQuote c then
    some (2, .other)
  else
    none

def rest (x : Context) : Sequel :=
  if x.selectors.isEmpty then x.sequel else x.sequel.unselected

def select (x : Context) (selector : Selector) : Context :=
  match x.rest.behind selector with
  | .letter l tied => { sequel := .letter l tied, selectors := selector :: x.selectors }
  | sequel => { sequel, selectors := [selector] }

def extend (x : Context) (c : Char) : Int × Context :=
  match x.extendSelected? c with
  | some (w, sequel) => (w, { sequel })
  | none =>
    match Selector.ofChar? c with
    | some selector => (0, x.select selector)
    | none =>
      let (w, sequel) := x.rest.extend c
      (w, { sequel })

end Context

def measure (cs : List Char) : Int × Context :=
  cs.foldr (fun c (sum, x) => let (w, x) := x.extend c; (sum + w, x)) (0, {})

def width (cs : List Char) : Nat :=
  (measure cs).1.toNat

end Footprint.Text
