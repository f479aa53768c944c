import Footprint.Json

/-!
This module contains the tokens of JSON documents and their lexer. Blanks between tokens are space,
tab, line feed and carriage return.
-/

namespace Footprint.Json

inductive Token where
  | beginArray
  | endArray
  | beginObject
  | endObject
  | comma
  | colon
  | null
  | bool (b : Bool)
  | number (n : Number)
  | string (text : Option String)
  deriving DecidableEq, Repr

namespace Token

def hexValue? (c : Char) : Option Nat :=
  if c.isDigit then some (c.toNat - '0'.toNat)
  else if 'a' ≤ c ∧ c ≤ 'f' then some (c.toNat - 'a'.toNat + 10)
  else if 'A' ≤ c ∧ c ≤ 'F' then some (c.toNat - 'A'.toNat + 10)
  else none

def hexNumber? (cs : List Char) : Option Nat :=
  cs.foldlM (fun n c => (hexValue? c).map (n * 16 + ·)) 0

def escaped? : Char → Option Char
  | '"' => some '"'
  | '\\' => some '\\'
  | '/' => some '/'
  | 'b' => some '\x08'
  | 'f' => some '\x0c'
  | 'n' => some '\n'
  | 'r' => some '\r'
  | 't' => some '\t'
  | _ => none

inductive TextUnit where
  | char (c : Char)
  | code (u : Nat)
  deriving DecidableEq, Repr

/--
Reads the rest of a string literal after its opening quote and gives its units, last first, and
what follows the closing quote. Control characters have to be escaped.
-/
def readUnits (read : List TextUnit) : List Char → Option (List TextUnit × List Char)
  | [] => none
  | '"' :: cs => some (read, cs)
  | '\\' :: 'u' :: a :: b :: c :: d :: cs =>
    match hexNumber? [a, b, c, d] with
    | some u => readUnits (.code u :: read) cs
    | none => none
  | '\\' :: c :: cs =>
    match escaped? c with
    | some c => readUnits (.char c :: read) cs
    | none => none
  | c :: cs => if c.toNat < 0x20 then none else readUnits (.char c :: read) cs

def decodeUnits : List TextUnit → Option (List Char)
  | [] => some []
  | .char c :: us => (decodeUnits us).map (c :: ·)
  | .code u :: us =>
    if u < 0xd800 ∨ 0xe000 ≤ u then
      (decodeUnits us).map (Char.ofNat u :: ·)
    else
      match us with
      | .code v :: us =>
        if u < 0xdc00 ∧ 0xdc00 ≤ v ∧ v < 0xe000 then
          (decodeUnits us).map (Char.ofNat (0x10000 + (u - 0xd800) * 0x400 + (v - 0xdc00)) :: ·)
        else
          none
      | _ => none

def readDigits : List Char → Option (List Char × List Char)
  | '0' :: cs => some (['0'], cs)
  | c :: cs => if c.isDigit then some (c :: cs.takeWhile Char.isDigit, cs.dropWhile Char.isDigit)
    else none
  | [] => none

def readFraction : List Char → Option (List Char × List Char)
  | '.' :: c :: cs => if c.isDigit then
      some ('.' :: c :: cs.takeWhile Char.isDigit, cs.dropWhile Char.isDigit)
    else none
  | ['.'] => none
  | cs => some ([], cs)

def readSign : List Char → List Char × List Char
  | '+' :: cs => (['+'], cs)
  | '-' :: cs => (['-'], cs)
  | cs => ([], cs)

def readExponent : List Char → Option (List Char × List Char)
  | [] => some ([], [])
  | c :: cs =>
    if c = 'e' ∨ c = 'E' then
      match readSign cs with
      | (_, []) => none
      | (sign, d :: rest) => if d.isDigit then
          some (c :: sign ++ d :: rest.takeWhile Char.isDigit, rest.dropWhile Char.isDigit)
        else none
    else
      some ([], c :: cs)

def readNumber (isNegative : Bool) (cs : List Char) : Option (Number × List Char) :=
  match readDigits cs with
  | none => none
  | some (digits, rest) =>
    match readFraction rest with
    | none => none
    | some (fraction, rest) =>
      match readExponent rest with
      | none => none
      | some (exponent, rest) =>
        let sign := if isNegative then ['-'] else []
        let whole := Nat.ofDigitChars 10 digits 0
        let value :=
          if fraction.isEmpty && exponent.isEmpty then
            if isNegative then .negative whole else .unsigned whole
          else
            .decimal (.ofList (sign ++ digits ++ fraction ++ exponent))
        some (value, rest)

def readWord (word : List Char) (token : Token) (cs : List Char) : Option (Token × List Char) :=
  if word.isPrefixOf cs then some (token, cs.drop word.length) else none

def readNumberToken (isNegative : Bool) (cs : List Char) : Option (Token × List Char) :=
  match readNumber isNegative cs with
  | some (n, rest) => some (.number n, rest)
  | none => none

def readString (cs : List Char) : Option (Token × List Char) :=
  match readUnits [] cs with
  | some (units, rest) => some (.string ((decodeUnits units.reverse).map String.ofList), rest)
  | none => none

def ofChar? : Char → Option Token
  | '[' => some .beginArray
  | ']' => some .endArray
  | '{' => some .beginObject
  | '}' => some .endObject
  | ',' => some .comma
  | ':' => some .colon
  | _ => none

def read? (c : Char) (cs : List Char) : Option (Token × List Char) :=
  match ofChar? c with
  | some token => some (token, cs)
  | none =>
    match c with
    | '"' => readString cs
    | '-' => readNumberToken true cs
    | 'n' => readWord "ull".toList .null cs
    | 't' => readWord "rue".toList (.bool true) cs
    | 'f' => readWord "alse".toList (.bool false) cs
    | c => readNumberToken false (c :: cs)

theorem length_readUnits {read units : List TextUnit} {cs rest : List Char}
    (h : readUnits read cs = some (units, rest)) : rest.length < cs.length := by
  fun_induction readUnits read cs with
  | case1 => simp at h
  | case2 read cs => simp at h; simp [h]
  | case3 read a b c d cs u _ ih =>
    have := ih h
    simp
    omega
  | case4 => simp at h
  | case5 read c cs _ _ _ ih =>
    have := ih h
    simp
    omega
  | case6 => simp at h
  | case7 => simp at h
  | case8 read c cs _ _ _ _ ih =>
    have := ih h
    simp
    omega

theorem length_dropWhile_le (p : Char → Bool) (cs : List Char)
    : (cs.dropWhile p).length ≤ cs.length :=
  (List.dropWhile_sublist p).length_le

theorem length_readDigits {cs digits rest : List Char} (h : readDigits cs = some (digits, rest))
    : rest.length < cs.length := by
  unfold readDigits at h
  split at h
  . simp at h
    simp [← h.2]
  . next c cs _ =>
    split at h
    . simp at h
      have := length_dropWhile_le Char.isDigit cs
      simp [← h.2]
      omega
    . simp at h
  . simp at h

theorem length_readFraction {cs fraction rest : List Char}
    (h : readFraction cs = some (fraction, rest)) : rest.length ≤ cs.length := by
  unfold readFraction at h
  split at h
  . next c cs =>
    split at h
    . simp at h
      have := length_dropWhile_le Char.isDigit cs
      simp [← h.2]
      omega
    . simp at h
  . simp at h
  . simp at h
    simp [h.2]

theorem length_readSign (cs : List Char) : (readSign cs).2.length ≤ cs.length := by
  unfold readSign
  split <;> simp

theorem length_readExponent {cs exponent rest : List Char}
    (h : readExponent cs = some (exponent, rest)) : rest.length ≤ cs.length := by
  unfold readExponent at h
  split at h
  . simp at h
    simp [h.2]
  . next c cs =>
    split at h
    . have hs := length_readSign cs
      split at h
      . simp at h
      . next sign d tail heq =>
        split at h
        . simp at h
          have := length_dropWhile_le Char.isDigit tail
          rw [heq] at hs
          simp at hs
          simp [← h.2]
          omega
        . simp at h
    . simp at h
      simp [← h.2]

theorem length_readNumber {isNegative : Bool} {cs rest : List Char} {n : Number}
    (h : readNumber isNegative cs = some (n, rest)) : rest.length < cs.length := by
  unfold readNumber at h
  split at h
  . simp at h
  . next hd =>
    split at h
    . simp at h
    . next hf =>
      split at h
      . simp at h
      . next he =>
        simp at h
        have := length_readDigits hd
        have := length_readFraction hf
        have := length_readExponent he
        rw [← h.2]
        omega

theorem length_readWord {word cs rest : List Char} {t token : Token}
    (h : readWord word t cs = some (token, rest)) : rest.length ≤ cs.length := by
  unfold readWord at h
  split at h
  . simp at h
    simp [← h.2]
  . simp at h

theorem length_readNumberToken {isNegative : Bool} {cs rest : List Char} {token : Token}
    (h : readNumberToken isNegative cs = some (token, rest)) : rest.length < cs.length := by
  unfold readNumberToken at h
  split at h
  . next hn =>
    simp at h
    rw [← h.2]
    exact length_readNumber hn
  . simp at h

theorem length_readString {cs rest : List Char} {token : Token}
    (h : readString cs = some (token, rest)) : rest.length < cs.length := by
  unfold readString at h
  split at h
  . next hu =>
    simp at h
    rw [← h.2]
    exact length_readUnits hu
  . simp at h

theorem length_read? {c : Char} {cs rest : List Char} {token : Token}
    (h : read? c cs = some (token, rest)) : rest.length ≤ cs.length := by
  unfold read? at h
  split at h
  . simp at h
    simp [h.2]
  . split at h
    . exact Nat.le_of_lt (length_readString h)
    . exact Nat.le_of_lt (length_readNumberToken h)
    . exact length_readWord h
    . exact length_readWord h
    . exact length_readWord h
    . exact Nat.le_of_lt_succ (length_readNumberToken h)

def isBlank (c : Char) : Bool :=
  c == ' ' || c == '\t' || c == '\n' || c == '\r'

def lex? (cs : List Char) : Option (List Token) :=
  go [] cs
where
  go (tokens : List Token) (cs : List Char) : Option (List Token) :=
    match cs with
    | [] => some tokens.reverse
    | c :: cs =>
      if isBlank c then
        go tokens cs
      else
        match h : read? c cs with
        | some (token, rest) =>
          have := length_read? h
          go (token :: tokens) rest
        | none => none
  termination_by cs.length

end Token

end Footprint.Json
