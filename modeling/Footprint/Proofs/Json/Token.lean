import Footprint.Json.Printer
import Footprint.Json.Token
import Mathlib.Data.List.Basic

namespace Footprint.Json.Token

variable {c : Char} {cs rest : List Char} {token : Token} {tokens : List Token}

section Lexer

end Lexer

section Words

end Words

section Strings

end Strings

section Numbers

variable {whole fraction exponent digits : List Char}

structure IsWhole (cs : List Char) : Prop where
  digits : ∀ c ∈ cs, c.isDigit
  nonempty : cs ≠ []
  leading : cs.head? = some '0' → cs = ['0']

def IsFraction (cs : List Char) : Prop :=
  ∃ d ds, cs = '.' :: d :: ds ∧ ∀ c ∈ d :: ds, c.isDigit

def IsExponent (cs : List Char) : Prop :=
  ∃ sign d ds, cs = 'e' :: sign ++ d :: ds ∧ (sign = [] ∨ sign = ['-'])
    ∧ ∀ c ∈ d :: ds, c.isDigit

theorem IsWhole.exists_cons (h : IsWhole whole) : ∃ c cs, whole = c :: cs ∧ c.isDigit := by
  obtain ⟨c, cs, rfl⟩ := List.exists_cons_of_ne_nil h.nonempty
  exact ⟨c, cs, rfl, h.digits c List.mem_cons_self⟩

theorem isWhole_toDigits (n : Nat) : IsWhole (Nat.toDigits 10 n) where
  digits c hc := Nat.isDigit_of_mem_toDigits (by decide) (by decide) hc
  nonempty := Nat.toDigits_ne_nil
  leading := by
    -- The leading digit is that of the number without its last digit.
    induction n using Nat.strongRecOn with
    | ind n ih =>
      rw [Nat.toDigits_eq_if (by decide)]
      split
      . next h =>
        intro hhead
        rw [List.head?_cons, Option.some.injEq] at hhead
        rw [hhead]
      . next h =>
        intro hhead
        rw [List.head?_append_of_ne_nil _ Nat.toDigits_ne_nil] at hhead
        have hzero := ih (n / 10) (by omega) hhead
        have hvalue := Nat.ofDigitChars_ten_toDigits (n := n / 10)
        rw [hzero] at hvalue
        simp [Nat.ofDigitChars] at hvalue
        omega

structure IsDecimal (whole fraction exponent : List Char) : Prop where
  isWhole : IsWhole whole
  isFraction : fraction = [] ∨ IsFraction fraction
  isExponent : exponent = [] ∨ IsExponent exponent
  nonempty : ¬(fraction.isEmpty && exponent.isEmpty)

end Numbers

def IsLiteral : Number → Prop
  | .unsigned _ | .negative _ => True
  | .decimal literal => ∃ (isNegative : Bool) (whole fraction exponent : List Char),
      IsDecimal whole fraction exponent
        ∧ literal.toList = (if isNegative then ['-'] else []) ++ whole ++ fraction ++ exponent

end Footprint.Json.Token
