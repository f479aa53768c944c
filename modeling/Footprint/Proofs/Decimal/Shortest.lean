import Footprint.Decimal.Shortest
import Footprint.Proofs.Json.Token
import Mathlib.Data.List.TakeWhile

/-!
This module contains that the shortest decimals are laid out as number literals with a fraction or
an exponent.
-/

namespace Footprint.Decimal

open Json.Token (IsWhole IsFraction IsExponent IsDecimal IsLiteral isWhole_toDigits)

variable {s : Scaled} {d : Dyadic} {cs zeros : List Char}

section Digits

structure AreSignificant (cs : List Char) : Prop where
  digits : ∀ c ∈ cs, c.isDigit
  nonempty : cs ≠ []
  leading : cs.head? ≠ some '0'

theorem AreSignificant.isWhole_append (h : AreSignificant cs) (hzeros : ∀ c ∈ zeros, c.isDigit)
    : IsWhole (cs ++ zeros) where
  digits := List.forall_mem_append.2 ⟨h.digits, hzeros⟩
  nonempty := List.append_ne_nil_of_left_ne_nil h.nonempty zeros
  leading hhead := by
    rw [List.head?_append_of_ne_nil _ h.nonempty] at hhead
    exact absurd hhead h.leading

theorem AreSignificant.isWhole (h : AreSignificant cs) : IsWhole cs where
  digits := h.digits
  nonempty := h.nonempty
  leading hhead := absurd hhead h.leading

theorem AreSignificant.take (h : AreSignificant cs) {n : Nat} (hn : n ≠ 0)
    : AreSignificant (cs.take n) where
  digits c hc := h.digits c (List.mem_of_mem_take hc)
  nonempty := by
    rw [Ne, List.take_eq_nil_iff, not_or]
    exact ⟨hn, h.nonempty⟩
  leading := by
    rw [List.head?_take, if_neg hn]
    exact h.leading

theorem areSignificant_toDigits {n : Nat} (h : n ≠ 0) : AreSignificant (Nat.toDigits 10 n) where
  digits := (isWhole_toDigits n).digits
  nonempty := (isWhole_toDigits n).nonempty
  leading hhead := by
    have hvalue := Nat.ofDigitChars_ten_toDigits (n := n)
    rw [(isWhole_toDigits n).leading hhead] at hvalue
    exact h hvalue.symm

theorem AreSignificant.length_zeros_lt (h : AreSignificant cs)
    : (cs.reverse.takeWhile (· = '0')).length < cs.length := by
  have hsub := List.takeWhile_sublist (fun c : Char => decide (c = '0')) (l := cs.reverse)
  apply Nat.lt_of_le_of_ne (hsub.length_le.trans_eq List.length_reverse)
  intro hlength
  have hall := hsub.eq_of_length (hlength.trans List.length_reverse.symm)
  rw [List.takeWhile_eq_self_iff] at hall
  obtain ⟨c, rest, rfl⟩ := List.exists_cons_of_ne_nil h.nonempty
  have hc := hall c (by simp)
  rw [decide_eq_true_eq] at hc
  exact h.leading (congrArg some hc)

theorem areSignificant_digitsText (h : s.digits ≠ 0) : AreSignificant s.digitsText.1 := by
  have hdigits := areSignificant_toDigits h
  have hzeros := hdigits.length_zeros_lt
  exact hdigits.take (by omega)

end Digits

section Layout

theorem isDigit_of_mem_zeros {n : Nat} : ∀ c ∈ List.replicate n '0', c.isDigit := by
  intro c hc
  rw [List.eq_of_mem_replicate hc]
  rfl

theorem isFraction_of_digits (hdigits : ∀ c ∈ cs, c.isDigit) (hne : cs ≠ [])
    : IsFraction ('.' :: cs) := by
  obtain ⟨c, rest, rfl⟩ := List.exists_cons_of_ne_nil hne
  exact ⟨c, rest, rfl, hdigits⟩

theorem isExponent_toString (i : Int) : IsExponent ('e' :: (toString i).toList) := by
  have hdigits (n : Nat) := isWhole_toDigits n
  cases i with
  | ofNat n =>
    have htext : (toString (Int.ofNat n)).toList = Nat.toDigits 10 n := by
      show (toString n).toList = _
      rw [Nat.toString_eq_ofList_toDigits, String.toList_ofList]
    obtain ⟨c, cs, hcons, _⟩ := (hdigits n).exists_cons
    rw [htext, hcons]
    exact ⟨[], c, cs, rfl, .inl rfl, hcons ▸ (hdigits n).digits⟩
  | negSucc n =>
    have htext : (toString (Int.negSucc n)).toList = '-' :: Nat.toDigits 10 (n + 1) := by
      show ("-" ++ toString (n + 1)).toList = _
      rw [Nat.toString_eq_ofList_toDigits, String.toList_append, String.toList_ofList,
        String.toList_ofList]
      rfl
    obtain ⟨c, cs, hcons, _⟩ := (hdigits (n + 1)).exists_cons
    rw [htext, hcons]
    exact ⟨['-'], c, cs, rfl, .inr rfl, hcons ▸ (hdigits (n + 1)).digits⟩

def IsMagnitude (text : String) : Prop :=
  ∃ whole fraction exponent, IsDecimal whole fraction exponent
    ∧ text.toList = whole ++ fraction ++ exponent

theorem isMagnitude_of_fraction {whole fraction : List Char} (hwhole : IsWhole whole)
    (hfraction : IsFraction fraction)
    : IsMagnitude (.ofList (whole ++ fraction)) := by
  refine ⟨whole, fraction, [], ⟨hwhole, .inr hfraction, .inl rfl, ?_⟩, ?_⟩
  . obtain ⟨c, rest, rfl, _⟩ := hfraction
    simp
  . rw [String.toList_ofList, List.append_nil]

theorem isMagnitude_of_exponent {whole fraction : List Char} (hwhole : IsWhole whole)
    (hfraction : fraction = [] ∨ IsFraction fraction) (i : Int)
    : IsMagnitude (.ofList (whole ++ fraction) ++ "e" ++ toString i) := by
  refine ⟨whole, fraction, _, ⟨hwhole, hfraction, .inr (isExponent_toString i), by simp⟩, ?_⟩
  rw [String.toList_append, String.toList_append, String.toList_ofList, String.toList_ofList,
    List.append_assoc _ ['e'], List.singleton_append]

theorem isMagnitude_zero : IsMagnitude "0.0" :=
  isMagnitude_of_fraction (isWhole_toDigits 0) ⟨'0', [], rfl, by simp [Char.isDigit]⟩

theorem isMagnitude_layout (h : s.digits ≠ 0) : IsMagnitude s.layout := by
  have hdigits := areSignificant_digitsText h
  unfold Scaled.layout
  generalize s.digitsText = text at hdigits
  obtain ⟨digits, exponent⟩ := text
  dsimp only at hdigits ⊢
  have hpositive := List.length_pos_of_ne_nil hdigits.nonempty
  split
  . next hwhole =>
    exact isMagnitude_of_fraction (hdigits.isWhole_append isDigit_of_mem_zeros)
      ⟨'0', [], rfl, by simp [Char.isDigit]⟩
  . split
    . next hwhole hpoint =>
      have htake := hdigits.take (n := (digits.length + exponent).toNat) (by omega)
      apply isMagnitude_of_fraction
      . exact htake.isWhole
      . apply isFraction_of_digits fun c hc => hdigits.digits c (List.mem_of_mem_drop hc)
        rw [Ne, List.drop_eq_nil_iff]
        omega
    . split
      . apply isMagnitude_of_fraction (isWhole_toDigits 0)
        apply isFraction_of_digits
        . exact List.forall_mem_append.2 ⟨isDigit_of_mem_zeros, hdigits.digits⟩
        . exact List.append_ne_nil_of_right_ne_nil _ hdigits.nonempty
      . rw [List.append_assoc]
        apply isMagnitude_of_exponent (hdigits.take Nat.one_ne_zero).isWhole
        split
        . next hsingle =>
          left
          rw [List.nil_append, List.drop_eq_nil_iff]
          exact hsingle
        . next hsingle =>
          right
          apply isFraction_of_digits fun c hc => hdigits.digits c (List.mem_of_mem_drop hc)
          rw [Ne, List.drop_eq_nil_iff]
          exact hsingle

end Layout

section Interval

theorem contains_zero (h : d.significand ≠ 0) (exponent : Int)
    : (Interval.of d).contains ⟨0, exponent⟩ = false := by
  have hlt {e : Dyadic} (he : e.significand ≠ 0) : Scaled.compare ⟨0, exponent⟩ e = .lt := by
    unfold Scaled.compare
    rw [Nat.compare_eq_lt]
    have hnumerator : 0 < e.numerator := by
      unfold Dyadic.numerator
      rw [Nat.shiftLeft_eq]
      exact Nat.mul_pos (Nat.pos_of_ne_zero he) (Nat.two_pow_pos _)
    have hten : 0 < tenTo (-exponent).toNat := Nat.pow_pos (by decide)
    simpa using Nat.mul_pos hnumerator hten
  unfold Interval.contains
  rw [hlt, hlt]
  . unfold Interval.of
    dsimp only
    omega
  . unfold Interval.of
    dsimp only
    split <;> omega

theorem digits_ne_zero_of_contains (h : d.significand ≠ 0) (hs : (Interval.of d).contains s)
    : s.digits ≠ 0 := by
  rintro hzero
  obtain ⟨_, exponent⟩ := s
  subst hzero
  rw [contains_zero h] at hs
  cases hs

theorem nearer_eq_or (d : Dyadic) (below above : Scaled)
    : nearer d below above = below ∨ nearer d below above = above := by
  unfold nearer
  dsimp only
  split
  . exact .inl rfl
  . exact .inr rfl
  . split
    . exact .inl rfl
    . exact .inr rfl

theorem digits_ne_zero_of_withDigits? (h : d.significand ≠ 0) {count : Nat}
    (hs : withDigits? d count = some s)
    : s.digits ≠ 0 := by
  apply digits_ne_zero_of_contains h
  unfold withDigits? at hs
  generalize neighbours d (decimalLength d - count) = pair at hs
  obtain ⟨below, above⟩ := pair
  dsimp only at hs
  split at hs
  . next hbelow habove =>
    cases hs
    rcases nearer_eq_or d below above with heq | heq <;> rw [heq]
    . exact hbelow
    . exact habove
  . next hbelow _ =>
    cases hs
    exact hbelow
  . next _ habove =>
    cases hs
    exact habove
  . cases hs

theorem isMagnitude_shortest (h : d.significand ≠ 0) : IsMagnitude (shortest d).layout := by
  unfold shortest
  cases hsearch : ((List.range 9).map (· + 1)).findSome? (withDigits? d) with
  | none => exact isMagnitude_zero
  | some s =>
    obtain ⟨count, _, hs⟩ := List.exists_of_findSome?_eq_some hsearch
    exact isMagnitude_layout (digits_ne_zero_of_withDigits? h hs)

end Interval

theorem isLiteral_shortestText? {x : Float32} {literal : String}
    (h : shortestText? x = some literal)
    : IsLiteral (.decimal literal) := by
  unfold shortestText? at h
  split at h
  . next isNegative d _ =>
    have hmagnitude : IsMagnitude (if d.significand = 0 then "0.0" else (shortest d).layout) := by
      split
      . exact isMagnitude_zero
      . next hzero => exact isMagnitude_shortest hzero
    obtain ⟨whole, fraction, exponent, hdecimal, htext⟩ := hmagnitude
    rw [Option.some.injEq] at h
    refine ⟨isNegative, whole, fraction, exponent, hdecimal, ?_⟩
    rw [← h, String.toList_append, htext]
    cases isNegative <;> simp
  . cases h

end Footprint.Decimal
