import Mathlib.Data.Char
import Mathlib.Data.String.Basic

namespace Footprint

variable {c d : Char} {cs ds : List Char} {s t : String} {v w : Nat}

def utf8 (s : String) : List UInt8 :=
  s.toUTF8.data.toList

theorem utf8_eq_flatMap (s : String) : utf8 s = s.toList.flatMap String.utf8EncodeChar := by
  unfold utf8
  rw [String.toUTF8_eq_toByteArray, ← String.utf8Encode_toList]
  unfold List.utf8Encode
  simp

section Characters

theorem codePoint_lt (c : Char) : c.val.toNat < 0x110000 := by
  have := c.valid
  unfold UInt32.isValidChar Nat.isValidChar at this
  omega

def markedBytes (mark : Nat) : Nat → Nat → List UInt8
  | 0, v => [.ofNat (v + mark)]
  | count + 1, v => markedBytes mark count (v / 64) ++ [.ofNat (v % 64 + 128)]

def followers (v : Nat) : Nat :=
  if v ≤ 0x7f then 0 else if v ≤ 0x7ff then 1 else if v ≤ 0xffff then 2 else 3

def leadMark : Nat → Nat
  | 0 => 0
  | 1 => 0xc0
  | 2 => 0xe0
  | _ => 0xf0

theorem utf8EncodeChar_eq (c : Char)
    : String.utf8EncodeChar c
        = markedBytes (leadMark (followers c.val.toNat)) (followers c.val.toNat) c.val.toNat := by
  have hlimit := codePoint_lt c
  unfold String.utf8EncodeChar followers
  dsimp only
  generalize c.val.toNat = v at hlimit
  split
  . rfl
  . split
    . simp only [markedBytes, leadMark, List.cons_append, List.nil_append]
      rw [Nat.mod_eq_of_lt (by omega)]
    . split
      . simp only [markedBytes, leadMark, List.cons_append, List.nil_append, Nat.div_div_eq_div_mul]
        rw [Nat.mod_eq_of_lt (by omega)]
      . simp only [markedBytes, leadMark, List.cons_append, List.nil_append, Nat.div_div_eq_div_mul]
        rw [Nat.mod_eq_of_lt (by omega)]

theorem ofNat_lt_ofNat (h : v < w) (hw : w < 256) : UInt8.ofNat v < UInt8.ofNat w := by
  rw [UInt8.lt_iff_toNat_lt, UInt8.toNat_ofNat_of_lt' hw, UInt8.toNat_ofNat_of_lt' (h.trans hw)]
  exact h

theorem markedBytes_append_lt {mark count : Nat} (h : v < w) (hw : w / 64 ^ count + mark < 256)
    (l m : List UInt8)
    : markedBytes mark count v ++ l < markedBytes mark count w ++ m := by
  induction count generalizing v w l m with
  | zero =>
    rw [Nat.pow_zero, Nat.div_one] at hw
    exact List.cons_lt_cons_iff.2 (.inl (ofNat_lt_ofNat (by omega) hw))
  | succ count ih =>
    rw [Nat.pow_succ, Nat.mul_comm, ← Nat.div_div_eq_div_mul] at hw
    unfold markedBytes
    rw [List.append_assoc, List.append_assoc]
    by_cases hhigh : v / 64 < w / 64
    . exact ih hhigh hw _ _
    . have heq : v / 64 = w / 64 := by omega
      rw [heq]
      apply List.append_left_lt
      exact List.cons_lt_cons_iff.2 (.inl (ofNat_lt_ofNat (by omega) (by omega)))

theorem markedBytes_eq_cons (mark count v : Nat)
    : ∃ rest, markedBytes mark count v = .ofNat (v / 64 ^ count + mark) :: rest := by
  induction count generalizing v with
  | zero => exact ⟨[], by simp [markedBytes]⟩
  | succ count ih =>
    have ⟨rest, hrest⟩ := ih (v / 64)
    rw [Nat.pow_succ, Nat.mul_comm, ← Nat.div_div_eq_div_mul]
    unfold markedBytes
    exact ⟨rest ++ [.ofNat (v % 64 + 128)], by rw [hrest, List.cons_append]⟩

theorem lead_lt_lead (h : v < w) (hw : w < 0x110000) (hfollowers : followers v ≠ followers w)
    : v / 64 ^ followers v + leadMark (followers v)
        < w / 64 ^ followers w + leadMark (followers w) := by
  unfold followers at hfollowers ⊢
  split_ifs at hfollowers ⊢ <;> simp only [leadMark] <;> omega

theorem lead_lt_256 (hw : w < 0x110000) : w / 64 ^ followers w + leadMark (followers w) < 256 := by
  unfold followers
  split_ifs <;> simp only [leadMark] <;> omega

theorem utf8EncodeChar_append_lt (h : c < d) (l m : List UInt8)
    : String.utf8EncodeChar c ++ l < String.utf8EncodeChar d ++ m := by
  have hlt : c.val.toNat < d.val.toNat := h
  have hlimit := codePoint_lt d
  rw [utf8EncodeChar_eq, utf8EncodeChar_eq]
  by_cases hfollowers : followers c.val.toNat = followers d.val.toNat
  . rw [hfollowers]
    exact markedBytes_append_lt hlt (lead_lt_256 hlimit) l m
  . have ⟨_, hc⟩ := markedBytes_eq_cons (leadMark (followers c.val.toNat))
      (followers c.val.toNat) c.val.toNat
    have ⟨_, hd⟩ := markedBytes_eq_cons (leadMark (followers d.val.toNat))
      (followers d.val.toNat) d.val.toNat
    rw [hc, hd]
    apply List.cons_lt_cons_iff.2
    exact .inl (ofNat_lt_ofNat (lead_lt_lead hlt hlimit hfollowers) (lead_lt_256 hlimit))

end Characters

theorem flatMap_utf8EncodeChar_lt (h : cs < ds)
    : cs.flatMap String.utf8EncodeChar < ds.flatMap String.utf8EncodeChar := by
  induction cs generalizing ds with
  | nil =>
    cases ds with
    | nil => exact absurd h (List.lt_irrefl [])
    | cons d ds =>
      rw [List.flatMap_cons]
      cases hd : String.utf8EncodeChar d with
      | nil => exact absurd hd String.utf8EncodeChar_ne_nil
      | cons byte bytes => exact List.nil_lt_cons byte _
  | cons c cs ih =>
    cases ds with
    | nil => exact absurd h (List.not_lt_nil _)
    | cons d ds =>
      rw [List.flatMap_cons, List.flatMap_cons]
      rcases List.cons_lt_cons_iff.1 h with hlt | ⟨rfl, hlt⟩
      . exact utf8EncodeChar_append_lt hlt _ _
      . exact List.append_left_lt (ih hlt)

theorem utf8_lt_utf8 (h : s < t) : utf8 s < utf8 t := by
  rw [utf8_eq_flatMap, utf8_eq_flatMap]
  apply flatMap_utf8EncodeChar_lt
  exact String.lt_iff_toList_lt.1 h

theorem utf8_le_utf8_iff : utf8 s ≤ utf8 t ↔ s ≤ t := by
  constructor
  . intro h
    by_contra hlt
    exact h (utf8_lt_utf8 (not_le.1 hlt))
  . intro h hlt
    rcases lt_or_eq_of_le h with hst | rfl
    . exact List.lt_asymm hlt (utf8_lt_utf8 hst)
    . exact List.lt_irrefl _ hlt

end Footprint
