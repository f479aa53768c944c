import Footprint.Proofs.Quantity
import Footprint.Proofs.Waste.Hierarchy
import Footprint.Waste.WastefulVirtual

namespace Footprint

namespace WastefulVirtual

section Measures

variable {v : WastefulVirtual}

def exactPerSlot (v : WastefulVirtual) : Nat :=
  v.bytesPerWord * (1 + v.derivedTypes.length)

def exactWaste (v : WastefulVirtual) : Nat :=
  v.exactPerSlot * v.overrides.length

def InRange (v : WastefulVirtual) : Prop :=
  v.exactPerSlot < wordLimit ∧ v.exactWaste < wordLimit

instance : Decidable v.InRange :=
  inferInstanceAs (Decidable (_ ∧ _))

theorem wastePerSlot_eq (v : WastefulVirtual)
    : v.wastePerSlot = Quantity.wrap v.exactPerSlot := by
  rfl

theorem wastedSize_eq (v : WastefulVirtual) : v.wastedSize = Quantity.wrap v.exactWaste := by
  exact Quantity.wrappingMul_wrap_left v.exactPerSlot v.overrides.length

theorem InRange.wastedSize_eq (h : v.InRange) : v.wastedSize = v.exactWaste := by
  rw [WastefulVirtual.wastedSize_eq, Quantity.wrap_of_lt h.2]

theorem wastedSize?_eq_some {size : Nat}
    : v.wastedSize? = some size ↔ v.InRange ∧ v.wastedSize = size := by
  unfold wastedSize?
  simp only [Option.bind_eq_bind, Option.bind_eq_some_iff, Quantity.mul?_eq_some]
  constructor
  . rintro ⟨_, ⟨hslot, rfl⟩, hsize, rfl⟩
    have hrange : v.InRange := ⟨hslot, hsize⟩
    exact ⟨hrange, hrange.wastedSize_eq⟩
  . rintro ⟨hrange, rfl⟩
    exact ⟨_, ⟨hrange.1, rfl⟩, hrange.2, hrange.wastedSize_eq.symm⟩

theorem wastedSize?_eq_none : v.wastedSize? = none ↔ ¬v.InRange := by
  rw [Option.eq_none_iff_forall_ne_some]
  simp only [ne_eq, wastedSize?_eq_some, not_and]
  constructor
  . intro h hrange
    exact h _ hrange rfl
  . intro h _ hrange
    exact absurd hrange h

end Measures

def keep (excludeComTypes : Bool) (items : List WastefulVirtual) (item : WastefulVirtual)
    : List WastefulVirtual :=
  if item.wastedSize = 0 || (excludeComTypes && item.isComType) then items else items ++ [item]

theorem find_eq_bind (excludeComTypes : Bool) (s : Snapshot)
    : find excludeComTypes s = do
        Pass.report (.begun "Discovering all user-defined types in the binary")
        let h ← Hierarchy.load s.userDefinedTypes
        let items ← Sweep.run .wastefulTypes h.candidates.length (fun sweep _ => sweep.advance 1)
          (fun items t => .ok (keep excludeComTypes items (h.wasteOf s.bytesPerWord t)))
          [] List.length h.candidates
        Pass.log .debug s!"Found wasteful virtuals: items={items.length}"
        return items := by
  rfl

theorem result_find (excludeComTypes : Bool) (s : Snapshot) {h : Hierarchy}
    (hload : (Hierarchy.load s.userDefinedTypes).result = .ok h)
    : (find excludeComTypes s).result
        = .ok (h.candidates.foldl
          (fun items t => keep excludeComTypes items (h.wasteOf s.bytesPerWord t)) []) := by
  rw [find_eq_bind, Pass.result_bind_of_ok (Pass.result_report _), Pass.result_bind_of_ok hload,
    Pass.result_bind, Sweep.result_run _ fun sweep _ => Sweep.exists_result_advance sweep 1,
    Except.foldlM_eq_ok fun items t => rfl]
  rfl

theorem exists_find (excludeComTypes : Bool) (s : Snapshot)
    : ∃ items, (find excludeComTypes s).result = .ok items := by
  exact ⟨_, result_find excludeComTypes s (Hierarchy.result_load s.userDefinedTypes)⟩

theorem foldlM_keep (excludeComTypes : Bool) (item : UserDefinedType → WastefulVirtual)
    (items : List WastefulVirtual) (ts : List UserDefinedType)
    : ts.foldlM (fun items t => (item t).wastedSize?.map fun _ =>
          keep excludeComTypes items (item t)) items
        = if ∀ t ∈ ts, (item t).InRange then
            some (ts.foldl (fun items t => keep excludeComTypes items (item t)) items)
          else none := by
  induction ts generalizing items with
  | nil => rfl
  | cons t ts ih =>
    rw [List.foldlM_cons]
    by_cases hrange : (item t).InRange
    . rw [wastedSize?_eq_some.2 ⟨hrange, rfl⟩, Option.map_some, Option.bind_eq_bind,
        Option.bind_some, ih]
      simp [hrange]
    . rw [wastedSize?_eq_none.2 hrange]
      simp [hrange]

theorem result_take_checked (excludeComTypes : Bool) (items : List WastefulVirtual)
    (item : WastefulVirtual)
    : ((.mk (pure item.wastedSize?) : OptionT Pass Nat) >>= fun size =>
          pure (if size = 0 || (excludeComTypes && item.isComType) then items
            else items ++ [item])).run.result
        = .ok (item.wastedSize?.map fun _ => keep excludeComTypes items item) := by
  rw [Pass.result_run_bind]
  show (Option.elim item.wastedSize? _ _ : Except _ _) = _
  cases hsize : item.wastedSize? with
  | none => rfl
  | some size =>
    obtain ⟨_, rfl⟩ := wastedSize?_eq_some.1 hsize
    rfl

theorem result_findChecked (excludeComTypes : Bool) (s : Snapshot) {h : Hierarchy}
    (hload : (Hierarchy.load s.userDefinedTypes).result = .ok h)
    : (findChecked excludeComTypes s).run.result
        = .ok (if ∀ t ∈ h.candidates, (h.wasteOf s.bytesPerWord t).InRange then
            some (h.candidates.foldl
              (fun items t => keep excludeComTypes items (h.wasteOf s.bytesPerWord t)) [])
          else none) := by
  have hsweep := Sweep.result_run_runIn
    (fun sweep (_ : UserDefinedType) => Sweep.exists_result_advance sweep 1)
    (fun items t => result_take_checked excludeComTypes items (h.wasteOf s.bytesPerWord t))
    .wastefulTypes h.candidates.length [] List.length h.candidates
  rw [foldlM_keep] at hsweep
  unfold findChecked findBy
  rw [Pass.result_run_lift_bind_of_ok (Pass.result_report _),
    Pass.result_run_lift_bind_of_ok hload, Pass.result_run_bind]
  refine (congrArg (Except.bind · _) hsweep).trans ?_
  split <;> rfl

theorem wastes_of_mem_foldl_keep {excludeComTypes : Bool} {made : List WastefulVirtual}
    {items : List WastefulVirtual} (h : ∀ v ∈ items, v.wastedSize ≠ 0)
    : ∀ v ∈ made.foldl (keep excludeComTypes) items, v.wastedSize ≠ 0 := by
  induction made generalizing items with
  | nil => exact h
  | cons item made ih =>
    apply ih
    unfold keep
    split
    . exact h
    . next hkeep =>
      intro v hv
      rw [List.mem_append, List.mem_singleton] at hv
      rcases hv with hv | rfl
      . exact h v hv
      . intro hzero
        simp [hzero] at hkeep

theorem wastes_of_mem_find {excludeComTypes : Bool} {s : Snapshot} {items : List WastefulVirtual}
    (h : (find excludeComTypes s).result = .ok items) {v : WastefulVirtual} (hv : v ∈ items)
    : v.wastedSize ≠ 0 := by
  rw [result_find excludeComTypes s (Hierarchy.result_load s.userDefinedTypes)] at h
  cases h
  rw [← List.foldl_map (g := keep excludeComTypes)] at hv
  exact wastes_of_mem_foldl_keep (fun v hv => absurd hv List.not_mem_nil) v hv

end WastefulVirtual
end Footprint
