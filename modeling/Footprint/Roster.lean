import Footprint.FirstSeen

namespace Footprint

structure Roster (κ α : Type) where
  entries : List (κ × α)
  distinct : (entries.map Prod.fst).Nodup
  deriving DecidableEq, Repr

namespace Roster

variable {κ α β : Type}

def empty : Roster κ α where
  entries := []
  distinct := List.nodup_nil

instance : Inhabited (Roster κ α) where
  default := empty

def keys (r : Roster κ α) : List κ :=
  r.entries.map Prod.fst

def values (r : Roster κ α) : List α :=
  r.entries.map Prod.snd

def size (r : Roster κ α) : Nat :=
  r.entries.length

def map (f : α → β) (r : Roster κ α) : Roster κ β where
  entries := r.entries.map fun (k, a) => (k, f a)
  distinct := by
    have h : (r.entries.map fun (k, a) => (k, f a)).map Prod.fst = r.entries.map Prod.fst := by
      simp
    exact h ▸ r.distinct

variable [DecidableEq κ]

def find? (r : Roster κ α) (k : κ) : Option α :=
  r.entries.lookup k

def put (k : κ) (a : α) : List (κ × α) → List (κ × α)
  | [] => [(k, a)]
  | e :: rest => if e.1 = k then (k, a) :: rest else e :: put k a rest

theorem keys_put (k : κ) (a : α) (es : List (κ × α))
    : (put k a es).map Prod.fst
        = if k ∈ es.map Prod.fst then es.map Prod.fst else es.map Prod.fst ++ [k] := by
  induction es with
  | nil => simp [put]
  | cons e rest ih =>
    by_cases h : e.1 = k
    . simp [put, h]
    . have h' : ¬ k = e.1 := fun hk => h hk.symm
      by_cases hm : k ∈ rest.map Prod.fst <;> simp_all [put]

theorem nodup_put (k : κ) (a : α) {es : List (κ × α)} (h : (es.map Prod.fst).Nodup)
    : ((put k a es).map Prod.fst).Nodup := by
  rw [keys_put]
  split
  . exact h
  . next hk =>
    refine List.nodup_append.2 ⟨h, by simp, ?_⟩
    intro x hx y hy
    simp at hy
    rintro rfl
    exact hk (hy ▸ hx)

def insert (r : Roster κ α) (k : κ) (a : α) : Roster κ α where
  entries := put k a r.entries
  distinct := nodup_put k a r.distinct

/-- The roster of a list of entries. A repeated key keeps its first place and its last value. -/
def ofList (es : List (κ × α)) : Roster κ α :=
  es.foldl (fun r e => r.insert e.1 e.2) empty

end Roster

end Footprint
