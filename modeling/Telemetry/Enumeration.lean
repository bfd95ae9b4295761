/-! # Finite maps in no particular order

An `Enumeration` is a finite map together with the order in which it happens to
list its entries.  Whatever is computed from one should not depend on that
order.  An entry keeps its place when its value is replaced.
-/

namespace Telemetry

/-- Entries with distinct keys, in some order. -/
@[ext] structure Enumeration (κ ν : Type) where
  entries : List (κ × ν)
  distinct : (entries.map Prod.fst).Nodup

namespace Enumeration

variable {κ ν : Type}

/-- The map without entries. -/
def empty : Enumeration κ ν := ⟨[], List.Pairwise.nil⟩

instance : Inhabited (Enumeration κ ν) := ⟨empty⟩

/-- The keys, in the order of their entries. -/
def keys (m : Enumeration κ ν) : List κ := m.entries.map Prod.fst

/-- Replaces the value of a key where it stands. -/
def replaceIn [DecidableEq κ] (k : κ) (v : ν) (l : List (κ × ν)) : List (κ × ν) :=
  l.map fun e => if e.1 = k then (k, v) else e

theorem map_fst_replaceIn [DecidableEq κ] (k : κ) (v : ν) (l : List (κ × ν)) :
    (replaceIn k v l).map Prod.fst = l.map Prod.fst := by
  rw [replaceIn, List.map_map]
  refine List.map_congr_left fun e _ => ?_
  by_cases h : e.1 = k <;> simp [h]

/-- Stores a value under a key: in place of its old value, or as a last entry. -/
def insert [DecidableEq κ] (m : Enumeration κ ν) (k : κ) (v : ν) : Enumeration κ ν :=
  if h : k ∈ m.entries.map Prod.fst then
    ⟨replaceIn k v m.entries, by rw [map_fst_replaceIn]; exact m.distinct⟩
  else
    ⟨m.entries ++ [(k, v)], by
      rw [List.map_append]
      refine List.nodup_append.mpr ⟨m.distinct, List.pairwise_singleton _ _, ?_⟩
      rintro a ha b hb rfl
      simp only [List.map_cons, List.map_nil, List.mem_singleton] at hb
      exact h (hb ▸ ha)⟩

/-- Builds a map from entries; of equal keys the last value wins. -/
def ofList [DecidableEq κ] (l : List (κ × ν)) : Enumeration κ ν :=
  l.foldl (fun m e => m.insert e.1 e.2) empty

end Enumeration

end Telemetry
