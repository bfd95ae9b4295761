/-! # Maps kept in key order

A `SortedMap` is a finite map stored as the list of its entries in strictly
ascending key order.  The order is part of the type, so two maps with the same
entries are equal, and a listing of a map never depends on how it was built.
The lemmas at the end describe each operation by what `find?` sees afterwards.
-/

namespace Telemetry

/-- Entries stand in strictly ascending key order. -/
def Ascending {κ ν : Type} [Ord κ] (entries : List (κ × ν)) : Prop :=
  entries.Pairwise fun a b => compare a.1 b.1 = .lt

/-- A finite map, listed in strictly ascending key order. -/
@[ext] structure SortedMap (κ ν : Type) [Ord κ] where
  entries : List (κ × ν)
  ascending : Ascending entries

namespace SortedMap

variable {κ ν μ : Type} [Ord κ]

instance [DecidableEq κ] [DecidableEq ν] : DecidableEq (SortedMap κ ν) := fun a b =>
  decidable_of_iff (a.entries = b.entries) SortedMap.ext_iff.symm

/-- The map without entries. -/
def empty : SortedMap κ ν := ⟨[], List.Pairwise.nil⟩

instance : Inhabited (SortedMap κ ν) := ⟨empty⟩

/-- The keys, ascending. -/
def keys (m : SortedMap κ ν) : List κ := m.entries.map Prod.fst

/-- The values, in the order of their keys. -/
def values (m : SortedMap κ ν) : List ν := m.entries.map Prod.snd

/-- The number of entries. -/
def size (m : SortedMap κ ν) : Nat := m.entries.length

/-- Looks a key up in a list of entries. -/
def findIn (k : κ) : List (κ × ν) → Option ν
  | [] => none
  | (k', v) :: rest => if compare k k' = .eq then some v else findIn k rest

/-- The value stored under a key. -/
def find? (m : SortedMap κ ν) (k : κ) : Option ν := findIn k m.entries

/-- Puts an entry at its place, over an earlier entry with the same key. -/
def insertIn (k : κ) (v : ν) : List (κ × ν) → List (κ × ν)
  | [] => [(k, v)]
  | (k', v') :: rest =>
    match compare k k' with
    | .lt => (k, v) :: (k', v') :: rest
    | .eq => (k, v) :: rest
    | .gt => (k', v') :: insertIn k v rest

theorem mem_insertIn {k : κ} {v : ν} {e : κ × ν} {l : List (κ × ν)}
    (h : e ∈ insertIn k v l) : e = (k, v) ∨ e ∈ l := by
  induction l with
  | nil => simpa [insertIn] using h
  | cons hd tl ih =>
    obtain ⟨k', v'⟩ := hd
    rw [insertIn] at h
    split at h
    · simpa using h
    · rcases List.mem_cons.mp h with h | h
      · exact .inl h
      · exact .inr (List.mem_cons_of_mem _ h)
    · rcases List.mem_cons.mp h with h | h
      · exact .inr (h ▸ List.mem_cons_self ..)
      · exact (ih h).imp id (List.mem_cons_of_mem _)

theorem ascending_insertIn [Std.TransOrd κ] [Std.LawfulEqOrd κ] (k : κ) (v : ν)
    {l : List (κ × ν)} (h : Ascending l) : Ascending (insertIn k v l) := by
  induction l with
  | nil => exact List.pairwise_singleton _ _
  | cons hd tl ih =>
    obtain ⟨k', v'⟩ := hd
    have hlt : ∀ e ∈ tl, compare k' e.1 = .lt := fun _ he => List.rel_of_pairwise_cons h he
    have htl : Ascending tl := h.of_cons
    rw [insertIn]
    split
    next hk =>
      refine List.Pairwise.cons (fun e he => ?_) h
      rcases List.mem_cons.mp he with rfl | he
      · exact hk
      · exact Std.TransCmp.lt_trans hk (hlt e he)
    next hk =>
      obtain rfl := Std.LawfulEqCmp.eq_of_compare hk
      exact List.Pairwise.cons hlt htl
    next hk =>
      refine List.Pairwise.cons (fun e he => ?_) (ih htl)
      rcases mem_insertIn he with rfl | he
      · exact Std.OrientedCmp.gt_iff_lt.mp hk
      · exact hlt e he

/-- Stores a value under a key, replacing what was there. -/
def insert [Std.TransOrd κ] [Std.LawfulEqOrd κ] (m : SortedMap κ ν) (k : κ) (v : ν) :
    SortedMap κ ν :=
  ⟨insertIn k v m.entries, ascending_insertIn k v m.ascending⟩

/-- Builds a map from entries in any order; of equal keys the last wins. -/
def ofList [Std.TransOrd κ] [Std.LawfulEqOrd κ] (l : List (κ × ν)) : SortedMap κ ν :=
  l.foldl (fun m e => m.insert e.1 e.2) empty

/-- Keeps the entries that pass a test. -/
def filter (p : κ → ν → Bool) (m : SortedMap κ ν) : SortedMap κ ν :=
  ⟨m.entries.filter fun e => p e.1 e.2, m.ascending.filter _⟩

/-- Removes a key. -/
def erase (m : SortedMap κ ν) (k : κ) : SortedMap κ ν :=
  m.filter fun k' _ => compare k k' ≠ .eq

theorem ascending_map (f : κ → ν → μ) {l : List (κ × ν)} (h : Ascending l) :
    Ascending (l.map fun e => (e.1, f e.1 e.2)) :=
  List.pairwise_map.mpr h

/-- Replaces every value, keeping the keys. -/
def map (f : κ → ν → μ) (m : SortedMap κ ν) : SortedMap κ μ :=
  ⟨m.entries.map fun e => (e.1, f e.1 e.2), ascending_map f m.ascending⟩

/-! ## What lookup sees -/

theorem findIn_insertIn [Std.TransOrd κ] [Std.LawfulEqOrd κ] (k k' : κ) (v : ν)
    (l : List (κ × ν)) :
    findIn k' (insertIn k v l) = if compare k' k = .eq then some v else findIn k' l := by
  induction l with
  | nil => simp [insertIn, findIn]
  | cons hd tl ih =>
    obtain ⟨a, b⟩ := hd
    rw [insertIn]
    split
    next => simp [findIn]
    next hk =>
      obtain rfl := Std.LawfulEqCmp.eq_of_compare hk
      simp only [findIn]
      split <;> simp_all
    next hk =>
      simp only [findIn, ih]
      by_cases h1 : compare k' a = .eq
      · obtain rfl := Std.LawfulEqCmp.eq_of_compare h1
        have : compare k' k = .lt := Std.OrientedCmp.gt_iff_lt.mp hk
        simp [this]
      · simp [h1]

/-- An insertion is seen under its own key and under no other. -/
theorem find?_insert [Std.TransOrd κ] [Std.LawfulEqOrd κ] (m : SortedMap κ ν) (k k' : κ) (v : ν) :
    (m.insert k v).find? k' = if compare k' k = .eq then some v else m.find? k' :=
  findIn_insertIn k k' v m.entries

theorem findIn_map (f : κ → ν → μ) [Std.LawfulEqOrd κ] (k : κ) (l : List (κ × ν)) :
    findIn k (l.map fun e => (e.1, f e.1 e.2)) = (findIn k l).map (f k) := by
  induction l with
  | nil => rfl
  | cons e rest ih =>
    rw [List.map_cons, findIn, findIn, ih]
    split
    next hk =>
      obtain rfl := Std.LawfulEqCmp.eq_of_compare hk
      rfl
    next => rfl

/-- Replaced values are found under the same keys. -/
theorem find?_map (f : κ → ν → μ) [Std.LawfulEqOrd κ] (m : SortedMap κ ν) (k : κ) :
    (m.map f).find? k = (m.find? k).map (f k) :=
  findIn_map f k m.entries

theorem mem_entries_of_findIn [Std.LawfulEqOrd κ] {k : κ} {v : ν} {l : List (κ × ν)}
    (h : findIn k l = some v) : (k, v) ∈ l := by
  induction l with
  | nil => simp [findIn] at h
  | cons hd tl ih =>
    obtain ⟨a, b⟩ := hd
    rw [findIn] at h
    split at h
    next hk =>
      obtain rfl := Std.LawfulEqCmp.eq_of_compare hk
      obtain rfl : b = v := by simpa using h
      exact List.mem_cons_self ..
    next => exact List.mem_cons_of_mem _ (ih h)

theorem findIn_filter [Std.TransOrd κ] [Std.LawfulEqOrd κ] (p : κ → ν → Bool) (k : κ)
    {l : List (κ × ν)} (h : Ascending l) :
    findIn k (l.filter fun e => p e.1 e.2) = (findIn k l).filter (p k) := by
  induction l with
  | nil => rfl
  | cons e rest ih =>
    obtain ⟨a, v⟩ := e
    obtain ⟨hlt, hrest⟩ := List.pairwise_cons.mp h
    by_cases hk : compare k a = .eq
    · obtain rfl := Std.LawfulEqCmp.eq_of_compare hk
      -- a key stands in a list at most once
      have hnone : findIn k rest = none := by
        cases hfind : findIn k rest with
        | none => rfl
        | some w =>
          have hself : compare k k = .lt := hlt (k, w) (mem_entries_of_findIn hfind)
          rw [hk] at hself
          cases hself
      by_cases hp : p k v <;> simp [findIn, Option.filter_some, hp, ih hrest, hnone]
    · by_cases hp : p a v <;> simp [findIn, hp, hk, ih hrest]

/-- What is kept is found under the keys that it had. -/
theorem find?_filter [Std.TransOrd κ] [Std.LawfulEqOrd κ] (p : κ → ν → Bool) (m : SortedMap κ ν)
    (k : κ) : (m.filter p).find? k = (m.find? k).filter (p k) :=
  findIn_filter p k m.ascending

/-- An erasure is seen under its own key and under no other. -/
theorem find?_erase [Std.TransOrd κ] [Std.LawfulEqOrd κ] (m : SortedMap κ ν) (k k' : κ) :
    (m.erase k).find? k' = if compare k' k = .eq then none else m.find? k' := by
  refine (find?_filter (fun k' _ => compare k k' ≠ .eq) m k').trans ?_
  by_cases hk : compare k k' = .eq
  · rw [if_pos (Std.OrientedCmp.eq_symm hk)]
    cases m.find? k' <;> simp [hk, Option.filter_some]
  · rw [if_neg fun h => hk (Std.OrientedCmp.eq_symm h)]
    cases m.find? k' <;> simp [hk, Option.filter_some]

theorem findIn_of_mem [Std.TransOrd κ] {k : κ} {v : ν} {l : List (κ × ν)} (h : Ascending l)
    (hmem : (k, v) ∈ l) : findIn k l = some v := by
  induction l with
  | nil => cases hmem
  | cons hd tl ih =>
    obtain ⟨a, b⟩ := hd
    obtain ⟨hfirst, htl⟩ := List.pairwise_cons.mp h
    rw [findIn]
    rcases List.mem_cons.mp hmem with heq | hmem
    · cases heq
      rw [if_pos Std.ReflCmp.compare_self]
    · have hgt : compare k a = .gt := Std.OrientedCmp.gt_iff_lt.mpr (hfirst (k, v) hmem)
      rw [hgt, if_neg (by decide)]
      exact ih htl hmem

theorem mem_entries [Std.TransOrd κ] [Std.LawfulEqOrd κ] {m : SortedMap κ ν} {k : κ} {v : ν} :
    (k, v) ∈ m.entries ↔ m.find? k = some v :=
  ⟨findIn_of_mem m.ascending, mem_entries_of_findIn⟩

/-- The keys are those under which something is found. -/
theorem mem_keys [Std.TransOrd κ] [Std.LawfulEqOrd κ] {m : SortedMap κ ν} {k : κ} :
    k ∈ m.keys ↔ (m.find? k).isSome := by
  unfold keys
  rw [List.mem_map, Option.isSome_iff_exists]
  constructor
  · rintro ⟨⟨a, v⟩, hmem, rfl⟩
    exact ⟨v, mem_entries.mp hmem⟩
  · rintro ⟨v, hv⟩
    exact ⟨(k, v), mem_entries.mpr hv, rfl⟩

theorem ne_of_compare_lt [Std.ReflOrd κ] {a b : κ} (h : compare a b = .lt) : a ≠ b := by
  intro heq
  have hself : compare b b = .eq := Std.ReflCmp.compare_self
  rw [heq, hself] at h
  cases h

theorem nodup_keys [Std.TransOrd κ] (m : SortedMap κ ν) : m.keys.Nodup :=
  List.pairwise_map.mpr (m.ascending.imp ne_of_compare_lt)

theorem filter_of_findIn [Std.TransOrd κ] [Std.LawfulEqOrd κ] [DecidableEq κ] (k : κ)
    {l : List (κ × ν)} (h : Ascending l) :
    (l.filter fun e => e.1 = k).map Prod.snd = (findIn k l).toList := by
  induction l with
  | nil => rfl
  | cons e rest ih =>
    obtain ⟨a, v⟩ := e
    obtain ⟨hlt, hrest⟩ := List.pairwise_cons.mp h
    rw [findIn]
    by_cases ha : a = k
    · subst ha
      have hnone : rest.filter (fun e => e.1 = a) = [] :=
        List.filter_eq_nil_iff.mpr fun e he heq =>
          ne_of_compare_lt (hlt e he) (of_decide_eq_true heq).symm
      rw [List.filter_cons_of_pos (by simp), hnone, if_pos Std.ReflCmp.compare_self]
      rfl
    · have hne : ¬ compare k a = .eq := fun h => ha (Std.LawfulEqCmp.eq_of_compare h).symm
      rw [List.filter_cons_of_neg (by simpa using ha), if_neg hne]
      exact ih hrest

/-- Where every value tells its own key, the values that tell a certain key are what is
found under it. -/
theorem filter_values [Std.TransOrd κ] [Std.LawfulEqOrd κ] [DecidableEq κ] {m : SortedMap κ ν}
    {key : ν → κ} (hkey : ∀ k v, m.find? k = some v → key v = k) (k : κ) :
    m.values.filter (fun v => key v = k) = (m.find? k).toList := by
  unfold values
  rw [List.filter_map]
  refine Eq.trans ?_ (filter_of_findIn k m.ascending)
  refine congrArg (List.map Prod.snd) (List.filter_congr fun e he => ?_)
  rw [Function.comp_apply, hkey e.1 e.2 (mem_entries.mp he)]

theorem size_eq (m : SortedMap κ ν) : m.size = m.keys.length := (List.length_map _).symm

/-- Two maps in which the same is found are the same. -/
theorem ext_find? [Std.TransOrd κ] [Std.LawfulEqOrd κ] {m m' : SortedMap κ ν}
    (h : ∀ k, m.find? k = m'.find? k) : m = m' := by
  have hnodup (m : SortedMap κ ν) : m.entries.Nodup :=
    m.ascending.imp fun hlt heq => ne_of_compare_lt hlt (congrArg Prod.fst heq)
  have hsame : ∀ e, e ∈ m.entries ↔ e ∈ m'.entries := by
    intro (k, v)
    rw [mem_entries, mem_entries, h k]
  have hperm := (List.perm_ext_iff_of_nodup (hnodup m) (hnodup m')).mpr hsame
  refine SortedMap.ext (hperm.eq_of_pairwise ?_ m.ascending m'.ascending)
  intro a b _ _ hab hba
  rw [Std.OrientedCmp.gt_iff_lt.mpr hab] at hba
  cases hba

/-! ## Building a map from its own listing -/

theorem insertIn_last [Std.OrientedOrd κ] (k : κ) (v : ν) {l : List (κ × ν)}
    (h : ∀ e ∈ l, compare e.1 k = .lt) : insertIn k v l = l ++ [(k, v)] := by
  induction l with
  | nil => rfl
  | cons hd tl ih =>
    have hgt : compare k hd.1 = .gt := Std.OrientedCmp.gt_iff_lt.mpr (h hd (List.mem_cons_self ..))
    rw [insertIn, hgt]
    exact congrArg (hd :: ·) (ih fun e he => h e (List.mem_cons_of_mem _ he))

theorem entries_foldl_insert [Std.TransOrd κ] [Std.LawfulEqOrd κ] (m : SortedMap κ ν)
    {l : List (κ × ν)} (h : Ascending (m.entries ++ l)) :
    (l.foldl (fun m e => m.insert e.1 e.2) m).entries = m.entries ++ l := by
  induction l generalizing m with
  | nil => exact (List.append_nil _).symm
  | cons e rest ih =>
    have hlast : (m.insert e.1 e.2).entries = m.entries ++ [e] :=
      insertIn_last e.1 e.2 fun a ha =>
        (List.pairwise_append.mp h).2.2 a ha e (List.mem_cons_self ..)
    have heq : (m.insert e.1 e.2).entries ++ rest = m.entries ++ e :: rest := by
      rw [hlast, List.append_assoc, List.singleton_append]
    exact (ih (m.insert e.1 e.2) (heq ▸ h)).trans heq

/-- A map is built again from the list of its entries. -/
theorem ofList_entries [Std.TransOrd κ] [Std.LawfulEqOrd κ] (m : SortedMap κ ν) :
    ofList m.entries = m :=
  SortedMap.ext (entries_foldl_insert empty m.ascending)

end SortedMap

end Telemetry
