import Mathlib.Algebra.GroupWithZero.Nat
import Mathlib.Algebra.Order.BigOperators.Group.Finset
import Mathlib.Data.List.AList
import Mathlib.Data.List.Perm.Basic

/-!
# Keyed tables

A table holds at most one row per key, which the type guarantees. `insert` writes
a row under its key, whether or not one stood there, and `mapRows` rewrites every
row in place. `total` sums a column.
-/

namespace OurDao

/-- Rows of type `ν` under a primary key of type `κ`. -/
abbrev Table (κ ν : Type) : Type := AList fun _ : κ => ν

namespace Table

variable {κ ν : Type}

def rows (t : Table κ ν) : List (κ × ν) := t.entries.map fun r => (r.1, r.2)

/-- Every row rewritten in place. -/
def mapRows (f : κ → ν → ν) (t : Table κ ν) : Table κ ν :=
  ⟨t.entries.map (.map id f), t.nodupKeys.map₂ f _⟩

/-- `DELETE … WHERE p`. -/
def deleteWhere (p : κ → ν → Bool) (t : Table κ ν) : Table κ ν :=
  ⟨t.entries.filter fun r => !p r.1 r.2, t.nodupKeys.sublist List.filter_sublist⟩

/-- The sum of a column. -/
def total (f : ν → ℕ) (t : Table κ ν) : ℕ := ((rows t).map fun r => f r.2).sum

@[simp] theorem rows_empty : rows (∅ : Table κ ν) = [] := rfl

theorem rows_keys (t : Table κ ν) : (rows t).map Prod.fst = t.keys := by
  simp [rows, AList.keys, List.keys, List.map_map, Function.comp_def]

theorem rows_keys_nodup (t : Table κ ν) : ((rows t).map Prod.fst).Nodup :=
  rows_keys t ▸ t.keys_nodup

variable [DecidableEq κ] {t : Table κ ν} {k k' : κ} {v : ν}

@[simp] theorem lookup_mapRows (f : κ → ν → ν) :
    (mapRows f t).lookup k = (t.lookup k).map (f k) := List.dlookup_map₂ k

theorem lookup_insert : (t.insert k v).lookup k' = if k' = k then some v else t.lookup k' := by
  split
  next h => rw [h, AList.lookup_insert]
  next h => exact AList.lookup_insert_ne h

theorem mem_rows : (k, v) ∈ rows t ↔ t.lookup k = some v := by
  rw [← Option.mem_def, AList.mem_lookup_iff]
  simp [rows]

/-- The keys of the rows a query selects. -/
theorem mem_filter_rows {p : κ × ν → Bool} :
    k ∈ ((rows t).filter p).map Prod.fst ↔ ∃ v, t.lookup k = some v ∧ p (k, v) := by
  simp only [List.mem_map, List.mem_filter]
  constructor
  · rintro ⟨⟨k', v⟩, ⟨hrow, hp⟩, rfl⟩
    exact ⟨v, mem_rows.mp hrow, hp⟩
  · rintro ⟨v, hrow, hp⟩
    exact ⟨(k, v), ⟨mem_rows.mpr hrow, hp⟩, rfl⟩

/-- A new key adds its row and leaves the others as they were. -/
theorem rows_insert_new (h : t.lookup k = none) : rows (t.insert k v) = (k, v) :: rows t := by
  have hk : k ∉ t := AList.lookup_eq_none.mp h
  rw [rows, AList.entries_insert_of_notMem hk]
  rfl

variable {v₀ : ν} (f : ν → ℕ)

omit [DecidableEq κ] in
@[simp] theorem total_empty : total f (∅ : Table κ ν) = 0 := rfl

omit [DecidableEq κ] in
theorem total_one : total (fun _ => 1) t = (rows t).length := by simp [total]

theorem total_insert_new (h : t.lookup k = none) : total f (t.insert k v) = f v + total f t := by
  rw [total, rows_insert_new h]
  simp [total]

/-- A row written over another changes the sum by the difference of the two. -/
theorem total_insert (h : t.lookup k = some v₀) :
    total f (t.insert k v) + f v₀ = total f t + f v := by
  have hk : k ∈ t.entries.keys := AList.lookup_isSome.mp (by simp [h])
  obtain ⟨w, before, after, hbefore, hl, herase⟩ := List.exists_of_kerase hk
  have hw : w = v₀ := by
    have hmem : (⟨k, w⟩ : Sigma fun _ : κ => ν) ∈ t.entries := by simp [hl]
    have hlook : t.lookup k = some w := List.mem_dlookup t.nodupKeys hmem
    rw [h] at hlook
    cases hlook
    rfl
  have hnew : (t.insert k v).entries = ⟨k, v⟩ :: (before ++ after) := by
    rw [AList.entries_insert, herase]
  simp only [total, rows, hnew, hl, hw, List.map_cons, List.map_append, List.sum_cons,
    List.sum_append]
  omega

/-- The value of a column under a key, zero where there is no row. -/
def valueAt (t : Table κ ν) (f : ν → ℕ) (k : κ) : ℕ := ((t.lookup k).map f).getD 0

theorem total_eq_sum_keys : total f t = (t.keys.map (valueAt t f)).sum := by
  rw [total, ← rows_keys, List.map_map]
  congr 1
  refine List.map_congr_left fun r hr => ?_
  rw [Function.comp, valueAt, mem_rows.mp hr]
  rfl

/-- Distinct keys count for at most the whole column. -/
theorem sum_valueAt_le_total {ks : List κ} (h : ks.Nodup) :
    (ks.map (valueAt t f)).sum ≤ total f t := by
  rw [total_eq_sum_keys, ← List.sum_toFinset _ h, ← List.sum_toFinset _ t.keys_nodup]
  refine Finset.sum_le_sum_of_ne_zero fun k _ hk => ?_
  rw [List.mem_toFinset, ← AList.mem_keys, ← AList.lookup_isSome]
  by_contra hnone
  simp_all [valueAt]

variable {t' : Table κ ν} {p : κ × ν → Bool}

theorem lookup_deleteWhere {q : κ → ν → Bool} :
    (t.deleteWhere q).lookup k = (t.lookup k).filter fun v => !q k v := by
  ext v
  have hrow : (⟨k, v⟩ : Sigma fun _ : κ => ν) ∈ (t.deleteWhere q).entries ↔
      ⟨k, v⟩ ∈ t.entries ∧ (!q k v) = true := List.mem_filter
  rw [← Option.mem_def, AList.mem_lookup_iff, hrow, ← AList.mem_lookup_iff, Option.filter_eq_some_iff, Option.mem_def]

omit [DecidableEq κ] in
theorem rows_nodup : (rows t).Nodup := List.Nodup.of_map _ (rows_keys_nodup t)

omit [DecidableEq κ] in
theorem length_rows : (rows t).length = t.keys.length := by
  rw [← rows_keys, List.length_map]

/-- Two tables count the same rows of a kind that they hold alike. -/
theorem countP_rows_congr (h : ∀ k v, p (k, v) = true → (t.lookup k = some v ↔ t'.lookup k = some v)) :
    (rows t).countP p = (rows t').countP p := by
  rw [List.countP_eq_length_filter, List.countP_eq_length_filter]
  apply List.Perm.length_eq
  rw [List.perm_ext_iff_of_nodup (rows_nodup.filter _) (rows_nodup.filter _)]
  rintro ⟨k, v⟩
  simp only [List.mem_filter, mem_rows]
  constructor
  · exact fun ⟨hrow, hp⟩ => ⟨(h k v hp).mp hrow, hp⟩
  · exact fun ⟨hrow, hp⟩ => ⟨(h k v hp).mpr hrow, hp⟩

theorem rows_erase (h : t.lookup k = some v) : (rows t).Perm ((k, v) :: rows (t.erase k)) := by
  have hgone : (k, v) ∉ rows (t.erase k) := by simp [mem_rows]
  rw [List.perm_ext_iff_of_nodup rows_nodup (List.nodup_cons.mpr ⟨hgone, rows_nodup⟩)]
  rintro ⟨k', v'⟩
  rw [List.mem_cons, mem_rows, mem_rows]
  by_cases hk : k' = k
  · subst hk
    simp [h, eq_comm]
  · simp [hk, AList.lookup_erase_ne hk]

theorem countP_rows_erase (h : t.lookup k = some v) :
    (rows t).countP p = (rows (t.erase k)).countP p + if p (k, v) then 1 else 0 := by
  rw [(rows_erase h).countP_eq, List.countP_cons]

end Table

end OurDao
