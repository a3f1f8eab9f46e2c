import OurDao.Keyset
import OurDao.Table

/-!
# Pages of a table that is written to

A page holds the first rows of a table that satisfy a condition, in key order. A row that
is written leaves the page as it is where the condition refuses it before and after, or
where enough rows that satisfy it lie before the row.
-/

namespace OurDao.Table

variable {ι ν : Type} [DecidableEq ι] {t : Table ι ν} {k : ι} {v : ν}

theorem rows_insert : rows (t.insert k v) = (k, v) :: rows (t.erase k) := by
  rw [rows, AList.entries_insert]
  rfl

theorem rows_erase_none (h : t.lookup k = none) : rows (t.erase k) = rows t := by
  have hk : k ∉ t.keys := AList.lookup_eq_none.mp h
  have herase : (t.erase k).entries = t.entries := List.kerase_of_notMem_keys hk
  rw [rows, herase, rows]

end OurDao.Table

namespace OurDao.Keyset

variable {α κ σ : Type} [LinearOrder κ] {key : α → κ} {n : Nat} {r : α} {rows l : List α}

/-- A row that is inserted behind `n` others leaves the first `n` rows alone. -/
theorem take_orderedInsert (hl : l.Pairwise (ByKey key)) (hn : n ≤ l.countP fun b => key b < key r) :
    (l.orderedInsert (ByKey key) r).take n = l.take n := by
  induction l generalizing n with
  | nil =>
    obtain rfl : n = 0 := by simpa using hn
    simp
  | cons b l ih =>
    obtain ⟨hb, hl⟩ := List.pairwise_cons.mp hl
    rcases le_or_gt (key r) (key b) with hle | hlt
    · have hzero : (b :: l).countP (fun b => key b < key r) = 0 := by
        rw [List.countP_eq_zero]
        intro a ha
        rcases List.mem_cons.mp ha with rfl | ha
        · simpa using hle
        · simpa using hle.trans (hb a ha)
      obtain rfl : n = 0 := by omega
      simp
    · rw [List.orderedInsert_of_not_le _ _ (by simpa [ByKey] using hlt)]
      rw [List.countP_cons_of_pos (by simpa using hlt)] at hn
      cases n with
      | zero => simp
      | succ n => rw [List.take_succ_cons, List.take_succ_cons, ih hl (by omega)]

theorem take_ordered_cons (hn : n ≤ rows.countP fun b => key b < key r) :
    (ordered key (r :: rows)).take n = (ordered key rows).take n := by
  apply take_orderedInsert (List.pairwise_insertionSort _ _)
  rw [← ordered, (ordered_perm key rows).countP_eq]
  exact hn

/-- Rows with distinct keys have one order. -/
theorem ordered_congr {rows' : List α} (hrows : (rows.map key).Nodup) (h : rows.Perm rows') :
    ordered key rows = ordered key rows' := by
  exact (eq_ordered hrows (List.pairwise_insertionSort _ _) ((ordered_perm key rows').trans h.symm)).symm

section

variable {ι ν : Type} [DecidableEq ι] {t : Table ι ν} {k : ι} {v : ν} {key : ι × ν → κ} {sel : ι × ν → Bool}

omit [DecidableEq ι] in
/-- One row more, which the condition refuses or which has `n` selected rows before it. -/
theorem take_filter_cons {rows rest : List (ι × ν)} {r : ι × ν} (hrows : (rows.map key).Nodup)
    (hperm : rows.Perm (r :: rest))
    (h : sel r = false ∨ n ≤ rest.countP fun b => key b < key r ∧ sel b) :
    (ordered key (rows.filter sel)).take n = (ordered key (rest.filter sel)).take n := by
  rw [ordered_congr (hrows.sublist (List.filter_sublist.map key)) (hperm.filter sel)]
  rcases hr : sel r with _ | _
  · rw [List.filter_cons_of_neg (by simp [hr])]
  · rw [List.filter_cons_of_pos hr, take_ordered_cons]
    rw [List.countP_filter]
    simpa [hr] using h

/-- **A written row does not show** on a page whose condition refuses it before and after, or that is full with rows
before it. -/
theorem page_insert (hkeys : ∀ t : Table ι ν, ((Table.rows t).map key).Nodup)
    (hsame : ∀ old, t.lookup k = some old → key (k, old) = key (k, v))
    (h : (sel (k, v) = false ∧ ∀ old, t.lookup k = some old → sel (k, old) = false) ∨
      n ≤ (Table.rows t).countP fun r => key r < key (k, v) ∧ sel r) :
    (ordered key ((Table.rows (t.insert k v)).filter sel)).take n =
      (ordered key ((Table.rows t).filter sel)).take n := by
  have hcount : (Table.rows (t.erase k)).countP (fun r => key r < key (k, v) ∧ sel r) =
      (Table.rows t).countP fun r => key r < key (k, v) ∧ sel r := by
    cases hold : t.lookup k with
    | none => rw [Table.rows_erase_none hold]
    | some old => simp [Table.countP_rows_erase hold, hsame old hold]
  have hnew : (ordered key ((Table.rows (t.insert k v)).filter sel)).take n =
      (ordered key ((Table.rows (t.erase k)).filter sel)).take n := by
    apply take_filter_cons (hkeys _) (List.Perm.of_eq Table.rows_insert)
    exact h.imp And.left fun hn => hcount ▸ hn
  rw [hnew]
  cases hold : t.lookup k with
  | none => rw [Table.rows_erase_none hold]
  | some old =>
    apply (take_filter_cons (hkeys _) (Table.rows_erase hold) _).symm
    rw [hsame old hold]
    exact h.imp (fun hsel => hsel.2 old hold) fun hn => hcount ▸ hn

end

end OurDao.Keyset
