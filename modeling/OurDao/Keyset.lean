import Mathlib.Data.List.Sort
import Mathlib.Order.Basic

/-!
# Keyset pagination

A loop that reads a set of rows page by page: each page holds the first `limit`
rows, in key order, whose key lies beyond the last key already read, and the loop
stops at the first empty page. Over rows with distinct keys it visits the whole set
in key order, every row once, whatever the page size. A reader that is told by the
last row of each page where to go on lists the rows exactly under a condition on these.
-/

namespace OurDao.Keyset

variable {α κ σ ε : Type} [LinearOrder κ]

/-- `ORDER BY key`. -/
def ByKey (key : α → κ) (a b : α) : Prop := key a ≤ key b

instance (key : α → κ) : DecidableRel (ByKey key) := fun a b =>
  inferInstanceAs (Decidable (key a ≤ key b))

instance (key : α → κ) : Std.Total (ByKey key) := ⟨fun a b => le_total (key a) (key b)⟩

instance (key : α → κ) : IsTrans α (ByKey key) := ⟨fun _ _ _ h₁ h₂ => le_trans h₁ h₂⟩

/-- The rows in key order. -/
def ordered (key : α → κ) (rows : List α) : List α := rows.insertionSort (ByKey key)

/-- `WHERE key > last ORDER BY key LIMIT limit`; the first page has no `WHERE`. -/
def page (key : α → κ) (rows : List α) (limit : Nat) (last : Option κ) : List α :=
  (ordered key (rows.filter fun r => last.all (· < key r))).take limit

/-- The loop over pages; `fuel` bounds the number of pages asked for. -/
def scan (key : α → κ) (rows : List α) (limit : Nat) (visit : σ → α → Except ε σ) :
    Nat → Option κ → σ → Except ε σ
  | 0, _, s => .ok s
  | fuel + 1, last, s =>
    match page key rows limit last with
    | [] => .ok s
    | r :: rs => do
      let s ← (r :: rs).foldlM visit s
      scan key rows limit visit fuel (some (key (rs.getLastD r))) s

theorem ordered_perm (key : α → κ) (rows : List α) : (ordered key rows).Perm rows :=
  List.perm_insertionSort _ _

@[simp] theorem mem_ordered {key : α → κ} {rows : List α} {r : α} :
    r ∈ ordered key rows ↔ r ∈ rows := (ordered_perm key rows).mem_iff

theorem ordered_lt {key : α → κ} {rows : List α} (h : (rows.map key).Nodup) :
    (ordered key rows).Pairwise fun a b => key a < key b := by
  have hle : (ordered key rows).Pairwise (ByKey key) := List.pairwise_insertionSort _ _
  have hne : (ordered key rows).Pairwise fun a b => key a ≠ key b := by
    have := ((ordered_perm key rows).map key).nodup_iff.mpr h
    rwa [List.Nodup, List.pairwise_map] at this
  exact (hle.and hne).imp fun ⟨h₁, h₂⟩ => lt_of_le_of_ne h₁ h₂

/-- Two key-ordered lists of the same rows are one list when keys are distinct. -/
theorem eq_ordered {key : α → κ} {rows l : List α} (h : (rows.map key).Nodup)
    (hl : l.Pairwise (ByKey key)) (hp : l.Perm rows) : l = ordered key rows := by
  have hord : (ordered key rows).Pairwise (ByKey key) := List.pairwise_insertionSort _ _
  refine List.Perm.eq_of_pairwise ?_ hl hord (hp.trans (ordered_perm key rows).symm)
  intro a b ha hb hab hba
  exact List.inj_on_of_nodup_map h (hp.mem_iff.mp ha) (mem_ordered.mp hb) (le_antisymm hab hba)

/-- Filtering before or after ordering gives the same rows in the same order. -/
theorem ordered_filter {key : α → κ} {rows : List α} (h : (rows.map key).Nodup) (p : α → Bool) :
    ordered key (rows.filter p) = (ordered key rows).filter p := by
  symm
  apply eq_ordered (h.sublist ((List.filter_sublist).map key))
  · exact ((List.pairwise_insertionSort (ByKey key) rows).sublist List.filter_sublist)
  · exact (ordered_perm key rows).filter p

/-- The last key read splits the ordered rows into those read and those to come. -/
theorem filter_after {key : α → κ} {done todo : List α}
    (h : (done ++ todo).Pairwise fun a b => key a < key b) :
    (done ++ todo).filter (fun r => (done.getLast?.map key).all (· < key r)) = todo := by
  rcases List.eq_nil_or_concat done with rfl | ⟨init, r, rfl⟩
  · simp
  · rw [List.concat_eq_append] at h ⊢
    have hinit : ∀ a ∈ init, ¬ key r < key a := by
      intro a ha
      have := (List.pairwise_append.mp (List.pairwise_append.mp h).1).2.2 a ha r (by simp)
      exact not_lt_of_gt this
    have htodo : ∀ b ∈ todo, key r < key b := fun b hb =>
      (List.pairwise_append.mp h).2.2 r (by simp) b hb
    have h₁ : init.filter (fun a => decide (key r < key a)) = [] := by simpa using hinit
    have h₂ : todo.filter (fun b => decide (key r < key b)) = todo := by simpa using htodo
    simp [h₁, h₂]

theorem page_eq {key : α → κ} {rows done todo : List α} (h : (rows.map key).Nodup)
    (hs : ordered key rows = done ++ todo) (limit : Nat) :
    page key rows limit (done.getLast?.map key) = todo.take limit := by
  have hlt := ordered_lt h
  rw [page, ordered_filter h, hs, filter_after (hs ▸ hlt)]

/-- The loop started behind `done` folds over all rows still to come, in order. -/
theorem scan_from {key : α → κ} {rows : List α} (h : (rows.map key).Nodup) {limit : Nat}
    (hl : 1 ≤ limit) (visit : σ → α → Except ε σ) (fuel : Nat) (done todo : List α)
    (hs : ordered key rows = done ++ todo) (hf : todo.length < fuel) (s : σ) :
    scan key rows limit visit fuel (done.getLast?.map key) s = todo.foldlM visit s := by
  induction fuel generalizing done todo s with
  | zero => omega
  | succ fuel ih =>
    rw [scan, page_eq h hs]
    cases todo with
    | nil => simp [pure, Except.pure]
    | cons r rest =>
      obtain ⟨k, rfl⟩ : ∃ k, limit = k + 1 := ⟨limit - 1, by omega⟩
      simp only [List.take_succ_cons]
      have hsplit : r :: rest = (r :: rest.take k) ++ rest.drop k := by simp
      have hnext : ordered key rows = (done ++ r :: rest.take k) ++ rest.drop k := by
        rw [hs, hsplit, List.append_assoc]
      have hlast : (done ++ r :: rest.take k).getLast?.map key =
          some (key ((rest.take k).getLastD r)) := by
        rw [List.getLast?_append_of_ne_nil _ (by simp), List.getLast?_cons]
        simp [List.getLastD_eq_getLast?]
      rw [hsplit, List.foldlM_append]
      congr 1
      funext s'
      rw [← hlast]
      exact ih _ _ hnext (by simp only [List.length_cons, List.length_drop] at hf ⊢; omega) s'

/-- **Keyset scan.** For every page size the loop is one fold over all rows in key order. -/
theorem scan_eq {key : α → κ} {rows : List α} (h : (rows.map key).Nodup) {limit : Nat}
    (hl : 1 ≤ limit) (visit : σ → α → Except ε σ) {fuel : Nat} (hf : rows.length < fuel) (s : σ) :
    scan key rows limit visit fuel none s = (ordered key rows).foldlM visit s := by
  have hlen : (ordered key rows).length = rows.length := (ordered_perm key rows).length_eq
  exact scan_from h hl visit fuel [] (ordered key rows) rfl (by omega) s

/-- Reading page by page where the last row of a page says what is left to read: `resume` gives the
rows from which the next page is cut, if it can be asked for at all. -/
inductive Traversal (resume : α → Option (List α)) (limit : Nat) : List α → List α → Prop
  | done : Traversal resume limit [] []
  | next {rows more rest : List α} {r : α} : (rows.take limit).getLast? = some r → resume r = some more →
      Traversal resume limit more rest → Traversal resume limit rows (rows.take limit ++ rest)

/-- The last row of every page of `limit` rows resumes at the row after it. -/
def Resumes (resume : α → Option (List α)) (limit : Nat) (rows : List α) : Prop :=
  ∀ i r, rows[i]? = some r → (i + 1) % limit = 0 ∨ i + 1 = rows.length → resume r = some (rows.drop (i + 1))

variable {resume : α → Option (List α)} {limit : Nat} {rows out : List α}

theorem eq_of_suffix {s t : List α} (ht : t.Nodup) (h : s <:+ t) (hhead : s.head? = t.head?) : s = t := by
  obtain ⟨p, rfl⟩ := h
  cases p with
  | nil => rfl
  | cons a p =>
    have ha : a ∉ p ++ s := (List.nodup_cons.mp ht).1
    refine absurd (List.mem_append_right p (List.mem_of_mem_head? ?_)) ha
    simpa using hhead

/-- End pieces of one list are the same if they start with the same row. -/
theorem suffix_eq {l s t : List α} (hl : l.Nodup) (hs : s <:+ l) (ht : t <:+ l)
    (hhead : s.head? = t.head?) : s = t := by
  rcases List.suffix_or_suffix_of_suffix hs ht with h | h
  · exact eq_of_suffix (hl.sublist ht.sublist) h hhead
  · exact (eq_of_suffix (hl.sublist hs.sublist) h hhead.symm).symm

theorem Traversal.head (hl : 1 ≤ limit) (h : Traversal resume limit rows out) : out.head? = rows.head? := by
  cases h with
  | done => rfl
  | next hlast =>
    obtain ⟨k, rfl⟩ : ∃ k, limit = k + 1 := ⟨limit - 1, by omega⟩
    cases rows with
    | nil => simp at hlast
    | cons => simp

theorem resumes_step (hl : 1 ≤ limit) (h : rows ≠ []) : Resumes resume limit rows ↔
    (∃ r, (rows.take limit).getLast? = some r ∧ resume r = some (rows.drop limit)) ∧
      Resumes resume limit (rows.drop limit) := by
  have hlen : 0 < rows.length := List.length_pos_of_ne_nil h
  have hlast : (rows.take limit).getLast? = rows[min limit rows.length - 1]? := by
    rw [List.getLast?_eq_getElem?, List.length_take, List.getElem?_take, if_pos (by omega)]
  have hend : rows.drop (min limit rows.length) = rows.drop limit := by
    rcases Nat.le_total limit rows.length with hle | hle
    · rw [Nat.min_eq_left hle]
    · rw [Nat.min_eq_right hle, List.drop_length, List.drop_eq_nil_of_le hle]
  rw [hlast]
  constructor
  · intro hres
    constructor
    · have hi : min limit rows.length - 1 < rows.length := by omega
      refine ⟨_, List.getElem?_eq_getElem hi, ?_⟩
      rw [hres _ _ (List.getElem?_eq_getElem hi),
        show min limit rows.length - 1 + 1 = min limit rows.length by omega, hend]
      rcases Nat.le_total limit rows.length with hle | hle
      · exact .inl (by rw [Nat.min_eq_left hle, Nat.sub_add_cancel hl, Nat.mod_self])
      · exact .inr (by omega)
    · intro i r hr hi
      rw [List.getElem?_drop] at hr
      rw [List.drop_drop, hres _ _ hr, Nat.add_assoc]
      rw [List.length_drop] at hi
      rcases hi with hi | hi
      · exact .inl (by rw [Nat.add_assoc, Nat.add_mod_left, hi])
      · exact .inr (by omega)
  · rintro ⟨⟨r₀, hr₀, hres₀⟩, hres⟩ i r hr hi
    have hlt : i < rows.length := (List.getElem?_eq_some_iff.mp hr).1
    rcases Nat.lt_or_ge i limit with hil | hil
    · have hmin : i + 1 = min limit rows.length := by
        rcases hi with hi | hi
        · have : i + 1 = limit := Nat.le_antisymm hil (Nat.le_of_dvd (by omega) (Nat.dvd_of_mod_eq_zero hi))
          omega
        · omega
      rw [← hmin, Nat.add_sub_cancel, hr, Option.some.injEq] at hr₀
      rw [hmin, hend, hr₀, hres₀]
    · obtain ⟨j, rfl⟩ := Nat.exists_eq_add_of_le hil
      rw [Nat.add_assoc, ← List.drop_drop]
      refine hres j r (by rw [List.getElem?_drop, hr]) ?_
      rw [List.length_drop]
      rcases hi with hi | hi
      · exact .inl (by rwa [Nat.add_assoc, Nat.add_mod_left] at hi)
      · exact .inr (by omega)

/-- **Exact traversal.** Where resuming always gives an end piece of the rows, reading page by page
lists the rows exactly if the last row of every page resumes at the row after it. -/
theorem traversal_iff {l : List α} (hnodup : l.Nodup) (hl : 1 ≤ limit)
    (hsuffix : ∀ r more, resume r = some more → more <:+ l) (hrows : rows <:+ l) :
    Traversal resume limit rows rows ↔ Resumes resume limit rows := by
  induction hn : rows.length using Nat.strong_induction_on generalizing rows with
  | _ n ih =>
    rcases eq_or_ne rows [] with rfl | hne
    · simp [Resumes, Traversal.done]
    have hlen : 0 < rows.length := List.length_pos_of_ne_nil hne
    have hdrop : rows.drop limit <:+ l := (List.drop_suffix _ _).trans hrows
    have ih' := ih _ (by rw [List.length_drop]; omega) hdrop rfl
    rw [resumes_step hl hne, ← ih']
    constructor
    · intro h
      obtain ⟨out, hout, h⟩ : ∃ out, out = rows ∧ Traversal resume limit rows out := ⟨rows, rfl, h⟩
      cases h with
      | done => exact absurd rfl hne
      | @next _ more rest r hlast hres hmore =>
        have hrest : rest = rows.drop limit :=
          List.append_cancel_left (hout.trans (List.take_append_drop limit rows).symm)
        have hmore' : more = rows.drop limit :=
          suffix_eq hnodup (hsuffix r more hres) hdrop (hrest ▸ (hmore.head hl).symm)
        subst hmore' hrest
        exact ⟨⟨r, hlast, hres⟩, hmore⟩
    · rintro ⟨⟨r, hlast, hres⟩, hrest⟩
      have := Traversal.next hlast hres hrest
      rwa [List.take_append_drop] at this

/-- What lies past a bound is an end piece, where whatever follows a row past it is past it too. -/
theorem filter_suffix {p : α → Bool} {l : List α} (h : l.Pairwise fun a b => p a → p b) : l.filter p <:+ l := by
  induction l with
  | nil => simp
  | cons a l ih =>
    obtain ⟨ha, hl⟩ := List.pairwise_cons.mp h
    by_cases hp : p a
    · have hall : (a :: l).filter p = a :: l :=
        List.filter_eq_self.mpr fun b hb => (List.mem_cons.mp hb).elim (fun he => he ▸ hp) fun hb => ha b hb hp
      exact ⟨[], hall⟩
    · rw [List.filter_cons_of_neg hp]
      exact (ih hl).trans (List.suffix_cons a l)

theorem rel_drop {R : α → α → Prop} {l : List α} {i : Nat} {r : α} (hr : l[i]? = some r) (h : l.Pairwise R) :
    ∀ b ∈ l.drop (i + 1), R r b := by
  obtain ⟨hi, hri⟩ := List.getElem?_eq_some_iff.mp hr
  have hdrop : (r :: l.drop (i + 1)).Pairwise R := by
    rw [← hri, List.getElem_cons_drop]
    exact h.sublist (List.drop_sublist _ _)
  exact (List.pairwise_cons.mp hdrop).1

theorem filter_eq_drop_iff {p : α → Bool} {l : List α} {i : Nat} {r : α} (hr : l[i]? = some r)
    (h : l.Pairwise fun a b => p a → p b) :
    l.filter p = l.drop (i + 1) ↔ ¬ p r ∧ ∀ b ∈ l.drop (i + 1), p b := by
  obtain ⟨hi, hri⟩ := List.getElem?_eq_some_iff.mp hr
  have hsplit : l = l.take i ++ r :: l.drop (i + 1) := by
    rw [← hri, List.getElem_cons_drop, List.take_append_drop]
  have hmono := List.pairwise_append.mp (hsplit ▸ h)
  constructor
  · intro heq
    refine ⟨fun hp => ?_, fun b hb => (List.mem_filter.mp (heq ▸ hb)).2⟩
    have hall : (r :: l.drop (i + 1)).filter p = r :: l.drop (i + 1) :=
      List.filter_eq_self.mpr fun b hb => (List.mem_cons.mp hb).elim (fun he => he ▸ hp)
        fun hb => rel_drop hr h b hb hp
    have hlen := congrArg List.length heq
    rw [hsplit, List.filter_append, hall, ← hsplit] at hlen
    simp at hlen
    omega
  · rintro ⟨hp, hrest⟩
    have hfront : (l.take i).filter p = [] := by
      rw [List.filter_eq_nil_iff]
      exact fun a ha hpa => hp (hmono.2.2 a ha r (by simp) hpa)
    rw [hsplit, List.filter_append, hfront, List.filter_cons_of_neg hp, List.filter_eq_self.mpr hrest, ← hsplit]
    rfl

end OurDao.Keyset
