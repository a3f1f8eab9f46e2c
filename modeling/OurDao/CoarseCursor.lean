import Mathlib.Data.List.Sort
import OurDao.Keyset

/-!
# Pages behind a coarse cursor

Rows are listed by a column, highest first, and the next page takes up below the column of
the last row read. Several rows may share a value of the column, and their order among
themselves may be another one in every page. All rows are read exactly when no page ends
within a group of rows that share a value.
-/

namespace OurDao.CoarseCursor

variable {α κ : Type} [LinearOrder κ] {column : α → κ} {orderBy : Option κ → List α → List α} {rows : List α}
  {limit : Nat} {valid : κ → Prop} {before : Option κ} {out : List α}

/-- `ORDER BY column DESC`, and then in any way; the way may depend on the page that is asked for. -/
structure Orders (column : α → κ) (orderBy : Option κ → List α → List α) : Prop where
  perm : ∀ before rows, (orderBy before rows).Perm rows
  sorted : ∀ before rows, (orderBy before rows).Pairwise fun a b => column b ≤ column a

/-- `WHERE column < before`; the first page has no `WHERE`. -/
def below (column : α → κ) (rows : List α) (before : Option κ) : List α :=
  rows.filter fun r => before.all (column r < ·)

def page (column : α → κ) (orderBy : Option κ → List α → List α) (rows : List α) (limit : Nat) (before : Option κ) :
    List α := (orderBy before (below column rows before)).take limit

/-- Asking for page after page, each behind the last row of the one before, until one is empty; `valid` says which
values are taken for a cursor. -/
inductive Reads (column : α → κ) (orderBy : Option κ → List α → List α) (rows : List α) (limit : Nat)
    (valid : κ → Prop) : Option κ → List α → Prop
  | last {before : Option κ} : page column orderBy rows limit before = [] →
      Reads column orderBy rows limit valid before []
  | next {before : Option κ} {r : α} {rest : List α} : (page column orderBy rows limit before).getLast? = some r →
      valid (column r) → Reads column orderBy rows limit valid (some (column r)) rest →
      Reads column orderBy rows limit valid before (page column orderBy rows limit before ++ rest)

/-- The column of the rows, highest first. -/
def descending (column : α → κ) (rows : List α) : List κ := (rows.map column).insertionSort (· ≥ ·)

/-- Where a page of `limit` rows ends, and where the last one does, all later values are smaller. -/
def Unbroken (valid : κ → Prop) (limit : Nat) (ks : List κ) : Prop :=
  ∀ i k, ks[i]? = some k → (i + 1) % limit = 0 ∨ i + 1 = ks.length → valid k ∧ ∀ k' ∈ ks.drop (i + 1), k' < k

theorem descending_pairwise (rows : List α) : (descending column rows).Pairwise (· ≥ ·) :=
  List.pairwise_insertionSort _ _

theorem descending_perm (rows : List α) : (descending column rows).Perm (rows.map column) :=
  List.perm_insertionSort _ _

/-- Values in descending order are those of any rows in that order. -/
theorem map_eq_descending {listed : List α} (hperm : listed.Perm rows)
    (hsorted : listed.Pairwise fun a b => column b ≤ column a) : listed.map column = descending column rows := by
  apply ((hperm.map column).trans (descending_perm rows).symm).eq_of_pairwise
  · exact fun a b _ _ hab hba => le_antisymm hba hab
  · rwa [List.pairwise_map]
  · exact descending_pairwise rows

theorem descending_filter (k : κ) : (descending column rows).filter (· < k) =
    descending column (rows.filter fun r => column r < k) := by
  have hperm : ((descending column rows).filter (· < k)).Perm
      (descending column (rows.filter fun r => column r < k)) := by
    refine ((descending_perm rows).filter _).trans ?_
    rw [List.filter_map]
    exact (descending_perm _).symm
  have hsorted : ((descending column rows).filter (· < k)).Pairwise (· ≥ ·) :=
    (descending_pairwise rows).sublist List.filter_sublist
  exact hperm.eq_of_pairwise (fun a b _ _ hab hba => le_antisymm hba hab) hsorted (descending_pairwise _)

/-- The values below `k` are an end piece. -/
theorem below_mono {ks : List κ} (h : ks.Pairwise (· ≥ ·)) (k : κ) :
    ks.Pairwise fun a b => decide (a < k) = true → decide (b < k) = true := by
  refine h.imp fun {a b} hba ha => ?_
  simp only [decide_eq_true_eq] at ha ⊢
  exact lt_of_le_of_lt hba ha

section

open Classical in
/-- The values that a page below `k` is cut from, if `k` is taken for a cursor. -/
noncomputable def resume (valid : κ → Prop) (ks : List κ) (k : κ) : Option (List κ) :=
  if valid k then some (ks.filter (· < k)) else none

theorem resume_eq_some {ks ks' : List κ} {k : κ} :
    resume valid ks k = some ks' ↔ valid k ∧ ks.filter (· < k) = ks' := by
  by_cases hvalid : valid k <;> simp [resume, hvalid]

/-- Unbroken values are those at which every page resumes right after its end. -/
theorem unbroken_iff {ks : List κ} (h : ks.Pairwise (· ≥ ·)) :
    Unbroken valid limit ks ↔ Keyset.Resumes (resume valid ks) limit ks := by
  refine forall_congr' fun i => forall_congr' fun k => forall_congr' fun hk => forall_congr' fun _ => ?_
  rw [resume_eq_some, Keyset.filter_eq_drop_iff hk (below_mono h k)]
  simp

end

theorem mem_page (horder : Orders column orderBy) {r : α} (hr : r ∈ page column orderBy rows limit before) :
    r ∈ below column rows before := (horder.perm _ _).mem_iff.mp (List.mem_of_mem_take hr)

/-- Whatever is read behind a cursor lies below it. -/
theorem mem_below_of_reads (horder : Orders column orderBy) (h : Reads column orderBy rows limit valid before out) :
    ∀ r ∈ out, r ∈ below column rows before := by
  induction h with
  | last => simp
  | @next before last rest hlast _ _ ih =>
    intro r hr
    rcases List.mem_append.mp hr with hr | hr
    · exact mem_page horder hr
    · have hbefore := mem_page horder (List.mem_of_getLast? hlast)
      have hlow := ih r hr
      simp only [below, List.mem_filter, Option.all_some, decide_eq_true_eq] at hbefore hlow ⊢
      refine ⟨hlow.1, ?_⟩
      cases before with
      | none => rfl
      | some k =>
        simp only [Option.all_some, decide_eq_true_eq] at hbefore ⊢
        exact hlow.2.trans hbefore.2

/-- Below a row that is itself below the cursor. -/
theorem below_below {k : κ} (h : before.all (k < ·)) :
    below column rows (some k) = (below column rows before).filter fun r => column r < k := by
  rw [below, below, List.filter_filter]
  apply List.filter_congr
  intro r _
  cases before with
  | none => simp
  | some b =>
    simp only [Option.all_some, decide_eq_true_eq] at h ⊢
    by_cases hk : column r < k
    · simp [hk, hk.trans h]
    · simp [hk]

/-- The rows behind a page are those below a row `r` exactly if their values are. -/
theorem drop_perm_iff (horder : Orders column orderBy) {r : α} (hr : r ∈ below column rows before) (n : Nat) :
    (below column rows (some (column r))).Perm ((orderBy before (below column rows before)).drop n) ↔
      (descending column (below column rows before)).filter (· < column r) =
        (descending column (below column rows before)).drop n := by
  have hperm := horder.perm before (below column rows before)
  have hsorted := horder.sorted before (below column rows before)
  have hmap := map_eq_descending hperm hsorted
  have hall : before.all (column r < ·) = true := (List.mem_filter.mp hr).2
  rw [below_below hall, descending_filter]
  generalize orderBy before (below column rows before) = listed at hperm hsorted hmap
  constructor
  · intro h
    rw [← map_eq_descending h.symm (hsorted.sublist (List.drop_sublist _ _)), ← hmap, List.map_drop]
  · intro h
    have hlow : (listed.filter fun a => column a < column r) = listed.drop n := by
      have hsuffix : (listed.filter fun a => column a < column r) <:+ listed := by
        apply Keyset.filter_suffix
        refine hsorted.imp fun {a b} hba ha => ?_
        simp only [decide_eq_true_eq] at ha ⊢
        exact lt_of_le_of_lt hba ha
      have hlength : (listed.filter fun a => column a < column r).length = (listed.drop n).length := by
        have hcount := congrArg List.length h
        rw [← hmap, ← List.map_drop, List.length_map, (descending_perm _).length_eq, List.length_map] at hcount
        rw [← hcount, (hperm.filter _).length_eq]
      obtain hle | hle := List.suffix_or_suffix_of_suffix hsuffix (List.drop_suffix n listed)
      · exact hle.eq_of_length hlength
      · exact (hle.eq_of_length hlength.symm).symm
    rw [← hlow]
    exact (hperm.filter _).symm

/-- A page that ends at `k` splits the values below `k` off exactly if all later values are below `k`. -/
theorem filter_eq_drop_iff {ks : List κ} {k : κ} (h : ks.Pairwise (· ≥ ·)) (hk : (ks.take limit).getLast? = some k) :
    ks.filter (· < k) = ks.drop limit ↔ ∀ b ∈ ks.drop limit, b < k := by
  have hne : ks.take limit ≠ [] := fun hnil => by simp [hnil] at hk
  have hpos : 0 < min limit ks.length := List.length_take ▸ List.length_pos_of_ne_nil hne
  have hget : ks[min limit ks.length - 1]? = some k := by
    rw [← hk, List.getLast?_eq_getElem?, List.length_take, List.getElem?_take, if_pos (by omega)]
  have hdrop : ks.drop (min limit ks.length - 1 + 1) = ks.drop limit := by
    rw [Nat.sub_add_cancel hpos]
    rcases Nat.le_total limit ks.length with hle | hle
    · rw [Nat.min_eq_left hle]
    · rw [Nat.min_eq_right hle, List.drop_length, List.drop_eq_nil_of_le hle]
  have hiff := Keyset.filter_eq_drop_iff hget (below_mono h k)
  rw [hdrop] at hiff
  simpa using hiff

theorem last_below (horder : Orders column orderBy) {r : α}
    (hlast : (page column orderBy rows limit before).getLast? = some r) : below column rows (some (column r)) =
      (below column rows before).filter fun a => column a < column r :=
  below_below (List.mem_filter.mp (mem_page horder (List.mem_of_getLast? hlast))).2

theorem last_value (horder : Orders column orderBy) {r : α}
    (hlast : (page column orderBy rows limit before).getLast? = some r) :
    ((descending column (below column rows before)).take limit).getLast? = some (column r) := by
  rw [← map_eq_descending (horder.perm before _) (horder.sorted before _), ← List.map_take, List.getLast?_map]
  exact congrArg (Option.map column) hlast

/-- Reading on behind a page reads all rows exactly if those behind the page are those below its last row. -/
theorem reads_step (horder : Orders column orderBy) {r : α}
    (hlast : (page column orderBy rows limit before).getLast? = some r) :
    (∃ out, Reads column orderBy rows limit valid before out ∧ out.Perm (below column rows before)) ↔
      valid (column r) ∧
        (below column rows (some (column r))).Perm ((orderBy before (below column rows before)).drop limit) ∧
        ∃ rest, Reads column orderBy rows limit valid (some (column r)) rest ∧
          rest.Perm (below column rows (some (column r))) := by
  have hperm := horder.perm before (below column rows before)
  have hmap := map_eq_descending hperm (horder.sorted before (below column rows before))
  have hdrop := drop_perm_iff horder (mem_page horder (List.mem_of_getLast? hlast)) limit
  constructor
  · rintro ⟨out, hreads, hout⟩
    cases hreads with
    | last hnil => simp [hnil] at hlast
    | @next _ r' rest hlast' hvalid hrest =>
      cases hlast.symm.trans hlast'
      have hsame : rest.Perm ((orderBy before (below column rows before)).drop limit) := by
        apply (List.perm_append_left_iff (page column orderBy rows limit before)).mp
        rw [page, List.take_append_drop]
        exact hout.trans hperm.symm
      have hlow : ∀ b ∈ (descending column (below column rows before)).drop limit, b < column r := by
        intro b hb
        rw [← hmap, ← List.map_drop] at hb
        obtain ⟨x, hx, rfl⟩ := List.mem_map.mp hb
        have hmem := mem_below_of_reads horder hrest x (hsame.mem_iff.mpr hx)
        simpa using (List.mem_filter.mp hmem).2
      have hall := hdrop.mpr ((filter_eq_drop_iff (descending_pairwise _) (last_value horder hlast)).mpr hlow)
      exact ⟨hvalid, hall, rest, hrest, hsame.trans hall.symm⟩
  · rintro ⟨hvalid, hall, rest, hreads, hrest⟩
    refine ⟨_, .next hlast hvalid hreads, ?_⟩
    rw [page]
    refine ((hrest.trans hall).append_left _).trans ?_
    rw [List.take_append_drop]
    exact hperm

/-- The same for the values: a page resumes right after its end exactly if the rows behind it are those below its
last row. -/
theorem resumes_page (horder : Orders column orderBy) (hl : 1 ≤ limit) {r : α}
    (hlast : (page column orderBy rows limit before).getLast? = some r) :
    Keyset.Resumes (resume valid (descending column rows)) limit (descending column (below column rows before)) ↔
      valid (column r) ∧
        (below column rows (some (column r))).Perm ((orderBy before (below column rows before)).drop limit) ∧
        Keyset.Resumes (resume valid (descending column rows)) limit
          (descending column (below column rows (some (column r)))) := by
  have hk := last_value horder hlast
  have hne : descending column (below column rows before) ≠ [] := fun hnil => by simp [hnil] at hk
  have hfilter : (descending column rows).filter (· < column r) =
      descending column (below column rows (some (column r))) := by
    rw [descending_filter]
    simp [below]
  have hdrop := drop_perm_iff horder (mem_page horder (List.mem_of_getLast? hlast)) limit
  rw [descending_filter, ← last_below horder hlast] at hdrop
  rw [Keyset.resumes_step hl hne, hdrop]
  constructor
  · rintro ⟨⟨k, hk', hresume⟩, hrest⟩
    cases hk.symm.trans hk'
    obtain ⟨hvalid, heq⟩ := resume_eq_some.mp hresume
    rw [hfilter] at heq
    exact ⟨hvalid, heq, heq ▸ hrest⟩
  · rintro ⟨hvalid, heq, hrest⟩
    exact ⟨⟨column r, hk, resume_eq_some.mpr ⟨hvalid, hfilter.trans heq⟩⟩, heq ▸ hrest⟩

/-- The pages of rows in another shape. -/
theorem map_page {β : Type} {f : α → β} {column' : β → κ} {orderBy' : Option κ → List β → List β}
    (hcolumn : ∀ r, column' (f r) = column r)
    (horderBy : ∀ before rows, orderBy' before (rows.map f) = (orderBy before rows).map f) :
    page column' orderBy' (rows.map f) limit before = (page column orderBy rows limit before).map f := by
  have hbelow : below column' (rows.map f) before = (below column rows before).map f := by
    simp only [below, List.filter_map, Function.comp_def, hcolumn]
  rw [page, hbelow, horderBy, page, List.map_take]

/-- From any cursor on, all rows are read exactly when every page resumes right after its end. -/
theorem reads_from (horder : Orders column orderBy) (hl : 1 ≤ limit) (before : Option κ) :
    (∃ out, Reads column orderBy rows limit valid before out ∧ out.Perm (below column rows before)) ↔
      Keyset.Resumes (resume valid (descending column rows)) limit
        (descending column (below column rows before)) := by
  induction hn : (below column rows before).length using Nat.strong_induction_on generalizing before with
  | _ n ih =>
    have hperm := horder.perm before (below column rows before)
    cases hlast : (page column orderBy rows limit before).getLast? with
    | none =>
      have hpage : page column orderBy rows limit before = [] := List.getLast?_eq_none_iff.mp hlast
      have hnil : orderBy before (below column rows before) = [] :=
        (List.take_eq_nil_iff.mp hpage).resolve_left (by omega)
      have hempty : below column rows before = [] := (hnil ▸ hperm).nil_eq.symm
      refine iff_of_true ⟨[], .last hpage, by rw [hempty]⟩ ?_
      rw [hempty]
      simp [Keyset.Resumes, descending]
    | some r =>
      have hr := mem_page horder (List.mem_of_getLast? hlast)
      have hshort : (below column rows (some (column r))).length < n := by
        rw [← hn, last_below horder hlast]
        exact List.length_filter_lt_length_iff_exists.mpr ⟨r, hr, by simp⟩
      rw [reads_step horder hlast, resumes_page horder hl hlast, ih _ hshort (some (column r)) rfl]

/-- **All rows are read** exactly when no page ends within a group of rows with the same value, or at a value that
is not taken for a cursor. -/
theorem reads_iff (horder : Orders column orderBy) (hl : 1 ≤ limit) :
    (∃ out, Reads column orderBy rows limit valid none out ∧ out.Perm rows) ↔
      Unbroken valid limit (descending column rows) := by
  have hall : below column rows none = rows := by simp [below]
  have hfrom := @reads_from _ _ _ column orderBy rows limit valid horder hl none
  rw [hall] at hfrom
  rw [hfrom, unbroken_iff (descending_pairwise rows)]

end OurDao.CoarseCursor
