import OurDao.Keyset

/-!
# Walks through pages of rows that change

A reader asks for page after page, each time for the rows beyond the last one it was given, and
the rows may be others at each request. What it lists is in key order, so no key comes twice,
and a key that has a row whenever the reader asks for what lies before it is not left out.
-/

namespace OurDao.Walks

open Keyset

variable {α κ : Type} [LinearOrder κ] {key : α → κ} {limit : Nat} {final : κ → Prop}

/-- The requests of a reader, each with its cursor and the rows that are there, and what it lists. It
stops at an empty page, or behind a row with a `final` key, where it cannot ask on. -/
inductive Walk (key : α → κ) (limit : Nat) (final : κ → Prop) : List (Option κ × List α) → List α → Prop
  | stop {before : Option κ} {rows : List α} :
      (∀ r, (page key rows limit before).getLast? = some r → final (key r)) →
      Walk key limit final [(before, rows)] (page key rows limit before)
  | next {before : Option κ} {rows rows' rest : List α} {later : List (Option κ × List α)} {r : α} :
      (page key rows limit before).getLast? = some r → Walk key limit final ((some (key r), rows') :: later) rest →
      Walk key limit final ((before, rows) :: (some (key r), rows') :: later) (page key rows limit before ++ rest)

/-- The key lies beyond the cursor. -/
def Beyond (before : Option κ) (k : κ) : Prop := ∀ b, before = some b → b < k

theorem beyond_none (k : κ) : Beyond none k := by simp [Beyond]

theorem beyond_some {b k : κ} : Beyond (some b) k ↔ b < k := by simp [Beyond]

theorem Beyond.trans {before : Option κ} {k k' : κ} (h : Beyond before k) (hlt : k < k') : Beyond before k' :=
  fun b hb => lt_trans (h b hb) hlt

variable {before : Option κ} {rows : List α} {a r : α}

theorem mem_page (h : a ∈ page key rows limit before) : a ∈ rows ∧ Beyond before (key a) := by
  obtain ⟨hmem, hbeyond⟩ := List.mem_filter.mp (mem_ordered.mp (List.mem_of_mem_take h))
  constructor
  · exact hmem
  · intro b hb
    simpa [hb] using hbeyond

theorem ordered_beyond_lt (hkeys : (rows.map key).Nodup) :
    (ordered key (rows.filter fun r => before.all (· < key r))).Pairwise fun a b => key a < key b :=
  ordered_lt (hkeys.sublist (List.filter_sublist.map key))

theorem page_lt (hkeys : (rows.map key).Nodup) :
    (page key rows limit before).Pairwise fun a b => key a < key b :=
  (ordered_beyond_lt hkeys).sublist (List.take_sublist ..)

theorem le_last (hkeys : (rows.map key).Nodup) (hlast : (page key rows limit before).getLast? = some r)
    (ha : a ∈ page key rows limit before) : key a ≤ key r := by
  obtain ⟨init, hinit⟩ := List.getLast?_eq_some_iff.mp hlast
  have hlt : (page key rows limit before).Pairwise fun a b => key a < key b := page_lt hkeys
  rw [hinit, List.pairwise_append] at hlt
  rw [hinit] at ha
  cases List.mem_append.mp ha with
  | inl ha => exact le_of_lt (hlt.2.2 a ha r (List.mem_singleton_self r))
  | inr ha => rw [List.mem_singleton.mp ha]

/-- A row beyond the cursor that is not on the page comes after the last row of the page. -/
theorem last_lt (hkeys : (rows.map key).Nodup) (hl : 1 ≤ limit) (ha : a ∈ rows) (hbeyond : Beyond before (key a))
    (hpage : a ∉ page key rows limit before) :
    ∃ r, (page key rows limit before).getLast? = some r ∧ key r < key a := by
  have hmem : a ∈ ordered key (rows.filter fun r => before.all (· < key r)) := by
    rw [mem_ordered, List.mem_filter]
    refine ⟨ha, ?_⟩
    cases before with
    | none => rfl
    | some b => simpa using hbeyond b rfl
  have hlt : (ordered key (rows.filter fun r => before.all (· < key r))).Pairwise fun a b => key a < key b :=
    ordered_beyond_lt hkeys
  rw [← List.take_append_drop limit (ordered key (rows.filter fun r => before.all (· < key r)))] at hmem hlt
  rw [page] at hpage ⊢
  have hdrop := (List.mem_append.mp hmem).resolve_left hpage
  have hlong : limit < (ordered key (rows.filter fun r => before.all (· < key r))).length := by
    by_contra hshort
    rw [List.drop_eq_nil_of_le (by omega)] at hdrop
    cases hdrop
  cases hlast : ((ordered key (rows.filter fun r => before.all (· < key r))).take limit).getLast? with
  | none =>
    have hlen := congrArg List.length (List.getLast?_eq_none_iff.mp hlast)
    rw [List.length_take, List.length_nil] at hlen
    omega
  | some r => exact ⟨r, rfl, (List.pairwise_append.mp hlt).2.2 r (List.mem_of_getLast? hlast) a hdrop⟩

variable {requests : List (Option κ × List α)} {out : List α}

theorem Walk.ascends (h : Walk key limit final requests out) (hkeys : ∀ q ∈ requests, (q.2.map key).Nodup) :
    out.Pairwise (fun a b => key a < key b) ∧ ∀ q, requests.head? = some q → ∀ a ∈ out, Beyond q.1 (key a) := by
  induction h with
  | stop =>
    refine ⟨page_lt (hkeys _ (List.mem_singleton_self _)), ?_⟩
    intro q hq a ha
    cases hq
    exact (mem_page ha).2
  | @next before rows rows' rest later r hlast hrest ih =>
    obtain ⟨hsorted, hbeyond⟩ := ih fun q hq => hkeys q (List.mem_cons_of_mem _ hq)
    have hfirst := hkeys _ (List.mem_cons_self ..)
    have hafter : ∀ b ∈ rest, key r < key b := fun b hb => beyond_some.mp (hbeyond _ rfl b hb)
    constructor
    · rw [List.pairwise_append]
      exact ⟨page_lt hfirst, hsorted, fun a ha b hb => lt_of_le_of_lt (le_last hfirst hlast ha) (hafter b hb)⟩
    · intro q hq a ha
      cases hq
      cases List.mem_append.mp ha with
      | inl ha => exact (mem_page ha).2
      | inr ha => exact (mem_page (List.mem_of_getLast? hlast)).2.trans (hafter a ha)

/-- What is listed was there when it was asked for. -/
theorem Walk.sound (h : Walk key limit final requests out) {a : α} (ha : a ∈ out) :
    ∃ q ∈ requests, a ∈ q.2 ∧ Beyond q.1 (key a) := by
  induction h with
  | stop => exact ⟨_, List.mem_singleton_self _, mem_page ha⟩
  | next hlast hrest ih =>
    cases List.mem_append.mp ha with
    | inl ha => exact ⟨_, List.mem_cons_self .., mem_page ha⟩
    | inr ha =>
      obtain ⟨q, hq, hmem⟩ := ih ha
      exact ⟨q, List.mem_cons_of_mem _ hq, hmem⟩

/-- **No key is left out** that has a row at every request whose cursor lies before it, unless the reader
ends behind a final key that comes before it. -/
theorem Walk.complete (h : Walk key limit final requests out) (hkeys : ∀ q ∈ requests, (q.2.map key).Nodup)
    (hl : 1 ≤ limit) {k : κ} (hthere : ∀ q ∈ requests, Beyond q.1 k → ∃ a ∈ q.2, key a = k)
    (hfirst : ∀ q, requests.head? = some q → Beyond q.1 k) :
    (∃ a ∈ out, key a = k) ∨ ∃ r, out.getLast? = some r ∧ final (key r) ∧ key r < k := by
  induction h with
  | @stop before rows hstop =>
    obtain ⟨a, ha, rfl⟩ := hthere _ (List.mem_singleton_self _) (hfirst _ rfl)
    by_cases hpage : a ∈ page key rows limit before
    · exact .inl ⟨a, hpage, rfl⟩
    · obtain ⟨r, hlast, hlt⟩ := last_lt (hkeys _ (List.mem_singleton_self _)) hl ha (hfirst _ rfl) hpage
      exact .inr ⟨r, hlast, hstop r hlast, hlt⟩
  | @next before rows rows' rest later r hlast hrest ih =>
    obtain ⟨a, ha, rfl⟩ := hthere _ (List.mem_cons_self ..) (hfirst _ rfl)
    by_cases hpage : a ∈ page key rows limit before
    · exact .inl ⟨a, List.mem_append_left _ hpage, rfl⟩
    · obtain ⟨r', hlast', hlt⟩ := last_lt (hkeys _ (List.mem_cons_self ..)) hl ha (hfirst _ rfl) hpage
      cases hlast.symm.trans hlast'
      have hnext : ∀ q, (((some (key r), rows') :: later).head? = some q) → Beyond q.1 (key a) := by
        intro q hq
        cases hq
        exact beyond_some.mpr hlt
      obtain ⟨b, hb, hkey⟩ | ⟨last, hend, hfinal, hbefore⟩ := ih (fun q hq => hkeys q (List.mem_cons_of_mem _ hq))
        (fun q hq => hthere q (List.mem_cons_of_mem _ hq)) hnext
      · exact .inl ⟨b, List.mem_append_right _ hb, hkey⟩
      · refine .inr ⟨last, ?_, hfinal, hbefore⟩
        rw [List.getLast?_append, hend, Option.some_or]

end OurDao.Walks
