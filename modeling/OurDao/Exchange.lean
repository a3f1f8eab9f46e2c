import Mathlib.Algebra.Group.Pi.Basic
import Mathlib.Algebra.Group.Prod
import Mathlib.Algebra.Group.WithOne.Defs
import OurDao.Books
import OurDao.Database

/-!
# Events that can be exchanged

A handler writes only rows of the entities its event names, is decided by what those
rows hold, and otherwise adds to the running totals. So events that name no common
entity can be applied in either order: both orders succeed together and leave the same
rows, but for the surrogate ids, which are given out in the order of arrival.
-/

namespace OurDao

open Faults Sql Reorder

attribute [ext] DaoTotals DailyLoanStats

instance : Add DaoTotals := ⟨DaoTotals.add⟩

instance : Zero DaoTotals := ⟨{}⟩

instance : AddCommMonoid DaoTotals where
  add_assoc a b c := by ext <;> exact Nat.add_assoc ..
  zero_add a := by ext <;> exact Nat.zero_add _
  add_zero a := by ext <;> exact Nat.add_zero _
  add_comm a b := by ext <;> exact Nat.add_comm ..
  nsmul := nsmulRec

instance : Add DailyLoanStats := ⟨DailyLoanStats.add⟩

instance : AddCommSemigroup DailyLoanStats where
  add_assoc a b c := by ext <;> exact Nat.add_assoc ..
  add_comm a b := by ext <;> exact Nat.add_comm ..

theorem DaoTotals.fits_left {a b : DaoTotals} (h : (a + b).fits = true) : a.fits = true := by
  have hadd : a + b = a.add b := rfl
  simp only [hadd, fits, add, Bool.and_eq_true, decide_eq_true_eq] at h ⊢
  omega

theorem DailyLoanStats.fits_left {a b : DailyLoanStats} (h : (a + b).fits = true) : a.fits = true := by
  have hadd : a + b = a.add b := rfl
  simp only [hadd, fits, add, Bool.and_eq_true, decide_eq_true_eq] at h ⊢
  omega

/-- A day counts from its first row on. -/
abbrev Totals : Type := DaoTotals × (Int → WithZero DailyLoanStats)

/-- Every total fits its columns. -/
def Totals.fits (m : Totals) : Prop :=
  m.1.fits = true ∧ ∀ day (d : DailyLoanStats), m.2 day = d → d.fits = true

theorem Totals.fits_left {a b : Totals} (h : (a + b).fits) : a.fits := by
  refine ⟨DaoTotals.fits_left h.1, fun day d hd => ?_⟩
  cases hb : b.2 day with
  | zero => exact h.2 day d (by simp [hd, hb])
  | coe x => exact DailyLoanStats.fits_left (h.2 day (d + x) (by simp [hd, hb]))

def NotificationRow.withoutId (row : NotificationRow) : NotificationRow := { row with id := 0 }
def InterestRow.withoutId (row : InterestRow) : InterestRow := { row with id := 0 }
def DocumentRow.withoutId (row : DocumentRow) : DocumentRow := { row with id := 0 }

namespace Tables

def daily (t : Tables) (day : Int) : WithZero DailyLoanStats :=
  match t.daily_loan_stats.lookup day with
  | some d => d
  | none => 0

def totals (t : Tables) : Totals := (t.dao_totals, t.daily)

/-- The rows of one entity are the same, up to surrogate ids. -/
def Agree (s t : Tables) : Entity → Prop
  | .member a => s.members.lookup a = t.members.lookup a
  | .loan id => s.loan_proposals.lookup id = t.loan_proposals.lookup id ∧ s.loans.lookup id = t.loans.lookup id
  | .treasury id => s.treasury_proposals.lookup id = t.treasury_proposals.lookup id
  | .event id =>
    (∀ address, (s.notifications.lookup (id, address)).map (·.withoutId) =
      (t.notifications.lookup (id, address)).map (·.withoutId)) ∧
    (s.interest_distributions.lookup id).map (·.withoutId) = (t.interest_distributions.lookup id).map (·.withoutId) ∧
    (s.documents.lookup id).map (·.withoutId) = (t.documents.lookup id).map (·.withoutId)

/-- The same rows in every table, up to surrogate ids, and the same totals. -/
structure SameRows (s t : Tables) : Prop where
  members : ∀ a, s.members.lookup a = t.members.lookup a
  loan_proposals : ∀ id, s.loan_proposals.lookup id = t.loan_proposals.lookup id
  loans : ∀ id, s.loans.lookup id = t.loans.lookup id
  treasury_proposals : ∀ id, s.treasury_proposals.lookup id = t.treasury_proposals.lookup id
  notifications : ∀ key, (s.notifications.lookup key).map (·.withoutId) =
    (t.notifications.lookup key).map (·.withoutId)
  interest_distributions : ∀ id,
    (s.interest_distributions.lookup id).map (·.withoutId) = (t.interest_distributions.lookup id).map (·.withoutId)
  documents : ∀ id, (s.documents.lookup id).map (·.withoutId) = (t.documents.lookup id).map (·.withoutId)
  daily_loan_stats : ∀ day, s.daily_loan_stats.lookup day = t.daily_loan_stats.lookup day
  dao_totals : s.dao_totals = t.dao_totals

end Tables

/-- Two tables look alike when the rows of every entity and all totals do. -/
def view : View Tables Entity Totals where
  agree e s t := s.Agree t e
  refl e s := by cases e <;> simp [Tables.Agree]
  symm {e s t} h := by
    cases e with
    | event id => exact ⟨fun address => (h.1 address).symm, h.2.1.symm, h.2.2.symm⟩
    | loan id => exact ⟨h.1.symm, h.2.symm⟩
    | _ => exact Eq.symm h
  trans {e s t u} h h' := by
    cases e with
    | event id => exact ⟨fun address => (h.1 address).trans (h'.1 address), h.2.1.trans h'.2.1, h.2.2.trans h'.2.2⟩
    | loan id => exact ⟨h.1.trans h'.1, h.2.trans h'.2⟩
    | _ => exact Eq.trans h h'
  total := Tables.totals
  fits := Totals.fits
  fits_left := Totals.fits_left

theorem Tables.daily_eq_iff {s t : Tables} {day : Int} :
    s.daily day = t.daily day ↔ s.daily_loan_stats.lookup day = t.daily_loan_stats.lookup day := by
  rw [daily, daily]
  cases s.daily_loan_stats.lookup day <;> cases t.daily_loan_stats.lookup day <;> simp [eq_comm]

theorem sameRows_iff {s t : Tables} : s.SameRows t ↔ view.Same s t := by
  constructor
  · intro h
    refine ⟨fun e => ?_, Prod.ext h.dao_totals (funext fun day => Tables.daily_eq_iff.mpr (h.daily_loan_stats day))⟩
    cases e with
    | member a => exact h.members a
    | loan id => exact ⟨h.loan_proposals id, h.loans id⟩
    | treasury id => exact h.treasury_proposals id
    | event id => exact ⟨fun address => h.notifications (id, address), h.interest_distributions id, h.documents id⟩
  · rintro ⟨hrows, htotal⟩
    have hdaily : ∀ day, s.daily day = t.daily day := fun day => congrFun (congrArg Prod.snd htotal) day
    exact {
      members := fun a => hrows (.member a)
      loan_proposals := fun id => (hrows (.loan id)).1
      loans := fun id => (hrows (.loan id)).2
      treasury_proposals := fun id => hrows (.treasury id)
      notifications := fun key => (hrows (.event key.1)).1 key.2
      interest_distributions := fun id => (hrows (.event id)).2.1
      documents := fun id => (hrows (.event id)).2.2
      daily_loan_stats := fun day => Tables.daily_eq_iff.mp (hdaily day)
      dao_totals := congrArg Prod.fst htotal }

section

variable {A : Set Entity} {e : Entity} {α : Type}

/-- A statement that leaves the totals alone, writes rows of `e` only, and does the same
wherever these rows are the same. -/
theorem local_of_rows (he : e ∈ A) {m : Sql α}
    (h : ∀ s a s', m s = .ok (a, s') → (∀ e' ≠ e, s.Agree s' e') ∧ s'.totals = s.totals ∧
      ∀ u, s.Agree u e → ∃ u', m u = .ok (a, u') ∧ s'.Agree u' e ∧ (∀ e' ≠ e, u.Agree u' e') ∧
        u'.totals = u.totals) : Local view A m := by
  intro s a s' hs
  obtain ⟨hframe, htotal, hrep⟩ := h s a s' hs
  have hsum : view.total s' = view.total s := htotal
  refine ⟨fun k hk => hframe k fun h => hk (h ▸ he), 0, by rw [hsum, add_zero], by rw [hsum]; exact id, ?_⟩
  intro u hu _
  obtain ⟨u', hm, hagree, hframe', htotal'⟩ := hrep u (hu e he)
  refine ⟨u', hm, fun k hk => ?_, by rw [add_zero]; exact htotal'⟩
  by_cases hke : k = e
  · exact hke ▸ hagree
  · exact view.trans (view.symm (hframe k hke)) (view.trans (hu k hk) (hframe' k hke))

/-- A statement that always returns, and is given by what it writes. -/
theorem local_of_run (he : e ∈ A) {m : Sql α} {answer : Tables → α} {Writes : Tables → Tables → Prop}
    (hrun : ∀ s, ∃ s', m s = .ok (answer s, s') ∧ Writes s s')
    (hframe : ∀ s s', Writes s s' → (∀ e' ≠ e, s.Agree s' e') ∧ s'.totals = s.totals)
    (hagree : ∀ s s' u u', Writes s s' → Writes u u' → s.Agree u e → answer u = answer s ∧ s'.Agree u' e) :
    Local view A m := by
  refine local_of_rows he fun s a s' hs => ?_
  obtain ⟨s₁, hs₁, hwrites⟩ := hrun s
  rw [hs₁] at hs
  cases hs
  refine ⟨(hframe s s' hwrites).1, (hframe s s' hwrites).2, fun u hu => ?_⟩
  obtain ⟨u', hu', hwrites'⟩ := hrun u
  obtain ⟨hsame, hrows⟩ := hagree s s' u u' hwrites hwrites' hu
  exact ⟨u', hsame ▸ hu', hrows, (hframe u u' hwrites').1, (hframe u u' hwrites').2⟩

/-- A relation whose row under `k` belongs to the entity `e`. -/
structure Belongs {κ ν : Type} [DecidableEq κ] (r : Relation κ ν) (k : κ) (e : Entity) : Prop where
  read : ∀ {s t : Tables}, s.Agree t e → (r.get s).lookup k = (r.get t).lookup k
  frame : ∀ (s : Tables) (row : ν) (e' : Entity), e' ≠ e → s.Agree (r.set ((r.get s).insert k row) s) e'
  written : ∀ {s t : Tables} (row : ν), s.Agree t e →
    (r.set ((r.get s).insert k row) s).Agree (r.set ((r.get t).insert k row) t) e
  totals : ∀ (s : Tables) (row : ν), (r.set ((r.get s).insert k row) s).totals = s.totals

theorem Belongs.onRow {κ ν : Type} [DecidableEq κ] {r : Relation κ ν} {k : κ} (h : Belongs r k e)
    (he : e ∈ A) : OnRow (fun m _ => Local view A m) r k where
  select := local_of_rows he fun s a s' hs => by
    cases hs
    refine ⟨fun e' _ => view.refl e' s, rfl, fun u hu => ⟨u, ?_, hu, fun e' _ => view.refl e' u, rfl⟩⟩
    simp only [h.read hu]
    rfl
  write row := local_of_rows he fun s a s' hs => by
    cases hs
    exact ⟨h.frame s row, h.totals s row, fun u hu =>
      ⟨_, rfl, h.written row hu, h.frame u row, h.totals u row⟩⟩

theorem members_belongs (a : String) : Belongs members a (.member a) where
  read h := h
  frame s row e' he := by
    cases e' with
    | member b =>
      have hb : b ≠ a := fun h => he (by rw [h])
      simp [Tables.Agree, members, AList.lookup_insert_ne hb]
    | _ => simp [Tables.Agree, members]
  written row _ := by simp [Tables.Agree, members, AList.lookup_insert]
  totals _ _ := rfl

theorem loan_proposals_belongs (id : Int) : Belongs loan_proposals id (.loan id) where
  read h := h.1
  frame s row e' he := by
    cases e' with
    | loan id' =>
      have hid : id' ≠ id := fun h => he (by rw [h])
      simp [Tables.Agree, loan_proposals, AList.lookup_insert_ne hid]
    | _ => simp [Tables.Agree, loan_proposals]
  written row h := ⟨by simp [loan_proposals, AList.lookup_insert], h.2⟩
  totals _ _ := rfl

theorem loans_belongs (id : Int) : Belongs loans id (.loan id) where
  read h := h.2
  frame s row e' he := by
    cases e' with
    | loan id' =>
      have hid : id' ≠ id := fun h => he (by rw [h])
      simp [Tables.Agree, loans, AList.lookup_insert_ne hid]
    | _ => simp [Tables.Agree, loans]
  written row h := ⟨h.1, by simp [loans, AList.lookup_insert]⟩
  totals _ _ := rfl

theorem treasury_belongs (id : Int) : Belongs treasury_proposals id (.treasury id) where
  read h := h
  frame s row e' he := by
    cases e' with
    | treasury id' =>
      have hid : id' ≠ id := fun h => he (by rw [h])
      simp [Tables.Agree, treasury_proposals, AList.lookup_insert_ne hid]
    | _ => simp [Tables.Agree, treasury_proposals]
  written row _ := by simp [Tables.Agree, treasury_proposals, AList.lookup_insert]
  totals _ _ := rfl

section

variable {id : String}

/-- The rows after an insert that leaves a conflicting row alone. -/
theorem lookup_insertNew {κ ν β : Type} [DecidableEq κ] (t : Table κ ν) (k j : κ) (row : ν) (f : ν → β) :
    ((if (t.lookup k).isSome then t else t.insert k row).lookup j).map f =
      if j = k ∧ t.lookup k = none then some (f row) else (t.lookup j).map f := by
  cases hk : t.lookup k with
  | some old => simp
  | none =>
    by_cases hj : j = k
    · subst j
      simp [AList.lookup_insert]
    · simp [hj, AList.lookup_insert_ne hj]

theorem insertNotification_run {row : Nat → NotificationRow} (hrow : ∀ i, row i = { row 0 with id := i })
    (address : String) (s : Tables) : ∃ s', insertNotification id address row s = .ok ((), s') ∧
      s' = { s with notifications := s'.notifications, sequences := s'.sequences } ∧
      ∀ key, (s'.notifications.lookup key).map (·.withoutId) =
        if key = (id, address) ∧ s.notifications.lookup (id, address) = none then some (row 0).withoutId
        else (s.notifications.lookup key).map (·.withoutId) := by
  have hid : ∀ i, (row i).withoutId = (row 0).withoutId := fun i => by rw [hrow i]; rfl
  refine ⟨_, rfl, ?_, fun key => ?_⟩
  · dsimp only
    split <;> rfl
  · have hnew := lookup_insertNew s.notifications (id, address) key (row (s.sequences.notifications + 1))
      (·.withoutId)
    rw [hid] at hnew
    rw [← hnew]
    dsimp only
    cases s.notifications.lookup (id, address) <;> rfl

theorem insertInterest_run {row : Nat → InterestRow} (hrow : ∀ i, row i = { row 0 with id := i }) (s : Tables) :
    ∃ s', insertInterest id row s = .ok ((s.interest_distributions.lookup id).isNone, s') ∧
      s' = { s with interest_distributions := s'.interest_distributions, sequences := s'.sequences } ∧
      ∀ key, (s'.interest_distributions.lookup key).map (·.withoutId) =
        if key = id ∧ s.interest_distributions.lookup id = none then some (row 0).withoutId
        else (s.interest_distributions.lookup key).map (·.withoutId) := by
  have hid : ∀ i, (row i).withoutId = (row 0).withoutId := fun i => by rw [hrow i]; rfl
  cases hs : s.interest_distributions.lookup id with
  | some old => exact ⟨_, by simp [insertInterest, hs]; rfl, rfl, fun key => by simp⟩
  | none =>
    refine ⟨_, by simp [insertInterest, hs]; rfl, rfl, fun key => ?_⟩
    have hnew := lookup_insertNew s.interest_distributions id key (row (s.sequences.interest_distributions + 1))
      (·.withoutId)
    simpa [hs, hid] using hnew

theorem insertDocument_run {row : Nat → DocumentRow} (hrow : ∀ i, row i = { row 0 with id := i }) (s : Tables) :
    ∃ s', insertDocument id row s = .ok ((), s') ∧
      s' = { s with documents := s'.documents, sequences := s'.sequences } ∧
      ∀ key, (s'.documents.lookup key).map (·.withoutId) =
        if key = id ∧ s.documents.lookup id = none then some (row 0).withoutId
        else (s.documents.lookup key).map (·.withoutId) := by
  have hid : ∀ i, (row i).withoutId = (row 0).withoutId := fun i => by rw [hrow i]; rfl
  refine ⟨_, rfl, ?_, fun key => ?_⟩
  · dsimp only
    split <;> rfl
  · have hnew := lookup_insertNew s.documents id key (row (s.sequences.documents + 1)) (·.withoutId)
    rw [hid] at hnew
    rw [← hnew]
    dsimp only
    cases s.documents.lookup id <;> rfl

end

/-- Only rows of the event `id` were written. -/
theorem agree_of_eventRows {s t : Tables} {id : String}
    (h : t = { s with notifications := t.notifications, interest_distributions := t.interest_distributions
                      documents := t.documents, sequences := t.sequences })
    (hn : ∀ key : String × String, key.1 ≠ id →
      (t.notifications.lookup key).map (·.withoutId) = (s.notifications.lookup key).map (·.withoutId))
    (hi : ∀ j ≠ id, (t.interest_distributions.lookup j).map (·.withoutId) =
      (s.interest_distributions.lookup j).map (·.withoutId))
    (hd : ∀ j ≠ id, (t.documents.lookup j).map (·.withoutId) = (s.documents.lookup j).map (·.withoutId))
    (e' : Entity) (he : e' ≠ .event id) : s.Agree t e' := by
  cases e' with
  | event j =>
    have hj : j ≠ id := fun hj => he (by rw [hj])
    exact ⟨fun address => (hn (j, address) hj).symm, (hi j hj).symm, (hd j hj).symm⟩
  | _ => rw [h]; simp [Tables.Agree]

theorem lookup_eq_none_of_map {ν β : Type} {a b : Option ν} {f : ν → β} (h : a.map f = b.map f) :
    a = none ↔ b = none := by
  cases a <;> cases b <;> simp_all

theorem insertNotification_local {id : String} (he : .event id ∈ A) {row : Nat → NotificationRow}
    (hrow : ∀ i, row i = { row 0 with id := i }) (address : String) :
    Local view A (insertNotification id address row) := by
  refine local_of_run he (insertNotification_run hrow address) ?_ ?_
  · rintro s s' ⟨hs', hlook⟩
    refine ⟨agree_of_eventRows (by rw [hs']) (fun key hkey => ?_) (fun j _ => by rw [hs']) fun j _ => by rw [hs'], ?_⟩
    · rw [hlook, if_neg fun h => hkey (by rw [h.1])]
    · rw [hs']
      rfl
  · rintro s s' u u' ⟨hs', hlook⟩ ⟨hu', hlook'⟩ hu
    refine ⟨rfl, fun address' => ?_, ?_, ?_⟩
    · simp only [hlook, hlook', hu.1 address', lookup_eq_none_of_map (hu.1 address)]
    · rw [hs', hu']
      exact hu.2.1
    · rw [hs', hu']
      exact hu.2.2

theorem insertInterest_local {id : String} (he : .event id ∈ A) {row : Nat → InterestRow}
    (hrow : ∀ i, row i = { row 0 with id := i }) : Local view A (insertInterest id row) := by
  refine local_of_run he (insertInterest_run hrow) ?_ ?_
  · rintro s s' ⟨hs', hlook⟩
    refine ⟨agree_of_eventRows (by rw [hs']) (fun key _ => by rw [hs']) (fun j hj => ?_) fun j _ => by rw [hs'], ?_⟩
    · rw [hlook, if_neg fun h => hj h.1]
    · rw [hs']
      rfl
  · rintro s s' u u' ⟨hs', hlook⟩ ⟨hu', hlook'⟩ hu
    have hnone := lookup_eq_none_of_map hu.2.1
    refine ⟨?_, fun address => ?_, ?_, ?_⟩
    · rw [Bool.eq_iff_iff, Option.isNone_iff_eq_none, Option.isNone_iff_eq_none]
      exact hnone.symm
    · rw [hs', hu']
      exact hu.1 address
    · simp only [hlook, hlook', hu.2.1, hnone]
    · rw [hs', hu']
      exact hu.2.2

theorem insertDocument_local {id : String} (he : .event id ∈ A) {row : Nat → DocumentRow}
    (hrow : ∀ i, row i = { row 0 with id := i }) : Local view A (insertDocument id row) := by
  refine local_of_run he (insertDocument_run hrow) ?_ ?_
  · rintro s s' ⟨hs', hlook⟩
    refine ⟨agree_of_eventRows (by rw [hs']) (fun key _ => by rw [hs']) (fun j _ => by rw [hs']) fun j hj => ?_, ?_⟩
    · rw [hlook, if_neg fun h => hj h.1]
    · rw [hs']
      rfl
  · rintro s s' u u' ⟨hs', hlook⟩ ⟨hu', hlook'⟩ hu
    refine ⟨rfl, fun address => ?_, ?_, ?_⟩
    · rw [hs', hu']
      exact hu.1 address
    · rw [hs', hu']
      exact hu.2.1
    · simp only [hlook, hlook', hu.2.2, lookup_eq_none_of_map hu.2.2]

/-- A statement that only adds to the totals, where the sum fits. -/
theorem local_of_sum {m : Sql Unit} {d : Totals}
    (h : ∀ s s', m s = .ok ((), s') → (s.totals.fits → s'.totals.fits) ∧ s'.totals = s.totals + d ∧
      ∀ e, s.Agree s' e)
    (hok : ∀ s, (s.totals + d).fits → ∃ s', m s = .ok ((), s')) : Local view A m := by
  intro s a s' hs
  obtain ⟨hfit, hsum, hrows⟩ := h s s' hs
  refine ⟨fun e _ => hrows e, d, hsum, hfit, fun u hu hroom => ?_⟩
  obtain ⟨u', hu'⟩ := hok u hroom
  obtain ⟨-, hsum', hrows'⟩ := h u u' hu'
  exact ⟨u', hu', fun e he => view.trans (view.symm (hrows e)) (view.trans (hu e he) (hrows' e)), hsum'⟩

theorem addTotals_local (delta : DaoTotals) : Local view A (addTotals delta) := by
  refine local_of_sum (d := (delta, 0)) (fun s s' hs => ?_) fun s hroom => ?_
  · rw [addTotals] at hs
    split at hs
    next hfit =>
      cases hs
      refine ⟨fun h => ⟨hfit, h.2⟩, Prod.ext rfl (add_zero _).symm, fun e => ?_⟩
      cases e <;> simp [Tables.Agree]
    next => cases hs
  · have hfit : (s.dao_totals.add delta).fits = true := hroom.1
    exact ⟨_, by rw [addTotals, if_pos hfit]⟩

/-- What a day adds up to after `delta`. -/
theorem daily_add (s : Tables) (day : Int) (delta : DailyLoanStats) :
    s.daily day + (delta : WithZero DailyLoanStats) = (dailyAfter s day delta : WithZero DailyLoanStats) := by
  have hzero : ({} : DailyLoanStats).add delta = delta := by ext <;> exact Nat.zero_add _
  rw [Tables.daily, dailyAfter]
  cases s.daily_loan_stats.lookup day with
  | none => simp [hzero]
  | some d => rfl

theorem daily_insert (s : Tables) (day day' : Int) (d : DailyLoanStats) :
    Tables.daily { s with daily_loan_stats := s.daily_loan_stats.insert day d } day' =
      if day' = day then (d : WithZero DailyLoanStats) else s.daily day' := by
  by_cases hday : day' = day
  · subst day'
    simp [Tables.daily, AList.lookup_insert]
  · simp [Tables.daily, hday, AList.lookup_insert_ne hday]

theorem addDaily_local (day : Int) (delta : DailyLoanStats) : Local view A (addDaily day delta) := by
  refine local_of_sum (d := (0, Pi.single day (delta : WithZero DailyLoanStats))) (fun s s' hs => ?_)
    fun s hroom => ?_
  · rw [addDaily] at hs
    split at hs
    next hfit =>
      cases hs
      refine ⟨fun h => ⟨h.1, fun day' d hd => ?_⟩, Prod.ext (add_zero _).symm (funext fun day' => ?_), fun e => ?_⟩
      · have hd : Tables.daily _ day' = d := hd
        rw [daily_insert] at hd
        by_cases hday : day' = day
        · rw [if_pos hday, WithZero.coe_inj] at hd
          exact hd ▸ hfit
        · rw [if_neg hday] at hd
          exact h.2 day' d hd
      · have hsum := daily_insert s day day' (dailyAfter s day delta)
        by_cases hday : day' = day
        · subst day'
          simpa [Tables.totals, ← daily_add] using hsum
        · simpa [Tables.totals, hday] using hsum
      · cases e <;> simp [Tables.Agree]
    next => cases hs
  · have hfit : (dailyAfter s day delta).fits = true := by
      refine hroom.2 day _ ?_
      rw [← daily_add]
      simp [Tables.totals]
    exact ⟨_, by rw [addDaily, if_pos hfit]⟩

end

theorem statements_local (A : Set Entity) : Statements (· ∈ A) fun m _ => Local view A m where
  pure a := .pure a
  bind hm hf := hm.bind hf
  liftBind {_ _ x _ f _} _ _ hf := by
    cases x with
    | error m => intro s a s' h; cases h
    | ok a => exact hf a rfl
  member he := (members_belongs _).onRow he
  loanProposal he := (loan_proposals_belongs _).onRow he
  loan he := (loans_belongs _).onRow he
  treasury he := (treasury_belongs _).onRow he
  notification he hrow _ := insertNotification_local he hrow _
  interest he hrow := insertInterest_local he hrow
  document he hrow := insertDocument_local he hrow
  totals delta := addTotals_local delta
  daily day delta := addDaily_local day delta

/-- The rows an event may read or write. -/
def keys (ev : DecodedEvent) : Set Entity := {e | e ∈ entities ev}

/-- **An event is local to the entities it names.** -/
theorem applyEvent_local (ev : DecodedEvent) : Local view (keys ev) (applyEvent ev) :=
  (statements_local (keys ev)).applyEvent (.refl ev) fun _ he => he

/-- Wherever the totals fit their columns and `a` and then `b` can be applied, so can `b` and then `a`,
and the rows are the same. -/
def Exchangeable (a b : DecodedEvent) : Prop := ∀ s s' : Tables, s.totals.fits →
  foldTables [a, b] s = .ok s' → ∃ t, foldTables [b, a] s = .ok t ∧ s'.SameRows t

theorem exchangeable_iff {a b : DecodedEvent} : Exchangeable a b ↔ Exchange view applyEvent a b := by
  simp only [Exchangeable, sameRows_iff]
  rfl

/-- Events that name no common entity. -/
theorem exchangeable_of_disjoint {a b : DecodedEvent} (h : Disjoint (keys a) (keys b)) : Exchangeable a b :=
  exchangeable_iff.mpr (exchange_of_disjoint applyEvent_local h)

/-- **Another order of the same events.** It can be applied and leaves the same rows, if every pair
that it puts differently can be exchanged. -/
theorem foldTables_reorder {evs evs' : List DecodedEvent} (hp : evs.Perm evs')
    (h : ∀ a b, [a, b].Sublist evs → [b, a].Sublist evs' → Exchangeable a b) {t t' : Tables}
    (hfit : t.totals.fits) (hf : foldTables evs t = .ok t') :
    ∃ u, foldTables evs' t = .ok u ∧ t'.SameRows u := by
  obtain ⟨u, hu, hsame⟩ := foldlM_reorder applyEvent_local hp hfit
    (fun a b hab hba => exchangeable_iff.mp (h a b hab hba)) hf
  exact ⟨u, hu, sameRows_iff.mpr hsame⟩

-- Votes on one proposal only add to its counters.

section

variable {κ ν : Type} [DecidableEq κ]

theorem update_eq_ok {r : Relation κ ν} {k : κ} {f : ν → Except String ν} {t t' : Tables} :
    (∃ x, Sql.update r k f t = .ok (x, t')) ↔ ((r.get t).lookup k = none ∧ t' = t) ∨
      ∃ row row', (r.get t).lookup k = some row ∧ f row = .ok row' ∧ t' = r.set ((r.get t).insert k row') t := by
  constructor
  · rintro ⟨x, h⟩
    rcases updateWhere_eq_ok h with ⟨-, rfl, hnone⟩ | ⟨row, row', hrow, -, hf, -, rfl⟩
    · refine .inl ⟨Option.eq_none_iff_forall_ne_some.mpr fun row hrow => ?_, rfl⟩
      simpa using hnone row hrow
    · exact .inr ⟨row, row', hrow, hf, rfl⟩
  · rintro (⟨hnone, rfl⟩ | ⟨row, row', hrow, hf, rfl⟩)
    · exact ⟨none, by rw [Sql.update, updateWhere, select_bind_eq_ok, hnone]; rfl⟩
    · refine ⟨some row', ?_⟩
      rw [Sql.update, updateWhere, select_bind_eq_ok, hrow]
      simp only [if_true, lift_bind_eq_ok]
      exact ⟨row', hf, rfl⟩

/-- A table whose rows can be written over. -/
structure Relation.Lawful (r : Relation κ ν) : Prop where
  get_set : ∀ x t, r.get (r.set x t) = x
  set_set : ∀ x y t, r.set x (r.set y t) = r.set x t

/-- An event whose whole effect is an update of one row. -/
def Updates (ev : DecodedEvent) (r : Relation κ ν) (k : κ) (f : ν → Except String ν) : Prop :=
  ∀ t t', (∃ channels, applyEvent ev t = .ok (channels, t')) ↔ ∃ x, Sql.update r k f t = .ok (x, t')

/-- Two updates of one row can be exchanged when they can on the row. -/
theorem exchangeable_of_updates {a b : DecodedEvent} {r : Relation κ ν} (hr : r.Lawful) {k : κ}
    {f g : ν → Except String ν} (ha : Updates a r k f) (hb : Updates b r k g)
    (h : ∀ row row₁ row₂, f row = .ok row₁ → g row₁ = .ok row₂ →
      ∃ row', g row = .ok row' ∧ f row' = .ok row₂) : Exchangeable a b := by
  intro s s' _ hs
  obtain ⟨c, s₁, c', h₁, h₂⟩ := foldlM_pair_ok.mp hs
  suffices hsuff : ∃ t, (∃ c, applyEvent b s = .ok (c, t)) ∧ ∃ c, applyEvent a t = .ok (c, s') by
    obtain ⟨t, ⟨c, hbt⟩, c', hat⟩ := hsuff
    exact ⟨s', foldlM_pair_ok.mpr ⟨c, t, c', hbt, hat⟩, sameRows_iff.mpr (View.Same.refl view s')⟩
  rcases update_eq_ok.mp ((ha s s₁).mp ⟨c, h₁⟩) with ⟨hnone, rfl⟩ | ⟨row, row₁, hrow, hf, rfl⟩
  · -- no such row, before and after
    rcases update_eq_ok.mp ((hb _ s').mp ⟨c', h₂⟩) with ⟨-, rfl⟩ | ⟨row, -, hrow, -⟩
    · exact ⟨s', (hb _ _).mpr (update_eq_ok.mpr (.inl ⟨hnone, rfl⟩)),
        (ha _ _).mpr (update_eq_ok.mpr (.inl ⟨hnone, rfl⟩))⟩
    · rw [hnone] at hrow
      cases hrow
  · rcases update_eq_ok.mp ((hb _ s').mp ⟨c', h₂⟩) with ⟨hnone, -⟩ | ⟨row₁', row₂, hrow₁, hg, rfl⟩
    · rw [hr.get_set, AList.lookup_insert] at hnone
      cases hnone
    · rw [hr.get_set, AList.lookup_insert] at hrow₁
      cases hrow₁
      obtain ⟨row', hg', hf'⟩ := h row row₁ row₂ hf hg
      refine ⟨r.set ((r.get s).insert k row') s, (hb _ _).mpr (update_eq_ok.mpr (.inr ⟨row, row', hrow, hg', rfl⟩)),
        (ha _ _).mpr (update_eq_ok.mpr (.inr ⟨row', row₂, ?_, hf', ?_⟩))⟩
      · rw [hr.get_set, AList.lookup_insert]
      · simp only [hr.get_set, hr.set_set, AList.insert_insert]

end

/-- The handler's rewrite of a loan proposal on which a ballot is cast. -/
def LoanProposalRow.cast (support : Bool) (weight : Nat) (row : LoanProposalRow) : Except String LoanProposalRow := do
  let voter_count ← integer (row.voter_count + 1)
  if support then return { row with votes_for := ← numeric (row.votes_for + weight), voter_count }
  else return { row with votes_against := ← numeric (row.votes_against + weight), voter_count }

/-- The same of a treasury proposal. -/
def TreasuryProposalRow.cast (support : Bool) (weight : Nat) (row : TreasuryProposalRow) :
    Except String TreasuryProposalRow := do
  let voter_count ← integer (row.voter_count + 1)
  if support then return { row with votes_for := ← numeric (row.votes_for + weight), voter_count }
  else return { row with votes_against := ← numeric (row.votes_against + weight), voter_count }

theorem integer_bind_eq_ok {α : Type} {n : Int} {f : Int → Except String α} {a : α} :
    (integer n >>= f) = .ok a ↔ -2 ^ 31 ≤ n ∧ n < 2 ^ 31 ∧ f n = .ok a := by
  rw [integer]
  split <;> simp_all [bind, Except.bind]

theorem numeric_bind_eq_ok {α : Type} {n : Nat} {f : Nat → Except String α} {a : α} :
    (numeric n >>= f) = .ok a ↔ n < 10 ^ 40 ∧ f n = .ok a := by
  rw [numeric]
  split <;> simp_all [bind, Except.bind]

theorem LoanProposalRow.cast_eq_ok {support : Bool} {weight : Nat} {row row' : LoanProposalRow} :
    row.cast support weight = .ok row' ↔ -2 ^ 31 ≤ row.voter_count + 1 ∧ row.voter_count + 1 < 2 ^ 31 ∧
      (if support then row.votes_for else row.votes_against) + weight < 10 ^ 40 ∧
      row' = { row with votes_for := row.votes_for + if support then weight else 0
                        votes_against := row.votes_against + if support then 0 else weight
                        voter_count := row.voter_count + 1 } := by
  cases support <;>
    simp only [cast, integer_bind_eq_ok, numeric_bind_eq_ok, if_true, if_false, Bool.false_eq_true] <;>
    simp [pure, Except.pure, eq_comm (a := row')]

theorem LoanProposalRow.cast_comm {support support' : Bool} {weight weight' : Nat} {row row₁ row₂ : LoanProposalRow}
    (h₁ : row.cast support weight = .ok row₁) (h₂ : row₁.cast support' weight' = .ok row₂) :
    ∃ row', row.cast support' weight' = .ok row' ∧ row'.cast support weight = .ok row₂ := by
  obtain ⟨hlow, hhigh, hvotes, rfl⟩ := cast_eq_ok.mp h₁
  obtain ⟨hlow', hhigh', hvotes', rfl⟩ := cast_eq_ok.mp h₂
  refine ⟨_, cast_eq_ok.mpr ⟨hlow, hhigh, ?_, rfl⟩, cast_eq_ok.mpr ⟨hlow', hhigh', ?_, ?_⟩⟩
  · cases support <;> cases support' <;> simp_all <;> omega
  · cases support <;> cases support' <;> simp_all <;> omega
  · cases support <;> cases support' <;> simp [Nat.add_right_comm]

theorem TreasuryProposalRow.cast_eq_ok {support : Bool} {weight : Nat} {row row' : TreasuryProposalRow} :
    row.cast support weight = .ok row' ↔ -2 ^ 31 ≤ row.voter_count + 1 ∧ row.voter_count + 1 < 2 ^ 31 ∧
      (if support then row.votes_for else row.votes_against) + weight < 10 ^ 40 ∧
      row' = { row with votes_for := row.votes_for + if support then weight else 0
                        votes_against := row.votes_against + if support then 0 else weight
                        voter_count := row.voter_count + 1 } := by
  cases support <;>
    simp only [cast, integer_bind_eq_ok, numeric_bind_eq_ok, if_true, if_false, Bool.false_eq_true] <;>
    simp [pure, Except.pure, eq_comm (a := row')]

theorem TreasuryProposalRow.cast_comm {support support' : Bool} {weight weight' : Nat}
    {row row₁ row₂ : TreasuryProposalRow}
    (h₁ : row.cast support weight = .ok row₁) (h₂ : row₁.cast support' weight' = .ok row₂) :
    ∃ row', row.cast support' weight' = .ok row' ∧ row'.cast support weight = .ok row₂ := by
  obtain ⟨hlow, hhigh, hvotes, rfl⟩ := cast_eq_ok.mp h₁
  obtain ⟨hlow', hhigh', hvotes', rfl⟩ := cast_eq_ok.mp h₂
  refine ⟨_, cast_eq_ok.mpr ⟨hlow, hhigh, ?_, rfl⟩, cast_eq_ok.mpr ⟨hlow', hhigh', ?_, ?_⟩⟩
  · cases support <;> cases support' <;> simp_all <;> omega
  · cases support <;> cases support' <;> simp_all <;> omega
  · cases support <;> cases support' <;> simp [Nat.add_right_comm]

theorem applyEvent_eq_ok {ev : DecodedEvent} {symbol : EventSymbol} {handler : DecodedEvent → Sql Unit}
    (hs : EventSymbol.ofSymbol? ev.symbol = some symbol) (hh : handlers symbol = some handler) {t t' : Tables} :
    (∃ channels, applyEvent ev t = .ok (channels, t')) ↔ handler ev t = .ok ((), t') := by
  have hrun : applyEvent ev = (do handler ev; return if ev.symbol.lone then [] else channelMap ev.symbol.text) := by
    rw [applyEvent, hs, Option.bind_some, hh]
  rw [hrun]
  simp only [bind_eq_ok]
  constructor
  · rintro ⟨channels, _, t₁, h, he⟩
    cases he
    exact h
  · exact fun h => ⟨_, (), t', h, rfl⟩

theorem lift_ok_bind {α β : Type} {a : α} {f : α → Sql β} : (lift (.ok a) >>= f) = f a := rfl

/-- What a ballot needs to be counted. -/
structure Ballot (ev : DecodedEvent) (field : String) (id : Int) (support : Bool) (weight : Amount) : Prop where
  proposal : requireId ev field = .ok id
  support : requireBool ev "support" = .ok support
  weight : weightOf ev = .ok weight
  id : integer id = .ok id

/-- The symbols whose events are votes on treasury proposals, with the field that names the proposal. -/
def treasuryBallots : EventSymbol → Option String
  | .tre_vote => some "id"
  | .revealed => some "proposal_id"
  | _ => none

theorem treasuryBallots_handler {symbol : EventSymbol} {field : String} (h : treasuryBallots symbol = some field) :
    handlers symbol = some (treasuryVote field) := by
  cases symbol <;> cases h <;> rfl

theorem treasuryBallots_entities {symbol : EventSymbol} {field : String} (h : treasuryBallots symbol = some field)
    (ev : DecodedEvent) : symbolEntities ev symbol = treasuryNamed ev field := by
  cases symbol <;> cases h <;> rfl

theorem Ballot.loan_vote {ev : DecodedEvent} (hs : EventSymbol.ofSymbol? ev.symbol = some .loan_vote) {id : Int}
    {support : Bool} {weight : Amount} (h : Ballot ev "proposal_id" id support weight) :
    Updates ev loan_proposals id (LoanProposalRow.cast support weight.value) := by
  intro t t'
  have hrun : OurDao.loan_vote ev =
      (Sql.update loan_proposals id (LoanProposalRow.cast support weight.value) >>= fun _ => pure ()) := by
    simp only [OurDao.loan_vote, h.proposal, h.support, h.weight, lift_ok_bind, h.id]
    rfl
  rw [applyEvent_eq_ok hs rfl, hrun, bind_eq_ok]
  constructor
  · rintro ⟨x, t₁, h, he⟩
    cases he
    exact ⟨x, h⟩
  · rintro ⟨x, h⟩
    exact ⟨x, t', h, rfl⟩

theorem ballot_of_loan_vote {ev : DecodedEvent} {t t' : Tables} (h : loan_vote ev t = .ok ((), t')) :
    ∃ id support weight, Ballot ev "proposal_id" id support weight := by
  simp only [loan_vote, lift_bind_eq_ok] at h
  obtain ⟨id, hid, support, hsupport, weight, hweight, id', hid', -⟩ := h
  obtain rfl := integer_eq_ok hid'
  exact ⟨_, _, _, hid, hsupport, hweight, hid'⟩

theorem Ballot.treasuryVote {ev : DecodedEvent} {symbol : EventSymbol} {field : String}
    (hs : EventSymbol.ofSymbol? ev.symbol = some symbol) (hfield : treasuryBallots symbol = some field) {id : Int}
    {support : Bool} {weight : Amount} (h : Ballot ev field id support weight) :
    Updates ev treasury_proposals id (TreasuryProposalRow.cast support weight.value) := by
  intro t t'
  have hrun : OurDao.treasuryVote field ev =
      (Sql.update treasury_proposals id (TreasuryProposalRow.cast support weight.value) >>= fun _ => pure ()) := by
    simp only [OurDao.treasuryVote, h.proposal, h.support, h.weight, lift_ok_bind, h.id]
    rfl
  rw [applyEvent_eq_ok hs (treasuryBallots_handler hfield), hrun, bind_eq_ok]
  constructor
  · rintro ⟨x, t₁, h, he⟩
    cases he
    exact ⟨x, h⟩
  · rintro ⟨x, h⟩
    exact ⟨x, t', h, rfl⟩

theorem ballot_of_treasuryVote {ev : DecodedEvent} {field : String} {t t' : Tables}
    (h : treasuryVote field ev t = .ok ((), t')) : ∃ id support weight, Ballot ev field id support weight := by
  simp only [treasuryVote, lift_bind_eq_ok] at h
  obtain ⟨id, hid, support, hsupport, weight, hweight, id', hid', -⟩ := h
  obtain rfl := integer_eq_ok hid'
  exact ⟨_, _, _, hid, hsupport, hweight, hid'⟩

/-- Where the event can be applied, it casts one ballot on a row of the table and names nothing else. -/
def Casts {ν : Type} (ev : DecodedEvent) (r : Relation Int ν) (cast : Bool → Nat → ν → Except String ν)
    (entity : Int → Entity) : Prop :=
  ∀ t t', (∃ channels, applyEvent ev t = .ok (channels, t')) → ∃ id support weight,
    Updates ev r id (cast support weight) ∧ keys ev = {.event ev.id, entity id}

/-- Two ballots, on the same proposal or not. -/
theorem exchangeable_of_casts {ν : Type} {a b : DecodedEvent} {r : Relation Int ν}
    {cast : Bool → Nat → ν → Except String ν} {entity : Int → Entity} (ha : Casts a r cast entity)
    (hb : Casts b r cast entity) (hne : a.id ≠ b.id) (hr : r.Lawful) (hinj : Function.Injective entity)
    (hevent : ∀ id ev, entity id ≠ .event ev)
    (hcomm : ∀ support support' weight weight' row row₁ row₂, cast support weight row = .ok row₁ →
      cast support' weight' row₁ = .ok row₂ →
      ∃ row', cast support' weight' row = .ok row' ∧ cast support weight row' = .ok row₂) : Exchangeable a b := by
  intro s s' hfit hs
  obtain ⟨c, s₁, c', h₁, h₂⟩ := foldlM_pair_ok.mp hs
  obtain ⟨id, support, weight, hupdates, hkeys⟩ := ha s s₁ ⟨c, h₁⟩
  obtain ⟨id', support', weight', hupdates', hkeys'⟩ := hb s₁ s' ⟨c', h₂⟩
  by_cases hid : id = id'
  · subst hid
    exact exchangeable_of_updates hr hupdates hupdates' (fun _ _ _ h h' => hcomm _ _ _ _ _ _ _ h h') s s' hfit hs
  · have hdisjoint : Disjoint (keys a) (keys b) := by
      rw [hkeys, hkeys']
      simp [hne.symm, hinj.ne (Ne.symm hid), hevent, Ne.symm (hevent _ _)]
    exact exchangeable_of_disjoint hdisjoint s s' hfit hs

theorem casts_of_loan_vote {ev : DecodedEvent} (hs : EventSymbol.ofSymbol? ev.symbol = some .loan_vote) :
    Casts ev loan_proposals LoanProposalRow.cast .loan := by
  intro t t' h
  obtain ⟨id, support, weight, hballot⟩ := ballot_of_loan_vote ((applyEvent_eq_ok hs rfl).mp h)
  refine ⟨id, support, weight.value, hballot.loan_vote hs, ?_⟩
  ext e
  simp [keys, entities, hs, symbolEntities, loanNamed, hballot.proposal]

theorem casts_of_treasury_vote {ev : DecodedEvent} {symbol : EventSymbol} {field : String}
    (hs : EventSymbol.ofSymbol? ev.symbol = some symbol) (hfield : treasuryBallots symbol = some field) :
    Casts ev treasury_proposals TreasuryProposalRow.cast .treasury := by
  intro t t' h
  obtain ⟨id, support, weight, hballot⟩ := ballot_of_treasuryVote
    ((applyEvent_eq_ok hs (treasuryBallots_handler hfield)).mp h)
  refine ⟨id, support, weight.value, hballot.treasuryVote hs hfield, ?_⟩
  ext e
  simp [keys, entities, hs, treasuryBallots_entities hfield, treasuryNamed, hballot.proposal]

theorem loan_proposals_lawful : loan_proposals.Lawful := ⟨fun _ _ => rfl, fun _ _ _ => rfl⟩

theorem treasury_proposals_lawful : treasury_proposals.Lawful := ⟨fun _ _ => rfl, fun _ _ _ => rfl⟩

/-- Two votes on loan proposals, the same one or not. -/
theorem exchangeable_of_loan_votes {a b : DecodedEvent} (hne : a.id ≠ b.id)
    (ha : EventSymbol.ofSymbol? a.symbol = some .loan_vote)
    (hb : EventSymbol.ofSymbol? b.symbol = some .loan_vote) : Exchangeable a b := by
  refine exchangeable_of_casts (casts_of_loan_vote ha) (casts_of_loan_vote hb) hne loan_proposals_lawful ?_ ?_ ?_
  · exact fun _ _ h => Entity.loan.inj h
  · simp
  · exact fun _ _ _ _ _ _ _ h h' => LoanProposalRow.cast_comm h h'

/-- Two votes on treasury proposals, the same one or not, revealed or cast openly. -/
theorem exchangeable_of_treasury_votes {a b : DecodedEvent} (hne : a.id ≠ b.id) {symbol symbol' : EventSymbol}
    {field field' : String} (ha : EventSymbol.ofSymbol? a.symbol = some symbol)
    (hb : EventSymbol.ofSymbol? b.symbol = some symbol') (hfield : treasuryBallots symbol = some field)
    (hfield' : treasuryBallots symbol' = some field') : Exchangeable a b := by
  refine exchangeable_of_casts (casts_of_treasury_vote ha hfield) (casts_of_treasury_vote hb hfield') hne
    treasury_proposals_lawful ?_ ?_ ?_
  · exact fun _ _ h => Entity.treasury.inj h
  · simp
  · exact fun _ _ _ _ _ _ _ h h' => TreasuryProposalRow.cast_comm h h'

end OurDao
