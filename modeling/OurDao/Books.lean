import OurDao.Effects
import OurDao.Leaves

/-!
# The loan book

The running totals are kept by four of the handlers, next to the rows they are totals
of. `applyEvent_booking` says once what an event can do to these tables; that the totals
are the sums of the rows follows entry by entry.
-/

namespace OurDao

open Sql Faults

/-- The tables the running totals are about. -/
structure Books where
  loans : Table Int LoanRow
  interest_distributions : Table String InterestRow
  daily_loan_stats : Table Int DailyLoanStats
  dao_totals : DaoTotals

def Tables.books (t : Tables) : Books :=
  ⟨t.loans, t.interest_distributions, t.daily_loan_stats, t.dao_totals⟩

namespace Books

def setLoan (b : Books) (id : Int) (row : LoanRow) : Books := { b with loans := b.loans.insert id row }

def addTotals (b : Books) (delta : DaoTotals) : Books := { b with dao_totals := b.dao_totals.add delta }

def addDaily (b : Books) (day : Int) (delta : DailyLoanStats) : Books :=
  { b with daily_loan_stats :=
      b.daily_loan_stats.insert day (((b.daily_loan_stats.lookup day).getD {}).add delta) }

def addInterest (b : Books) (eventId : String) (row : InterestRow) : Books :=
  { b with interest_distributions := b.interest_distributions.insert eventId row }

end Books

/-- Whatever `m` does, the books stay as they were. -/
class OffBooks {α : Type} (m : Sql α) : Prop where
  same : ∀ t a t', m t = .ok (a, t') → t'.books = t.books

namespace OffBooks

variable {α κ ν : Type} [DecidableEq κ]

/-- A table that is none of the books. -/
class Side (r : Relation κ ν) : Prop where
  same : ∀ t s, (r.set t s).books = s.books

instance : Side members := ⟨fun _ _ => rfl⟩
instance : Side loan_proposals := ⟨fun _ _ => rfl⟩
instance : Side treasury_proposals := ⟨fun _ _ => rfl⟩

instance : ApartFromMost Tables.books where
  members := Side.same
  loan_proposals := Side.same
  treasury_proposals := Side.same
  notifications _ _ _ := rfl

instance (m : Sql α) [h : Leaves Tables.books m] : OffBooks m := ⟨h.same⟩

instance (eventId : String) (row : Nat → DocumentRow) : Leaves Tables.books (insertDocument eventId row) where
  same t a t' h := by
    cases h
    dsimp only
    split <;> rfl

variable (ev : DecodedEvent)

instance : Leaves Tables.books (doc_attn ev) := by rw [doc_attn]; infer_instance

/-- Every handler but the four that keep the books. -/
theorem handlers {s : EventSymbol} {handler : DecodedEvent → Sql Unit} (hh : OurDao.handlers s = some handler)
    (happr : s ≠ .loan_appr) (hrpy : s ≠ .loan_rpy) (hdflt : s ≠ .loan_dflt) (hint : s ≠ .interest) :
    OffBooks (handler ev) := by
  by_cases hdoc : s = .doc_attn
  · subst hdoc
    cases hh
    infer_instance
  · have hleft : Leaves Tables.books (handler ev) := Leaves.handlers ev hh happr hrpy hdflt hint hdoc
    infer_instance

end OffBooks

section

variable {α β κ ν : Type} [DecidableEq κ] {t t' : Tables}

theorem lift_bind_eq_ok {x : Except String α} {f : α → Sql β} {b : β} :
    (lift x >>= f) t = .ok (b, t') ↔ ∃ a, x = .ok a ∧ f a t = .ok (b, t') := by
  cases x with
  | error m => simp [lift]
  | ok a =>
    rw [bind_of_ok (show lift (.ok a) t = .ok (a, t) from rfl)]
    simp

theorem select_bind_eq_ok {r : Relation κ ν} {k : κ} {f : Option ν → Sql β} {b : β} :
    (select r k >>= f) t = .ok (b, t') ↔ f ((r.get t).lookup k) t = .ok (b, t') := by
  rw [bind_of_ok (show select r k t = .ok ((r.get t).lookup k, t) from rfl)]

theorem upsert_eq_ok {r : Relation κ ν} {k : κ} {row : ν} {f : ν → ν} {isNew : Bool}
    (h : upsert r k row f t = .ok (isNew, t')) :
    ((r.get t).lookup k = none ∧ isNew = true ∧ t' = r.set ((r.get t).insert k row) t) ∨
      ∃ old, (r.get t).lookup k = some old ∧ isNew = false ∧
        t' = r.set ((r.get t).insert k (f old)) t := by
  rw [upsert, select_bind_eq_ok] at h
  rcases hold : (r.get t).lookup k with _ | old <;> rw [hold] at h <;> cases h
  · exact .inl ⟨rfl, rfl, rfl⟩
  · exact .inr ⟨old, rfl, rfl, rfl⟩

theorem updateWhere_eq_ok {r : Relation κ ν} {k : κ} {p : ν → Bool} {f : ν → Except String ν}
    {updated : Option ν} (h : updateWhere r k p f t = .ok (updated, t')) :
    (updated = none ∧ t' = t ∧ ∀ row, (r.get t).lookup k = some row → p row = false) ∨
      ∃ row row', (r.get t).lookup k = some row ∧ p row = true ∧ f row = .ok row' ∧
        updated = some row' ∧ t' = r.set ((r.get t).insert k row') t := by
  rw [updateWhere, select_bind_eq_ok] at h
  rcases hrow : (r.get t).lookup k with _ | row <;> rw [hrow] at h
  · cases h
    exact .inl ⟨rfl, rfl, fun _ h => by cases h⟩
  · rcases hp : p row with _ | _
    · simp only [hp, Bool.false_eq_true, if_false] at h
      cases h
      exact .inl ⟨rfl, rfl, fun _ h => by cases h; exact hp⟩
    · simp only [hp, if_true, lift_bind_eq_ok] at h
      obtain ⟨row', hf, h⟩ := h
      cases h
      exact .inr ⟨row, row', rfl, hp, hf, rfl, rfl⟩

theorem addTotals_eq_ok {delta : DaoTotals} {u : Unit} (h : addTotals delta t = .ok (u, t')) :
    t' = { t with dao_totals := t.dao_totals.add delta } := by
  rw [addTotals] at h
  split at h <;> cases h
  rfl

theorem addDaily_eq_ok {day : Int} {delta : DailyLoanStats} {u : Unit}
    (h : addDaily day delta t = .ok (u, t')) :
    t' = { t with daily_loan_stats := t.daily_loan_stats.insert day (dailyAfter t day delta) } := by
  rw [addDaily] at h
  split at h <;> cases h
  rfl

end

section

variable {ev : DecodedEvent} {t t' : Tables}

/-- An approval marks its proposal, writes the loan, counts it if it is new, and marks and tells the borrower. -/
theorem loan_appr_steps (h : loan_appr ev t = .ok ((), t')) :
    ∃ id borrower amount due_time principal total_repayment,
      (requireId ev "id" = .ok id ∧ integer id = .ok id ∧ requireAddr ev "borrower" = .ok borrower ∧
        requireAmount ev "amount" = .ok amount ∧ dueTimeOf (ev.field "due_time") = .ok due_time ∧
        numeric amount.value = .ok principal) ∧
      ∃ approved t₁, update loan_proposals id (fun row => .ok { row with status := .approved }) t =
          .ok (approved, t₁) ∧
        numeric (((t₁.loan_proposals.lookup id).map (·.total_repayment)).getD amount.value) = .ok total_repayment ∧
      ∃ isNew t₂, upsert loans id
          { borrower, amount := principal, total_repayment, outstanding := total_repayment,
            approved_ledger := some ev.ledger, due_time }
          (fun row => { row with status := .active, approved_ledger := some ev.ledger }) t₁ = .ok (isNew, t₂) ∧
      ∃ t₃, (if isNew then do
            addTotals { principal_lent := principal }
            incrementDailyLoanStats ev { loans_originated := 1, principal_lent := principal }
          else pure () : Sql Unit) t₂ = .ok ((), t₃) ∧
      ∃ t₄, setActiveLoan borrower true t₃ = .ok ((), t₄) ∧
        notify ev borrower .success "Loan approved" s!"Loan #{id} of {amount.text} was approved." t₄ =
          .ok ((), t') := by
  simp only [loan_appr, lift_bind_eq_ok] at h
  obtain ⟨id, hid, borrower, hborrower, amount, hamount, id, hint, h⟩ := h
  obtain rfl := integer_eq_ok hint
  obtain ⟨approved, t₁, happroved, h⟩ := bind_eq_ok.mp h
  simp only [select_bind_eq_ok, lift_bind_eq_ok] at h
  obtain ⟨due_time, hdue, principal, hprincipal, total_repayment, htotal, h⟩ := h
  obtain ⟨isNew, t₂, hupsert, h⟩ := bind_eq_ok.mp h
  refine ⟨id, borrower, amount, due_time, principal, total_repayment,
    ⟨hid, hint, hborrower, hamount, hdue, hprincipal⟩, approved, t₁, happroved, htotal, isNew, t₂, hupsert, ?_⟩
  cases isNew with
  | false =>
    obtain ⟨_, t₄, hactive, htell⟩ := bind_eq_ok.mp h
    exact ⟨t₂, rfl, t₄, hactive, htell⟩
  | true =>
    obtain ⟨_, s, htotals, h⟩ := bind_eq_ok.mp h
    obtain ⟨_, t₃, hdaily, h⟩ := bind_eq_ok.mp h
    obtain ⟨_, t₄, hactive, htell⟩ := bind_eq_ok.mp h
    exact ⟨t₃, bind_eq_ok.mpr ⟨(), s, htotals, hdaily⟩, t₄, hactive, htell⟩

/-- A repayment rewrites its loan, counts the principal it clears, and marks and tells the borrower. -/
theorem loan_rpy_steps (h : loan_rpy ev t = .ok ((), t')) :
    ∃ id borrower outstanding,
      (requireId ev "loan_id" = .ok id ∧ integer id = .ok id ∧ requireAddr ev "borrower" = .ok borrower ∧
        requireAmount ev "outstanding" = .ok outstanding) ∧
      ∃ upd t₁, update loans id (fun row => do
            return { row with outstanding := ← numeric outstanding.value,
                              status := if decide (outstanding.text = "0") then .repaid else .active,
                              repaid_ledger := if decide (outstanding.text = "0") then some ev.ledger
                                else row.repaid_ledger }) t = .ok (upd, t₁) ∧
      ∃ t₂, foldPrincipalRepaid ev (outstanding.text = "0") (t.loans.lookup id) upd t₁ = .ok ((), t₂) ∧
      ∃ t₃, (if outstanding.text = "0" then setActiveLoan borrower false else pure () : Sql Unit) t₂ =
          .ok ((), t₃) ∧
        notify ev borrower (if outstanding.text = "0" then .success else .info) "Loan repayment"
          (if outstanding.text = "0" then s!"Loan #{id} is fully repaid."
            else s!"Repayment received; {outstanding.text} remaining.") t₃ = .ok ((), t') := by
  simp only [loan_rpy, lift_bind_eq_ok, select_bind_eq_ok] at h
  obtain ⟨id, hid, borrower, hborrower, outstanding, hout, id, hint, h⟩ := h
  obtain rfl := integer_eq_ok hint
  obtain ⟨upd, t₁, hupdate, h⟩ := bind_eq_ok.mp h
  obtain ⟨_, t₂, hfold, h⟩ := bind_eq_ok.mp h
  refine ⟨id, borrower, outstanding, ⟨hid, hint, hborrower, hout⟩, upd, t₁, hupdate, t₂, hfold, ?_⟩
  by_cases hrepaid : outstanding.text = "0"
  · simp only [hrepaid, decide_true, if_true] at h ⊢
    obtain ⟨_, t₃, hactive, htell⟩ := bind_eq_ok.mp h
    exact ⟨t₃, hactive, htell⟩
  · simp only [hrepaid, decide_false, Bool.false_eq_true, if_false] at h ⊢
    exact ⟨t₂, rfl, h⟩

/-- A default of a loan that is none yet, or of no loan, changes nothing; another is counted, and the borrower
pays for it and is told. -/
theorem loan_dflt_steps (h : loan_dflt ev t = .ok ((), t')) :
    ∃ id borrower penalty,
      (requireId ev "loan_id" = .ok id ∧ integer id = .ok id ∧ requireAddr ev "borrower" = .ok borrower ∧
        requireAmount ev "penalty" = .ok penalty) ∧
      ((∀ row, t.loans.lookup id = some row → row.status = .defaulted) ∧ t' = t ∨
      ∃ row, t.loans.lookup id = some row ∧ row.status ≠ .defaulted ∧
      ∃ t₁, t₁ = loans.set
          (t.loans.insert id { row with status := .defaulted, defaulted_ledger := some ev.ledger }) t ∧
      ∃ t₂, addTotals { value_defaulted := row.outstanding } t₁ = .ok ((), t₂) ∧
      ∃ t₃, incrementDailyLoanStats ev { defaults_count := 1, value_defaulted := row.outstanding } t₂ =
          .ok ((), t₃) ∧
      ∃ x t₄, update members borrower (fun row => do
            return { row with contribution := row.contribution - penalty.value, has_active_loan := false,
                              defaults_count := ← integer (row.defaults_count + 1) }) t₃ = .ok (x, t₄) ∧
        notify ev borrower .error "Loan defaulted"
          s!"Loan #{id} was marked defaulted; a penalty of {penalty.text} was applied to your contribution." t₄ =
            .ok ((), t')) := by
  simp only [loan_dflt, lift_bind_eq_ok] at h
  obtain ⟨id, hid, borrower, hborrower, penalty, hpenalty, id, hint, h⟩ := h
  obtain rfl := integer_eq_ok hint
  obtain ⟨updated, t₁, hupdate, hrest⟩ := bind_eq_ok.mp h
  refine ⟨id, borrower, penalty, ⟨hid, hint, hborrower, hpenalty⟩, ?_⟩
  obtain ⟨rfl, rfl, hnone⟩ | ⟨row, row', hrow, hp, hrow', rfl, rfl⟩ := updateWhere_eq_ok hupdate
  · cases hrest
    exact .inl ⟨fun row hrow => by simpa using hnone row hrow, rfl⟩
  · cases hrow'
    obtain ⟨_, t₂, htotals, hrest⟩ := bind_eq_ok.mp hrest
    obtain ⟨_, t₃, hdaily, hrest⟩ := bind_eq_ok.mp hrest
    obtain ⟨x, t₄, hmember, htell⟩ := bind_eq_ok.mp hrest
    exact .inr ⟨row, hrow, by simpa using hp, _, rfl, t₂, htotals, t₃, hdaily, x, t₄, hmember, htell⟩

end

/-- A loan counted as closed. -/
inductive Closing where
  | repaid (loan : Int)
  | defaulted (loan : Int)
  deriving DecidableEq, Repr

/-- The loan that the fold of an event counts as repaid or defaulted, if it counts one. -/
def closing (ev : DecodedEvent) (loans : Table Int LoanRow) : Option Closing :=
  match EventSymbol.ofSymbol? ev.symbol with
  | some .loan_rpy =>
    match requireId ev "loan_id", requireAmount ev "outstanding" with
    | .ok id, .ok outstanding =>
      if outstanding.text = "0" ∧ (loans.lookup id).any (·.status ≠ .repaid) then some (.repaid id) else none
    | _, _ => none
  | some .loan_dflt =>
    match requireId ev "loan_id" with
    | .ok id => if (loans.lookup id).any (·.status ≠ .defaulted) then some (.defaulted id) else none
    | .error _ => none
  | _ => none

/-- A loan after a repayment that leaves `outstanding`. -/
def LoanRow.afterRepayment (row : LoanRow) (ev : DecodedEvent) (outstanding : Amount) : LoanRow :=
  { row with outstanding := outstanding.value,
             status := if outstanding.text = "0" then .repaid else .active,
             repaid_ledger := if outstanding.text = "0" then some ev.ledger else row.repaid_ledger }

/-- Everything the fold of one event can do to the books. -/
inductive Booking (ev : DecodedEvent) (b : Books) : Books → Prop
  | kept (hc : closing ev b.loans = none) : Booking ev b b
  | lent {id : Int} {row : LoanRow} (hc : closing ev b.loans = none) (hnew : b.loans.lookup id = none)
      (hactive : row.status = .active) (hrepaid : row.repaid_ledger = none)
      (hdefaulted : row.defaulted_ledger = none) :
      Booking ev b (((b.setLoan id row).addTotals { principal_lent := row.amount }).addDaily (dayOf ev)
        { loans_originated := 1, principal_lent := row.amount })
  | reapproved {id : Int} {row : LoanRow} (hc : closing ev b.loans = none)
      (hrow : b.loans.lookup id = some row) :
      Booking ev b (b.setLoan id { row with status := .active, approved_ledger := some ev.ledger })
  | repayment {id : Int} {row : LoanRow} {outstanding : Amount} (hc : closing ev b.loans = none)
      (hrow : b.loans.lookup id = some row) (hpaid : outstanding.text = "0" → row.status = .repaid) :
      Booking ev b (b.setLoan id (row.afterRepayment ev outstanding))
  | cleared {id : Int} {row : LoanRow} {outstanding : Amount} (hc : closing ev b.loans = some (.repaid id))
      (hrow : b.loans.lookup id = some row) (hpaid : outstanding.text = "0") :
      Booking ev b (((b.setLoan id (row.afterRepayment ev outstanding)).addTotals
        { principal_repaid := row.amount }).addDaily (dayOf ev) { principal_repaid := row.amount })
  | defaulted {id : Int} {row : LoanRow} (hc : closing ev b.loans = some (.defaulted id))
      (hrow : b.loans.lookup id = some row) :
      Booking ev b (((b.setLoan id { row with status := .defaulted, defaulted_ledger := some ev.ledger }).addTotals
        { value_defaulted := row.outstanding }).addDaily (dayOf ev)
        { defaults_count := 1, value_defaulted := row.outstanding })
  | earned {row : InterestRow} (hc : closing ev b.loans = none)
      (hnew : b.interest_distributions.lookup ev.id = none) :
      Booking ev b ((b.addInterest ev.id row).addTotals { interest_collected := row.amount })

section

variable {ev : DecodedEvent} {t t' : Tables} {u : Unit}

theorem loan_appr_booking (hs : EventSymbol.ofSymbol? ev.symbol = some .loan_appr)
    (h : loan_appr ev t = .ok (u, t')) : Booking ev t.books t'.books := by
  have hc : closing ev t.books.loans = none := by simp [closing, hs]
  obtain ⟨id, borrower, amount, due_time, principal, total_repayment, -, approved, t₁, happroved, -, isNew, t₂,
    hupsert, t₃, hlent, t₄, hactive, htell⟩ := loan_appr_steps h
  have hb : t₁.books = t.books := OffBooks.same _ _ _ happroved
  have hrest : t'.books = t₃.books := (OffBooks.same _ _ _ htell).trans (OffBooks.same _ _ _ hactive)
  rw [← hb] at hc ⊢
  rw [hrest]
  rcases upsert_eq_ok hupsert with ⟨hnew, rfl, rfl⟩ | ⟨old, hold, rfl, rfl⟩
  · obtain ⟨_, s, htotals, hdaily⟩ := bind_eq_ok.mp hlent
    obtain rfl := addTotals_eq_ok htotals
    obtain rfl := addDaily_eq_ok hdaily
    exact .lent hc hnew rfl rfl rfl
  · cases hlent
    exact .reapproved hc hold

/-- The rewrite of `loan_rpy`, where the amount fits its column. -/
theorem eq_afterRepayment {row row' : LoanRow} {outstanding : Amount}
    (h : (do
      return { row with
        outstanding := ← numeric outstanding.value
        status := if decide (outstanding.text = "0") then LoanStatus.repaid else .active
        repaid_ledger := if decide (outstanding.text = "0") then some ev.ledger else row.repaid_ledger } :
          Except String LoanRow) = .ok row') : row' = row.afterRepayment ev outstanding := by
  simp only [numeric, LoanRow.afterRepayment] at h ⊢
  split at h <;> cases h
  simp

/-- The loan that a repayment rewrites, if there is one. -/
theorem update_afterRepayment {id : Int} {outstanding : Amount} {upd : Option LoanRow}
    (h : update loans id (fun row => do
      return { row with
        outstanding := ← numeric outstanding.value
        status := if decide (outstanding.text = "0") then LoanStatus.repaid else .active
        repaid_ledger := if decide (outstanding.text = "0") then some ev.ledger else row.repaid_ledger }) t =
          .ok (upd, t')) :
    (t.loans.lookup id = none ∧ upd = none ∧ t' = t) ∨
      ∃ row, t.loans.lookup id = some row ∧ upd = some (row.afterRepayment ev outstanding) ∧
        t' = loans.set (t.loans.insert id (row.afterRepayment ev outstanding)) t := by
  rcases updateWhere_eq_ok h with ⟨rfl, rfl, hnone⟩ | ⟨row, row', hrow, -, hrow', rfl, rfl⟩
  · refine .inl ⟨?_, rfl, rfl⟩
    rcases hl : t'.loans.lookup id with _ | row
    · rfl
    · cases hnone row hl
  · obtain rfl := eq_afterRepayment hrow'
    exact .inr ⟨row, hrow, rfl, rfl⟩

theorem loan_rpy_booking (hs : EventSymbol.ofSymbol? ev.symbol = some .loan_rpy)
    (h : loan_rpy ev t = .ok (u, t')) : Booking ev t.books t'.books := by
  obtain ⟨id, borrower, outstanding, ⟨hid, -, -, hout⟩, upd, t₁, hupdate, t₂, hfold, t₃, hactive, htell⟩ :=
    loan_rpy_steps h
  have hrest : t'.books = t₂.books := (OffBooks.same _ _ _ htell).trans (OffBooks.same _ _ _ hactive)
  rw [hrest]
  rcases update_afterRepayment hupdate with ⟨hnone, rfl, rfl⟩ | ⟨row, hrow, rfl, rfl⟩
  · -- no such loan
    have hc : closing ev t₁.books.loans = none := by simp [closing, hs, hid, hout, Tables.books, hnone]
    rw [hnone] at hfold
    cases hfold
    exact .kept hc
  · simp only [hrow, foldPrincipalRepaid] at hfold
    split at hfold
    next hcounts =>
      have hpaid : outstanding.text = "0" ∧ row.status ≠ .repaid := by simpa using hcounts
      have hc : closing ev t.books.loans = some (.repaid id) := by
        simp [closing, hs, hid, hout, Tables.books, hrow, hpaid]
      obtain ⟨_, t₃, htotals, hdaily⟩ := bind_eq_ok.mp hfold
      obtain rfl := addTotals_eq_ok htotals
      obtain rfl := addDaily_eq_ok hdaily
      exact .cleared hc hrow hpaid.1
    next hcounts =>
      have hpaid : outstanding.text = "0" → row.status = .repaid := by simpa using hcounts
      have hc : closing ev t.books.loans = none := by
        simp only [closing, hs, hid, hout, Tables.books, hrow]
        simp
        exact hpaid
      cases hfold
      exact .repayment hc hrow hpaid

theorem loan_dflt_booking (hs : EventSymbol.ofSymbol? ev.symbol = some .loan_dflt)
    (h : loan_dflt ev t = .ok (u, t')) : Booking ev t.books t'.books := by
  obtain ⟨id, borrower, penalty, ⟨hid, -⟩, ⟨hdefaulted, rfl⟩ | ⟨row, hrow, hstatus, t₁, rfl, t₂, htotals, t₃, hdaily,
    x, t₄, hmember, htell⟩⟩ := loan_dflt_steps h
  · have hc : closing ev t'.books.loans = none := by
      rcases hl : t'.loans.lookup id with _ | row
      · simp [closing, hs, hid, Tables.books, hl]
      · simp [closing, hs, hid, Tables.books, hl, hdefaulted row hl]
    exact .kept hc
  · have hc : closing ev t.books.loans = some (.defaulted id) := by
      simp [closing, hs, hid, Tables.books, hrow, hstatus]
    obtain rfl := addTotals_eq_ok htotals
    obtain rfl := addDaily_eq_ok hdaily
    have hrest : t'.books = _ := (OffBooks.same _ _ _ htell).trans (OffBooks.same _ _ _ hmember)
    rw [hrest]
    exact .defaulted hc hrow

theorem interest_booking (hs : EventSymbol.ofSymbol? ev.symbol = some .interest)
    (h : interest ev t = .ok (u, t')) : Booking ev t.books t'.books := by
  have hc : closing ev t.books.loans = none := by simp [closing, hs]
  simp only [interest, lift_bind_eq_ok] at h
  obtain ⟨amount, _, active, _, value, _, h⟩ := h
  obtain ⟨inserted, t₁, hinsert, h⟩ := bind_eq_ok.mp h
  simp only [insertInterest] at hinsert
  split at hinsert
  next => cases hinsert; cases h; exact .kept hc
  next hnew =>
    cases hinsert
    obtain rfl := addTotals_eq_ok h
    have hnone : t.interest_distributions.lookup ev.id = none := by simpa using hnew
    exact .earned hc hnone

/-- **Every event makes one entry in the books, or none.** -/
theorem applyEvent_booking {channels : List StreamChannel} (h : applyEvent ev t = .ok (channels, t')) :
    Booking ev t.books t'.books := by
  have hother : (∀ s, EventSymbol.ofSymbol? ev.symbol = some s → s ≠ .loan_rpy ∧ s ≠ .loan_dflt) →
      closing ev t.books.loans = none := by
    intro hs
    rw [closing]
    split
    next heq => exact absurd rfl (hs _ heq).1
    next heq => exact absurd rfl (hs _ heq).2
    next => rfl
  rcases applyEvent_handler h with ⟨hnone, rfl⟩ | ⟨s, handler, hs, hh, h⟩
  · refine .kept (hother fun s hs => ?_)
    constructor <;> rintro rfl <;> cases hnone _ hs
  by_cases happr : s = .loan_appr
  · subst happr; cases hh; exact loan_appr_booking hs h
  by_cases hrpy : s = .loan_rpy
  · subst hrpy; cases hh; exact loan_rpy_booking hs h
  by_cases hdflt : s = .loan_dflt
  · subst hdflt; cases hh; exact loan_dflt_booking hs h
  by_cases hint : s = .interest
  · subst hint; cases hh; exact interest_booking hs h
  have hoff : OffBooks (handler ev) := OffBooks.handlers ev hh happr hrpy hdflt hint
  rw [hoff.same t () t' h]
  refine .kept (hother fun s' hs' => ?_)
  rw [hs] at hs'
  cases hs'
  exact ⟨hrpy, hdflt⟩

end

/-- An event offered to the tables: one that its handler refuses is rolled back. -/
def Tables.offer (t : Tables) (ev : DecodedEvent) : Tables :=
  match applyEvent ev t with
  | .ok (_, t') => t'
  | .error _ => t

theorem offer_booking (t : Tables) (ev : DecodedEvent) :
    t.offer ev = t ∨ Booking ev t.books (t.offer ev).books := by
  rw [Tables.offer]
  rcases h : applyEvent ev t with e | ⟨channels, t'⟩
  · exact .inl rfl
  · exact .inr (applyEvent_booking h)

structure Books.Balanced (b : Books) : Prop where
  lent : b.dao_totals.principal_lent = Table.total (·.amount) b.loans
  lent_daily : b.dao_totals.principal_lent = Table.total (·.principal_lent) b.daily_loan_stats
  originated : (Table.rows b.loans).length = Table.total (·.loans_originated) b.daily_loan_stats
  repaid : b.dao_totals.principal_repaid = Table.total (·.principal_repaid) b.daily_loan_stats
  defaulted : b.dao_totals.value_defaulted = Table.total (·.value_defaulted) b.daily_loan_stats
  interest : b.dao_totals.interest_collected = Table.total (·.amount) b.interest_distributions

theorem balanced_empty : Tables.empty.books.Balanced := ⟨rfl, rfl, rfl, rfl, rfl, rfl⟩

/-- What a day gains, its column gains. -/
theorem total_addDaily (f : DailyLoanStats → ℕ) (hadd : ∀ a b, f (a.add b) = f a + f b) (hzero : f {} = 0)
    (days : Table Int DailyLoanStats) (day : Int) (delta : DailyLoanStats) :
    Table.total f (days.insert day (((days.lookup day).getD {}).add delta)) =
      Table.total f days + f delta := by
  rcases hday : days.lookup day with _ | row
  · simp only [Table.total_insert_new f hday, Option.getD_none, hadd, hzero]
    omega
  · have h := Table.total_insert f (v := row.add delta) hday
    simp only [Option.getD_some, hadd] at h ⊢
    omega

theorem columns_addDaily (days : Table Int DailyLoanStats) (day : Int) (delta : DailyLoanStats) :
    let days' := days.insert day (((days.lookup day).getD {}).add delta)
    Table.total (·.principal_lent) days' = Table.total (·.principal_lent) days + delta.principal_lent ∧
      Table.total (·.loans_originated) days' = Table.total (·.loans_originated) days + delta.loans_originated ∧
      Table.total (·.principal_repaid) days' = Table.total (·.principal_repaid) days + delta.principal_repaid ∧
      Table.total (·.value_defaulted) days' = Table.total (·.value_defaulted) days + delta.value_defaulted :=
  ⟨total_addDaily _ (fun _ _ => rfl) rfl days day delta, total_addDaily _ (fun _ _ => rfl) rfl days day delta,
    total_addDaily _ (fun _ _ => rfl) rfl days day delta, total_addDaily _ (fun _ _ => rfl) rfl days day delta⟩

theorem length_setLoan {loans : Table Int LoanRow} {id : Int} {row row' : LoanRow}
    (h : loans.lookup id = some row) :
    (Table.rows (loans.insert id row')).length = (Table.rows loans).length := by
  have h := Table.total_insert (fun _ => 1) (v := row') h
  rw [Table.total_one, Table.total_one] at h
  omega

namespace Books

variable {b : Books} {day : Int} {id : Int} {row row' : LoanRow}

/-- A loan rewritten with the principal it had. -/
theorem Balanced.setLoan (h : b.Balanced) (hrow : b.loans.lookup id = some row)
    (hamount : row'.amount = row.amount) : (b.setLoan id row').Balanced := by
  have htotal : Table.total (·.amount) (b.loans.insert id row') = Table.total (·.amount) b.loans := by
    have h := Table.total_insert (·.amount) (v := row') hrow
    omega
  exact ⟨h.lent.trans htotal.symm, h.lent_daily, (length_setLoan hrow).trans h.originated, h.repaid,
    h.defaulted, h.interest⟩

/-- A closing that is entered alike in the totals and under its day. -/
theorem Balanced.close (h : b.Balanced) (repaid defaulted count : Nat) :
    ((b.addTotals { principal_repaid := repaid, value_defaulted := defaulted }).addDaily day
      { principal_repaid := repaid, defaults_count := count, value_defaulted := defaulted }).Balanced := by
  obtain ⟨hlent, hdays, horiginated, hrepaid, hdefaulted, hinterest⟩ := h
  obtain ⟨hdays', horiginated', hrepaid', hdefaulted'⟩ := columns_addDaily b.daily_loan_stats day
    { principal_repaid := repaid, defaults_count := count, value_defaulted := defaulted }
  dsimp only at hdays' horiginated' hrepaid' hdefaulted'
  constructor <;> simp only [addTotals, addDaily, DaoTotals.add] <;> omega

/-- A new loan, entered in the totals and under its day. -/
theorem Balanced.lend (h : b.Balanced) (hnew : b.loans.lookup id = none) :
    (((b.setLoan id row).addTotals { principal_lent := row.amount }).addDaily day
      { loans_originated := 1, principal_lent := row.amount }).Balanced := by
  obtain ⟨hlent, hdays, horiginated, hrepaid, hdefaulted, hinterest⟩ := h
  have hrows := congrArg List.length (Table.rows_insert_new (v := row) hnew)
  have hamount := Table.total_insert_new (·.amount) (v := row) hnew
  obtain ⟨hdays', horiginated', hrepaid', hdefaulted'⟩ := columns_addDaily b.daily_loan_stats day
    { loans_originated := 1, principal_lent := row.amount }
  dsimp only at hdays' horiginated' hrepaid' hdefaulted'
  rw [List.length_cons] at hrows
  constructor <;> simp only [Books.setLoan, addTotals, addDaily, DaoTotals.add] <;> omega

theorem Balanced.booking {ev : DecodedEvent} {b' : Books} (h : b.Balanced) (hb : Booking ev b b') :
    b'.Balanced := by
  cases hb with
  | kept => exact h
  | lent _ hnew => exact h.lend hnew
  | reapproved _ hrow => exact h.setLoan hrow rfl
  | repayment _ hrow => exact h.setLoan hrow rfl
  | @cleared id row outstanding _ hrow =>
    have hset : (b.setLoan id (row.afterRepayment ev outstanding)).Balanced := h.setLoan hrow rfl
    exact hset.close row.amount 0 0
  | @defaulted id row _ hrow =>
    have hset : (b.setLoan id { row with status := .defaulted, defaulted_ledger := some ev.ledger }).Balanced :=
      h.setLoan hrow rfl
    exact hset.close 0 row.outstanding 1
  | @earned row _ hnew =>
    have htotal := Table.total_insert_new (·.amount) (v := row) hnew
    obtain ⟨hlent, hdays, horiginated, hrepaid, hdefaulted, hinterest⟩ := h
    constructor <;> simp only [addInterest, addTotals, DaoTotals.add] <;> omega

end Books

theorem balanced_fold (evs : List DecodedEvent) {t : Tables} (h : t.books.Balanced) :
    (evs.foldl Tables.offer t).books.Balanced := by
  induction evs generalizing t with
  | nil => exact h
  | cons ev evs ih =>
    refine ih ?_
    rcases offer_booking t ev with heq | hb
    · rw [heq]
      exact h
    · exact h.booking hb

/-- **The totals are conserved**, whatever events come in, in whatever order. -/
theorem totals_conserved (evs : List DecodedEvent) :
    (evs.foldl Tables.offer Tables.empty).books.Balanced := balanced_fold evs balanced_empty

end OurDao
