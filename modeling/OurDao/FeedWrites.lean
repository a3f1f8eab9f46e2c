import OurDao.Books
import OurDao.Leaves

/-!
# What an event writes to the listed tables

Loans are written in place by three kinds of event. Interest distributions and documents
only grow, each by one kind of event, and a row keeps the ledger of its event.
-/

namespace OurDao

open Sql Faults

/-- A loan that is written, with its borrower and status after that. -/
structure LoanWrite where
  id : Int
  borrower : String
  status : LoanStatus

/-- The loan that the fold of an event writes, if it writes one. -/
def loanWrite (ev : DecodedEvent) (loans : Table Int LoanRow) : Option LoanWrite :=
  match EventSymbol.ofSymbol? ev.symbol with
  | some .loan_appr =>
    match requireId ev "id", requireAddr ev "borrower" with
    | .ok id, .ok borrower => some ⟨id, ((loans.lookup id).map (·.borrower)).getD borrower, .active⟩
    | _, _ => none
  | some .loan_rpy =>
    match requireId ev "loan_id", requireAmount ev "outstanding" with
    | .ok id, .ok outstanding => (loans.lookup id).map fun row =>
        ⟨id, row.borrower, if outstanding.text = "0" then .repaid else .active⟩
    | _, _ => none
  | some .loan_dflt =>
    match requireId ev "loan_id" with
    | .ok id => ((loans.lookup id).filter (·.status ≠ .defaulted)).map fun row => ⟨id, row.borrower, .defaulted⟩
    | .error _ => none
  | _ => none

/-- The document that a `doc_attn` event attaches, whatever its id. -/
structure DocumentRow.Records (row : DocumentRow) (ev : DecodedEvent) : Prop where
  symbol : EventSymbol.ofSymbol? ev.symbol = some .doc_attn
  proposal_id : requireId ev "proposal_id" = .ok row.proposal_id
  caller : requireAddr ev "caller" = .ok row.caller
  kind : requireProposalKind ev "kind" = .ok row.kind
  ledger : row.ledger = ev.ledger

instance : ApartFromMost Tables.loans := ⟨fun _ _ => rfl, fun _ _ => rfl, fun _ _ => rfl, fun _ _ _ => rfl⟩
instance : ApartFromTotals Tables.loans := ⟨fun _ _ => rfl, fun _ _ => rfl⟩
instance : ApartFromMost Tables.interest_distributions :=
  ⟨fun _ _ => rfl, fun _ _ => rfl, fun _ _ => rfl, fun _ _ _ => rfl⟩
instance : ApartFromTotals Tables.interest_distributions := ⟨fun _ _ => rfl, fun _ _ => rfl⟩
instance : Apart Tables.interest_distributions loans := ⟨fun _ _ => rfl⟩
instance : ApartFromMost Tables.documents := ⟨fun _ _ => rfl, fun _ _ => rfl, fun _ _ => rfl, fun _ _ _ => rfl⟩
instance : ApartFromTotals Tables.documents := ⟨fun _ _ => rfl, fun _ _ => rfl⟩
instance : Apart Tables.documents loans := ⟨fun _ _ => rfl⟩

section

variable {ev : DecodedEvent} {t t' : Tables}

theorem interest_keeps {β : Type} {f : Tables → β} [ApartFromTotals f]
    (hf : ∀ i n s, f { s with
      interest_distributions := i
      sequences := { s.sequences with interest_distributions := n } } = f s)
    (h : interest ev t = .ok ((), t')) : f t' = f t := by
  simp only [interest, lift_bind_eq_ok] at h
  obtain ⟨amount, _, active, _, value, _, h⟩ := h
  obtain ⟨inserted, t₁, hinsert, h⟩ := bind_eq_ok.mp h
  have hrest : f t' = f t₁ := by
    split at h
    · exact Leaves.same _ _ _ h
    · cases h
      rfl
  rw [hrest]
  simp only [insertInterest] at hinsert
  split at hinsert <;> cases hinsert
  · exact hf t.interest_distributions _ t
  · exact hf _ _ t

theorem doc_attn_keeps {β : Type} {f : Tables → β}
    (hf : ∀ d n s, f { s with documents := d, sequences := { s.sequences with documents := n } } = f s)
    (h : doc_attn ev t = .ok ((), t')) : f t' = f t := by
  simp only [doc_attn, lift_bind_eq_ok] at h
  obtain ⟨proposalId, _, caller, _, kind, _, proposal_id, _, h⟩ := h
  cases h
  dsimp only
  split
  · exact hf t.documents _ t
  · exact hf _ _ t

theorem doc_attn_documents (hs : EventSymbol.ofSymbol? ev.symbol = some .doc_attn)
    (h : doc_attn ev t = .ok ((), t')) : t'.documents = t.documents ∨
      ∃ row : DocumentRow, row.Records ev ∧ t.documents.lookup ev.id = none ∧
        t'.documents = t.documents.insert ev.id row := by
  simp only [doc_attn, lift_bind_eq_ok] at h
  obtain ⟨proposalId, hid, caller, hcaller, kind, hkind, proposal_id, hint, h⟩ := h
  obtain rfl := integer_eq_ok hint
  cases h
  dsimp only
  split
  next => exact .inl rfl
  next hnew => exact .inr ⟨_, ⟨hs, hid, hcaller, hkind, rfl⟩, by simpa using hnew, rfl⟩

theorem interest_interest (h : interest ev t = .ok ((), t')) :
    t'.interest_distributions = t.interest_distributions ∨
      ∃ row : InterestRow, row.ledger = ev.ledger ∧ t.interest_distributions.lookup ev.id = none ∧
        t'.interest_distributions = t.interest_distributions.insert ev.id row := by
  simp only [interest, lift_bind_eq_ok] at h
  obtain ⟨amount, _, active, _, value, _, h⟩ := h
  obtain ⟨inserted, t₁, hinsert, h⟩ := bind_eq_ok.mp h
  simp only [insertInterest] at hinsert
  split at hinsert
  next =>
    cases hinsert
    cases h
    exact .inl rfl
  next hnew =>
    cases hinsert
    obtain rfl := addTotals_eq_ok h
    exact .inr ⟨_, rfl, by simpa using hnew, rfl⟩

/-- The loans after an event: as they were, or with one row written. -/
def LoansWritten (ev : DecodedEvent) (before after : Table Int LoanRow) : Prop :=
  after = before ∨ ∃ w row, loanWrite ev before = some w ∧ row.borrower = w.borrower ∧ row.status = w.status ∧
    after = before.insert w.id row

theorem loan_appr_loans (hs : EventSymbol.ofSymbol? ev.symbol = some .loan_appr)
    (h : loan_appr ev t = .ok ((), t')) : LoansWritten ev t.loans t'.loans := by
  obtain ⟨id, borrower, amount, due_time, principal, total_repayment, ⟨hid, -, hborrower, -⟩, approved, t₁,
    happroved, -, isNew, t₂, hupsert, t₃, hlent, t₄, hactive, htell⟩ := loan_appr_steps h
  have hb : t₁.loans = t.loans := Leaves.same _ _ _ happroved
  have hlent : t₃.loans = t₂.loans := Leaves.same _ _ _ hlent
  have hactive : t₄.loans = t₃.loans := Leaves.same _ _ _ hactive
  have htell : t'.loans = t₄.loans := Leaves.same _ _ _ htell
  rw [htell, hactive, hlent, ← hb]
  right
  rcases upsert_eq_ok hupsert with ⟨hnew, rfl, rfl⟩ | ⟨old, hold, rfl, rfl⟩
  · change t₁.loans.lookup id = none at hnew
    exact ⟨⟨id, borrower, .active⟩, _, by simp [loanWrite, hs, hid, hborrower, hnew], rfl, rfl, rfl⟩
  · change t₁.loans.lookup id = some old at hold
    exact ⟨⟨id, old.borrower, .active⟩, { old with status := .active, approved_ledger := some ev.ledger },
      by simp [loanWrite, hs, hid, hborrower, hold], rfl, rfl, rfl⟩

theorem loan_rpy_loans (hs : EventSymbol.ofSymbol? ev.symbol = some .loan_rpy)
    (h : loan_rpy ev t = .ok ((), t')) : LoansWritten ev t.loans t'.loans := by
  obtain ⟨id, borrower, outstanding, ⟨hid, -, -, hout⟩, upd, t₁, hupdate, t₂, hfold, t₃, hactive, htell⟩ :=
    loan_rpy_steps h
  have hfold : t₂.loans = t₁.loans := Leaves.same _ _ _ hfold
  have hactive : t₃.loans = t₂.loans := Leaves.same _ _ _ hactive
  have htell : t'.loans = t₃.loans := Leaves.same _ _ _ htell
  rw [htell, hactive, hfold]
  rcases update_afterRepayment hupdate with ⟨-, -, rfl⟩ | ⟨row, hrow, -, rfl⟩
  · exact .inl rfl
  · refine .inr ⟨⟨id, row.borrower, if outstanding.text = "0" then .repaid else .active⟩,
      row.afterRepayment ev outstanding, ?_, rfl, rfl, rfl⟩
    simp [loanWrite, hs, hid, hout, hrow]

theorem loan_dflt_loans (hs : EventSymbol.ofSymbol? ev.symbol = some .loan_dflt)
    (h : loan_dflt ev t = .ok ((), t')) : LoansWritten ev t.loans t'.loans := by
  obtain ⟨id, borrower, penalty, ⟨hid, -⟩, ⟨-, rfl⟩ | ⟨row, hrow, hstatus, t₁, rfl, t₂, htotals, t₃, hdaily, x, t₄,
    hmember, htell⟩⟩ := loan_dflt_steps h
  · exact .inl rfl
  · have htotals : t₂.loans = _ := Leaves.same _ _ _ htotals
    have hdaily : t₃.loans = t₂.loans := Leaves.same _ _ _ hdaily
    have hmember : t₄.loans = t₃.loans := Leaves.same _ _ _ hmember
    have htell : t'.loans = t₄.loans := Leaves.same _ _ _ htell
    rw [htell, hmember, hdaily, htotals]
    refine .inr ⟨⟨id, row.borrower, .defaulted⟩,
      { row with status := .defaulted, defaulted_ledger := some ev.ledger }, ?_, rfl, rfl, rfl⟩
    simp [loanWrite, hs, hid, hrow, hstatus]

variable {channels : List StreamChannel}

theorem applyEvent_loans (h : applyEvent ev t = .ok (channels, t')) : LoansWritten ev t.loans t'.loans := by
  rcases applyEvent_handler h with ⟨-, rfl⟩ | ⟨s, handler, hs, hh, h⟩
  · exact .inl rfl
  by_cases happr : s = .loan_appr
  · subst happr; cases hh; exact loan_appr_loans hs h
  by_cases hrpy : s = .loan_rpy
  · subst hrpy; cases hh; exact loan_rpy_loans hs h
  by_cases hdflt : s = .loan_dflt
  · subst hdflt; cases hh; exact loan_dflt_loans hs h
  left
  by_cases hint : s = .interest
  · subst hint; cases hh; exact interest_keeps (fun _ _ _ => rfl) h
  by_cases hdoc : s = .doc_attn
  · subst hdoc; cases hh; exact doc_attn_keeps (fun _ _ _ => rfl) h
  have hleft : Leaves Tables.loans (handler ev) := Leaves.handlers ev hh happr hrpy hdflt hint hdoc
  exact hleft.same _ _ _ h

theorem applyEvent_interest (h : applyEvent ev t = .ok (channels, t')) :
    t'.interest_distributions = t.interest_distributions ∨
      EventSymbol.ofSymbol? ev.symbol = some .interest ∧
        ∃ row : InterestRow, row.ledger = ev.ledger ∧ t.interest_distributions.lookup ev.id = none ∧
          t'.interest_distributions = t.interest_distributions.insert ev.id row := by
  rcases applyEvent_handler h with ⟨-, rfl⟩ | ⟨s, handler, hs, hh, h⟩
  · exact .inl rfl
  by_cases hint : s = .interest
  · subst hint
    cases hh
    exact (interest_interest h).imp_right fun hrow => ⟨hs, hrow⟩
  left
  by_cases hdoc : s = .doc_attn
  · subst hdoc; cases hh; exact doc_attn_keeps (fun _ _ _ => rfl) h
  have hleft : Leaves Tables.interest_distributions (handler ev) := Leaves.otherHandlers ev hh hint hdoc
  exact hleft.same _ _ _ h

theorem applyEvent_documents (h : applyEvent ev t = .ok (channels, t')) : t'.documents = t.documents ∨
    ∃ row : DocumentRow, row.Records ev ∧ t.documents.lookup ev.id = none ∧
      t'.documents = t.documents.insert ev.id row := by
  rcases applyEvent_handler h with ⟨-, rfl⟩ | ⟨s, handler, hs, hh, h⟩
  · exact .inl rfl
  by_cases hdoc : s = .doc_attn
  · subst hdoc; cases hh; exact doc_attn_documents hs h
  left
  by_cases hint : s = .interest
  · subst hint; cases hh; exact interest_keeps (fun _ _ _ => rfl) h
  have hleft : Leaves Tables.documents (handler ev) := Leaves.otherHandlers ev hh hint hdoc
  exact hleft.same _ _ _ h

end

end OurDao
