import OurDao.FeedWrites
import OurDao.MemberCaches
import OurDao.MemberWrites

/-!
# Redelivered events

An event may be folded again after it was folded. Each handler has its own guard against
that: an assignment that is the same twice, a status that a guarded update has left behind,
a conflict on a key. Only the votes and the claims add to what is there.
-/

namespace OurDao

open Sql Faults

namespace Tables

/-- The same rows in every table and the same totals, whatever the sequences have given out. -/
structure SameAs (s t : Tables) : Prop where
  members : ∀ a, s.members.lookup a = t.members.lookup a
  loan_proposals : ∀ id, s.loan_proposals.lookup id = t.loan_proposals.lookup id
  loans : ∀ id, s.loans.lookup id = t.loans.lookup id
  treasury_proposals : ∀ id, s.treasury_proposals.lookup id = t.treasury_proposals.lookup id
  notifications : ∀ key, s.notifications.lookup key = t.notifications.lookup key
  interest_distributions : ∀ id, s.interest_distributions.lookup id = t.interest_distributions.lookup id
  documents : ∀ id, s.documents.lookup id = t.documents.lookup id
  daily_loan_stats : ∀ day, s.daily_loan_stats.lookup day = t.daily_loan_stats.lookup day
  dao_totals : s.dao_totals = t.dao_totals

theorem SameAs.refl (t : Tables) : SameAs t t := by
  constructor <;> intros <;> rfl

theorem SameAs.trans {s t u : Tables} (h : SameAs s t) (h' : SameAs t u) : SameAs s u where
  members a := (h.members a).trans (h'.members a)
  loan_proposals id := (h.loan_proposals id).trans (h'.loan_proposals id)
  loans id := (h.loans id).trans (h'.loans id)
  treasury_proposals id := (h.treasury_proposals id).trans (h'.treasury_proposals id)
  notifications key := (h.notifications key).trans (h'.notifications key)
  interest_distributions id := (h.interest_distributions id).trans (h'.interest_distributions id)
  documents id := (h.documents id).trans (h'.documents id)
  daily_loan_stats day := (h.daily_loan_stats day).trans (h'.daily_loan_stats day)
  dao_totals := h.dao_totals.trans h'.dao_totals

end Tables

open Tables (SameAs)

/-- On tables that are the same as these, `m` returns `a` and leaves every row as it is. -/
def Done {α : Type} (m : Sql α) (a : α) (t : Tables) : Prop :=
  ∀ s, SameAs s t → ∃ s', m s = .ok (a, s') ∧ SameAs s' t

theorem Done.bind {α β : Type} {m : Sql α} {f : α → Sql β} {a : α} {b : β} {t : Tables} (hm : Done m a t)
    (hf : Done (f a) b t) : Done (m >>= f) b t := by
  intro s hs
  obtain ⟨s₁, h₁, hs₁⟩ := hm s hs
  obtain ⟨s₂, h₂, hs₂⟩ := hf s₁ hs₁
  exact ⟨s₂, bind_eq_ok.mpr ⟨a, s₁, h₁, h₂⟩, hs₂⟩

theorem done_pure {α : Type} (a : α) (t : Tables) : Done (pure a) a t := fun s hs => ⟨s, rfl, hs⟩

theorem Done.lift_bind {α β : Type} {x : Except String α} {f : α → Sql β} {a : α} {b : β} {t : Tables}
    (hx : x = .ok a) (hf : Done (f a) b t) : Done (lift x >>= f) b t :=
  Done.bind (m := lift x) (fun s hs => ⟨s, by rw [hx]; rfl, hs⟩) hf

/-- A relation whose rows are among those that `SameAs` compares. -/
class Compared {κ ν : Type} [DecidableEq κ] (r : Relation κ ν) : Prop where
  get_set : ∀ table t, r.get (r.set table t) = table
  lookup : ∀ {s t : Tables}, SameAs s t → ∀ k, (r.get s).lookup k = (r.get t).lookup k
  /-- a row that is written again as it is -/
  rewrite : ∀ {t : Tables} {k : κ} {row : ν}, (r.get t).lookup k = some row →
    SameAs (r.set ((r.get t).insert k row) t) t

theorem lookup_insert_same {κ ν : Type} [DecidableEq κ] {table : Table κ ν} {k : κ} {row : ν}
    (h : table.lookup k = some row) (k' : κ) : (table.insert k row).lookup k' = table.lookup k' := by
  by_cases hk : k' = k
  · subst hk
    rw [AList.lookup_insert, h]
  · exact AList.lookup_insert_ne hk

instance : Compared members where
  get_set _ _ := rfl
  lookup h := h.members
  rewrite h := { SameAs.refl _ with members := lookup_insert_same h }

instance : Compared loan_proposals where
  get_set _ _ := rfl
  lookup h := h.loan_proposals
  rewrite h := { SameAs.refl _ with loan_proposals := lookup_insert_same h }

instance : Compared loans where
  get_set _ _ := rfl
  lookup h := h.loans
  rewrite h := { SameAs.refl _ with loans := lookup_insert_same h }

instance : Compared treasury_proposals where
  get_set _ _ := rfl
  lookup h := h.treasury_proposals
  rewrite h := { SameAs.refl _ with treasury_proposals := lookup_insert_same h }

section

variable {κ ν : Type} [DecidableEq κ] {r : Relation κ ν} [hr : Compared r] {k : κ} {t u : Tables}

theorem done_select (r : Relation κ ν) [hr : Compared r] (k : κ) (t : Tables) :
    Done (select r k) ((r.get t).lookup k) t := by
  intro s hs
  refine ⟨s, ?_, hs⟩
  rw [← hr.lookup hs k]
  rfl

theorem done_write {row : ν} (h : (r.get t).lookup k = some row) : Done (write r k row) () t := by
  intro s hs
  exact ⟨_, rfl, (hr.rewrite ((hr.lookup hs k).trans h)).trans hs⟩

/-- An update whose row is missing, or guarded against. -/
theorem done_updateWhere_none {p : ν → Bool} {f : ν → Except String ν}
    (h : ∀ row, (r.get t).lookup k = some row → p row = false) : Done (updateWhere r k p f) none t := by
  refine Done.bind (done_select r k t) ?_
  cases hrow : (r.get t).lookup k with
  | none => exact done_pure none t
  | some row =>
    simp only [h row hrow, Bool.false_eq_true, if_false]
    exact done_pure none t

/-- An update that writes what is there. -/
theorem done_updateWhere_some {p : ν → Bool} {f : ν → Except String ν} {row : ν}
    (hrow : (r.get t).lookup k = some row) (hp : p row = true) (hf : f row = .ok row) :
    Done (updateWhere r k p f) (some row) t := by
  refine Done.bind (done_select r k t) ?_
  simp only [hrow, hp, if_true]
  exact Done.lift_bind hf (Done.bind (done_write hrow) (done_pure _ t))

theorem done_upsert {row old : ν} {f : ν → ν} (hrow : (r.get t).lookup k = some old) (hf : f old = old) :
    Done (upsert r k row f) false t := by
  refine Done.bind (done_select r k t) ?_
  simp only [hrow, hf]
  exact Done.bind (done_write hrow) (done_pure _ t)

/-- An assignment that is the same twice. -/
theorem update_again {f : ν → Except String ν} {x : Option ν} (hf : ∀ row row', f row = .ok row' → f row' = .ok row')
    {t₁ : Tables} (h : update r k f t = .ok (x, t₁))
    (hsame : (r.get u).lookup k = (r.get t₁).lookup k) : Done (update r k f) x u := by
  rcases updateWhere_eq_ok h with ⟨rfl, rfl, hnone⟩ | ⟨row, row', -, -, hrow', rfl, rfl⟩
  · exact done_updateWhere_none fun row hrow => hnone row (hsame ▸ hrow)
  · rw [hr.get_set, AList.lookup_insert] at hsame
    exact done_updateWhere_some hsame rfl (hf row row' hrow')

/-- A guard that the update itself has shut. -/
theorem updateWhere_again {p : ν → Bool} {f : ν → Except String ν} {x : Option ν}
    (hf : ∀ row row', f row = .ok row' → p row' = false) {t₁ : Tables} (h : updateWhere r k p f t = .ok (x, t₁))
    (hsame : (r.get u).lookup k = (r.get t₁).lookup k) :
    Done (updateWhere r k p f) none u := by
  apply done_updateWhere_none
  intro old hold
  rcases updateWhere_eq_ok h with ⟨-, rfl, hnone⟩ | ⟨row, row', -, -, hrow', -, rfl⟩
  · exact hnone old (hsame ▸ hold)
  · rw [hr.get_set, AList.lookup_insert, hold] at hsame
    cases hsame
    exact hf row old hrow'

/-- An assignment on conflict that changes neither the new row nor one it was made on. -/
theorem upsert_again {row : ν} {f : ν → ν} {isNew : Bool} {t₁ : Tables} (h : upsert r k row f t = .ok (isNew, t₁))
    (hsame : (r.get u).lookup k = (r.get t₁).lookup k) (hnew : f row = row) (hf : ∀ old, f (f old) = f old) :
    Done (upsert r k row f) false u := by
  rcases upsert_eq_ok h with ⟨-, -, rfl⟩ | ⟨old, -, -, rfl⟩
  · rw [hr.get_set, AList.lookup_insert] at hsame
    exact done_upsert hsame hnew
  · rw [hr.get_set, AList.lookup_insert] at hsame
    exact done_upsert hsame (hf old)

end

section

variable {ev : DecodedEvent} {t t' u : Tables}

/-- A notification whose address is empty, or that is there. -/
theorem done_notify {address : String} (type : NotificationType) (title message : String)
    (h : address = "" ∨ (t.notifications.lookup (ev.id, address)).isSome = true) :
    Done (notify ev address type title message) () t := by
  intro s hs
  by_cases haddress : address = ""
  · exact ⟨s, by rw [notify, if_pos haddress]; rfl, hs⟩
  · have hthere : (s.notifications.lookup (ev.id, address)).isSome = true := by
      rw [hs.notifications]
      exact h.resolve_left haddress
    refine ⟨_, by rw [notify, if_neg haddress]; rfl, ?_⟩
    dsimp only
    rw [if_pos hthere]
    exact { hs with }

/-- No event notifies an address twice. -/
theorem notify_again {address : String} {type : NotificationType} {title message : String}
    (h : notify ev address type title message t = .ok ((), t')) :
    Done (notify ev address type title message) () t' := by
  apply done_notify
  by_cases haddress : address = ""
  · exact .inl haddress
  · right
    rw [notify, if_neg haddress] at h
    cases h
    dsimp only
    split
    next hthere => exact hthere
    next => rw [AList.lookup_insert]; rfl

theorem setActiveLoan_again {borrower : String} {active : Bool} {t₁ : Tables}
    (h : setActiveLoan borrower active t = .ok ((), t₁)) (hsame : u.members = t₁.members) :
    Done (setActiveLoan borrower active) () u := by
  obtain ⟨x, t₂, hupdate, ⟨⟩⟩ := bind_eq_ok.mp h
  refine Done.bind (update_again (fun row row' hrow => ?_) hupdate ?_) (done_pure () u)
  · cases hrow
    rfl
  · change u.members.lookup borrower = t₁.members.lookup borrower
    rw [hsame]

theorem joined_again (h : joined ev t = .ok ((), t')) : Done (joined ev) () t' := by
  simp only [joined, lift_bind_eq_ok] at h
  obtain ⟨member, hm, fee, hfee, contribution, hnum, h⟩ := h
  obtain ⟨isNew, t₁, hupsert, htell⟩ := bind_eq_ok.mp h
  have hrest : t'.members = t₁.members := Leaves.same _ _ _ htell
  have hwritten := upsert_again hupsert (congrArg (AList.lookup member) hrest) rfl (fun _ => rfl)
  exact Done.lift_bind hm (Done.lift_bind hfee (Done.lift_bind hnum (Done.bind hwritten (notify_again htell))))

theorem exited_again (h : exited ev t = .ok ((), t')) : Done (exited ev) () t' := by
  simp only [exited, lift_bind_eq_ok] at h
  obtain ⟨member, hm, share, hshare, h⟩ := h
  obtain ⟨x, t₁, hupdate, htell⟩ := bind_eq_ok.mp h
  have hrest : t'.members = t₁.members := Leaves.same _ _ _ htell
  have hwritten := update_again (fun row row' hrow => ?_) hupdate (congrArg (AList.lookup member) hrest)
  · exact Done.lift_bind hm (Done.lift_bind hshare (Done.bind hwritten (notify_again htell)))
  · obtain ⟨hfits, ⟨⟩⟩ := numeric_bind_eq_ok.mp hrow
    exact numeric_bind_eq_ok.mpr ⟨hfits, rfl⟩

theorem setStake_again (h : setStake ev t = .ok ((), t')) : Done (setStake ev) () t' := by
  simp only [setStake, lift_bind_eq_ok] at h
  obtain ⟨member, hm, stake, hstake, h⟩ := h
  obtain ⟨x, t₁, hupdate, ⟨⟩⟩ := bind_eq_ok.mp h
  have hwritten := update_again (fun row row' hrow => ?_) hupdate rfl
  · exact Done.lift_bind hm (Done.lift_bind hstake (Done.bind hwritten (done_pure () t')))
  · obtain ⟨hfits, ⟨⟩⟩ := numeric_bind_eq_ok.mp hrow
    exact numeric_bind_eq_ok.mpr ⟨hfits, rfl⟩

theorem name_reg_again (h : name_reg ev t = .ok ((), t')) : Done (name_reg ev) () t' := by
  simp only [name_reg, lift_bind_eq_ok] at h
  obtain ⟨owner, ho, name, hname, h⟩ := h
  obtain ⟨x, t₁, hupdate, ⟨⟩⟩ := bind_eq_ok.mp h
  have hwritten := update_again (fun row row' hrow => by cases hrow; rfl) hupdate rfl
  exact Done.lift_bind ho (Done.lift_bind hname (Done.bind hwritten (done_pure () t')))

theorem loan_req_again (h : loan_req ev t = .ok ((), t')) : Done (loan_req ev) () t' := by
  simp only [loan_req, lift_bind_eq_ok] at h
  obtain ⟨id, hid, borrower, hb, amount, hamount, total, htotal, id', hid', principal, hp, repayment, hr, h⟩ := h
  obtain ⟨isNew, t₁, hupsert, htell⟩ := bind_eq_ok.mp h
  have hrest : t'.loan_proposals = t₁.loan_proposals := Leaves.same _ _ _ htell
  have hwritten := upsert_again hupsert (congrArg (AList.lookup id') hrest) rfl (fun _ => rfl)
  refine Done.lift_bind hid (Done.lift_bind hb (Done.lift_bind hamount (Done.lift_bind htotal ?_)))
  exact Done.lift_bind hid' (Done.lift_bind hp (Done.lift_bind hr (Done.bind hwritten (notify_again htell))))

theorem loan_edit_again (h : loan_edit ev t = .ok ((), t')) : Done (loan_edit ev) () t' := by
  simp only [loan_edit, lift_bind_eq_ok] at h
  obtain ⟨id, hid, amount, hamount, total, htotal, id', hid', h⟩ := h
  obtain ⟨x, t₁, hupdate, ⟨⟩⟩ := bind_eq_ok.mp h
  have hwritten := update_again (fun row row' hrow => ?_) hupdate rfl
  · refine Done.lift_bind hid (Done.lift_bind hamount (Done.lift_bind htotal ?_))
    exact Done.lift_bind hid' (Done.bind hwritten (done_pure () t'))
  · obtain ⟨hfits, hrow⟩ := numeric_bind_eq_ok.mp hrow
    obtain ⟨hfits', ⟨⟩⟩ := numeric_bind_eq_ok.mp hrow
    exact numeric_bind_eq_ok.mpr ⟨hfits, numeric_bind_eq_ok.mpr ⟨hfits', rfl⟩⟩

/-- A verdict takes the proposal out of the state it is guarded by. -/
theorem loanVerdict_again {status : ProposalStatus} {type : NotificationType} {title : String}
    {message : Int → String} (hstatus : status ≠ .pending)
    (h : loanVerdict status type title message ev t = .ok ((), t')) :
    Done (loanVerdict status type title message ev) () t' := by
  simp only [loanVerdict, lift_bind_eq_ok] at h
  obtain ⟨id, hid, id', hid', h⟩ := h
  obtain ⟨updated, t₁, hupdate, h⟩ := bind_eq_ok.mp h
  have hrest : t'.loan_proposals = t₁.loan_proposals := by
    cases updated with
    | none => cases h; rfl
    | some row => exact Leaves.same _ _ _ h
  have hwritten := updateWhere_again (fun row row' hrow => ?_) hupdate (congrArg (AList.lookup id') hrest)
  · exact Done.lift_bind hid (Done.lift_bind hid' (Done.bind hwritten (done_pure () t')))
  · cases hrow
    simpa using hstatus

theorem loan_exp_again (h : loan_exp ev t = .ok ((), t')) : Done (loan_exp ev) () t' := by
  simp only [loan_exp, lift_bind_eq_ok] at h
  obtain ⟨id, hid, borrower, hb, id', hid', h⟩ := h
  obtain ⟨updated, t₁, hupdate, h⟩ := bind_eq_ok.mp h
  have hrest : t'.loan_proposals = t₁.loan_proposals := by
    cases updated with
    | none => cases h; rfl
    | some row => exact Leaves.same _ _ _ h
  have hwritten := updateWhere_again (fun row row' hrow => ?_) hupdate (congrArg (AList.lookup id') hrest)
  · exact Done.lift_bind hid (Done.lift_bind hb (Done.lift_bind hid' (Done.bind hwritten (done_pure () t'))))
  · cases hrow
    rfl

theorem treasuryVerdict_again {status : TreasuryStatus} {type : NotificationType} {title : String}
    {message : Int → String} (hstatus : status ≠ .pending)
    (h : treasuryVerdict status type title message ev t = .ok ((), t')) :
    Done (treasuryVerdict status type title message ev) () t' := by
  simp only [treasuryVerdict, lift_bind_eq_ok] at h
  obtain ⟨id, hid, id', hid', h⟩ := h
  obtain ⟨updated, t₁, hupdate, h⟩ := bind_eq_ok.mp h
  have hrest : t'.treasury_proposals = t₁.treasury_proposals := by
    cases updated with
    | none => cases h; rfl
    | some row => exact Leaves.same _ _ _ h
  have hwritten := updateWhere_again (fun row row' hrow => ?_) hupdate (congrArg (AList.lookup id') hrest)
  · exact Done.lift_bind hid (Done.lift_bind hid' (Done.bind hwritten (done_pure () t')))
  · cases hrow
    simpa using hstatus

theorem tre_prop_again (h : tre_prop ev t = .ok ((), t')) : Done (tre_prop ev) () t' := by
  simp only [tre_prop, lift_bind_eq_ok] at h
  obtain ⟨id, hid, amount, hamount, destination, hd, id', hid', value, hv, h⟩ := h
  obtain ⟨isNew, t₁, hupsert, ⟨⟩⟩ := bind_eq_ok.mp h
  have hwritten := upsert_again hupsert rfl rfl (fun _ => rfl)
  refine Done.lift_bind hid (Done.lift_bind hamount (Done.lift_bind hd ?_))
  exact Done.lift_bind hid' (Done.lift_bind hv (Done.bind hwritten (done_pure () t')))

theorem tre_exec_again (h : tre_exec ev t = .ok ((), t')) : Done (tre_exec ev) () t' := by
  simp only [tre_exec, lift_bind_eq_ok] at h
  obtain ⟨id, hid, destination, hd, id', hid', h⟩ := h
  obtain ⟨x, t₁, hupdate, h⟩ := bind_eq_ok.mp h
  obtain ⟨amount, hamount, htell⟩ := lift_bind_eq_ok.mp h
  have hrest : t'.treasury_proposals = t₁.treasury_proposals := Leaves.same _ _ _ htell
  have hwritten := update_again (fun row row' hrow => by cases hrow; rfl) hupdate (congrArg (AList.lookup id') hrest)
  refine Done.lift_bind hid (Done.lift_bind hd (Done.lift_bind hid' ?_))
  exact Done.bind hwritten (Done.lift_bind hamount (notify_again htell))

theorem committed_again (h : committed ev t = .ok ((), t')) : Done (committed ev) () t' := by
  simp only [committed, lift_bind_eq_ok] at h
  obtain ⟨voter, hv, id, hid, htell⟩ := h
  exact Done.lift_bind hv (Done.lift_bind hid (notify_again htell))

/-- The loan is there by now: nothing is lent a second time. -/
theorem loan_appr_again (h : loan_appr ev t = .ok ((), t')) : Done (loan_appr ev) () t' := by
  obtain ⟨id, borrower, amount, due, principal, total, ⟨hid, hint, hb, hamount, hdue, hprincipal⟩, approved, t₁,
    happroved, htotal, isNew, t₂, hupsert, t₃, hlent, t₄, hactive, htell⟩ := loan_appr_steps h
  have hmembers : t'.members = t₄.members := Leaves.same _ _ _ htell
  have hloans : t'.loans = t₂.loans := by
    rw [Leaves.same (f := Tables.loans) t₄ () t' htell, Leaves.same (f := Tables.loans) t₃ () t₄ hactive,
      Leaves.same (f := Tables.loans) t₂ () t₃ hlent]
  have hproposals : t'.loan_proposals = t₁.loan_proposals := by
    rw [Leaves.same (f := Tables.loan_proposals) t₄ () t' htell,
      Leaves.same (f := Tables.loan_proposals) t₃ () t₄ hactive,
      Leaves.same (f := Tables.loan_proposals) t₂ () t₃ hlent,
      Leaves.same (f := Tables.loan_proposals) t₁ isNew t₂ hupsert]
  have hstatus := update_again (fun row row' hrow => by cases hrow; rfl) happroved
    (congrArg (AList.lookup id) hproposals)
  have hproposal := done_select loan_proposals id t'
  rw [show loan_proposals.get t' = t₁.loan_proposals from hproposals] at hproposal
  have hloan := upsert_again hupsert (congrArg (AList.lookup id) hloans) rfl (fun _ => rfl)
  refine Done.lift_bind hid (Done.lift_bind hb (Done.lift_bind hamount (Done.lift_bind hint ?_)))
  refine Done.bind hstatus (Done.bind hproposal (Done.lift_bind hdue (Done.lift_bind hprincipal ?_)))
  refine Done.lift_bind htotal (Done.bind hloan ?_)
  exact Done.bind (setActiveLoan_again hactive hmembers) (notify_again htell)

/-- The repayment that clears a loan finds it repaid the second time. -/
theorem loan_rpy_again (h : loan_rpy ev t = .ok ((), t')) : Done (loan_rpy ev) () t' := by
  obtain ⟨id, borrower, outstanding, ⟨hid, hint, hb, hout⟩, upd, t₁, hupdate, t₂, hfold, t₃, hactive, htell⟩ :=
    loan_rpy_steps h
  have hloans : t'.loans = t₁.loans := by
    rw [Leaves.same (f := Tables.loans) t₃ () t' htell, Leaves.same (f := Tables.loans) t₂ () t₃ hactive,
      Leaves.same (f := Tables.loans) t₁ () t₂ hfold]
  have hrow : t'.loans.lookup id = upd := by
    rw [hloans]
    rcases update_afterRepayment hupdate with ⟨hnone, rfl, rfl⟩ | ⟨row, -, rfl, rfl⟩
    · exact hnone
    · exact AList.lookup_insert _
  have hpaid : foldPrincipalRepaid ev (outstanding.text = "0") upd upd = pure () := by
    rcases update_afterRepayment hupdate with ⟨-, rfl, -⟩ | ⟨row, -, rfl, -⟩
    · rfl
    · by_cases hrepaid : outstanding.text = "0" <;> simp [foldPrincipalRepaid, LoanRow.afterRepayment, hrepaid]
  have hwritten := update_again (fun row row' hrow => ?_) hupdate (congrArg (AList.lookup id) hloans)
  · have hprev := done_select loans id t'
    rw [show (loans.get t').lookup id = upd from hrow] at hprev
    refine Done.lift_bind hid (Done.lift_bind hb (Done.lift_bind hout (Done.lift_bind hint ?_)))
    refine Done.bind hprev (Done.bind hwritten ?_)
    rw [hpaid]
    refine Done.bind (done_pure () t') ?_
    by_cases hrepaid : outstanding.text = "0"
    · simp only [hrepaid, decide_true, if_true] at hactive htell ⊢
      exact Done.bind (setActiveLoan_again hactive (Leaves.same _ _ _ htell)) (notify_again htell)
    · simp only [hrepaid, decide_false, Bool.false_eq_true, if_false] at hactive htell ⊢
      exact notify_again htell
  · obtain ⟨hfits, ⟨⟩⟩ := numeric_bind_eq_ok.mp hrow
    refine numeric_bind_eq_ok.mpr ⟨hfits, ?_⟩
    split <;> rfl

/-- A default is marked once, and its penalty taken with it. -/
theorem loan_dflt_again (h : loan_dflt ev t = .ok ((), t')) : Done (loan_dflt ev) () t' := by
  simp only [loan_dflt, lift_bind_eq_ok] at h
  obtain ⟨id, hid, borrower, hb, penalty, hpenalty, id', hid', h⟩ := h
  obtain ⟨updated, t₁, hupdate, h⟩ := bind_eq_ok.mp h
  have hloans : t'.loans = t₁.loans := by
    cases updated with
    | none => cases h; rfl
    | some row => exact Leaves.same _ _ _ h
  have hwritten := updateWhere_again (fun row row' hrow => ?_) hupdate (congrArg (AList.lookup id') hloans)
  · refine Done.lift_bind hid (Done.lift_bind hb (Done.lift_bind hpenalty (Done.lift_bind hid' ?_)))
    exact Done.bind hwritten (done_pure () t')
  · cases hrow
    rfl

theorem done_insertInterest {id : String} {row : Nat → InterestRow}
    (h : (t.interest_distributions.lookup id).isSome = true) : Done (insertInterest id row) false t := by
  intro s hs
  have hthere : (s.interest_distributions.lookup id).isSome = true := by rw [hs.interest_distributions, h]
  refine ⟨_, by rw [insertInterest, if_pos hthere], ?_⟩
  exact { hs with }

theorem done_insertDocument {id : String} {row : Nat → DocumentRow} (h : (t.documents.lookup id).isSome = true) :
    Done (insertDocument id row) () t := by
  intro s hs
  have hthere : (s.documents.lookup id).isSome = true := by rw [hs.documents, h]
  refine ⟨_, rfl, ?_⟩
  dsimp only
  rw [if_pos hthere]
  exact { hs with }

/-- One distribution an event. -/
theorem interest_again (h : interest ev t = .ok ((), t')) : Done (interest ev) () t' := by
  simp only [interest, lift_bind_eq_ok] at h
  obtain ⟨amount, hamount, active, hactive, amount', hfits, h⟩ := h
  obtain ⟨inserted, t₁, hinsert, h⟩ := bind_eq_ok.mp h
  have hrest : t'.interest_distributions = t₁.interest_distributions := by
    split at h
    · exact Leaves.same _ _ _ h
    · cases h
      rfl
  have hthere : (t'.interest_distributions.lookup ev.id).isSome = true := by
    rw [hrest]
    rw [insertInterest] at hinsert
    split at hinsert
    next hold =>
      cases hinsert
      exact hold
    next =>
      cases hinsert
      rw [AList.lookup_insert]
      rfl
  refine Done.lift_bind hamount (Done.lift_bind hactive (Done.lift_bind hfits ?_))
  exact Done.bind (done_insertInterest hthere) (done_pure () t')

/-- One attestation an event. -/
theorem doc_attn_again (h : doc_attn ev t = .ok ((), t')) : Done (doc_attn ev) () t' := by
  simp only [doc_attn, lift_bind_eq_ok] at h
  obtain ⟨id, hid, caller, hcaller, kind, hkind, id', hid', h⟩ := h
  have hthere : (t'.documents.lookup ev.id).isSome = true := by
    cases h
    dsimp only
    split
    next hold => exact hold
    next =>
      rw [AList.lookup_insert]
      rfl
  refine Done.lift_bind hid (Done.lift_bind hcaller (Done.lift_bind hkind (Done.lift_bind hid' ?_)))
  exact done_insertDocument hthere

end

/-- The symbols whose handlers add to a column of a row that is there. -/
def additive : List JsStr := ["loan_vote", "tre_vote", "revealed", "claimed"]

/-- What a fold in its own transaction leaves behind: where it fails, nothing. -/
def folded (ev : DecodedEvent) (t : Tables) : Tables := ((applyEvent ev t).toOption.map Prod.snd).getD t

/-- Twice is once, on these tables. -/
structure Tolerates (ev : DecodedEvent) (t : Tables) : Prop where
  again : ∀ channels t₁, applyEvent ev t = .ok (channels, t₁) →
    ∃ t₂, applyEvent ev t₁ = .ok (channels, t₂) ∧ SameAs t₂ t₁
  twice : SameAs (folded ev (folded ev t)) (folded ev t)
  silent : ∀ key, key ∈ (folded ev (folded ev t)).notifications → key ∈ (folded ev t).notifications

section

variable {ev : DecodedEvent} {t t' : Tables}

theorem symbol_of_not_additive (hs : ev.symbol ∉ additive) {s : EventSymbol}
    (h : EventSymbol.ofSymbol? ev.symbol = some s) :
    s ≠ .loan_vote ∧ s ≠ .tre_vote ∧ s ≠ .revealed ∧ s ≠ .claimed := by
  obtain ⟨hlone, htext⟩ := text_of_symbol h
  have hsymbol : ev.symbol = ⟨ev.symbol.text, false⟩ := by rw [← hlone]
  unfold EventSymbol.ofString? at htext
  split at htext
  case h_32 => cases htext
  all_goals
    next hname =>
      cases htext
      rw [hsymbol, hname] at hs
      revert hs
      decide

theorem handlers_again {s : EventSymbol} {handler : DecodedEvent → Sql Unit} (hh : handlers s = some handler)
    (hs : s ≠ .loan_vote ∧ s ≠ .tre_vote ∧ s ≠ .revealed ∧ s ≠ .claimed) (h : handler ev t = .ok ((), t')) :
    Done (handler ev) () t' := by
  obtain ⟨hlvote, htvote, hrevealed, hclaimed⟩ := hs
  cases s <;> cases hh
  case loan_vote | tre_vote | revealed | claimed => contradiction
  case joined => exact joined_again h
  case exited => exact exited_again h
  case staked => exact setStake_again h
  case unstaked => exact setStake_again h
  case name_reg => exact name_reg_again h
  case loan_req => exact loan_req_again h
  case loan_edit => exact loan_edit_again h
  case loan_wait => exact loanVerdict_again (by decide) h
  case loan_rej => exact loanVerdict_again (by decide) h
  case loan_appr => exact loan_appr_again h
  case loan_rpy => exact loan_rpy_again h
  case loan_dflt => exact loan_dflt_again h
  case loan_exp => exact loan_exp_again h
  case interest => exact interest_again h
  case tre_prop => exact tre_prop_again h
  case tre_wait => exact treasuryVerdict_again (by decide) h
  case tre_rej => exact treasuryVerdict_again (by decide) h
  case tre_exec => exact tre_exec_again h
  case committed => exact committed_again h
  case doc_attn => exact doc_attn_again h

theorem applyEvent_again (hs : ev.symbol ∉ additive) {channels : List StreamChannel}
    (h : applyEvent ev t = .ok (channels, t')) : Done (applyEvent ev) channels t' := by
  rw [applyEvent] at h ⊢
  cases hh : (EventSymbol.ofSymbol? ev.symbol).bind handlers with
  | none =>
    simp only [hh] at h ⊢
    cases h
    exact done_pure _ _
  | some handler =>
    simp only [hh] at h ⊢
    obtain ⟨s, hs', hhandler⟩ := Option.bind_eq_some_iff.mp hh
    obtain ⟨_, t₁, hrun, ⟨⟩⟩ := bind_eq_ok.mp h
    exact Done.bind (handlers_again hhandler (symbol_of_not_additive hs hs') hrun) (done_pure _ _)

end

/-- Every event but a vote and a claim may be delivered twice. -/
theorem applyEvent_tolerates {ev : DecodedEvent} (hs : ev.symbol ∉ additive) (t : Tables) : Tolerates ev t := by
  have hagain : ∀ channels t₁, applyEvent ev t = .ok (channels, t₁) →
      ∃ t₂, applyEvent ev t₁ = .ok (channels, t₂) ∧ SameAs t₂ t₁ :=
    fun channels t₁ h => applyEvent_again hs h t₁ (SameAs.refl t₁)
  have htwice : SameAs (folded ev (folded ev t)) (folded ev t) := by
    cases hrun : applyEvent ev t with
    | error e =>
      have hkept : folded ev t = t := by rw [folded, hrun]; rfl
      rw [hkept, hkept]
      exact SameAs.refl t
    | ok x =>
      obtain ⟨t₂, hrun', hsame⟩ := hagain x.1 x.2 hrun
      have hfirst : folded ev t = x.2 := by rw [folded, hrun]; rfl
      have hsecond : folded ev x.2 = t₂ := by rw [folded, hrun']; rfl
      rw [hfirst, hsecond]
      exact hsame
  refine ⟨hagain, htwice, fun key hkey => ?_⟩
  rw [← AList.lookup_isSome] at hkey ⊢
  rwa [← htwice.notifications key]

/-- The default of a loan that was approved, delivered twice. -/
theorem tolerates_default : Tolerates
    (MemberCache.publishedEvent "0002" 2 "loan_dflt"
      [("loan_id", .num 1), ("borrower", .str "GA"), ("penalty", .str "7")])
    (foldedTables [MemberCache.publishedEvent "0001" 1 "loan_appr"
      [("id", .num 1), ("borrower", .str "GA"), ("amount", .str "50"), ("due_time", .null)]]) :=
  applyEvent_tolerates (by decide) _

end OurDao
