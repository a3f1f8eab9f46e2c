import OurDao.ActiveLoans
import OurDao.FeedWrites

/-!
# What an event writes about members

The fold of an event writes at most one row of `members` and notifies at most one address.
Both are known before the fold, from the event and the rows it finds.
-/

namespace OurDao

open Sql Faults

namespace Tables

def pendingLoanProposal (t : Tables) (id : Int) : Option LoanProposalRow :=
  (t.loan_proposals.lookup id).filter (·.status = .pending)

def pendingTreasuryProposal (t : Tables) (id : Int) : Option TreasuryProposalRow :=
  (t.treasury_proposals.lookup id).filter (·.status = .pending)

/-- A loan that can still default. -/
def standingLoan (t : Tables) (id : Int) : Option LoanRow := (t.loans.lookup id).filter (·.status ≠ .defaulted)

end Tables

/-- The row of `members` that the fold of an event writes, if it writes one. -/
def memberWrite (ev : DecodedEvent) (t : Tables) : Option (String × MemberRow) :=
  match EventSymbol.ofSymbol? ev.symbol with
  | some .joined => do
    let member ← (requireAddr ev "member").toOption
    let fee ← (requireAmount ev "fee").toOption
    let row := (t.members.lookup member).getD {}
    return (member, { row with joined_ledger := some ev.ledger, contribution := fee.value, exited := false,
                               exit_share := none, exited_ledger := none, has_active_loan := false })
  | some .exited => do
    let member ← (requireAddr ev "member").toOption
    let share ← (requireAmount ev "share").toOption
    let row ← t.members.lookup member
    return (member, { row with exited := true, exit_share := some share.value, exited_ledger := some ev.ledger,
                               stake := 0, has_active_loan := false })
  | some .claimed => do
    let member ← (requireAddr ev "member").toOption
    let pending ← (requireAmount ev "pending").toOption
    let row ← t.members.lookup member
    return (member, { row with pending_claimed := row.pending_claimed + pending.value })
  | some .staked | some .unstaked => do
    let member ← (requireAddr ev "member").toOption
    let newStake ← (requireAmount ev "new_stake").toOption
    let row ← t.members.lookup member
    return (member, { row with stake := newStake.value })
  | some .name_reg => do
    let owner ← (requireAddr ev "owner").toOption
    let name ← (addr (ev.field "name")).toOption
    let row ← t.members.lookup owner
    return (owner, { row with name := some name })
  | some .loan_appr => do
    let borrower ← (requireAddr ev "borrower").toOption
    let row ← t.members.lookup borrower
    return (borrower, { row with has_active_loan := true })
  | some .loan_rpy => do
    let borrower ← (requireAddr ev "borrower").toOption
    let outstanding ← (requireAmount ev "outstanding").toOption
    let row ← t.members.lookup borrower
    if outstanding.text = "0" then some (borrower, { row with has_active_loan := false }) else none
  | some .loan_dflt => do
    let id ← (requireId ev "loan_id").toOption
    let borrower ← (requireAddr ev "borrower").toOption
    let penalty ← (requireAmount ev "penalty").toOption
    let _ ← t.standingLoan id
    let row ← t.members.lookup borrower
    return (borrower, { row with contribution := row.contribution - penalty.value, has_active_loan := false,
                                 defaults_count := row.defaults_count + 1 })
  | _ => none

/-- The address that the fold of an event notifies, if it notifies one. -/
def noticed (ev : DecodedEvent) (t : Tables) : Option String :=
  match EventSymbol.ofSymbol? ev.symbol with
  | some .joined | some .exited | some .claimed => (requireAddr ev "member").toOption
  | some .loan_req | some .loan_appr | some .loan_rpy => (requireAddr ev "borrower").toOption
  | some .loan_wait | some .loan_rej => do
    let id ← (requireId ev "id").toOption
    let proposal ← t.pendingLoanProposal id
    return proposal.borrower
  | some .loan_exp => do
    let id ← (requireId ev "proposal_id").toOption
    let _ ← t.pendingLoanProposal id
    (requireAddr ev "borrower").toOption
  | some .loan_dflt => do
    let id ← (requireId ev "loan_id").toOption
    let _ ← t.standingLoan id
    (requireAddr ev "borrower").toOption
  | some .tre_wait | some .tre_rej => do
    let id ← (requireId ev "id").toOption
    let proposal ← t.pendingTreasuryProposal id
    return proposal.destination
  | some .tre_exec => (requireAddr ev "destination").toOption
  | some .committed => (addr (ev.field "voter")).toOption
  | _ => none

/-- The members after an event: as they were, or with one row written. -/
def membersAfter (ev : DecodedEvent) (t : Tables) : Table String MemberRow :=
  match memberWrite ev t with
  | none => t.members
  | some w => t.members.insert w.1 w.2

section

variable {ev : DecodedEvent} {t t' : Tables}

instance : Apart Tables.members treasury_proposals := ⟨fun _ _ => rfl⟩

theorem numeric_eq_ok {n m : Nat} (h : numeric n = .ok m) : m = n := by
  simp only [numeric] at h
  split at h <;> cases h
  rfl

/-- What a rewrite of one member leaves in the table. -/
theorem update_members_eq_ok {a : String} {f : MemberRow → Except String MemberRow} {x : Option MemberRow}
    (h : Sql.update members a f t = .ok (x, t')) :
    (t.members.lookup a = none ∧ t'.members = t.members) ∨
      ∃ row row', t.members.lookup a = some row ∧ f row = .ok row' ∧ t'.members = t.members.insert a row' := by
  rcases update_eq_ok.mp ⟨x, h⟩ with ⟨hnone, rfl⟩ | ⟨row, row', hrow, hrow', rfl⟩
  · exact .inl ⟨hnone, rfl⟩
  · exact .inr ⟨row, row', hrow, hrow', rfl⟩

theorem joined_members (hs : EventSymbol.ofSymbol? ev.symbol = some .joined) (h : joined ev t = .ok ((), t')) :
    t'.members = membersAfter ev t := by
  simp only [joined, lift_bind_eq_ok] at h
  obtain ⟨member, hm, fee, hfee, contribution, hnum, h⟩ := h
  obtain ⟨isNew, t₁, hupsert, htell⟩ := bind_eq_ok.mp h
  have hrest : t'.members = t₁.members := Leaves.same _ _ _ htell
  obtain rfl := numeric_eq_ok hnum
  rw [hrest]
  rcases upsert_eq_ok hupsert with ⟨hnew, -, rfl⟩ | ⟨old, hold, -, rfl⟩
  · change t.members.lookup member = none at hnew
    simp [membersAfter, memberWrite, hs, hm, hfee, hnew, Except.toOption, members]
  · change t.members.lookup member = some old at hold
    simp [membersAfter, memberWrite, hs, hm, hfee, hold, Except.toOption, members]

theorem exited_members (hs : EventSymbol.ofSymbol? ev.symbol = some .exited) (h : exited ev t = .ok ((), t')) :
    t'.members = membersAfter ev t := by
  simp only [exited, lift_bind_eq_ok] at h
  obtain ⟨member, hm, share, hshare, h⟩ := h
  obtain ⟨x, t₁, hupdate, htell⟩ := bind_eq_ok.mp h
  have hrest : t'.members = t₁.members := Leaves.same _ _ _ htell
  rw [hrest]
  rcases update_members_eq_ok hupdate with ⟨hnone, hsame⟩ | ⟨row, row', hrow, hrow', hwritten⟩
  · simp [membersAfter, memberWrite, hs, hm, hshare, hnone, Except.toOption, hsame]
  · obtain ⟨-, ⟨⟩⟩ := numeric_bind_eq_ok.mp hrow'
    simp [membersAfter, memberWrite, hs, hm, hshare, hrow, Except.toOption, hwritten]

theorem claimed_members (hs : EventSymbol.ofSymbol? ev.symbol = some .claimed) (h : claimed ev t = .ok ((), t')) :
    t'.members = membersAfter ev t := by
  simp only [claimed, lift_bind_eq_ok] at h
  obtain ⟨member, hm, pending, hpending, h⟩ := h
  obtain ⟨x, t₁, hupdate, htell⟩ := bind_eq_ok.mp h
  have hrest : t'.members = t₁.members := Leaves.same _ _ _ htell
  rw [hrest]
  rcases update_members_eq_ok hupdate with ⟨hnone, hsame⟩ | ⟨row, row', hrow, hrow', hwritten⟩
  · simp [membersAfter, memberWrite, hs, hm, hpending, hnone, Except.toOption, hsame]
  · obtain ⟨-, ⟨⟩⟩ := numeric_bind_eq_ok.mp hrow'
    simp [membersAfter, memberWrite, hs, hm, hpending, hrow, Except.toOption, hwritten]

theorem setStake_members (hs : EventSymbol.ofSymbol? ev.symbol = some .staked ∨
    EventSymbol.ofSymbol? ev.symbol = some .unstaked) (h : setStake ev t = .ok ((), t')) :
    t'.members = membersAfter ev t := by
  simp only [setStake, lift_bind_eq_ok] at h
  obtain ⟨member, hm, stake, hstake, h⟩ := h
  obtain ⟨x, t₁, hupdate, ⟨⟩⟩ := bind_eq_ok.mp h
  rcases update_members_eq_ok hupdate with ⟨hnone, hsame⟩ | ⟨row, row', hrow, hrow', hwritten⟩
  · obtain hs | hs := hs <;> simp [membersAfter, memberWrite, hs, hm, hstake, hnone, Except.toOption, hsame]
  · obtain ⟨-, ⟨⟩⟩ := numeric_bind_eq_ok.mp hrow'
    obtain hs | hs := hs <;> simp [membersAfter, memberWrite, hs, hm, hstake, hrow, Except.toOption, hwritten]

theorem name_reg_members (hs : EventSymbol.ofSymbol? ev.symbol = some .name_reg)
    (h : name_reg ev t = .ok ((), t')) : t'.members = membersAfter ev t := by
  simp only [name_reg, lift_bind_eq_ok] at h
  obtain ⟨owner, ho, name, hname, h⟩ := h
  obtain ⟨x, t₁, hupdate, ⟨⟩⟩ := bind_eq_ok.mp h
  rcases update_members_eq_ok hupdate with ⟨hnone, hsame⟩ | ⟨row, row', hrow, ⟨⟩, hwritten⟩
  · simp [membersAfter, memberWrite, hs, ho, hname, hnone, Except.toOption, hsame]
  · simp [membersAfter, memberWrite, hs, ho, hname, hrow, Except.toOption, hwritten]

theorem setActiveLoan_members {a : String} {active : Bool} (h : setActiveLoan a active t = .ok ((), t')) :
    t'.members = match t.members.lookup a with
      | none => t.members
      | some row => t.members.insert a { row with has_active_loan := active } := by
  obtain ⟨x, t₁, hupdate, ⟨⟩⟩ := bind_eq_ok.mp h
  rcases update_members_eq_ok hupdate with ⟨hnone, hsame⟩ | ⟨row, row', hrow, ⟨⟩, hwritten⟩
  · rw [hnone, hsame]
  · rw [hrow, hwritten]

theorem loan_appr_members (hs : EventSymbol.ofSymbol? ev.symbol = some .loan_appr)
    (h : loan_appr ev t = .ok ((), t')) : t'.members = membersAfter ev t := by
  obtain ⟨id, borrower, amount, due_time, principal, total, ⟨-, -, hb, -⟩, approved, t₁, happroved, -, isNew, t₂,
    hupsert, t₃, hlent, t₄, hactive, htell⟩ := loan_appr_steps h
  have hbefore : t₃.members = t.members := by
    rw [Leaves.same (f := Tables.members) t₂ () t₃ hlent, Leaves.same (f := Tables.members) t₁ isNew t₂ hupsert,
      Leaves.same (f := Tables.members) t approved t₁ happroved]
  rw [Leaves.same (f := Tables.members) t₄ () t' htell, setActiveLoan_members hactive, hbefore]
  cases hrow : t.members.lookup borrower with
  | none => simp [membersAfter, memberWrite, hs, hb, hrow, Except.toOption]
  | some row => simp [membersAfter, memberWrite, hs, hb, hrow, Except.toOption]

theorem loan_rpy_members (hs : EventSymbol.ofSymbol? ev.symbol = some .loan_rpy)
    (h : loan_rpy ev t = .ok ((), t')) : t'.members = membersAfter ev t := by
  obtain ⟨id, borrower, outstanding, ⟨-, -, hb, hout⟩, upd, t₁, hupdate, t₂, hfold, t₃, hactive, htell⟩ :=
    loan_rpy_steps h
  have hloan : t₂.members = t.members := by
    rw [Leaves.same (f := Tables.members) t₁ () t₂ hfold, Leaves.same (f := Tables.members) t upd t₁ hupdate]
  rw [Leaves.same (f := Tables.members) t₃ () t' htell]
  by_cases hrepaid : outstanding.text = "0"
  · rw [if_pos hrepaid] at hactive
    rw [setActiveLoan_members hactive, hloan]
    cases hrow : t.members.lookup borrower with
    | none => simp [membersAfter, memberWrite, hs, hb, hout, hrow, Except.toOption]
    | some row => simp [membersAfter, memberWrite, hs, hb, hout, hrow, hrepaid, Except.toOption]
  · rw [if_neg hrepaid] at hactive
    cases hactive
    rw [hloan]
    cases hrow : t.members.lookup borrower with
    | none => simp [membersAfter, memberWrite, hs, hb, hout, hrow, Except.toOption]
    | some row => simp [membersAfter, memberWrite, hs, hb, hout, hrepaid, Except.toOption]

theorem loan_dflt_members (hs : EventSymbol.ofSymbol? ev.symbol = some .loan_dflt)
    (h : loan_dflt ev t = .ok ((), t')) : t'.members = membersAfter ev t := by
  obtain ⟨id, borrower, penalty, ⟨hid, -, hb, hpenalty⟩, ⟨hdefaulted, rfl⟩ | ⟨row, hrow, hstatus, t₁, rfl, t₂, htotals,
    t₃, hdaily, x, t₄, hmember, htell⟩⟩ := loan_dflt_steps h
  · have hstanding : t'.standingLoan id = none := by
      rw [Tables.standingLoan, Option.filter_eq_none_iff]
      exact fun row hrow => by simpa using hdefaulted row hrow
    simp [membersAfter, memberWrite, hs, hid, hb, hpenalty, hstanding, Except.toOption]
  · have hstanding : t.standingLoan id = some row := by
      rw [Tables.standingLoan, hrow, Option.filter_some]
      simpa using hstatus
    have hbefore : t₃.members = t.members := by
      rw [Leaves.same (f := Tables.members) t₂ () t₃ hdaily, Leaves.same (f := Tables.members) _ () t₂ htotals]
      rfl
    rw [Leaves.same (f := Tables.members) t₄ () t' htell]
    rcases update_members_eq_ok hmember with ⟨hnone, hsame⟩ | ⟨member, member', hm, hm', hwritten⟩
    · rw [hbefore] at hnone hsame
      simp [membersAfter, memberWrite, hs, hid, hb, hpenalty, hnone, Except.toOption, hsame]
    · rw [hbefore] at hm hwritten
      obtain ⟨-, -, ⟨⟩⟩ := integer_bind_eq_ok.mp hm'
      simp [membersAfter, memberWrite, hs, hid, hb, hpenalty, hstanding, hm, Except.toOption, hwritten]

theorem members_of_none (hwrite : memberWrite ev t = none) (hsame : t'.members = t.members) :
    t'.members = membersAfter ev t := by
  rw [membersAfter, hwrite, hsame]

theorem handler_members {s : EventSymbol} (hs : EventSymbol.ofSymbol? ev.symbol = some s)
    {handler : DecodedEvent → Sql Unit} (hh : handlers s = some handler) (h : handler ev t = .ok ((), t')) :
    t'.members = membersAfter ev t := by
  have hleft (hwrite : memberWrite ev t = none) (hl : Leaves Tables.members (handler ev)) :
      t'.members = membersAfter ev t := members_of_none hwrite (hl.same t () t' h)
  cases s <;> cases hh
  case joined => exact joined_members hs h
  case exited => exact exited_members hs h
  case claimed => exact claimed_members hs h
  case staked => exact setStake_members (.inl hs) h
  case unstaked => exact setStake_members (.inr hs) h
  case name_reg => exact name_reg_members hs h
  case loan_appr => exact loan_appr_members hs h
  case loan_rpy => exact loan_rpy_members hs h
  case loan_dflt => exact loan_dflt_members hs h
  all_goals exact hleft (by simp [memberWrite, hs]) inferInstance

/-- **An event writes the member that `memberWrite` names**, and no other. -/
theorem applyEvent_members {channels : List StreamChannel} (h : applyEvent ev t = .ok (channels, t')) :
    t'.members = membersAfter ev t := by
  rcases applyEvent_handler h with ⟨hsymbol, rfl⟩ | ⟨s, handler, hs, hh, h⟩
  · refine members_of_none ?_ rfl
    cases hs : EventSymbol.ofSymbol? ev.symbol with
    | none => simp [memberWrite, hs]
    | some s =>
      have hh := hsymbol s hs
      cases s <;> cases hh <;> simp [memberWrite, hs]
  · exact handler_members hs hh h

/-- The notifications of an address, by event. -/
def Tables.notices (a : String) (t : Tables) (eventId : String) : Option NotificationRow :=
  t.notifications.lookup (eventId, a)

variable {a : String}

instance : Apart (Tables.notices a) members := ⟨fun _ _ => rfl⟩
instance : Apart (Tables.notices a) loan_proposals := ⟨fun _ _ => rfl⟩
instance : Apart (Tables.notices a) loans := ⟨fun _ _ => rfl⟩
instance : Apart (Tables.notices a) treasury_proposals := ⟨fun _ _ => rfl⟩
instance : ApartFromTotals (Tables.notices a) := ⟨fun _ _ => rfl, fun _ _ => rfl⟩

/-- A notification is for its address only. -/
theorem notify_notices {b : String} {type : NotificationType} {title message : String}
    (h : notify ev b type title message t = .ok ((), t')) (hb : a ≠ b) : t'.notices a = t.notices a := by
  rw [notify] at h
  split at h
  · cases h
    rfl
  · cases h
    funext eventId
    dsimp only
    split
    · rfl
    · exact AList.lookup_insert_ne (by simp [hb])

/-- What goes before the notification of a handler leaves the others alone. -/
theorem notices_of_notify {α : Type} {m : Sql α} [hm : Leaves (Tables.notices a) m] {x : α} {t₁ : Tables} {b : String}
    {type : NotificationType} {title message : String} (hb : a ≠ b) (hbefore : m t = .ok (x, t₁))
    (h : notify ev b type title message t₁ = .ok ((), t')) : t'.notices a = t.notices a := by
  rw [notify_notices h hb, hm.same t x t₁ hbefore]

theorem joined_notices (hs : EventSymbol.ofSymbol? ev.symbol = some .joined) (h : joined ev t = .ok ((), t'))
    (ha : noticed ev t ≠ some a) : t'.notices a = t.notices a := by
  simp only [joined, lift_bind_eq_ok] at h
  obtain ⟨member, hm, fee, -, contribution, -, h⟩ := h
  obtain ⟨isNew, t₁, hupsert, htell⟩ := bind_eq_ok.mp h
  exact notices_of_notify (by rintro rfl; simp [noticed, hs, hm, Except.toOption] at ha) hupsert htell

theorem exited_notices (hs : EventSymbol.ofSymbol? ev.symbol = some .exited) (h : exited ev t = .ok ((), t'))
    (ha : noticed ev t ≠ some a) : t'.notices a = t.notices a := by
  simp only [exited, lift_bind_eq_ok] at h
  obtain ⟨member, hm, share, -, h⟩ := h
  obtain ⟨x, t₁, hupdate, htell⟩ := bind_eq_ok.mp h
  exact notices_of_notify (by rintro rfl; simp [noticed, hs, hm, Except.toOption] at ha) hupdate htell

theorem claimed_notices (hs : EventSymbol.ofSymbol? ev.symbol = some .claimed) (h : claimed ev t = .ok ((), t'))
    (ha : noticed ev t ≠ some a) : t'.notices a = t.notices a := by
  simp only [claimed, lift_bind_eq_ok] at h
  obtain ⟨member, hm, pending, -, h⟩ := h
  obtain ⟨x, t₁, hupdate, htell⟩ := bind_eq_ok.mp h
  exact notices_of_notify (by rintro rfl; simp [noticed, hs, hm, Except.toOption] at ha) hupdate htell

theorem loan_req_notices (hs : EventSymbol.ofSymbol? ev.symbol = some .loan_req) (h : loan_req ev t = .ok ((), t'))
    (ha : noticed ev t ≠ some a) : t'.notices a = t.notices a := by
  simp only [loan_req, lift_bind_eq_ok] at h
  obtain ⟨id, -, borrower, hb, amount, -, total, -, id', -, principal, -, repayment, -, h⟩ := h
  obtain ⟨isNew, t₁, hupsert, htell⟩ := bind_eq_ok.mp h
  exact notices_of_notify (by rintro rfl; simp [noticed, hs, hb, Except.toOption] at ha) hupsert htell

/-- The proposal that a verdict finds pending, if it finds one. -/
theorem pending_of_updateWhere {id : Int} {f : LoanProposalRow → Except String LoanProposalRow}
    {updated : Option LoanProposalRow}
    (h : updateWhere loan_proposals id (·.status = .pending) f t = .ok (updated, t')) :
    (updated = none ∧ t' = t) ∨
      ∃ row row', t.pendingLoanProposal id = some row ∧ f row = .ok row' ∧ updated = some row' := by
  rcases updateWhere_eq_ok h with ⟨hnone, hsame, -⟩ | ⟨row, row', hrow, hp, hrow', hupdated, -⟩
  · exact .inl ⟨hnone, hsame⟩
  · change t.loan_proposals.lookup id = some row at hrow
    exact .inr ⟨row, row', by simpa [Tables.pendingLoanProposal, hrow] using hp, hrow', hupdated⟩

theorem loanVerdict_notices {status : ProposalStatus} {type : NotificationType} {title : String}
    {message : Int → String} (hs : EventSymbol.ofSymbol? ev.symbol = some .loan_wait ∨
      EventSymbol.ofSymbol? ev.symbol = some .loan_rej)
          (h : loanVerdict status type title message ev t = .ok ((), t'))
    (ha : noticed ev t ≠ some a) : t'.notices a = t.notices a := by
  simp only [loanVerdict, lift_bind_eq_ok] at h
  obtain ⟨id, hid, id', hid', h⟩ := h
  obtain rfl := integer_eq_ok hid'
  obtain ⟨updated, t₁, hupdate, htell⟩ := bind_eq_ok.mp h
  rcases pending_of_updateWhere hupdate with ⟨rfl, rfl⟩ | ⟨row, row', hrow, ⟨⟩, rfl⟩
  · cases htell
    rfl
  · refine notices_of_notify ?_ hupdate htell
    rintro rfl
    obtain hs | hs := hs <;> simp [noticed, hs, hid, hrow, Except.toOption] at ha

theorem loan_exp_notices (hs : EventSymbol.ofSymbol? ev.symbol = some .loan_exp) (h : loan_exp ev t = .ok ((), t'))
    (ha : noticed ev t ≠ some a) : t'.notices a = t.notices a := by
  simp only [loan_exp, lift_bind_eq_ok] at h
  obtain ⟨id, hid, borrower, hb, id', hid', h⟩ := h
  obtain rfl := integer_eq_ok hid'
  obtain ⟨updated, t₁, hupdate, htell⟩ := bind_eq_ok.mp h
  rcases pending_of_updateWhere hupdate with ⟨rfl, rfl⟩ | ⟨row, row', hrow, ⟨⟩, rfl⟩
  · cases htell
    rfl
  · exact notices_of_notify (by rintro rfl; simp [noticed, hs, hid, hrow, hb, Except.toOption] at ha) hupdate htell

theorem treasuryVerdict_notices {status : TreasuryStatus} {type : NotificationType} {title : String}
    {message : Int → String} (hs : EventSymbol.ofSymbol? ev.symbol = some .tre_wait ∨
      EventSymbol.ofSymbol? ev.symbol = some .tre_rej)
    (h : treasuryVerdict status type title message ev t = .ok ((), t'))
    (ha : noticed ev t ≠ some a) : t'.notices a = t.notices a := by
  simp only [treasuryVerdict, lift_bind_eq_ok] at h
  obtain ⟨id, hid, id', hid', h⟩ := h
  obtain rfl := integer_eq_ok hid'
  obtain ⟨updated, t₁, hupdate, htell⟩ := bind_eq_ok.mp h
  rcases updateWhere_eq_ok hupdate with ⟨rfl, rfl, -⟩ | ⟨row, row', hrow, hp, ⟨⟩, rfl, -⟩
  · cases htell
    rfl
  · change t.treasury_proposals.lookup id' = some row at hrow
    have hpending : t.pendingTreasuryProposal id' = some row := by
      simpa [Tables.pendingTreasuryProposal, hrow] using hp
    refine notices_of_notify ?_ hupdate htell
    rintro rfl
    obtain hs | hs := hs <;> simp [noticed, hs, hid, hpending, Except.toOption] at ha

theorem tre_exec_notices (hs : EventSymbol.ofSymbol? ev.symbol = some .tre_exec) (h : tre_exec ev t = .ok ((), t'))
    (ha : noticed ev t ≠ some a) : t'.notices a = t.notices a := by
  simp only [tre_exec, lift_bind_eq_ok] at h
  obtain ⟨id, -, destination, hd, id', -, h⟩ := h
  obtain ⟨x, t₁, hupdate, h⟩ := bind_eq_ok.mp h
  simp only [lift_bind_eq_ok] at h
  obtain ⟨amount, -, htell⟩ := h
  exact notices_of_notify (by rintro rfl; simp [noticed, hs, hd, Except.toOption] at ha) hupdate htell

theorem committed_notices (hs : EventSymbol.ofSymbol? ev.symbol = some .committed)
    (h : committed ev t = .ok ((), t')) (ha : noticed ev t ≠ some a) : t'.notices a = t.notices a := by
  simp only [committed, lift_bind_eq_ok] at h
  obtain ⟨voter, hv, proposalId, -, htell⟩ := h
  exact notify_notices htell (by rintro rfl; simp [noticed, hs, hv, Except.toOption] at ha)

theorem loan_appr_notices (hs : EventSymbol.ofSymbol? ev.symbol = some .loan_appr)
    (h : loan_appr ev t = .ok ((), t')) (ha : noticed ev t ≠ some a) : t'.notices a = t.notices a := by
  obtain ⟨id, borrower, amount, due_time, principal, total, ⟨-, -, hb, -⟩, approved, t₁, happroved, -, isNew, t₂,
    hupsert, t₃, hlent, t₄, hactive, htell⟩ := loan_appr_steps h
  have hne : a ≠ borrower := by
    rintro rfl
    simp [noticed, hs, hb, Except.toOption] at ha
  rw [notices_of_notify hne hactive htell, Leaves.same (f := Tables.notices a) t₂ () t₃ hlent,
    Leaves.same (f := Tables.notices a) t₁ isNew t₂ hupsert,
    Leaves.same (f := Tables.notices a) t approved t₁ happroved]

theorem loan_rpy_notices (hs : EventSymbol.ofSymbol? ev.symbol = some .loan_rpy)
    (h : loan_rpy ev t = .ok ((), t')) (ha : noticed ev t ≠ some a) : t'.notices a = t.notices a := by
  obtain ⟨id, borrower, outstanding, ⟨-, -, hb, -⟩, upd, t₁, hupdate, t₂, hfold, t₃, hactive, htell⟩ :=
    loan_rpy_steps h
  have hne : a ≠ borrower := by
    rintro rfl
    simp [noticed, hs, hb, Except.toOption] at ha
  rw [notices_of_notify hne hactive htell, Leaves.same (f := Tables.notices a) t₁ () t₂ hfold,
    Leaves.same (f := Tables.notices a) t upd t₁ hupdate]

theorem loan_dflt_notices (hs : EventSymbol.ofSymbol? ev.symbol = some .loan_dflt)
    (h : loan_dflt ev t = .ok ((), t')) (ha : noticed ev t ≠ some a) : t'.notices a = t.notices a := by
  obtain ⟨id, borrower, penalty, ⟨hid, -, hb, -⟩, ⟨-, rfl⟩ | ⟨row, hrow, hstatus, t₁, rfl, t₂, htotals, t₃, hdaily, x,
    t₄, hmember, htell⟩⟩ := loan_dflt_steps h
  · rfl
  · have hstanding : t.standingLoan id = some row := by
      rw [Tables.standingLoan, hrow, Option.filter_some]
      simpa using hstatus
    have hne : a ≠ borrower := by
      rintro rfl
      simp [noticed, hs, hid, hstanding, hb, Except.toOption] at ha
    rw [notices_of_notify hne hmember htell, Leaves.same (f := Tables.notices a) t₂ () t₃ hdaily,
      Leaves.same (f := Tables.notices a) _ () t₂ htotals]
    rfl

theorem handler_notices {s : EventSymbol} (hs : EventSymbol.ofSymbol? ev.symbol = some s)
    {handler : DecodedEvent → Sql Unit} (hh : handlers s = some handler) (h : handler ev t = .ok ((), t'))
    (ha : noticed ev t ≠ some a) : t'.notices a = t.notices a := by
  cases s <;> cases hh
  case joined => exact joined_notices hs h ha
  case exited => exact exited_notices hs h ha
  case claimed => exact claimed_notices hs h ha
  case loan_req => exact loan_req_notices hs h ha
  case loan_wait => exact loanVerdict_notices (.inl hs) h ha
  case loan_rej => exact loanVerdict_notices (.inr hs) h ha
  case loan_appr => exact loan_appr_notices hs h ha
  case loan_rpy => exact loan_rpy_notices hs h ha
  case loan_dflt => exact loan_dflt_notices hs h ha
  case loan_exp => exact loan_exp_notices hs h ha
  case tre_wait => exact treasuryVerdict_notices (.inl hs) h ha
  case tre_rej => exact treasuryVerdict_notices (.inr hs) h ha
  case tre_exec => exact tre_exec_notices hs h ha
  case committed => exact committed_notices hs h ha
  case interest => exact interest_keeps (fun _ _ _ => rfl) h
  case doc_attn => exact doc_attn_keeps (fun _ _ _ => rfl) h
  case staked => exact Leaves.same (f := Tables.notices a) (m := setStake ev) t () t' h
  case unstaked => exact Leaves.same (f := Tables.notices a) (m := setStake ev) t () t' h
  case tre_vote => exact Leaves.same (f := Tables.notices a) (m := treasuryVote _ ev) t () t' h
  case revealed => exact Leaves.same (f := Tables.notices a) (m := treasuryVote _ ev) t () t' h
  all_goals exact Leaves.same (f := Tables.notices a) t () t' h

/-- **An event notifies the address that `noticed` names**, and no other. -/
theorem applyEvent_notices {channels : List StreamChannel} (h : applyEvent ev t = .ok (channels, t'))
    (ha : noticed ev t ≠ some a) : t'.notices a = t.notices a := by
  rcases applyEvent_handler h with ⟨-, rfl⟩ | ⟨s, handler, hs, hh, h⟩
  · rfl
  · exact handler_notices hs hh h ha

end

end OurDao
