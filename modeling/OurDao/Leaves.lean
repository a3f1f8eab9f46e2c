import OurDao.Faults
import OurDao.Handlers

/-!
# Statements that leave a part of the tables alone

A handler that touches one table of members, proposals or loans goes on with statements
on the others, on the totals and on the notifications. Such statements leave it as it was,
and so does the whole handler leave what it has no statement on.
-/

namespace OurDao

open Faults Sql

variable {τ α β κ ν : Type}

/-- Whatever `m` does, the part `f` of the tables stays as it was. -/
class Leaves (f : Tables → τ) (m : Sql α) : Prop where
  same : ∀ t a t', m t = .ok (a, t') → f t' = f t

/-- A part that no row of the relation belongs to. -/
class Apart (f : Tables → τ) (r : Relation κ ν) : Prop where
  same : ∀ x t, f (r.set x t) = f t

/-- A part of the rows of members, proposals and loans. -/
class OfRows (f : Tables → τ) : Prop where
  same : ∀ s t : Tables, s.members = t.members → s.loan_proposals = t.loan_proposals → s.loans = t.loans →
    s.treasury_proposals = t.treasury_proposals → f s = f t

/-- A part without the notifications. -/
class ApartFromNotifications (f : Tables → τ) : Prop where
  same : ∀ x n t, f { t with notifications := x, sequences := { t.sequences with notifications := n } } = f t

/-- A part without the running totals. -/
class ApartFromTotals (f : Tables → τ) : Prop where
  dao_totals : ∀ x t, f { t with dao_totals := x } = f t
  daily_loan_stats : ∀ x t, f { t with daily_loan_stats := x } = f t

/-- A part without members, proposals and notifications, which most handlers write. -/
class ApartFromMost (f : Tables → τ) : Prop where
  members : ∀ x t, f (members.set x t) = f t
  loan_proposals : ∀ x t, f (loan_proposals.set x t) = f t
  treasury_proposals : ∀ x t, f (treasury_proposals.set x t) = f t
  notifications : ∀ x n t,
    f { t with notifications := x, sequences := { t.sequences with notifications := n } } = f t

instance : OfRows Tables.members := ⟨fun _ _ h _ _ _ => h⟩
instance : OfRows Tables.loan_proposals := ⟨fun _ _ _ h _ _ => h⟩
instance : OfRows Tables.treasury_proposals := ⟨fun _ _ _ _ _ h => h⟩

instance : Apart Tables.members loan_proposals := ⟨fun _ _ => rfl⟩
instance : Apart Tables.members loans := ⟨fun _ _ => rfl⟩
instance : Apart Tables.loan_proposals members := ⟨fun _ _ => rfl⟩
instance : Apart Tables.loan_proposals loans := ⟨fun _ _ => rfl⟩

section

variable {f : Tables → τ}

instance [hf : OfRows f] : ApartFromNotifications f := ⟨fun _ _ _ => hf.same _ _ rfl rfl rfl rfl⟩

instance [hf : OfRows f] : ApartFromTotals f where
  dao_totals _ _ := hf.same _ _ rfl rfl rfl rfl
  daily_loan_stats _ _ := hf.same _ _ rfl rfl rfl rfl

variable [hf : ApartFromMost f]

instance : Apart f members := ⟨hf.members⟩
instance : Apart f loan_proposals := ⟨hf.loan_proposals⟩
instance : Apart f treasury_proposals := ⟨hf.treasury_proposals⟩
instance : ApartFromNotifications f := ⟨hf.notifications⟩

end

namespace Leaves

variable [DecidableEq κ] {f : Tables → τ}

instance (a : α) : Leaves f (pure a : Sql α) := ⟨fun _ _ _ h => by cases h; rfl⟩

instance (m : Sql α) (g : α → Sql β) [hm : Leaves f m] [hg : ∀ a, Leaves f (g a)] : Leaves f (m >>= g) where
  same t b t' h := by
    obtain ⟨a, t₁, h₁, h₂⟩ := bind_eq_ok.mp h
    rw [(hg a).same t₁ b t' h₂, hm.same t a t₁ h₁]

/-- The rest of a handler by cases on what a statement returns. -/
theorem andThen {m : Sql α} {g : α → Sql β} [Leaves f m] (hg : ∀ a, Leaves f (g a)) : Leaves f (m >>= g) :=
  inferInstance

instance (x : Except String α) : Leaves f (lift x) where
  same t a t' h := by
    cases x <;> cases h
    rfl

instance (p : Prop) [Decidable p] (m m' : Sql α) [Leaves f m] [Leaves f m'] :
    Leaves f (if p then m else m') := by
  split <;> assumption

instance (r : Relation κ ν) (k : κ) : Leaves f (select r k) := ⟨fun _ _ _ h => by cases h; rfl⟩

section

variable (r : Relation κ ν) [hr : Apart f r] (k : κ)

instance (row : ν) : Leaves f (write r k row) where
  same t a t' h := by
    cases h
    exact hr.same _ t

instance (p : ν → Bool) (g : ν → Except String ν) : Leaves f (updateWhere r k p g) := by
  rw [updateWhere]
  refine andThen fun row => ?_
  cases row <;> infer_instance

instance (g : ν → Except String ν) : Leaves f (Sql.update r k g) := by
  rw [Sql.update]
  infer_instance

instance (row : ν) (g : ν → ν) : Leaves f (upsert r k row g) := by
  rw [upsert]
  refine andThen fun old => ?_
  cases old <;> infer_instance

end

section

variable [hf : ApartFromTotals f]

instance (delta : DaoTotals) : Leaves f (addTotals delta) where
  same t a t' h := by
    simp only [addTotals] at h
    split at h <;> cases h
    exact hf.dao_totals _ t

instance (day : Int) (delta : DailyLoanStats) : Leaves f (addDaily day delta) where
  same t a t' h := by
    simp only [addDaily] at h
    split at h <;> cases h
    exact hf.daily_loan_stats _ t

instance (ev : DecodedEvent) (deltas : DailyLoanStats) : Leaves f (incrementDailyLoanStats ev deltas) := by
  rw [incrementDailyLoanStats]
  infer_instance

instance (ev : DecodedEvent) (repaid : Bool) (prev upd : Option LoanRow) :
    Leaves f (foldPrincipalRepaid ev repaid prev upd) := by
  rw [foldPrincipalRepaid.eq_def]
  split <;> infer_instance

end

section

variable [hf : ApartFromNotifications f] (ev : DecodedEvent)

instance (eventId address : String) (row : Nat → NotificationRow) :
    Leaves f (insertNotification eventId address row) where
  same t a t' h := by
    cases h
    dsimp only
    split
    · exact hf.same t.notifications _ t
    · exact hf.same _ _ t

instance (address : String) (type : NotificationType) (title message : String) :
    Leaves f (notify ev address type title message) := by
  rw [notify]
  infer_instance

instance : Leaves f (committed ev) := by rw [committed]; infer_instance

end

section

variable [OfRows f] (ev : DecodedEvent)

instance (eventId : String) (row : Nat → InterestRow) : Leaves f (insertInterest eventId row) where
  same t a t' h := by
    rw [insertInterest] at h
    split at h <;> cases h <;> exact OfRows.same _ _ rfl rfl rfl rfl

instance (eventId : String) (row : Nat → DocumentRow) : Leaves f (insertDocument eventId row) where
  same t a t' h := by
    cases h
    dsimp only
    split <;> exact OfRows.same _ _ rfl rfl rfl rfl

instance : Leaves f (interest ev) := by rw [interest]; infer_instance
instance : Leaves f (doc_attn ev) := by rw [doc_attn]; infer_instance

end

section

variable [Apart f members] (ev : DecodedEvent)

instance (borrower : String) (active : Bool) : Leaves f (setActiveLoan borrower active) := by
  rw [setActiveLoan]
  infer_instance

instance : Leaves f (setStake ev) := by rw [setStake]; infer_instance
instance : Leaves f (staked ev) := by rw [staked]; infer_instance
instance : Leaves f (unstaked ev) := by rw [unstaked]; infer_instance
instance : Leaves f (name_reg ev) := by rw [name_reg]; infer_instance

variable [ApartFromNotifications f]

instance : Leaves f (joined ev) := by rw [joined]; infer_instance
instance : Leaves f (exited ev) := by rw [exited]; infer_instance
instance : Leaves f (claimed ev) := by rw [claimed]; infer_instance

end

section

variable [Apart f loan_proposals] (ev : DecodedEvent)

instance : Leaves f (loan_edit ev) := by rw [loan_edit]; infer_instance
instance : Leaves f (loan_vote ev) := by rw [loan_vote]; infer_instance

variable [ApartFromNotifications f]

instance : Leaves f (loan_req ev) := by rw [loan_req]; infer_instance

instance (type : NotificationType) (title : String) (message : Int → String) (status : ProposalStatus) :
    Leaves f (loanVerdict status type title message ev) := by
  rw [loanVerdict]
  refine andThen fun id => andThen fun id => andThen fun updated => ?_
  cases updated <;> infer_instance

instance : Leaves f (loan_wait ev) := by rw [loan_wait]; infer_instance
instance : Leaves f (loan_rej ev) := by rw [loan_rej]; infer_instance

instance : Leaves f (loan_exp ev) := by
  rw [loan_exp]
  refine andThen fun id => andThen fun borrower => andThen fun id => andThen fun updated => ?_
  cases updated <;> infer_instance

end

section

variable [Apart f treasury_proposals] (ev : DecodedEvent)

instance : Leaves f (tre_prop ev) := by rw [tre_prop]; infer_instance
instance (idField : String) : Leaves f (treasuryVote idField ev) := by rw [treasuryVote]; infer_instance
instance : Leaves f (tre_vote ev) := by rw [tre_vote]; infer_instance
instance : Leaves f (revealed ev) := by rw [revealed]; infer_instance

variable [ApartFromNotifications f]

instance : Leaves f (tre_exec ev) := by rw [tre_exec]; infer_instance

instance (type : NotificationType) (title : String) (message : Int → String) (status : TreasuryStatus) :
    Leaves f (treasuryVerdict status type title message ev) := by
  rw [treasuryVerdict]
  refine andThen fun id => andThen fun id => andThen fun updated => ?_
  cases updated <;> infer_instance

instance : Leaves f (tre_wait ev) := by rw [tre_wait]; infer_instance
instance : Leaves f (tre_rej ev) := by rw [tre_rej]; infer_instance

end

section

variable [ApartFromMost f] (ev : DecodedEvent)

/-- Every handler but the four that keep the books and the one of documents. -/
theorem handlers {s : EventSymbol} {handler : DecodedEvent → Sql Unit} (hh : OurDao.handlers s = some handler)
    (happr : s ≠ .loan_appr) (hrpy : s ≠ .loan_rpy) (hdflt : s ≠ .loan_dflt) (hint : s ≠ .interest)
    (hdoc : s ≠ .doc_attn) : Leaves f (handler ev) := by
  cases s <;> cases hh
  case loan_appr | loan_rpy | loan_dflt | interest | doc_attn => contradiction
  all_goals infer_instance

/-- A loan handler, for a reader of neither loans nor totals. -/
theorem loanHandlers [Apart f loans] [ApartFromTotals f] :
    Leaves f (loan_appr ev) ∧ Leaves f (loan_rpy ev) ∧ Leaves f (loan_dflt ev) := by
  refine ⟨?_, ?_, ?_⟩
  · rw [loan_appr]
    refine andThen fun id => andThen fun borrower => andThen fun amount => andThen fun id => andThen fun _ => ?_
    refine andThen fun proposal => andThen fun due_time => andThen fun principal => andThen fun total => ?_
    refine andThen fun is_new => ?_
    dsimp only
    infer_instance
  · rw [loan_rpy]
    infer_instance
  · rw [loan_dflt]
    refine andThen fun id => andThen fun borrower => andThen fun penalty => andThen fun id => ?_
    refine andThen fun updated => ?_
    cases updated <;> infer_instance

/-- Every handler but `interest` and `doc_attn`, for a reader of neither loans nor totals. -/
theorem otherHandlers [Apart f loans] [ApartFromTotals f] {s : EventSymbol} {handler : DecodedEvent → Sql Unit}
    (hh : OurDao.handlers s = some handler) (hint : s ≠ .interest) (hdoc : s ≠ .doc_attn) :
    Leaves f (handler ev) := by
  obtain ⟨happr, hrpy, hdflt⟩ := @loanHandlers _ f _ ev _ _
  by_cases hs : s = .loan_appr ∨ s = .loan_rpy ∨ s = .loan_dflt
  · rcases hs with rfl | rfl | rfl <;> cases hh <;> assumption
  · rw [not_or, not_or] at hs
    exact handlers ev hh hs.1 hs.2.1 hs.2.2 hint hdoc

end

end Leaves

/-- An event does what its handler does, if it has one. -/
theorem applyEvent_handler {ev : DecodedEvent} {t t' : Tables} {channels : List StreamChannel}
    (h : applyEvent ev t = .ok (channels, t')) :
    ((∀ s, EventSymbol.ofSymbol? ev.symbol = some s → handlers s = none) ∧ t' = t) ∨
      ∃ s handler, EventSymbol.ofSymbol? ev.symbol = some s ∧ handlers s = some handler ∧
        handler ev t = .ok ((), t') := by
  rw [applyEvent] at h
  rcases hs : EventSymbol.ofSymbol? ev.symbol with _ | s
  · simp only [hs, Option.bind_none] at h
    cases h
    exact .inl ⟨nofun, rfl⟩
  rcases hh : handlers s with _ | handler <;> simp only [hs, Option.bind_some, hh] at h
  · cases h
    refine .inl ⟨fun s' hs' => ?_, rfl⟩
    cases hs'
    exact hh
  · obtain ⟨u, t₁, h, hret⟩ := bind_eq_ok.mp h
    cases hret
    exact .inr ⟨s, handler, rfl, hh, h⟩

end OurDao
