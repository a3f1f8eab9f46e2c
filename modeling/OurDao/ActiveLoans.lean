import OurDao.Leaves
import OurDao.Proposals

/-!
# Members and their loans

Whether a member has an active loan is written down twice: in the row of the member, by
five handlers, and in the status of the loans, by three. The tables are reduced to a
register of these facts, which every event changes by one act; what the contract admits
keeps the register in agreement with itself.
-/

namespace OurDao

open Faults Sql

/-- What the row of a member says about the membership. -/
structure MemberStanding where
  joined : Bool
  exited : Bool
  share : Bool
  left : Bool
  indebted : Bool
  deriving DecidableEq, Repr

def MemberRow.standing (row : MemberRow) : MemberStanding where
  joined := row.joined_ledger.isSome
  exited := row.exited
  share := row.exit_share.isSome
  left := row.exited_ledger.isSome
  indebted := row.has_active_loan

/-- The standing of every member, and the borrower and status of every loan. -/
structure Register where
  standing : String → Option MemberStanding
  loan : Int → Option (String × LoanStatus)

def LoanRow.entry (row : LoanRow) : String × LoanStatus := (row.borrower, row.status)

def Tables.register (t : Tables) : Register where
  standing a := (t.members.lookup a).map MemberRow.standing
  loan id := (t.loans.lookup id).map LoanRow.entry

/-- What an event does to members and loans. -/
inductive Act where
  | joins (member : String)
  | exits (member : String)
  | lends (loan : Int) (borrower : String)
  | repays (loan : Int) (borrower : String) (cleared : Bool)
  | defaults (loan : Int) (borrower : String)
  deriving DecidableEq, Repr

/-- The act of an event. The contract publishes integers, so that nothing outstanding reads `0`. -/
def act? (ev : DecodedEvent) : Option Act :=
  match EventSymbol.ofSymbol? ev.symbol with
  | some .joined => (requireAddr ev "member").toOption.map .joins
  | some .exited => (requireAddr ev "member").toOption.map .exits
  | some .loan_appr =>
    match requireId ev "id", requireAddr ev "borrower" with
    | .ok id, .ok borrower => some (.lends id borrower)
    | _, _ => none
  | some .loan_rpy =>
    match requireId ev "loan_id", requireAddr ev "borrower", requireAmount ev "outstanding" with
    | .ok id, .ok borrower, .ok outstanding => some (.repays id borrower (outstanding.text = "0"))
    | _, _, _ => none
  | some .loan_dflt =>
    match requireId ev "loan_id", requireAddr ev "borrower" with
    | .ok id, .ok borrower => some (.defaults id borrower)
    | _, _ => none
  | _ => none

def MemberStanding.fresh : MemberStanding := ⟨true, false, false, false, false⟩

def MemberStanding.exit (s : MemberStanding) : MemberStanding :=
  { s with exited := true, share := true, left := true, indebted := false }

namespace Register

/-- Put a member with this standing. -/
def enroll (r : Register) (a : String) (s : MemberStanding) : Register :=
  { r with standing := fun b => if b = a then some s else r.standing b }

def change (r : Register) (a : String) (f : MemberStanding → MemberStanding) : Register :=
  { r with standing := fun b => if b = a then (r.standing a).map f else r.standing b }

def setLoan (r : Register) (id : Int) (entry : String × LoanStatus) : Register :=
  { r with loan := fun i => if i = id then some entry else r.loan i }

def setIndebted (r : Register) (a : String) (b : Bool) : Register :=
  r.change a fun s => { s with indebted := b }

/-- The register after an act. -/
def apply (r : Register) : Act → Register
  | .joins a => r.enroll a .fresh
  | .exits a => r.change a MemberStanding.exit
  | .lends id a => (r.setLoan id (((r.loan id).map Prod.fst).getD a, .active)).setIndebted a true
  | .repays id a cleared =>
    let r := match r.loan id with
      | some (borrower, _) => r.setLoan id (borrower, if cleared then .repaid else .active)
      | none => r
    if cleared then r.setIndebted a false else r
  | .defaults id a =>
    match r.loan id with
    | some (borrower, status) =>
      if status = .defaulted then r else (r.setLoan id (borrower, .defaulted)).setIndebted a false
    | none => r

def after (r : Register) : Option Act → Register
  | some act => r.apply act
  | none => r

@[ext] theorem ext {r r' : Register} (hs : ∀ a, r.standing a = r'.standing a) (hl : ∀ id, r.loan id = r'.loan id) :
    r = r' := by
  cases r
  cases r'
  simp only [mk.injEq]
  exact ⟨funext hs, funext hl⟩

theorem change_id (r : Register) (a : String) : r.change a id = r := by
  ext b
  · simp only [change]
    split <;> simp_all
  · rfl

end Register

instance : OfRows Tables.register where
  same s t hm _ hl _ := by rw [Tables.register, Tables.register, hm, hl]

instance : Apart Tables.register loan_proposals := ⟨fun _ _ => rfl⟩
instance : Apart Tables.register treasury_proposals := ⟨fun _ _ => rfl⟩

section

variable {ev : DecodedEvent} {t t' : Tables}

theorem register_insert_member (t : Tables) (a : String) (row : MemberRow) :
    (members.set (t.members.insert a row) t).register = t.register.enroll a row.standing := by
  ext b
  · by_cases hb : b = a
    · subst hb
      simp [Tables.register, Register.enroll, members, AList.lookup_insert]
    · simp [Tables.register, Register.enroll, members, hb, AList.lookup_insert_ne hb]
  · rfl

theorem register_insert_loan (t : Tables) (id : Int) (row : LoanRow) :
    (loans.set (t.loans.insert id row) t).register = t.register.setLoan id row.entry := by
  ext i
  · rfl
  · by_cases hi : i = id
    · subst hi
      simp [Tables.register, Register.setLoan, loans, AList.lookup_insert]
    · simp [Tables.register, Register.setLoan, loans, hi, AList.lookup_insert_ne hi]

/-- An update of a member changes the standing as the rewrite of the row does. -/
theorem register_update_member {a : String} {f : MemberRow → Except String MemberRow} {x : Option MemberRow}
    (h : Sql.update members a f t = .ok (x, t')) {g : MemberStanding → MemberStanding}
    (hf : ∀ row row', f row = .ok row' → row'.standing = g row.standing) :
    t'.register = t.register.change a g := by
  rcases update_eq_ok.mp ⟨x, h⟩ with ⟨hnone, rfl⟩ | ⟨row, row', hrow, hrow', rfl⟩
  · change t'.members.lookup a = none at hnone
    ext b
    · by_cases hb : b = a
      · simp [Register.change, Tables.register, hb, hnone]
      · simp [Register.change, hb]
    · rfl
  · change t.members.lookup a = some row at hrow
    refine (register_insert_member t a row').trans ?_
    ext b
    · simp [Register.enroll, Register.change, Tables.register, hrow, hf row row' hrow']
    · rfl

theorem register_setActiveLoan {a : String} {active : Bool} (h : setActiveLoan a active t = .ok ((), t')) :
    t'.register = t.register.setIndebted a active := by
  obtain ⟨x, t₁, hupdate, ⟨⟩⟩ := bind_eq_ok.mp h
  refine register_update_member hupdate fun row row' hrow => ?_
  cases hrow
  rfl

theorem joined_register (hs : EventSymbol.ofSymbol? ev.symbol = some .joined) (h : joined ev t = .ok ((), t')) :
    t'.register = t.register.after (act? ev) := by
  simp only [joined, lift_bind_eq_ok] at h
  obtain ⟨member, hm, fee, -, contribution, -, h⟩ := h
  obtain ⟨isNew, t₁, hupsert, htell⟩ := bind_eq_ok.mp h
  have hact : act? ev = some (.joins member) := by simp [act?, hs, hm, Except.toOption]
  rw [hact, Leaves.same (f := Tables.register) t₁ () t' htell]
  rcases upsert_eq_ok hupsert with ⟨-, -, rfl⟩ | ⟨old, -, -, rfl⟩
  · exact register_insert_member t member _
  · exact register_insert_member t member _

theorem exited_register (hs : EventSymbol.ofSymbol? ev.symbol = some .exited) (h : exited ev t = .ok ((), t')) :
    t'.register = t.register.after (act? ev) := by
  simp only [exited, lift_bind_eq_ok] at h
  obtain ⟨member, hm, share, -, h⟩ := h
  obtain ⟨x, t₁, hupdate, htell⟩ := bind_eq_ok.mp h
  have hact : act? ev = some (.exits member) := by simp [act?, hs, hm, Except.toOption]
  rw [hact, Leaves.same (f := Tables.register) t₁ () t' htell]
  refine register_update_member hupdate fun row row' hrow => ?_
  obtain ⟨-, ⟨⟩⟩ := numeric_bind_eq_ok.mp hrow
  rfl

theorem claimed_register (h : claimed ev t = .ok ((), t')) : t'.register = t.register := by
  simp only [claimed, lift_bind_eq_ok] at h
  obtain ⟨member, -, pending, -, h⟩ := h
  obtain ⟨x, t₁, hupdate, htell⟩ := bind_eq_ok.mp h
  rw [Leaves.same (f := Tables.register) t₁ () t' htell, ← Register.change_id t.register member]
  refine register_update_member hupdate fun row row' hrow => ?_
  obtain ⟨-, ⟨⟩⟩ := numeric_bind_eq_ok.mp hrow
  rfl

theorem setStake_register (h : setStake ev t = .ok ((), t')) : t'.register = t.register := by
  simp only [setStake, lift_bind_eq_ok] at h
  obtain ⟨member, -, stake, -, h⟩ := h
  obtain ⟨x, t₁, hupdate, ⟨⟩⟩ := bind_eq_ok.mp h
  rw [← Register.change_id t.register member]
  refine register_update_member hupdate fun row row' hrow => ?_
  obtain ⟨-, ⟨⟩⟩ := numeric_bind_eq_ok.mp hrow
  rfl

theorem name_reg_register (h : name_reg ev t = .ok ((), t')) : t'.register = t.register := by
  simp only [name_reg, lift_bind_eq_ok] at h
  obtain ⟨owner, -, name, -, h⟩ := h
  obtain ⟨x, t₁, hupdate, ⟨⟩⟩ := bind_eq_ok.mp h
  rw [← Register.change_id t.register owner]
  refine register_update_member hupdate fun row row' hrow => ?_
  cases hrow
  rfl

theorem loan_appr_register (hs : EventSymbol.ofSymbol? ev.symbol = some .loan_appr)
    (h : loan_appr ev t = .ok ((), t')) : t'.register = t.register.after (act? ev) := by
  obtain ⟨id, borrower, amount, due_time, principal, total, ⟨hid, -, hb, -⟩, approved, t₁, happroved, -, isNew, t₂,
    hupsert, t₃, hlent, t₄, hactive, htell⟩ := loan_appr_steps h
  have hact : act? ev = some (.lends id borrower) := by simp [act?, hs, hid, hb]
  have hloan : t₂.register =
        t.register.setLoan id (((t.register.loan id).map Prod.fst).getD borrower, .active) := by
    rw [← Leaves.same (f := Tables.register) t approved t₁ happroved]
    rcases upsert_eq_ok hupsert with ⟨hnone, -, rfl⟩ | ⟨old, hold, -, rfl⟩
    · change t₁.loans.lookup id = none at hnone
      refine (register_insert_loan t₁ id _).trans ?_
      simp [Tables.register, hnone, LoanRow.entry]
    · change t₁.loans.lookup id = some old at hold
      refine (register_insert_loan t₁ id _).trans ?_
      simp [Tables.register, hold, LoanRow.entry]
  rw [hact, Register.after, Register.apply, ← hloan, Leaves.same (f := Tables.register) t₄ () t' htell,
    register_setActiveLoan hactive, Leaves.same (f := Tables.register) t₂ () t₃ hlent]

theorem loan_rpy_register (hs : EventSymbol.ofSymbol? ev.symbol = some .loan_rpy)
    (h : loan_rpy ev t = .ok ((), t')) : t'.register = t.register.after (act? ev) := by
  obtain ⟨id, borrower, outstanding, ⟨hid, -, hb, hout⟩, upd, t₁, hupdate, t₂, hfold, t₃, hactive, htell⟩ :=
    loan_rpy_steps h
  have hact : act? ev = some (.repays id borrower (outstanding.text = "0")) := by simp [act?, hs, hid, hb, hout]
  have hloan : t₂.register = match t.register.loan id with
      | some (b, _) => t.register.setLoan id (b, if outstanding.text = "0" then .repaid else .active)
      | none => t.register := by
    rw [Leaves.same (f := Tables.register) t₁ () t₂ hfold]
    rcases update_afterRepayment hupdate with ⟨hnone, -, rfl⟩ | ⟨row, hrow, -, rfl⟩
    · simp [Tables.register, hnone]
    · refine (register_insert_loan t id _).trans ?_
      simp [Tables.register, hrow, LoanRow.entry, LoanRow.afterRepayment]
  rw [hact, Register.after, Register.apply, Leaves.same (f := Tables.register) t₃ () t' htell]
  by_cases hrepaid : outstanding.text = "0"
  · simp only [hrepaid, decide_true, if_true] at hactive hloan ⊢
    rw [register_setActiveLoan hactive, hloan]
  · simp only [hrepaid, decide_false, Bool.false_eq_true, if_false] at hactive hloan ⊢
    cases hactive
    exact hloan

theorem loan_dflt_register (hs : EventSymbol.ofSymbol? ev.symbol = some .loan_dflt)
    (h : loan_dflt ev t = .ok ((), t')) : t'.register = t.register.after (act? ev) := by
  obtain ⟨id, borrower, penalty, ⟨hid, -, hb, -⟩, hsteps⟩ := loan_dflt_steps h
  have hact : act? ev = some (.defaults id borrower) := by simp [act?, hs, hid, hb]
  rw [hact, Register.after, Register.apply]
  obtain ⟨hdefaulted, rfl⟩ | ⟨row, hrow, hstatus, t₁, rfl, t₂, htotals, t₃, hdaily, x, t₄, hmember, htell⟩ := hsteps
  · cases hlookup : t'.loans.lookup id with
    | none => simp [Tables.register, hlookup]
    | some row => simp [Tables.register, hlookup, LoanRow.entry, hdefaulted row hlookup]
  · have hindebted : t₄.register = t₃.register.setIndebted borrower false := by
      refine register_update_member hmember fun row row' hrow => ?_
      obtain ⟨-, -, ⟨⟩⟩ := integer_bind_eq_ok.mp hrow
      rfl
    rw [Leaves.same (f := Tables.register) t₄ () t' htell, hindebted,
      Leaves.same (f := Tables.register) t₂ () t₃ hdaily, Leaves.same (f := Tables.register) _ () t₂ htotals]
    have hentry : t.register.loan id = some (row.borrower, row.status) := by
      simp [Tables.register, hrow, LoanRow.entry]
    simp only [hentry, if_neg hstatus]
    exact congrArg (Register.setIndebted · borrower false) (register_insert_loan t id _)

theorem handler_register {s : EventSymbol} (hs : EventSymbol.ofSymbol? ev.symbol = some s)
    {handler : DecodedEvent → Sql Unit} (hh : handlers s = some handler) (h : handler ev t = .ok ((), t')) :
    t'.register = t.register.after (act? ev) := by
  have hnone (hact : act? ev = none) (hsame : t'.register = t.register) :
      t'.register = t.register.after (act? ev) := by rw [hact, hsame, Register.after]
  have hleft (hact : act? ev = none) (hl : Leaves Tables.register (handler ev)) :
      t'.register = t.register.after (act? ev) := hnone hact (hl.same t () t' h)
  cases s <;> cases hh
  case joined => exact joined_register hs h
  case exited => exact exited_register hs h
  case loan_appr => exact loan_appr_register hs h
  case loan_rpy => exact loan_rpy_register hs h
  case loan_dflt => exact loan_dflt_register hs h
  case claimed => exact hnone (by simp [act?, hs]) (claimed_register h)
  case staked => exact hnone (by simp [act?, hs]) (setStake_register h)
  case unstaked => exact hnone (by simp [act?, hs]) (setStake_register h)
  case name_reg => exact hnone (by simp [act?, hs]) (name_reg_register h)
  all_goals exact hleft (by simp [act?, hs]) inferInstance

/-- **Every event is an act on the register**, or leaves it as it is. -/
theorem applyEvent_register {channels : List StreamChannel} (h : applyEvent ev t = .ok (channels, t')) :
    t'.register = t.register.after (act? ev) := by
  rcases applyEvent_handler h with ⟨hnone, rfl⟩ | ⟨s, handler, hs, hh, h⟩
  · cases hs : EventSymbol.ofSymbol? ev.symbol with
    | none => simp [act?, hs, Register.after]
    | some s =>
      have hh := hnone s hs
      cases s <;> cases hh <;> simp [act?, hs, Register.after]
  · exact handler_register hs hh h

end

/-- The state of the contract: the current members, the ids of all loans so far, and the active loans with
their borrowers. -/
structure Contract where
  members : List String := []
  lent : List Int := []
  active : List (Int × String) := []

namespace Contract

def apply (c : Contract) : Act → Contract
  | .joins a => { c with members := a :: c.members }
  | .exits a => { c with members := c.members.filter (· ≠ a) }
  | .lends id a => { c with lent := id :: c.lent, active := (id, a) :: c.active }
  | .repays id _ cleared => if cleared then { c with active := c.active.filter (·.1 ≠ id) } else c
  | .defaults id _ => { c with active := c.active.filter (·.1 ≠ id) }

/-- The address has no active loan. -/
def Clear (c : Contract) (a : String) : Prop := ∀ l ∈ c.active, l.2 ≠ a

instance (c : Contract) (a : String) : Decidable (c.Clear a) := inferInstanceAs (Decidable (∀ l ∈ c.active, _))

/-- Whether the contract lets an act happen. -/
def Admits (c : Contract) : Act → Prop
  | .joins a => a ∉ c.members
  | .exits a => a ∈ c.members ∧ c.Clear a
  | .lends id a => id ∉ c.lent ∧ a ∈ c.members ∧ c.Clear a
  | .repays id a _ => (id, a) ∈ c.active
  | .defaults id a => (id, a) ∈ c.active

instance (c : Contract) (act : Act) : Decidable (c.Admits act) := by
  cases act <;> rw [Admits] <;> infer_instance

/-- The acts among the events are admitted one after the other. -/
def Emits (c : Contract) : List DecodedEvent → Prop
  | [] => True
  | ev :: evs =>
    match act? ev with
    | none => c.Emits evs
    | some act => c.Admits act ∧ (c.apply act).Emits evs

instance decidableEmits (c : Contract) : (evs : List DecodedEvent) → Decidable (c.Emits evs)
  | [] => Decidable.isTrue trivial
  | ev :: evs => by
    rw [Emits]
    cases act? ev with
    | none => exact decidableEmits c evs
    | some act =>
      have := decidableEmits (c.apply act) evs
      exact inferInstanceAs (Decidable (_ ∧ _))

/-- The register says of members and loans what the contract does, and the two ways to say that a member has
an active loan agree. -/
structure Agrees (c : Contract) (r : Register) : Prop where
  lent : ∀ id entry, r.loan id = some entry → id ∈ c.lent
  active : ∀ id a, r.loan id = some (a, .active) ↔ (id, a) ∈ c.active
  single : ∀ l ∈ c.active, ∀ l' ∈ c.active, l.2 = l'.2 → l.1 = l'.1
  debtors : ∀ l ∈ c.active, l.2 ∈ c.members
  members : ∀ a ∈ c.members, ∃ s, r.standing a = some s ∧ s.exited = false
  rows : ∀ a s, r.standing a = some s → s.joined = true ∧ s.share = s.exited ∧ s.left = s.exited ∧
    (s.exited = false → a ∈ c.members) ∧ (s.indebted = true ↔ ∃ id, (id, a) ∈ c.active)

theorem agrees_empty : Agrees {} Tables.empty.register where
  lent _ _ h := by cases h
  active _ _ := by simp [Tables.register, Tables.empty]
  single _ h := by cases h
  debtors _ h := by cases h
  members _ h := by cases h
  rows _ _ h := by cases h

variable {c : Contract} {r : Register}

theorem Agrees.joins (h : Agrees c r) {a : String} (ha : c.Admits (.joins a)) :
    Agrees (c.apply (.joins a)) (r.apply (.joins a)) where
  lent := h.lent
  active := h.active
  single := h.single
  debtors l hl := List.mem_cons_of_mem _ (h.debtors l hl)
  members b hb := by
    by_cases hab : b = a
    · exact ⟨.fresh, by simp [Register.apply, Register.enroll, hab], rfl⟩
    · obtain ⟨s, hs, hin⟩ := h.members b ((List.mem_cons.mp hb).resolve_left hab)
      exact ⟨s, by simp [Register.apply, Register.enroll, hab, hs], hin⟩
  rows b s hs := by
    by_cases hab : b = a
    · subst hab
      obtain rfl : MemberStanding.fresh = s := by simpa [Register.apply, Register.enroll] using hs
      refine ⟨rfl, rfl, rfl, fun _ => List.mem_cons_self, ?_⟩
      -- who is no member has no active loan
      have hnone : ¬ ∃ id, (id, b) ∈ c.active := fun ⟨id, hid⟩ => ha (h.debtors _ hid)
      simpa [MemberStanding.fresh, apply] using hnone
    · obtain ⟨hjoined, hshare, hleft, hin, hdebt⟩ :=
          h.rows b s (by simpa [Register.apply, Register.enroll, hab] using hs)
      exact ⟨hjoined, hshare, hleft, fun he => List.mem_cons_of_mem _ (hin he), hdebt⟩

theorem Agrees.exits (h : Agrees c r) {a : String} (ha : c.Admits (.exits a)) :
    Agrees (c.apply (.exits a)) (r.apply (.exits a)) where
  lent := h.lent
  active := h.active
  single := h.single
  debtors l hl := by
    have hne := ha.2 l hl
    simp [apply, hne, h.debtors l hl]
  members b hb := by
    simp only [apply, List.mem_filter, decide_eq_true_eq] at hb
    obtain ⟨s, hs, hin⟩ := h.members b hb.1
    exact ⟨s, by simp [Register.apply, Register.change, hb.2, hs], hin⟩
  rows b s hs := by
    by_cases hab : b = a
    · subst hab
      obtain ⟨s', hs', rfl⟩ : ∃ s', r.standing b = some s' ∧ s'.exit = s := by
        simpa [Register.apply, Register.change] using hs
      obtain ⟨hjoined, -⟩ := h.rows b s' hs'
      refine ⟨hjoined, rfl, rfl, (fun he => by cases he), ?_⟩
      have hnone : ¬ ∃ id, (id, b) ∈ c.active := fun ⟨id, hid⟩ => ha.2 _ hid rfl
      simpa [MemberStanding.exit, apply] using hnone
    · obtain ⟨hjoined, hshare, hleft, hin, hdebt⟩ :=
          h.rows b s (by simpa [Register.apply, Register.change, hab] using hs)
      refine ⟨hjoined, hshare, hleft, fun he => ?_, hdebt⟩
      simp [apply, hab, hin he]

theorem Register.standing_setIndebted {a b : String} {flag : Bool} {s : MemberStanding} :
    (r.setIndebted a flag).standing b = some s ↔
      ∃ s', r.standing b = some s' ∧ s = if b = a then { s' with indebted := flag } else s' := by
  by_cases hab : b = a
  · subst hab
    simp [Register.setIndebted, Register.change, eq_comm]
  · simp [Register.setIndebted, Register.change, hab]

theorem Agrees.members_setIndebted (h : Agrees c r) {a b : String} {flag : Bool} (hb : b ∈ c.members) :
    ∃ s, (r.setIndebted a flag).standing b = some s ∧ s.exited = false := by
  obtain ⟨s, hs, hin⟩ := h.members b hb
  refine ⟨_, Register.standing_setIndebted.mpr ⟨s, hs, rfl⟩, ?_⟩
  split
  next => exact hin
  next => exact hin

/-- The flag of one member is set to what the contract says of him, and his are the only loans to change. -/
theorem Agrees.rows_setIndebted (h : Agrees c r) (c' : Contract) {a : String} {flag : Bool}
    (hmembers : c'.members = c.members) (hown : flag = true ↔ ∃ id, (id, a) ∈ c'.active)
    (hothers : ∀ b, b ≠ a → ∀ id, (id, b) ∈ c'.active ↔ (id, b) ∈ c.active) {b : String} {s : MemberStanding}
    (hs : (r.setIndebted a flag).standing b = some s) :
    s.joined = true ∧ s.share = s.exited ∧ s.left = s.exited ∧ (s.exited = false → b ∈ c'.members) ∧
      (s.indebted = true ↔ ∃ id, (id, b) ∈ c'.active) := by
  obtain ⟨s', hs', rfl⟩ := Register.standing_setIndebted.mp hs
  obtain ⟨hjoined, hshare, hleft, hin, hdebt⟩ := h.rows b s' hs'
  rw [hmembers]
  split
  next hab =>
    subst hab
    exact ⟨hjoined, hshare, hleft, hin, hown⟩
  next hab => exact ⟨hjoined, hshare, hleft, hin, hdebt.trans (exists_congr fun id => (hothers b hab id).symm)⟩

theorem Agrees.lends (h : Agrees c r) {id : Int} {a : String} (ha : c.Admits (.lends id a)) :
    Agrees (c.apply (.lends id a)) (r.apply (.lends id a)) := by
  obtain ⟨hfresh, hmember, hclear⟩ := ha
  have hnone : r.loan id = none := Option.eq_none_iff_forall_ne_some.mpr fun e he => hfresh (h.lent id e he)
  have hloan : ∀ i, (r.apply (.lends id a)).loan i = if i = id then some (a, .active) else r.loan i := fun i => by
    simp [Register.apply, Register.setIndebted, Register.change, Register.setLoan, hnone]
  constructor
  case lent =>
    intro i entry hi
    rw [hloan] at hi
    split at hi
    next he => exact he ▸ List.mem_cons_self
    next => exact List.mem_cons_of_mem _ (h.lent i entry hi)
  case active =>
    intro i b
    rw [hloan]
    simp only [apply, List.mem_cons, Prod.mk.injEq]
    split
    next he =>
      subst he
      have hno : (i, b) ∉ c.active := fun hb => hfresh (h.lent i _ ((h.active i b).mpr hb))
      simp [hno, eq_comm]
    next he => simp [he, h.active]
  case single =>
    intro l hl l' hl' hsame
    simp only [apply, List.mem_cons] at hl hl'
    rcases hl with rfl | hl <;> rcases hl' with rfl | hl'
    · rfl
    · exact absurd hsame.symm (hclear l' hl')
    · exact absurd hsame (hclear l hl)
    · exact h.single l hl l' hl' hsame
  case debtors =>
    intro l hl
    rcases List.mem_cons.mp hl with rfl | hl
    · exact hmember
    · exact h.debtors l hl
  case members => exact fun _ => h.members_setIndebted
  case rows =>
    intro b s hs
    refine h.rows_setIndebted (c.apply (.lends id a)) rfl ?_ (fun b hab i => ?_) hs
    · exact iff_of_true rfl ⟨id, List.mem_cons_self⟩
    · simp [apply, hab]

/-- An active loan that is closed, by its borrower or against him. -/
theorem Agrees.close (h : Agrees c r) {id : Int} {a : String} (ha : (id, a) ∈ c.active) {status : LoanStatus}
    (hstatus : status ≠ .active) :
    Agrees { c with active := c.active.filter (·.1 ≠ id) } ((r.setLoan id (a, status)).setIndebted a false) := by
  have hloan : ∀ i, ((r.setLoan id (a, status)).setIndebted a false).loan i =
      if i = id then some (a, status) else r.loan i := fun _ => rfl
  have hmem : ∀ l, l ∈ c.active.filter (·.1 ≠ id) ↔ l ∈ c.active ∧ l.1 ≠ id := by simp
  constructor
  case lent =>
    intro i entry hi
    rw [hloan] at hi
    split at hi
    next he => exact he ▸ h.lent id _ ((h.active id a).mpr ha)
    next => exact h.lent i entry hi
  case active =>
    intro i b
    rw [hloan, hmem]
    split
    next he => simp [he, hstatus]
    next he => simp [he, h.active]
  case single => exact fun l hl l' hl' => h.single l ((hmem l).mp hl).1 l' ((hmem l').mp hl').1
  case debtors => exact fun l hl => h.debtors l ((hmem l).mp hl).1
  case members => exact fun _ => h.members_setIndebted
  case rows =>
    intro b s hs
    refine h.rows_setIndebted { c with active := c.active.filter (·.1 ≠ id) } rfl ?_ (fun b hab i => ?_) hs
    · -- the loan that is closed was the only one
      simp only [Bool.false_eq_true, false_iff, hmem]
      rintro ⟨i, hi, hne⟩
      exact hne (h.single _ hi _ ha rfl)
    · rw [hmem]
      refine ⟨And.left, fun hi => ⟨hi, fun he => ?_⟩⟩
      have hother := (h.active i b).mpr hi
      rw [show i = id from he, (h.active id a).mpr ha] at hother
      cases hother
      exact hab rfl

/-- Setting a loan to what it is changes nothing. -/
theorem setLoan_self {id : Int} {entry : String × LoanStatus} (h : r.loan id = some entry) :
    r.setLoan id entry = r := by
  ext i
  · rfl
  · simp only [Register.setLoan]
    split
    next he => rw [he, h]
    next => rfl

/-- **What the contract admits keeps the agreement.** -/
theorem Agrees.apply (h : Agrees c r) {act : Act} (ha : c.Admits act) : Agrees (c.apply act) (r.apply act) := by
  cases act with
  | joins a => exact h.joins ha
  | exits a => exact h.exits ha
  | lends id a => exact h.lends ha
  | repays id a cleared =>
    have hloan : r.loan id = some (a, .active) := (h.active id a).mpr ha
    cases cleared with
    | false =>
      have hsame : r.apply (.repays id a false) = r := by
        simp only [Register.apply, hloan, Bool.false_eq_true, if_false]
        exact setLoan_self hloan
      rw [hsame]
      exact h
    | true =>
      simp only [Register.apply, hloan, if_true]
      exact h.close ha (by decide)
  | defaults id a =>
    have hloan : r.loan id = some (a, .active) := (h.active id a).mpr ha
    simp only [Register.apply, hloan]
    exact h.close ha (by decide)

/-- A run of events that the contract emits. -/
theorem Agrees.fold {evs : List DecodedEvent} {t t' : Tables} (h : Agrees c t.register) (hemits : c.Emits evs)
    (hfold : foldTables evs t = .ok t') : ∃ c', Agrees c' t'.register := by
  induction evs generalizing c t with
  | nil =>
    cases hfold
    exact ⟨c, h⟩
  | cons ev evs ih =>
    obtain ⟨channels, t₁, hev, hrest⟩ := foldTables_cons_ok.mp hfold
    have hstep := applyEvent_register hev
    rw [Emits] at hemits
    cases hact : act? ev with
    | none =>
      rw [hact] at hstep hemits
      exact ih (hstep ▸ h) hemits hrest
    | some act =>
      rw [hact] at hstep hemits
      exact ih (hstep ▸ h.apply hemits.1) hemits.2 hrest

end Contract

/-- An address without a row keeps having none until it joins. -/
theorem never_joined {evs : List DecodedEvent} {t t' : Tables} (hfold : foldTables evs t = .ok t') {a : String}
    (hnone : t.register.standing a = none) (hnever : ∀ ev ∈ evs, act? ev ≠ some (.joins a)) :
    t'.register.standing a = none := by
  induction evs generalizing t with
  | nil =>
    cases hfold
    exact hnone
  | cons ev evs ih =>
    obtain ⟨channels, t₁, hev, hrest⟩ := foldTables_cons_ok.mp hfold
    refine ih hrest ?_ fun ev' hev' => hnever ev' (by simp [hev'])
    have hne := hnever ev (by simp)
    have hchange : ∀ (r : Register) (b : String) (f : MemberStanding → MemberStanding), r.standing a = none →
        (r.change b f).standing a = none := by
      intro r b f hr
      by_cases hab : a = b
      · simp [Register.change, hab, hab ▸ hr]
      · simp [Register.change, hab, hr]
    rw [applyEvent_register hev]
    cases hact : act? ev with
    | none => exact hnone
    | some act =>
      cases act with
      | joins b =>
        have hab : a ≠ b := fun he => hne (he ▸ hact)
        simpa [Register.after, Register.apply, Register.enroll, hab] using hnone
      | exits b => exact hchange _ b _ hnone
      | lends id b => exact hchange _ b _ hnone
      | repays id b cleared =>
        simp only [Register.after, Register.apply]
        cases t.register.loan id <;> cases cleared <;> first | exact hnone | exact hchange _ b _ hnone
      | defaults id b =>
        simp only [Register.after, Register.apply]
        cases t.register.loan id with
        | none => exact hnone
        | some entry =>
          dsimp only
          split
          · exact hnone
          · exact hchange _ b _ hnone

/-- What the row of a member says, given the loans. -/
structure MemberRow.Sound (row : MemberRow) (address : String) (loans : Table Int LoanRow) : Prop where
  has_active_loan : row.has_active_loan = true ↔
    ∃ id loan, loans.lookup id = some loan ∧ loan.borrower = address ∧ loan.status = .active
  exited : row.exited = true ↔ row.exit_share.isSome = true ∧ row.exited_ledger.isSome = true
  joined_ledger : row.joined_ledger.isSome = true
  contribution : 0 ≤ row.contribution
  stake : 0 ≤ row.stake

/-- **The active-loan flags agree with the loans** after every run of events that the contract emits. -/
theorem active_loan_flags_agree (evs : List DecodedEvent) (t : Tables) (hemits : Contract.Emits {} evs)
    (hfold : foldTables evs Tables.empty = .ok t) :
    (∀ address row, t.members.lookup address = some row → row.Sound address t.loans) ∧
      ∀ address, (∀ ev ∈ evs, act? ev ≠ some (.joins address)) → t.members.lookup address = none := by
  obtain ⟨c, hc⟩ := Contract.agrees_empty.fold hemits hfold
  constructor
  · intro address row hrow
    obtain ⟨hjoined, hshare, hleft, -, hdebt⟩ := hc.rows address row.standing (by simp [Tables.register, hrow])
    refine ⟨hdebt.trans (exists_congr fun id => ?_), ?_, hjoined, Nat.zero_le _, Nat.zero_le _⟩
    · rw [← hc.active id address]
      simp [Tables.register, LoanRow.entry]
    · simp only [MemberRow.standing] at hshare hleft
      rw [hshare, hleft, and_self]
  · intro address hnever
    have hnone := never_joined hfold rfl hnever
    simpa [Tables.register] using hnone

/-- One loan repaid and one defaulted, an exit, and a third loan after a new join. -/
def threeLoans : List DecodedEvent := decoded
  [.published "0001" 1 "joined" [.str "GA", .bigint 100],
   .published "0002" 2 "loan_appr" [.bigint 1, .str "GA", .bigint 50],
    .published "0003" 3 "loan_rpy" [.bigint 1, .str "GA", .bigint 0],
    .published "0004" 4 "loan_appr" [.bigint 2, .str "GA", .bigint 60],
    .published "0005" 5 "loan_dflt" [.bigint 2, .str "GA", .bigint 70],
    .published "0006" 6 "exited" [.str "GA", .bigint 30],
    .published "0007" 7 "joined" [.str "GA", .bigint 100],
    .published "0008" 8 "loan_appr" [.bigint 3, .str "GA", .bigint 20]]

theorem active_loan_flags_agree_three_loans : ∃ row, (foldedTables threeLoans).members.lookup "GA" = some row ∧
    row.Sound "GA" (foldedTables threeLoans).loans := by
  have hsound := active_loan_flags_agree threeLoans _ (by decide +kernel)
    (foldTables_foldedTables (by decide +kernel))
  have hrow : ((foldedTables threeLoans).members.lookup "GA").isSome = true := by decide +kernel
  obtain ⟨row, hrow⟩ := Option.isSome_iff_exists.mp hrow
  exact ⟨row, hrow, hsound.1 "GA" row hrow⟩

example : ((foldedTables threeLoans).members.lookup "GA").map MemberRow.standing =
    some ⟨true, false, false, false, true⟩ := by decide +kernel

end OurDao
