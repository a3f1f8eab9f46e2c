import OurDao.FeedWrites
import OurDao.MemberCaches
import OurDao.Proposals

/-!
# Spellings of an amount

An amount is a number or any string of decimal digits, so that the same integer can be
written in many ways. Handlers do arithmetic on its value and quote its text in messages;
one of them compares the text.
-/

namespace OurDao

open Sql Faults

/-- The same non-negative integer, however it is written. -/
def SameAmount (v v' : Json) : Prop := ∃ a a', amount? v = some a ∧ amount? v' = some a' ∧ a'.value = a.value

/-- The fields that the handler of a symbol reads as an amount or a weight. -/
def amountFields : EventSymbol → List String
  | .joined => ["fee"]
  | .exited => ["share"]
  | .claimed => ["pending"]
  | .staked | .unstaked => ["new_stake"]
  | .loan_req => ["amount", "total_repayment"]
  | .loan_edit => ["new_amount", "total_repayment"]
  | .loan_vote | .tre_vote | .revealed => ["weight"]
  | .loan_appr | .tre_prop => ["amount"]
  | .loan_rpy => ["outstanding"]
  | .loan_dflt => ["penalty"]
  | .interest => ["interest"]
  | _ => []

/-- Two events that differ only in how their amounts are written. -/
structure Respelled (ev ev' : DecodedEvent) : Prop where
  id : ev'.id = ev.id
  ledger : ev'.ledger = ev.ledger
  closedAt : ev'.closedAt = ev.closedAt
  txHash : ev'.txHash = ev.txHash
  symbol : ev'.symbol = ev.symbol
  field : ∀ name, ev'.field name = ev.field name ∨
    (∃ s, EventSymbol.ofSymbol? ev.symbol = some s ∧ name ∈ amountFields s) ∧
      SameAmount (ev.field name) (ev'.field name)

/-- A repayment of the loan that its handler accepts, with what it leaves outstanding. -/
structure Repayment (ev : DecodedEvent) (id : Int) (outstanding : Amount) : Prop where
  symbol : EventSymbol.ofSymbol? ev.symbol = some .loan_rpy
  loan_id : requireId ev "loan_id" = .ok id
  stored : integer id = .ok id
  borrower : ∃ address, requireAddr ev "borrower" = .ok address
  outstanding : requireAmount ev "outstanding" = .ok outstanding

/-- A repayment that leaves nothing says so with a single `0`. -/
def ZeroIsPlain (ev : DecodedEvent) : Prop :=
  ∀ id outstanding, Repayment ev id outstanding → outstanding.value = 0 → outstanding.text = "0"

/-- The tables without the notifications, whose messages quote amounts. -/
def Tables.unworded (t : Tables) : Tables := { t with notifications := ∅ }

/-- Whenever `m` succeeds, so does `m'` on the same tables but for the notifications, with the same result. -/
def Echoes {α : Type} (m m' : Sql α) : Prop := ∀ t t', t'.unworded = t.unworded → ∀ a t₁, m t = .ok (a, t₁) →
  ∃ t₁', m' t' = .ok (a, t₁') ∧ t₁'.unworded = t₁.unworded

theorem unworded_eq_iff {t t' : Tables} :
    t'.unworded = t.unworded ↔ ∃ notifications, t' = { t with notifications } := by
  constructor
  · intro h
    refine ⟨t'.notifications, ?_⟩
    cases t
    cases t'
    simp only [Tables.unworded, Tables.mk.injEq] at h ⊢
    simp [h]
  · rintro ⟨notifications, rfl⟩
    rfl

/-- A statement that neither reads nor writes the notifications. -/
theorem echoes_of_blind {α : Type} {m : Sql α} (h : ∀ t notifications a t₁, m t = .ok (a, t₁) →
    m { t with notifications } = .ok (a, { t₁ with notifications })) : Echoes m m := by
  intro t t' hsame a t₁ ht
  obtain ⟨notifications, rfl⟩ := unworded_eq_iff.mp hsame
  exact ⟨_, h t notifications a t₁ ht, rfl⟩

theorem echoes_notify {ev ev' : DecodedEvent} (address : String) (type type' : NotificationType)
    (title title' message message' : String) :
    Echoes (notify ev address type title message) (notify ev' address type' title' message') := by
  rintro t t' hsame ⟨⟩ t₁ h
  obtain ⟨notifications, rfl⟩ := unworded_eq_iff.mp hsame
  by_cases haddress : address = ""
  · subst haddress
    cases h
    exact ⟨_, rfl, rfl⟩
  · rw [notify, if_neg haddress] at h
    cases h
    refine ⟨_, by rw [notify, if_neg haddress]; rfl, ?_⟩
    dsimp only
    split <;> split <;> rfl

theorem Echoes.bind {α β : Type} {m m' : Sql α} {f f' : α → Sql β} (hm : Echoes m m')
    (hf : ∀ a, Echoes (f a) (f' a)) : Echoes (m >>= f) (m' >>= f') := by
  intro t t' hsame b t₂ h
  obtain ⟨a, t₁, h₁, h₂⟩ := bind_eq_ok.mp h
  obtain ⟨t₁', h₁', hsame₁⟩ := hm t t' hsame a t₁ h₁
  obtain ⟨t₂', h₂', hsame₂⟩ := hf a t₁ t₁' hsame₁ b t₂ h₂
  exact ⟨t₂', bind_eq_ok.mpr ⟨a, t₁', h₁', h₂'⟩, hsame₂⟩

theorem echoes_pure {α : Type} (a : α) : Echoes (pure a : Sql α) (pure a) :=
  echoes_of_blind fun t _ b t₁ h => by cases h; rfl

/-- Statements on a row of a relation apart from the notifications. -/
theorem echoes_onRow {κ ν : Type} [DecidableEq κ] {r : Relation κ ν}
    (hget : ∀ t notifications, r.get { t with notifications } = r.get t)
    (hset : ∀ table t notifications, r.set table { t with notifications } = { r.set table t with notifications })
    (k : κ) : OnRow (fun m m' => Echoes m m') r k where
  select := by
    apply echoes_of_blind
    intro t notifications a t₁ h
    cases h
    change Except.ok _ = _
    rw [hget]
  write row := by
    apply echoes_of_blind
    intro t notifications a t₁ h
    cases h
    change Except.ok ((), r.set ((r.get { t with notifications }).insert k row) { t with notifications }) = _
    rw [hget, hset]

theorem echoes_members (a : String) : OnRow (fun m m' => Echoes m m') members a :=
  echoes_onRow (fun _ _ => rfl) (fun _ _ _ => rfl) a

theorem echoes_loan_proposals (id : Int) : OnRow (fun m m' => Echoes m m') loan_proposals id :=
  echoes_onRow (fun _ _ => rfl) (fun _ _ _ => rfl) id

theorem echoes_loans (id : Int) : OnRow (fun m m' => Echoes m m') loans id :=
  echoes_onRow (fun _ _ => rfl) (fun _ _ _ => rfl) id

theorem echoes_treasury_proposals (id : Int) : OnRow (fun m m' => Echoes m m') treasury_proposals id :=
  echoes_onRow (fun _ _ => rfl) (fun _ _ _ => rfl) id

theorem echoes_insertNotification (id address : String) (row : Nat → NotificationRow) :
    Echoes (insertNotification id address row) (insertNotification id address row) := by
  rintro t t' hsame ⟨⟩ t₁ h
  obtain ⟨notifications, rfl⟩ := unworded_eq_iff.mp hsame
  cases h
  refine ⟨_, rfl, ?_⟩
  dsimp only
  split <;> split <;> rfl

theorem echoes_insertInterest (id : String) (row : Nat → InterestRow) :
    Echoes (insertInterest id row) (insertInterest id row) := by
  apply echoes_of_blind
  intro t notifications a t₁ h
  simp only [insertInterest] at h ⊢
  split at h <;> cases h
  next hthere => simp [hthere]
  next hnew => simp [hnew]

theorem echoes_insertDocument (id : String) (row : Nat → DocumentRow) :
    Echoes (insertDocument id row) (insertDocument id row) := by
  apply echoes_of_blind
  intro t notifications a t₁ h
  cases h
  change Except.ok _ = _
  dsimp only
  split <;> rfl

theorem echoes_addTotals (delta : DaoTotals) : Echoes (addTotals delta) (addTotals delta) := by
  apply echoes_of_blind
  intro t notifications a t₁ h
  simp only [addTotals] at h ⊢
  split at h <;> cases h
  next hfits => simp [hfits]

theorem echoes_addDaily (day : Int) (delta : DailyLoanStats) : Echoes (addDaily day delta) (addDaily day delta) := by
  apply echoes_of_blind
  intro t notifications a t₁ h
  have hsame : dailyAfter { t with notifications } day delta = dailyAfter t day delta := rfl
  rw [addDaily] at h ⊢
  rw [hsame]
  by_cases hfits : (dailyAfter t day delta).fits = true
  · rw [if_pos hfits] at h ⊢
    cases h
    rfl
  · rw [if_neg hfits] at h
    cases h

/-- A check whose value both runs go on with. -/
theorem Echoes.lift_bind {α β : Type} {x y : Except String α} {f f' : α → Sql β} (hxy : ∀ a, x = .ok a → y = .ok a)
    (hf : ∀ a, x = .ok a → Echoes (f a) (f' a)) : Echoes (lift x >>= f) (lift y >>= f') := by
  intro t t' hsame b t₁ h
  obtain ⟨a, ha, h⟩ := lift_bind_eq_ok.mp h
  rw [hxy a ha]
  exact hf a ha t t' hsame b t₁ h

theorem statements_echoes : Statements (fun _ => True) fun m m' => Echoes m m' where
  pure := echoes_pure
  bind := Echoes.bind
  liftBind := Echoes.lift_bind
  member _ := echoes_members _
  loanProposal _ := echoes_loan_proposals _
  loan _ := echoes_loans _
  treasury _ := echoes_treasury_proposals _
  notification _ _ _ := echoes_insertNotification _ _ _
  interest _ _ := echoes_insertInterest _ _
  document _ _ := echoes_insertDocument _ _
  totals := echoes_addTotals
  daily := echoes_addDaily

section

variable {ev ev' : DecodedEvent} {name : String}

theorem requireAddr_field (h : ev'.field name = ev.field name) {a : String} (ha : requireAddr ev name = .ok a) :
    requireAddr ev' name = .ok a := by
  rw [requireAddr] at ha ⊢
  rw [h]
  split at ha
  next s hs =>
    split at ha <;> cases ha
    next hne => rw [if_neg hne]
  next => cases ha

theorem requireId_field (h : ev'.field name = ev.field name) {n : Int} (hn : requireId ev name = .ok n) :
    requireId ev' name = .ok n := by
  rw [requireId] at hn ⊢
  rw [h]
  split at hn
  next => exact hn
  next s hs =>
    split at hn
    next => exact hn
    next => cases hn
  next => cases hn

end

namespace Respelled

variable {ev ev' : DecodedEvent}

theorem symm (h : Respelled ev ev') : Respelled ev' ev where
  id := h.id.symm
  ledger := h.ledger.symm
  closedAt := h.closedAt.symm
  txHash := h.txHash.symm
  symbol := h.symbol.symm
  field name := by
    rcases h.field name with hf | ⟨⟨s, hs, hname⟩, a, a', ha, ha', hv⟩
    · exact .inl hf.symm
    · exact .inr ⟨⟨s, h.symbol ▸ hs, hname⟩, a', a, ha', ha, hv.symm⟩

variable (h : Respelled ev ev')
include h

/-- A field that no amount is read from. -/
theorem plain {s : EventSymbol} (hs : EventSymbol.ofSymbol? ev.symbol = some s) (name : String)
    (hname : (amountFields s).contains name = false) : ev'.field name = ev.field name := by
  rcases h.field name with hf | ⟨⟨s', hs', hname'⟩, -⟩
  · exact hf
  · rw [hs] at hs'
    cases hs'
    rw [List.contains_iff_mem.mpr hname'] at hname
    cases hname

/-- What the amount is read as in the other event. -/
theorem amount?_field {name : String} {a : Amount} (ha : amount? (ev.field name) = some a) :
    ∃ a', amount? (ev'.field name) = some a' ∧ a'.value = a.value := by
  rcases h.field name with hf | ⟨-, b, b', hb, hb', hv⟩
  · exact ⟨a, by rw [hf, ha], rfl⟩
  · rw [ha] at hb
    cases hb
    exact ⟨b', hb', hv⟩

theorem requireAmount {name : String} {a : Amount} (ha : requireAmount ev name = .ok a) :
    ∃ a', requireAmount ev' name = .ok a' ∧ a'.value = a.value := by
  rw [OurDao.requireAmount, amountOf] at ha
  split at ha <;> cases ha
  next hread =>
    obtain ⟨a', ha', hv⟩ := h.amount?_field hread
    exact ⟨a', by rw [OurDao.requireAmount, amountOf, ha'], hv⟩

theorem weightOf {a : Amount} (ha : weightOf ev = .ok a) : ∃ a', weightOf ev' = .ok a' ∧ a'.value = a.value := by
  have hread {ev : DecodedEvent} {b : Amount} (hb : amount? (ev.field "weight") = some b) :
      OurDao.weightOf ev = .ok b := by
    rw [OurDao.weightOf]
    split
    next hnull =>
      rw [hnull] at hb
      cases hb
    next => rw [amountOf, hb]
  rcases h.field "weight" with hf | ⟨-, b, b', hb, hb', hv⟩
  · refine ⟨a, ?_, rfl⟩
    rw [OurDao.weightOf] at ha ⊢
    rw [hf]
    split at ha
    next => exact ha
    next =>
      rw [amountOf] at ha ⊢
      split at ha
      next => exact ha
      next => cases ha
  · rw [hread hb] at ha
    cases ha
    exact ⟨b', hread hb', hv⟩

end Respelled

namespace Echoes

variable {ev ev' : DecodedEvent} {α : Type} {name : String}

/-- An amount that is used by its value only. -/
theorem amount (h : Respelled ev ev') {f f' : Amount → Sql α}
    (hf : ∀ a a', requireAmount ev name = .ok a → requireAmount ev' name = .ok a' → a'.value = a.value →
      Echoes (f a) (f' a')) :
    Echoes (lift (requireAmount ev name) >>= f) (lift (requireAmount ev' name) >>= f') := by
  intro t t' hsame b t₁ hrun
  obtain ⟨a, ha, hrun⟩ := lift_bind_eq_ok.mp hrun
  obtain ⟨a', ha', hv⟩ := h.requireAmount ha
  rw [ha']
  exact hf a a' ha ha' hv t t' hsame b t₁ hrun

theorem weight (h : Respelled ev ev') {f f' : Amount → Sql α}
    (hf : ∀ a a', a'.value = a.value → Echoes (f a) (f' a')) :
    Echoes (lift (weightOf ev) >>= f) (lift (weightOf ev') >>= f') := by
  intro t t' hsame b t₁ hrun
  obtain ⟨a, ha, hrun⟩ := lift_bind_eq_ok.mp hrun
  obtain ⟨a', ha', hv⟩ := h.weightOf ha
  rw [ha']
  exact hf a a' hv t t' hsame b t₁ hrun

theorem address (h : ev'.field name = ev.field name) {f f' : String → Sql α}
    (hf : ∀ a, requireAddr ev name = .ok a → Echoes (f a) (f' a)) :
    Echoes (lift (requireAddr ev name) >>= f) (lift (requireAddr ev' name) >>= f') :=
  Echoes.lift_bind (fun _ => requireAddr_field h) hf

theorem number (h : ev'.field name = ev.field name) {f f' : Int → Sql α}
    (hf : ∀ n, requireId ev name = .ok n → Echoes (f n) (f' n)) :
    Echoes (lift (requireId ev name) >>= f) (lift (requireId ev' name) >>= f') :=
  Echoes.lift_bind (fun _ => requireId_field h) hf

theorem flag (h : ev'.field name = ev.field name) {f f' : Bool → Sql α} (hf : ∀ b, Echoes (f b) (f' b)) :
    Echoes (lift (requireBool ev name) >>= f) (lift (requireBool ev' name) >>= f') := by
  refine Echoes.lift_bind (fun b hb => ?_) fun b _ => hf b
  rw [requireBool] at hb ⊢
  rw [h]
  split at hb
  next => exact hb
  next => cases hb

/-- A check of a value, and an update of a row, that both events ask for. -/
theorem check {β : Type} (x : Except String β) [Explained x] {f f' : β → Sql α}
    (hf : ∀ b, x = .ok b → Echoes (f b) (f' b)) : Echoes (lift x >>= f) (lift x >>= f') :=
  Echoes.lift_bind (fun _ h => h) hf

section

variable (h : Respelled ev ev')
include h

theorem joined (hs : EventSymbol.ofSymbol? ev.symbol = some .joined) : Echoes (joined ev) (joined ev') := by
  simp only [OurDao.joined, h.ledger]
  refine address (h.plain hs _ rfl) fun member _ => amount h fun fee fee' _ _ hv => ?_
  rw [hv]
  refine check _ fun contribution _ => ?_
  exact Echoes.bind (statements_echoes.upsert (echoes_members _) _ _) fun _ =>
    echoes_notify _ _ _ _ _ _ _

theorem exited (hs : EventSymbol.ofSymbol? ev.symbol = some .exited) : Echoes (exited ev) (exited ev') := by
  simp only [OurDao.exited, h.ledger]
  refine address (h.plain hs _ rfl) fun member _ => amount h fun share share' _ _ hv => ?_
  rw [hv]
  exact Echoes.bind (statements_echoes.update (echoes_members _) _) fun _ =>
    echoes_notify _ _ _ _ _ _ _

theorem claimed (hs : EventSymbol.ofSymbol? ev.symbol = some .claimed) : Echoes (claimed ev) (claimed ev') := by
  refine address (h.plain hs _ rfl) fun member _ => amount h fun pending pending' _ _ hv => ?_
  rw [hv]
  exact Echoes.bind (statements_echoes.update (echoes_members _) _) fun _ =>
    echoes_notify _ _ _ _ _ _ _

theorem setStake {s : EventSymbol} (hs : EventSymbol.ofSymbol? ev.symbol = some s)
    (hmember : (amountFields s).contains "member" = false) : Echoes (setStake ev) (setStake ev') := by
  refine address (h.plain hs _ hmember) fun member _ => amount h fun stake stake' _ _ hv => ?_
  rw [hv]
  exact statements_echoes.last (statements_echoes.update (echoes_members _) _)

theorem loan_req (hs : EventSymbol.ofSymbol? ev.symbol = some .loan_req) : Echoes (loan_req ev) (loan_req ev') := by
  simp only [OurDao.loan_req, h.ledger]
  refine number (h.plain hs _ rfl) fun id _ => address (h.plain hs _ rfl) fun borrower _ => ?_
  refine amount h fun amount amount' _ _ hamount => Echoes.amount h fun total total' _ _ htotal => ?_
  rw [hamount, htotal]
  refine check _ fun id _ => check _ fun amount _ => check _ fun total _ => ?_
  exact Echoes.bind (statements_echoes.upsert (echoes_loan_proposals _) _ _) fun _ =>
    echoes_notify _ _ _ _ _ _ _

theorem loan_edit (hs : EventSymbol.ofSymbol? ev.symbol = some .loan_edit) :
    Echoes (loan_edit ev) (loan_edit ev') := by
  refine number (h.plain hs _ rfl) fun id _ => ?_
  refine amount h fun amount amount' _ _ hamount => Echoes.amount h fun total total' _ _ htotal => ?_
  rw [hamount, htotal]
  exact check _ fun id _ =>
    statements_echoes.last (statements_echoes.update (echoes_loan_proposals _) _)

theorem loan_vote (hs : EventSymbol.ofSymbol? ev.symbol = some .loan_vote) :
    Echoes (loan_vote ev) (loan_vote ev') := by
  refine number (h.plain hs _ rfl) fun id _ => flag (h.plain hs _ rfl) fun support => ?_
  refine weight h fun weight weight' hv => ?_
  rw [hv]
  exact check _ fun id _ =>
    statements_echoes.last (statements_echoes.update (echoes_loan_proposals _) _)

theorem treasuryVote {s : EventSymbol} (hs : EventSymbol.ofSymbol? ev.symbol = some s) {idField : String}
    (hid : (amountFields s).contains idField = false) (hsupport : (amountFields s).contains "support" = false) :
    Echoes (treasuryVote idField ev) (treasuryVote idField ev') := by
  refine number (h.plain hs _ hid) fun id _ => flag (h.plain hs _ hsupport) fun support => ?_
  refine weight h fun weight weight' hv => ?_
  rw [hv]
  exact check _ fun id _ => statements_echoes.last (statements_echoes.update (echoes_treasury_proposals _) _)

theorem tre_prop (hs : EventSymbol.ofSymbol? ev.symbol = some .tre_prop) : Echoes (tre_prop ev) (tre_prop ev') := by
  simp only [OurDao.tre_prop, h.ledger, h.plain hs "private" rfl]
  refine number (h.plain hs _ rfl) fun id _ => amount h fun amount amount' _ _ hv => ?_
  rw [hv]
  refine address (h.plain hs _ rfl) fun destination _ => check _ fun id _ => check _ fun amount _ => ?_
  exact statements_echoes.last (statements_echoes.upsert (echoes_treasury_proposals _) _ _)

theorem interest (hs : EventSymbol.ofSymbol? ev.symbol = some .interest) : Echoes (interest ev) (interest ev') := by
  simp only [OurDao.interest, h.id, h.ledger, h.txHash, h.plain hs "active" rfl]
  refine amount h fun amount amount' _ _ hv => ?_
  rw [hv]
  refine check _ fun active _ => check _ fun amount _ => ?_
  refine Echoes.bind (echoes_insertInterest _ _) fun inserted => ?_
  cases inserted with
  | false => exact echoes_pure ()
  | true => exact echoes_addTotals _

theorem incrementDailyLoanStats (deltas : DailyLoanStats) :
    Echoes (incrementDailyLoanStats ev deltas) (incrementDailyLoanStats ev' deltas) := by
  have hday : dayOf ev' = dayOf ev := by rw [dayOf, h.closedAt, dayOf]
  simpa only [OurDao.incrementDailyLoanStats, hday] using echoes_addDaily _ deltas

theorem loan_appr (hs : EventSymbol.ofSymbol? ev.symbol = some .loan_appr) :
    Echoes (loan_appr ev) (loan_appr ev') := by
  simp only [OurDao.loan_appr, h.ledger, h.plain hs "due_time" rfl]
  refine number (h.plain hs _ rfl) fun id _ => address (h.plain hs _ rfl) fun borrower _ => ?_
  refine amount h fun amount other _ _ hv => ?_
  rw [hv]
  refine check _ fun id _ => ?_
  refine Echoes.bind (statements_echoes.update (echoes_loan_proposals _) _) fun _ => ?_
  refine Echoes.bind (echoes_loan_proposals _).select fun proposal => ?_
  refine check _ fun due_time _ => check _ fun principal _ => check _ fun total _ => ?_
  refine Echoes.bind (statements_echoes.upsert (echoes_loans _) _ _) fun is_new => ?_
  have htell : Echoes
      (do setActiveLoan borrower true
          notify ev borrower .success "Loan approved" s!"Loan #{id} of {amount.text} was approved.")
      (do setActiveLoan borrower true
          notify ev' borrower .success "Loan approved" s!"Loan #{id} of {other.text} was approved.") :=
    Echoes.bind (statements_echoes.setActiveLoan trivial true) fun _ => echoes_notify _ _ _ _ _ _ _
  cases is_new with
  | false => exact htell
  | true =>
    refine Echoes.bind (echoes_addTotals _) fun _ => ?_
    exact Echoes.bind (incrementDailyLoanStats h _) fun _ => htell

theorem loan_dflt (hs : EventSymbol.ofSymbol? ev.symbol = some .loan_dflt) :
    Echoes (loan_dflt ev) (loan_dflt ev') := by
  simp only [OurDao.loan_dflt, h.ledger]
  refine number (h.plain hs _ rfl) fun id _ => address (h.plain hs _ rfl) fun borrower _ => ?_
  refine amount h fun penalty penalty' _ _ hv => check _ fun id _ => ?_
  rw [hv]
  refine Echoes.bind (statements_echoes.updateWhere (echoes_loans _) _ _) fun updated => ?_
  cases updated with
  | none => exact echoes_pure ()
  | some loan =>
    refine Echoes.bind (echoes_addTotals _) fun _ => ?_
    refine Echoes.bind (incrementDailyLoanStats h _) fun _ => ?_
    exact Echoes.bind (statements_echoes.update (echoes_members _) _) fun _ =>
      echoes_notify _ _ _ _ _ _ _

end

end Echoes

theorem value_of_text_zero {a : Amount} (h : a.text = "0") : a.value = 0 := by
  have hdenotes := a.denotes
  rw [h] at hdenotes
  have hzero : JsNumber.digits 10 "0".toList = some 0 := rfl
  rw [hzero] at hdenotes
  exact (Option.some.inj hdenotes).symm

theorem ZeroIsPlain.text_iff {ev : DecodedEvent} (h : ZeroIsPlain ev) {id : Int} {a : Amount}
    (hr : Repayment ev id a) : a.text = "0" ↔ a.value = 0 := ⟨value_of_text_zero, h id a hr⟩

section

variable {ev ev' : DecodedEvent} (h : Respelled ev ev')
include h

/-- The same repayment, however its amount is written. -/
theorem repayment_respelled {id : Int} {a a' : Amount} (hr : Repayment ev id a)
    (ha' : requireAmount ev' "outstanding" = .ok a') : Repayment ev' id a' where
  symbol := h.symbol ▸ hr.symbol
  loan_id := requireId_field (h.plain hr.symbol _ rfl) hr.loan_id
  stored := hr.stored
  borrower := hr.borrower.imp fun _ hb => requireAddr_field (h.plain hr.symbol _ rfl) hb
  outstanding := ha'

theorem echoes_foldPrincipalRepaid (repaid : Bool) (prev upd : Option LoanRow) :
    Echoes (foldPrincipalRepaid ev repaid prev upd) (foldPrincipalRepaid ev' repaid prev upd) := by
  rcases prev with _ | prev <;> rcases upd with _ | loan
  · exact echoes_pure ()
  · exact echoes_pure ()
  · exact echoes_pure ()
  · simp only [foldPrincipalRepaid]
    split
    · exact Echoes.bind (echoes_addTotals _) fun _ => Echoes.incrementDailyLoanStats h _
    · exact echoes_pure ()

theorem echoes_loan_rpy (hs : EventSymbol.ofSymbol? ev.symbol = some .loan_rpy) (hzero : ZeroIsPlain ev)
    (hzero' : ZeroIsPlain ev') : Echoes (loan_rpy ev) (loan_rpy ev') := by
  simp only [loan_rpy, h.ledger]
  refine Echoes.number (h.plain hs _ rfl) fun id hid =>
    Echoes.address (h.plain hs _ rfl) fun borrower hb => ?_
  refine Echoes.amount h fun a a' ha ha' hv => Echoes.check _ fun id' hid' => ?_
  obtain rfl := integer_eq_ok hid'
  have hr : Repayment ev id' a := ⟨hs, hid, hid', ⟨borrower, hb⟩, ha⟩
  have htext : a'.text = "0" ↔ a.text = "0" := by
    rw [hzero.text_iff hr, hzero'.text_iff (repayment_respelled h hr ha'), hv]
  simp only [htext, hv]
  refine Echoes.bind (echoes_loans _).select fun prev => ?_
  refine Echoes.bind (statements_echoes.update (echoes_loans _) _) fun upd => ?_
  refine Echoes.bind (echoes_foldPrincipalRepaid h _ prev upd) fun _ => ?_
  by_cases hrepaid : a.text = "0"
  · simp only [hrepaid, decide_true, if_true]
    exact Echoes.bind (statements_echoes.setActiveLoan trivial _) fun _ => echoes_notify _ _ _ _ _ _ _
  · simp only [hrepaid, decide_false, Bool.false_eq_true, if_false]
    exact echoes_notify _ _ _ _ _ _ _

/-- Events without amounts read alike. -/
theorem Respelled.alike (hnone : ∀ s, EventSymbol.ofSymbol? ev.symbol = some s → amountFields s = []) :
    Alike ev ev' where
  id := h.id
  ledger := h.ledger
  txHash := h.txHash
  symbol := h.symbol
  day := by rw [dayOf, h.closedAt, dayOf]
  field name := by
    rcases h.field name with hf | ⟨⟨s, hs, hname⟩, -⟩
    · exact .inl hf
    · rw [hnone s hs] at hname
      cases hname

/-- **An event echoes every way its amounts can be written**, but for a zero that is not written as one. -/
theorem echoes_applyEvent (hzero : ZeroIsPlain ev) (hzero' : ZeroIsPlain ev') :
    Echoes (applyEvent ev) (applyEvent ev') := by
  have hrun {s : EventSymbol} {handler : DecodedEvent → Sql Unit} (hs : EventSymbol.ofSymbol? ev.symbol = some s)
      (hh : handlers s = some handler) (he : Echoes (handler ev) (handler ev')) :
      Echoes (applyEvent ev) (applyEvent ev') := by
    rw [applyEvent, applyEvent, h.symbol]
    simpa [hs, hh] using Echoes.bind he fun _ => echoes_pure _
  have hplain (hnone : ∀ s, EventSymbol.ofSymbol? ev.symbol = some s → amountFields s = []) :
      Echoes (applyEvent ev) (applyEvent ev') := statements_echoes.applyEvent (h.alike hnone) fun _ _ => trivial
  rcases hs : EventSymbol.ofSymbol? ev.symbol with _ | s
  · exact hplain fun s hs' => by rw [hs] at hs'; cases hs'
  cases s
  case joined => exact hrun hs rfl (Echoes.joined h hs)
  case exited => exact hrun hs rfl (Echoes.exited h hs)
  case claimed => exact hrun hs rfl (Echoes.claimed h hs)
  case staked => exact hrun hs rfl (Echoes.setStake h hs rfl)
  case unstaked => exact hrun hs rfl (Echoes.setStake h hs rfl)
  case loan_req => exact hrun hs rfl (Echoes.loan_req h hs)
  case loan_edit => exact hrun hs rfl (Echoes.loan_edit h hs)
  case loan_vote => exact hrun hs rfl (Echoes.loan_vote h hs)
  case loan_appr => exact hrun hs rfl (Echoes.loan_appr h hs)
  case loan_rpy => exact hrun hs rfl (echoes_loan_rpy h hs hzero hzero')
  case loan_dflt => exact hrun hs rfl (Echoes.loan_dflt h hs)
  case interest => exact hrun hs rfl (Echoes.interest h hs)
  case tre_prop => exact hrun hs rfl (Echoes.tre_prop h hs)
  case tre_vote => exact hrun hs rfl (Echoes.treasuryVote h hs rfl rfl)
  case revealed => exact hrun hs rfl (Echoes.treasuryVote h hs rfl rfl)
  all_goals exact hplain fun s hs' => by rw [hs] at hs'; cases hs'; rfl

end

section

variable {ev : DecodedEvent} {t t' : Tables}

/-- The repayment that the handler folded, and the loans after it. -/
theorem loan_rpy_eq_ok (hs : EventSymbol.ofSymbol? ev.symbol = some .loan_rpy) (h : loan_rpy ev t = .ok ((), t')) :
    ∃ id a, Repayment ev id a ∧ t'.loans = match t.loans.lookup id with
      | none => t.loans
      | some row => t.loans.insert id (row.afterRepayment ev a) := by
  obtain ⟨id, borrower, outstanding, ⟨hid, hint, hb, hout⟩, upd, t₁, hupdate, t₂, hfold, t₃, hactive, htell⟩ :=
    loan_rpy_steps h
  refine ⟨id, outstanding, ⟨hs, hid, hint, ⟨borrower, hb⟩, hout⟩, ?_⟩
  rw [Leaves.same (f := Tables.loans) t₃ () t' htell, Leaves.same (f := Tables.loans) t₂ () t₃ hactive,
    Leaves.same (f := Tables.loans) t₁ () t₂ hfold]
  rcases update_afterRepayment hupdate with ⟨hnone, -, rfl⟩ | ⟨row, hrow, -, rfl⟩
  · rw [hnone]
  · rw [hrow]
    rfl

theorem update_succeeds {κ ν : Type} [DecidableEq κ] {r : Relation κ ν} {k : κ} {f : ν → Except String ν}
    (hf : ∀ row, ∃ row', f row = .ok row') (t : Tables) : ∃ x t', update r k f t = .ok (x, t') := by
  cases hrow : (r.get t).lookup k with
  | none =>
    obtain ⟨x, h⟩ := update_eq_ok.mpr (.inl ⟨hrow, rfl⟩)
    exact ⟨x, t, h⟩
  | some row =>
    obtain ⟨row', hrow'⟩ := hf row
    obtain ⟨x, h⟩ := update_eq_ok.mpr (.inr ⟨row, row', hrow, hrow', rfl⟩)
    exact ⟨x, _, h⟩

/-- A repayment that is not the last can be folded wherever its amount fits the column. -/
theorem loan_rpy_succeeds {id : Int} {a : Amount} (hr : Repayment ev id a) (hfit : a.value < 10 ^ 40)
    (htext : a.text ≠ "0") (t : Tables) : ∃ t', loan_rpy ev t = .ok ((), t') := by
  obtain ⟨borrower, hb⟩ := hr.borrower
  have hnumeric : numeric a.value = .ok a.value := if_pos hfit
  obtain ⟨upd, t₁, hupdate⟩ := update_succeeds (r := loans) (k := id) (f := fun row => do
    return { row with outstanding := ← numeric a.value,
                      status := if decide (a.text = "0") then LoanStatus.repaid else .active,
                      repaid_ledger := if decide (a.text = "0") then some ev.ledger else row.repaid_ledger })
    (fun row => ⟨_, by rw [hnumeric]; rfl⟩) t
  have hfold (prev : Option LoanRow) : foldPrincipalRepaid ev false prev upd t₁ = .ok ((), t₁) := by
    rcases prev with _ | prev <;> rcases upd with _ | loan <;> rfl
  have htell : ∃ t', notify ev borrower .info "Loan repayment" s!"Repayment received; {a.text} remaining." t₁ =
      .ok ((), t') := by
    by_cases hnone : borrower = ""
    · exact ⟨t₁, by rw [notify, if_pos hnone]; rfl⟩
    · exact ⟨_, by rw [notify, if_neg hnone]; rfl⟩
  obtain ⟨t', htell⟩ := htell
  refine ⟨t', ?_⟩
  simp only [loan_rpy, lift_bind_eq_ok, select_bind_eq_ok]
  refine ⟨id, hr.loan_id, borrower, hb, a, hr.outstanding, id, hr.stored, bind_eq_ok.mpr ⟨upd, t₁, hupdate, ?_⟩⟩
  simp only [htext, decide_false, Bool.false_eq_true, if_false]
  exact bind_eq_ok.mpr ⟨(), t₁, hfold _, htell⟩

end

/-- A loan of nothing, approved under an id. -/
def lent (id : Int) : DecodedEvent := MemberCache.publishedEvent "0001" 1 "loan_appr"
  [("id", .num id), ("borrower", .str "GA"), ("amount", .str "0"), ("due_time", .null)]

theorem fold_lent {id : Int} (h : integer id = .ok id) :
    ∃ t row, foldTables [lent id] Tables.empty = .ok t ∧ t.loans.lookup id = some row := by
  have hsymbol : EventSymbol.ofSymbol? (lent id).symbol = some .loan_appr := rfl
  have hid : requireId (lent id) "id" = .ok id := rfl
  have hb : requireAddr (lent id) "borrower" = .ok "GA" := rfl
  have hamount : requireAmount (lent id) "amount" = .ok ⟨"0", 0, rfl⟩ := rfl
  have hdue : dueTimeOf ((lent id).field "due_time") = .ok none := rfl
  have hfold : ∃ t', loan_appr (lent id) Tables.empty = .ok ((), t') ∧ ∃ row, t'.loans.lookup id = some row := by
    simp only [loan_appr, hid, hb, hamount, hdue, lift_bind_eq_ok]
    exact ⟨_, ⟨id, rfl, "GA", rfl, _, rfl, id, h, rfl⟩, _, AList.lookup_insert _⟩
  obtain ⟨t', hrun, row, hrow⟩ := hfold
  obtain ⟨channels, happly⟩ := (applyEvent_eq_ok hsymbol rfl).mpr hrun
  exact ⟨t', row, foldTables_cons_ok.mpr ⟨channels, t', happly, rfl⟩, hrow⟩

/-- The fold of either event leaves the same tables, but for what the notifications say, or neither can be folded. -/
def SameOutcome (ev ev' : DecodedEvent) (t : Tables) : Prop :=
  (applyEvent ev t).toOption.map (fun r => r.2.unworded) = (applyEvent ev' t).toOption.map fun r => r.2.unworded

/-- A loan becomes repaid exactly by a repayment of it that leaves nothing. -/
structure ClearsAtZero (ev : DecodedEvent) (t : Tables) : Prop where
  cleared : ∀ channels t' id row, applyEvent ev t = .ok (channels, t') → (∃ a, Repayment ev id a) →
    t'.loans.lookup id = some row → (row.status = .repaid ↔ row.outstanding = 0)
  otherwise : ∀ channels t' id row, applyEvent ev t = .ok (channels, t') → (¬∃ a, Repayment ev id a) →
    t'.loans.lookup id = some row → row.status = .repaid → ∃ old, t.loans.lookup id = some old ∧ old.status = .repaid

/-- On every tables that a run of events leaves, the two events do the same and clear loans at zero. -/
structure ByValue (ev ev' : DecodedEvent) : Prop where
  outcome : ∀ past t, foldTables past Tables.empty = .ok t → SameOutcome ev ev' t
  clears : ∀ past t, foldTables past Tables.empty = .ok t → ClearsAtZero ev t ∧ ClearsAtZero ev' t

section

variable {ev ev' : DecodedEvent} {t t' : Tables} {channels : List StreamChannel}

theorem sameOutcome_of_echoes (h :
    Echoes (applyEvent ev) (applyEvent ev')) (h' : Echoes (applyEvent ev') (applyEvent ev))
    (t : Tables) : SameOutcome ev ev' t := by
  rcases hrun : applyEvent ev t with e | r
  · rcases hrun' : applyEvent ev' t with e' | r'
    · simp [SameOutcome, hrun, hrun', Except.toOption]
    · obtain ⟨t₁, hcontra, -⟩ := h' t t rfl r'.1 r'.2 hrun'
      rw [hrun] at hcontra
      cases hcontra
  · obtain ⟨t₁, hrun', hsame⟩ := h t t rfl r.1 r.2 hrun
    simp [SameOutcome, hrun, hrun', Except.toOption, hsame]

theorem loanWrite_not_repaid (hs : EventSymbol.ofSymbol? ev.symbol ≠ some .loan_rpy) {loans : Table Int LoanRow}
    {w : LoanWrite} (h : loanWrite ev loans = some w) : w.status = .active ∨ w.status = .defaulted := by
  unfold loanWrite at h
  split at h
  case h_1 =>
    split at h <;> cases h
    exact .inl rfl
  case h_2 hrpy => exact absurd hrpy hs
  case h_3 =>
    split at h
    · obtain ⟨row, -, rfl⟩ := Option.map_eq_some_iff.mp h
      exact .inr rfl
    · cases h
  case h_4 => cases h

/-- Only `loan_rpy` leaves a loan repaid that was not. -/
theorem otherwise_of_not_repayment (h : applyEvent ev t = .ok (channels, t')) {id : Int}
    (hno : ¬∃ a, Repayment ev id a) {row : LoanRow} (hrow : t'.loans.lookup id = some row)
    (hrepaid : row.status = .repaid) : ∃ old, t.loans.lookup id = some old ∧ old.status = .repaid := by
  have hkept (hsame : t'.loans.lookup id = t.loans.lookup id) :
      ∃ old, t.loans.lookup id = some old ∧ old.status = .repaid := ⟨row, hsame ▸ hrow, hrepaid⟩
  by_cases hs : EventSymbol.ofSymbol? ev.symbol = some .loan_rpy
  · obtain ⟨id', a, hr, hloans⟩ := loan_rpy_eq_ok hs ((applyEvent_eq_ok hs rfl).mp ⟨channels, h⟩)
    have hne : id ≠ id' := by
      rintro rfl
      exact hno ⟨a, hr⟩
    apply hkept
    rw [hloans]
    split
    · rfl
    · exact AList.lookup_insert_ne hne
  · rcases applyEvent_loans h with hsame | ⟨w, row', hwrite, -, hstatus, hinsert⟩
    · exact hkept (by rw [hsame])
    by_cases hid : id = w.id
    · subst hid
      rw [hinsert, AList.lookup_insert] at hrow
      cases hrow
      rw [hrepaid] at hstatus
      have hother : w.status = .active ∨ w.status = .defaulted := loanWrite_not_repaid hs hwrite
      rcases hother with hw | hw <;> rw [hw] at hstatus <;> cases hstatus
    · exact hkept (by rw [hinsert, AList.lookup_insert_ne hid])

theorem clearsAtZero (hzero : ZeroIsPlain ev) (t : Tables) : ClearsAtZero ev t where
  otherwise _ _ _ _ h hno hrow hrepaid := otherwise_of_not_repayment h hno hrow hrepaid
  cleared channels t' id row h hrepay hrow := by
    obtain ⟨a, hr⟩ := hrepay
    have hrun : loan_rpy ev t = .ok ((), t') := (applyEvent_eq_ok hr.symbol rfl).mp ⟨channels, h⟩
    obtain ⟨id', a', hr', hloans⟩ := loan_rpy_eq_ok hr.symbol hrun
    obtain rfl : id' = id := by simpa [hr'.loan_id] using hr.loan_id
    rw [hloans] at hrow
    split at hrow
    next hnone =>
      rw [hnone] at hrow
      cases hrow
    next old hold =>
      rw [AList.lookup_insert] at hrow
      cases hrow
      have htext := hzero.text_iff hr'
      by_cases hcleared : a'.text = "0"
      · simp [LoanRow.afterRepayment, hcleared, htext.mp hcleared]
      · simp [LoanRow.afterRepayment, hcleared, mt htext.mpr hcleared]

/-- A loan that is there is left active by a repayment that writes nothing in another way than as `0`. -/
theorem text_of_clears (hclears : ∀ past t, foldTables past Tables.empty = .ok t → ClearsAtZero ev t) :
    ZeroIsPlain ev := by
  intro id a hr hvalue
  by_contra htext
  obtain ⟨t, row, hpast, hrow⟩ := fold_lent hr.stored
  obtain ⟨t', hrun⟩ := loan_rpy_succeeds hr (by rw [hvalue]; positivity) htext t
  obtain ⟨channels, h⟩ := (applyEvent_eq_ok hr.symbol rfl).mpr hrun
  obtain ⟨id', a', hr', hloans⟩ := loan_rpy_eq_ok hr.symbol hrun
  obtain rfl : id' = id := by simpa [hr'.loan_id] using hr.loan_id
  obtain rfl : a' = a := by simpa [hr'.outstanding] using hr.outstanding
  rw [hrow] at hloans
  have hlookup : t'.loans.lookup id' = some (row.afterRepayment ev a') := by rw [hloans, AList.lookup_insert]
  have hiff := (hclears _ t hpast).cleared channels t' id' _ h ⟨a', hr⟩ hlookup
  simp [LoanRow.afterRepayment, htext, hvalue] at hiff

/-- **Amounts count by their value exactly when no repayment writes a zero in another way than as `0`.** -/
theorem by_value_iff (h : Respelled ev ev') : ByValue ev ev' ↔ ZeroIsPlain ev ∧ ZeroIsPlain ev' := by
  constructor
  · intro hv
    exact ⟨text_of_clears fun past t hpast => (hv.clears past t hpast).1,
      text_of_clears fun past t hpast => (hv.clears past t hpast).2⟩
  · rintro ⟨hzero, hzero'⟩
    have hechoes := echoes_applyEvent h hzero hzero'
    have hechoes' := echoes_applyEvent h.symm hzero' hzero
    exact ⟨fun _ t _ => sameOutcome_of_echoes hechoes hechoes' t,
      fun _ t _ => ⟨clearsAtZero hzero t, clearsAtZero hzero' t⟩⟩

end

/-- A repayment that leaves some amount of loan 1. -/
def repays (outstanding : String) : DecodedEvent := MemberCache.publishedEvent "0002" 2 "loan_rpy"
  [("loan_id", .num 1), ("borrower", .str "GA"), ("outstanding", .str outstanding)]

theorem respelled_repays {s s' : String} (h : SameAmount (.str s) (.str s')) : Respelled (repays s) (repays s') where
  id := rfl
  ledger := rfl
  closedAt := rfl
  txHash := rfl
  symbol := rfl
  field name := by
    by_cases hname : name = "outstanding"
    · subst hname
      exact .inr ⟨⟨.loan_rpy, rfl, .head _⟩, h⟩
    · left
      have hne : (name == "outstanding") = false := by simpa using hname
      simp [repays, MemberCache.publishedEvent, DecodedEvent.field, List.lookup_cons, hne]

theorem zero_is_plain_repays {s : String} {a : Amount} (ha : amount? (.str s) = some a) (hvalue : a.value ≠ 0) :
    ZeroIsPlain (repays s) := by
  intro id b hr hzero
  have hb : requireAmount (repays s) "outstanding" = .ok a := by
    have hfield : (repays s).field "outstanding" = .str s := rfl
    rw [requireAmount, amountOf, hfield, ha]
  rw [hr.outstanding] at hb
  cases hb
  exact absurd hzero hvalue

/-- A repayment that leaves seven, with and without zeros in front. -/
theorem by_value_seven : ByValue (repays "7") (repays "007") :=
  (by_value_iff (respelled_repays ⟨⟨"7", 7, rfl⟩, ⟨"007", 7, rfl⟩, rfl, rfl, rfl⟩)).mpr
    ⟨zero_is_plain_repays (a := ⟨"7", 7, rfl⟩) rfl (by simp),
      zero_is_plain_repays (a := ⟨"007", 7, rfl⟩) rfl (by simp)⟩

/-- The loan is repaid by a repayment that leaves `0`, and stays active with one that leaves `00`. -/
theorem zero_written_twice_is_not_repaid :
    Respelled (repays "0") (repays "00") ∧ ¬ByValue (repays "0") (repays "00") := by
  refine ⟨respelled_repays ⟨⟨"0", 0, rfl⟩, ⟨"00", 0, rfl⟩, rfl, rfl, rfl⟩, fun hv => ?_⟩
  have hsame := hv.outcome [lent 1] (foldedTables [lent 1]) (foldTables_foldedTables (by decide +kernel))
  have hstatus := congrArg (fun o : Option Tables => (o.bind fun t => t.loans.lookup 1).map (·.status)) hsame
  revert hstatus
  decide +kernel

end OurDao
