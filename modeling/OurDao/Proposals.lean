import Mathlib.Algebra.BigOperators.Group.List.Basic
import OurDao.Exchange
import OurDao.Leaves

/-!
# The life of a proposal

A proposal is opened by its request, counts the ballots cast on it from then on, is
judged while it is pending, and keeps its final status. Loan and treasury proposals
live alike, and are told apart by the symbols and fields their events use.
-/

namespace OurDao

open Faults Sql

/-- A vote, for or against, and its weight. -/
abbrev Vote : Type := Bool × Nat

structure Tally where
  votes_for : Nat := 0
  votes_against : Nat := 0
  voter_count : Int := 0
  deriving DecidableEq, Repr

namespace Tally

def cast (t : Tally) (v : Vote) : Tally where
  votes_for := t.votes_for + if v.1 then v.2 else 0
  votes_against := t.votes_against + if v.1 then 0 else v.2
  voter_count := t.voter_count + 1

/-- The sums of the weights for and against, and the number of the votes. -/
def of (votes : List Vote) : Tally where
  votes_for := ((votes.filter (·.1)).map (·.2)).sum
  votes_against := ((votes.filter (!·.1)).map (·.2)).sum
  voter_count := votes.length

theorem foldl_cast (votes : List Vote) (t : Tally) : votes.foldl cast t =
    ⟨t.votes_for + (of votes).votes_for, t.votes_against + (of votes).votes_against,
      t.voter_count + (of votes).voter_count⟩ := by
  induction votes generalizing t with
  | nil => simp [of]
  | cons v votes ih =>
    obtain ⟨support, weight⟩ := v
    rw [List.foldl_cons, ih]
    cases support <;> simp [of, cast, Nat.add_assoc, Int.add_comm, Int.add_left_comm]

/-- Votes counted one by one add up. -/
theorem foldl_cast_zero (votes : List Vote) : votes.foldl cast {} = of votes := by
  rw [foldl_cast]
  simp

end Tally

/-- A table of proposals: what its rows say, and the symbols of the events that open a proposal or vote on
one, with the field that names it. -/
structure Proposals (ν σ : Type) where
  rows : Tables → Table Int ν
  status : ν → σ
  tally : ν → Tally
  pending : σ
  waiting : σ
  rejected : σ
  final : σ
  requests : EventSymbol → Option String
  ballots : EventSymbol → Option String

/-- The event is of a kind in `kinds`, and names the proposal. -/
def names (kinds : EventSymbol → Option String) (id : Int) (ev : DecodedEvent) : Bool :=
  match (EventSymbol.ofSymbol? ev.symbol).bind kinds with
  | some field => (requireId ev field).toOption = some id
  | none => false

section

variable {ev : DecodedEvent} {id : Int} {kinds : EventSymbol → Option String}

theorem names_eq_true {s : EventSymbol} (hs : EventSymbol.ofSymbol? ev.symbol = some s) {field : String}
    (hkind : kinds s = some field) (hid : requireId ev field = .ok id) : names kinds id ev = true := by
  simp [names, hs, hkind, hid, Except.toOption]

theorem names_of_kind_none {s : EventSymbol} (hs : EventSymbol.ofSymbol? ev.symbol = some s)
    (hkind : kinds s = none) : names kinds id ev = false := by
  simp [names, hs, hkind]

/-- What an event names, it names with a field of its kind. -/
theorem names_iff : names kinds id ev = true ↔ ∃ s field, EventSymbol.ofSymbol? ev.symbol = some s ∧
    kinds s = some field ∧ requireId ev field = .ok id := by
  rw [names]
  cases hs : EventSymbol.ofSymbol? ev.symbol with
  | none => simp
  | some s =>
    cases hkind : kinds s with
    | none => simp [hkind]
    | some field => cases hid : requireId ev field <;> simp [hkind, hid, Except.toOption]

theorem mem_keys {e : Entity} (he : e ≠ .event ev.id) :
    e ∈ keys ev ↔ ∃ s, EventSymbol.ofSymbol? ev.symbol = some s ∧ e ∈ symbolEntities ev s := by
  cases hs : EventSymbol.ofSymbol? ev.symbol <;> simp [keys, entities, hs, he]

end

namespace Proposals

variable {ν σ : Type} (P : Proposals ν σ)

/-- The event asks for the proposal. -/
def opens (id : Int) (ev : DecodedEvent) : Bool := names P.requests id ev

/-- The vote that the event casts on the proposal, of weight 1 where the event names none. -/
def vote? (id : Int) (ev : DecodedEvent) : Option Vote :=
  if names P.ballots id ev then
    match requireBool ev "support", weightOf ev with
    | .ok support, .ok weight => some (support, weight.value)
    | _, _ => none
  else none

/-- The votes on a proposal since it was first asked for. -/
def votesSince (id : Int) (evs : List DecodedEvent) : List Vote :=
  (evs.dropWhile fun ev => !P.opens id ev).filterMap (P.vote? id)

/-- What an event can do to the row of a proposal. -/
inductive Move (id : Int) (ev : DecodedEvent) : Option ν → Option ν → Prop
  | absent (h : P.opens id ev = false) : Move id ev none none
  | opened {row : ν} (h : P.opens id ev = true) (hvote : P.vote? id ev = none) (hs : P.status row = P.pending)
    (ht : P.tally row = {}) : Move id ev none (some row)
  | voted {row row' : ν} {v : Vote} (h : P.vote? id ev = some v) (hs : P.status row' = P.status row)
    (ht : P.tally row' = (P.tally row).cast v) : Move id ev (some row) (some row')
  | judged {row row' : ν} (h : P.vote? id ev = none) (hs : P.status row = P.pending)
    (hs' : P.status row' = P.waiting ∨ P.status row' = P.rejected) (ht : P.tally row' = P.tally row) :
    Move id ev (some row) (some row')
  | finished {row row' : ν} (h : P.vote? id ev = none) (hs : P.status row' = P.final)
    (ht : P.tally row' = P.tally row) : Move id ev (some row) (some row')
  | kept {row row' : ν} (h : P.vote? id ev = none) (hs : P.status row' = P.status row)
    (ht : P.tally row' = P.tally row) : Move id ev (some row) (some row')

variable {P}

/-- An event that neither asks for the proposal nor votes on it may leave its row as it is. -/
theorem Move.stay {id : Int} {ev : DecodedEvent} (hopen : P.opens id ev = false) (hvote : P.vote? id ev = none)
    (row : Option ν) : P.Move id ev row row := by
  cases row with
  | none => exact .absent hopen
  | some row => exact .kept hvote rfl rfl

theorem vote?_of_not_names {id : Int} {ev : DecodedEvent} (h : names P.ballots id ev = false) :
    P.vote? id ev = none := by simp [vote?, h]

/-- An event of a kind that opens no proposal. -/
theorem opens_eq_false {id : Int} {ev : DecodedEvent} {s : EventSymbol}
    (hs : EventSymbol.ofSymbol? ev.symbol = some s) (hno : P.requests s = none) : P.opens id ev = false :=
  names_of_kind_none hs hno

/-- An event of a kind that votes on no proposal. -/
theorem vote?_eq_none {id : Int} {ev : DecodedEvent} {s : EventSymbol}
    (hs : EventSymbol.ofSymbol? ev.symbol = some s) (hno : P.ballots s = none) : P.vote? id ev = none :=
  vote?_of_not_names (names_of_kind_none hs hno)

/-- An event that does not name `e`, as every request for the proposal and every vote on it does. -/
theorem stays {id : Int} {ev : DecodedEvent} {e : Entity} (he : e ≠ .event ev.id) (h : e ∉ keys ev)
    (hrequests : ∀ s field, P.requests s = some field → requireId ev field = .ok id → e ∈ symbolEntities ev s)
    (hballots : ∀ s field, P.ballots s = some field → requireId ev field = .ok id → e ∈ symbolEntities ev s) :
    P.opens id ev = false ∧ P.vote? id ev = none := by
  rw [mem_keys he] at h
  have hno : ∀ kinds : EventSymbol → Option String,
      (∀ s field, kinds s = some field → requireId ev field = .ok id → e ∈ symbolEntities ev s) →
      names kinds id ev = false := by
    intro kinds hkinds
    rw [← Bool.not_eq_true, names_iff]
    rintro ⟨s, field, hs, hfield, hid⟩
    exact h ⟨s, hs, hkinds s field hfield hid⟩
  exact ⟨hno _ hrequests, vote?_of_not_names (hno _ hballots)⟩

/-- Whatever an event does to the tables, it moves every proposal. -/
def Moves (P : Proposals ν σ) : Prop := ∀ ev t channels t', applyEvent ev t = .ok (channels, t') →
  ∀ id, P.Move id ev ((P.rows t).lookup id) ((P.rows t').lookup id)

/-- The statuses are told apart. -/
structure Distinct (P : Proposals ν σ) : Prop where
  waiting : P.waiting ≠ P.pending
  rejected : P.rejected ≠ P.pending
  final : P.final ≠ P.pending
  final_waiting : P.final ≠ P.waiting
  final_rejected : P.final ≠ P.rejected

/-- What holds of the proposals after a run of events from empty tables. -/
structure Lifecycle (P : Proposals ν σ) (evs : List DecodedEvent) (t : Tables) : Prop where
  /-- the tallies are those of the votes since the proposal was opened -/
  tally : ∀ id row, (P.rows t).lookup id = some row → P.tally row = Tally.of (P.votesSince id evs)
  /-- a final status is kept -/
  final : ∀ before after s, evs = before ++ after → foldTables before Tables.empty = .ok s → ∀ id row,
    (P.rows s).lookup id = some row → P.status row = P.final →
    ∃ row', (P.rows t).lookup id = some row' ∧ P.status row' = P.final
  /-- a proposal is judged only while it is pending -/
  judged : ∀ before ev after s channels s', evs = before ++ ev :: after → foldTables before Tables.empty = .ok s →
    applyEvent ev s = .ok (channels, s') → ∀ id row', (P.rows s').lookup id = some row' →
    P.status row' = P.waiting ∨ P.status row' = P.rejected →
    ∃ row, (P.rows s).lookup id = some row ∧ (P.status row = P.status row' ∨ P.status row = P.pending)
  /-- only votes change the tallies -/
  unmoved : ∀ before ev after s channels s', evs = before ++ ev :: after → foldTables before Tables.empty = .ok s →
    applyEvent ev s = .ok (channels, s') → ∀ id row, (P.rows s).lookup id = some row → P.vote? id ev = none →
    ∃ row', (P.rows s').lookup id = some row' ∧ P.tally row' = P.tally row

section

variable (hmoves : P.Moves) {id : Int} {ev : DecodedEvent} {evs : List DecodedEvent} {t t' : Tables}
include hmoves

/-- A proposal that is there counts the votes cast on it. -/
theorem Moves.tally_of_row {row : ν} (hrow : (P.rows t).lookup id = some row)
    (h : foldTables evs t = .ok t') : ∃ row', (P.rows t').lookup id = some row' ∧
      P.tally row' = (evs.filterMap (P.vote? id)).foldl Tally.cast (P.tally row) := by
  induction evs generalizing t row with
  | nil =>
    cases h
    exact ⟨row, hrow, rfl⟩
  | cons ev evs ih =>
    obtain ⟨channels, s, hev, hrest⟩ := foldTables_cons_ok.mp h
    have hmove := hmoves ev t channels s hev id
    rw [hrow] at hmove
    generalize hs : (P.rows s).lookup id = after at hmove
    cases hmove with
    | voted hvote _ ht =>
      rw [List.filterMap_cons_some hvote, List.foldl_cons, ← ht]
      exact ih hs hrest
    | judged hvote _ _ ht | finished hvote _ ht | kept hvote _ ht =>
      rw [List.filterMap_cons_none hvote, ← ht]
      exact ih hs hrest

/-- A proposal that is not there yet counts the votes since it is asked for. -/
theorem Moves.tally_of_absent (hnone : (P.rows t).lookup id = none) (h : foldTables evs t = .ok t') {row : ν}
    (hrow : (P.rows t').lookup id = some row) : P.tally row = Tally.of (P.votesSince id evs) := by
  induction evs generalizing t with
  | nil =>
    cases h
    rw [hnone] at hrow
    cases hrow
  | cons ev evs ih =>
    obtain ⟨channels, s, hev, hrest⟩ := foldTables_cons_ok.mp h
    have hmove := hmoves ev t channels s hev id
    rw [hnone] at hmove
    generalize hs : (P.rows s).lookup id = after at hmove
    cases hmove with
    | absent hopen =>
      have hsince : P.votesSince id (ev :: evs) = P.votesSince id evs := by simp [votesSince, hopen]
      rw [hsince]
      exact ih hs hrest
    | opened hopen hvote _ ht =>
      have hsince : P.votesSince id (ev :: evs) = evs.filterMap (P.vote? id) := by
        simp [votesSince, hopen, hvote]
      obtain ⟨row', hrow', htally⟩ := hmoves.tally_of_row hs hrest
      rw [hrow] at hrow'
      cases hrow'
      rw [htally, ht, hsince, Tally.foldl_cast_zero]

theorem Moves.final (hd : P.Distinct) {row : ν} (hrow : (P.rows t).lookup id = some row)
    (hfinal : P.status row = P.final) (h : foldTables evs t = .ok t') :
    ∃ row', (P.rows t').lookup id = some row' ∧ P.status row' = P.final := by
  induction evs generalizing t row with
  | nil =>
    cases h
    exact ⟨row, hrow, hfinal⟩
  | cons ev evs ih =>
    obtain ⟨channels, s, hev, hrest⟩ := foldTables_cons_ok.mp h
    have hmove := hmoves ev t channels s hev id
    rw [hrow] at hmove
    generalize hs : (P.rows s).lookup id = after at hmove
    cases hmove with
    | voted _ hsame _ | kept _ hsame _ => exact ih hs (hsame.trans hfinal) hrest
    | finished _ hf _ => exact ih hs hf hrest
    | judged _ hpending _ _ => exact absurd (hfinal.symm.trans hpending) hd.final

theorem Moves.lifecycle (hd : P.Distinct) (hempty : ∀ id, (P.rows Tables.empty).lookup id = none)
    (h : foldTables evs Tables.empty = .ok t) : P.Lifecycle evs t where
  tally id row hrow := hmoves.tally_of_absent (hempty id) h hrow
  final before after s hsplit hs id row hrow hfinal := by
    subst hsplit
    obtain ⟨s', hs', hafter⟩ := foldTables_append_ok.mp h
    rw [hs] at hs'
    cases hs'
    exact hmoves.final hd hrow hfinal hafter
  judged before ev after s channels s' _ _ hev id row' hrow' hjudged := by
    have hmove := hmoves ev s channels s' hev id
    rw [hrow'] at hmove
    generalize hbefore : (P.rows s).lookup id = row? at hmove
    cases hmove with
    | opened _ _ hpending _ =>
      rw [hpending] at hjudged
      rcases hjudged with hjudged | hjudged
      · exact absurd hjudged.symm hd.waiting
      · exact absurd hjudged.symm hd.rejected
    | voted _ hsame _ | kept _ hsame _ => exact ⟨_, rfl, .inl hsame.symm⟩
    | judged _ hpending _ _ => exact ⟨_, rfl, .inr hpending⟩
    | finished _ hfinal _ =>
      rw [hfinal] at hjudged
      rcases hjudged with hjudged | hjudged
      · exact absurd hjudged hd.final_waiting
      · exact absurd hjudged hd.final_rejected
  unmoved before ev after s channels s' _ _ hev id row hrow hvote := by
    have hmove := hmoves ev s channels s' hev id
    rw [hrow] at hmove
    generalize hs : (P.rows s').lookup id = after? at hmove
    cases hmove with
    | voted hsome _ _ =>
      rw [hvote] at hsome
      cases hsome
    | judged _ _ _ ht | finished _ _ ht | kept _ _ ht => exact ⟨_, rfl, ht⟩

end

end Proposals

def loanProposals : Proposals LoanProposalRow ProposalStatus where
  rows := Tables.loan_proposals
  status := LoanProposalRow.status
  tally row := ⟨row.votes_for, row.votes_against, row.voter_count⟩
  pending := .pending
  waiting := .approved_pending_disbursement
  rejected := .rejected
  final := .approved
  requests
    | .loan_req => some "id"
    | _ => none
  ballots
    | .loan_vote => some "proposal_id"
    | _ => none

def treasuryProposals : Proposals TreasuryProposalRow TreasuryStatus where
  rows := Tables.treasury_proposals
  status := TreasuryProposalRow.status
  tally row := ⟨row.votes_for, row.votes_against, row.voter_count⟩
  pending := .pending
  waiting := .approved_pending_disbursement
  rejected := .rejected
  final := .executed
  requests
    | .tre_prop => some "id"
    | _ => none
  ballots := treasuryBallots

section

variable {ν σ : Type} {P : Proposals ν σ} {ev : DecodedEvent} {id : Int} {t t' : Tables}

theorem mem_loanNamed_iff {field : String} : .loan id ∈ loanNamed ev field ↔ requireId ev field = .ok id := by
  rw [loanNamed]
  cases requireId ev field <;> simp [eq_comm]

theorem mem_treasuryNamed_iff {field : String} :
    .treasury id ∈ treasuryNamed ev field ↔ requireId ev field = .ok id := by
  rw [treasuryNamed]
  cases requireId ev field <;> simp [eq_comm]

theorem not_loan_memberNamed {field : String} : .loan id ∉ memberNamed ev field := by
  rw [memberNamed]
  cases requireAddr ev field <;> simp

theorem not_loan_treasuryNamed {field : String} : .loan id ∉ treasuryNamed ev field := by
  rw [treasuryNamed]
  cases requireId ev field <;> simp

theorem not_treasury_memberNamed {field : String} : .treasury id ∉ memberNamed ev field := by
  rw [memberNamed]
  cases requireAddr ev field <;> simp

theorem not_treasury_loanNamed {field : String} : .treasury id ∉ loanNamed ev field := by
  rw [loanNamed]
  cases requireId ev field <;> simp

/-- The table of a kind of proposals, as the statements write it. -/
structure Proposals.Stored (P : Proposals ν σ) (r : Relation Int ν) : Prop where
  get : ∀ t, r.get t = P.rows t
  set : ∀ x t, P.rows (r.set x t) = x

/-- An update of the row of a proposal moves it as the rewrite of the row does. -/
theorem Proposals.Stored.updateWhere {r : Relation Int ν} (hr : P.Stored r) {p : ν → Bool} {f : ν → Except String ν}
    {updated : Option ν} (h : updateWhere r id p f t = .ok (updated, t')) (hopen : P.opens id ev = false)
    (hskip : ∀ row, p row = false → P.Move id ev (some row) (some row))
    (hwrite : ∀ row row', p row = true → f row = .ok row' → P.Move id ev (some row) (some row')) :
    P.Move id ev ((P.rows t).lookup id) ((P.rows t').lookup id) := by
  rcases updateWhere_eq_ok h with ⟨-, rfl, hnone⟩ | ⟨row, row', hrow, hp, hf, -, rfl⟩
  · rw [hr.get] at hnone
    cases hrow : (P.rows t').lookup id with
    | none => exact .absent hopen
    | some row => exact hskip row (hnone row hrow)
  · rw [hr.get] at hrow
    rw [hrow, hr.set, hr.get, AList.lookup_insert]
    exact hwrite row row' hp hf

theorem Proposals.Stored.update {r : Relation Int ν} (hr : P.Stored r) {f : ν → Except String ν}
    {updated : Option ν} (h : Sql.update r id f t = .ok (updated, t')) (hopen : P.opens id ev = false)
    (hwrite : ∀ row row', f row = .ok row' → P.Move id ev (some row) (some row')) :
    P.Move id ev ((P.rows t).lookup id) ((P.rows t').lookup id) :=
  hr.updateWhere h hopen (fun _ hp => by cases hp) fun row row' _ => hwrite row row'

/-- An insert opens the proposal, or rewrites the row that is there. -/
theorem Proposals.Stored.upsert {r : Relation Int ν} (hr : P.Stored r) {row : ν} {f : ν → ν} {isNew : Bool}
    (h : upsert r id row f t = .ok (isNew, t')) (hopen : P.opens id ev = true) (hvote : P.vote? id ev = none)
    (hs : P.status row = P.pending) (ht : P.tally row = {}) (hs' : ∀ old, P.status (f old) = P.status old)
    (ht' : ∀ old, P.tally (f old) = P.tally old) :
    P.Move id ev ((P.rows t).lookup id) ((P.rows t').lookup id) := by
  rcases upsert_eq_ok h with ⟨hnone, -, rfl⟩ | ⟨old, hold, -, rfl⟩
  · rw [hr.get] at hnone
    rw [hnone, hr.set, hr.get, AList.lookup_insert]
    exact .opened hopen hvote hs ht
  · rw [hr.get] at hold
    rw [hold, hr.set, hr.get, AList.lookup_insert]
    exact .kept hvote (hs' old) (ht' old)

/-- The vote that a ballot casts. -/
theorem Ballot.vote? {s : EventSymbol} (hs : EventSymbol.ofSymbol? ev.symbol = some s) {field : String}
    (hfield : P.ballots s = some field) {support : Bool} {weight : Amount}
    (h : Ballot ev field id support weight) : P.vote? id ev = some (support, weight.value) := by
  simp [Proposals.vote?, names_eq_true hs hfield h.proposal, h.support, h.weight]

end

section

variable {ev : DecodedEvent} {id : Int} {t t' : Tables}

theorem stored_loan_proposals : loanProposals.Stored loan_proposals := ⟨fun _ => rfl, fun _ _ => rfl⟩

/-- A request opens a proposal, or changes its terms. -/
theorem loan_req_move (hs : EventSymbol.ofSymbol? ev.symbol = some .loan_req) (hid : requireId ev "id" = .ok id)
    (h : loan_req ev t = .ok ((), t')) :
    loanProposals.Move id ev (t.loan_proposals.lookup id) (t'.loan_proposals.lookup id) := by
  simp only [loan_req, lift_bind_eq_ok, hid] at h
  obtain ⟨_, ⟨⟩, borrower, -, amount, -, total, -, id', hid', amount', -, total', -, h⟩ := h
  obtain rfl := integer_eq_ok hid'
  obtain ⟨isNew, t₁, hupsert, htell⟩ := bind_eq_ok.mp h
  rw [Leaves.same (f := Tables.loan_proposals) t₁ () t' htell]
  exact stored_loan_proposals.upsert hupsert (names_eq_true hs rfl hid) (Proposals.vote?_eq_none hs rfl) rfl rfl
    (fun _ => rfl) fun _ => rfl

/-- An edit changes the terms of a proposal. -/
theorem loan_edit_move (hs : EventSymbol.ofSymbol? ev.symbol = some .loan_edit)
    (hid : requireId ev "proposal_id" = .ok id) (h : loan_edit ev t = .ok ((), t')) :
    loanProposals.Move id ev (t.loan_proposals.lookup id) (t'.loan_proposals.lookup id) := by
  have hvote : loanProposals.vote? id ev = none := Proposals.vote?_eq_none hs rfl
  simp only [loan_edit, lift_bind_eq_ok, hid] at h
  obtain ⟨_, ⟨⟩, amount, -, total, -, id', hid', h⟩ := h
  obtain rfl := integer_eq_ok hid'
  obtain ⟨updated, t₁, hupdate, ⟨⟩⟩ := bind_eq_ok.mp h
  refine stored_loan_proposals.update hupdate (Proposals.opens_eq_false hs rfl) fun row row' hrow => ?_
  obtain ⟨-, hrow⟩ := numeric_bind_eq_ok.mp hrow
  obtain ⟨-, ⟨⟩⟩ := numeric_bind_eq_ok.mp hrow
  exact .kept hvote rfl rfl

/-- A vote is counted. -/
theorem loan_vote_move (hs : EventSymbol.ofSymbol? ev.symbol = some .loan_vote)
    (hid : requireId ev "proposal_id" = .ok id) (h : loan_vote ev t = .ok ((), t')) :
    loanProposals.Move id ev (t.loan_proposals.lookup id) (t'.loan_proposals.lookup id) := by
  obtain ⟨id', support, weight, hballot⟩ := ballot_of_loan_vote h
  obtain rfl : id' = id := Except.ok.inj (hballot.proposal.symm.trans hid)
  obtain ⟨updated, hupdate⟩ := (hballot.loan_vote hs t t').mp ((applyEvent_eq_ok hs rfl).mpr h)
  refine stored_loan_proposals.update hupdate (Proposals.opens_eq_false hs rfl) fun row row' hrow => ?_
  obtain ⟨-, -, -, rfl⟩ := LoanProposalRow.cast_eq_ok.mp hrow
  exact .voted (hballot.vote? hs rfl) rfl rfl

/-- Rows that are judged while they are pending. -/
theorem loanProposals_judged {s : EventSymbol} (hs : EventSymbol.ofSymbol? ev.symbol = some s)
    (hopen : loanProposals.requests s = none) (hballot : loanProposals.ballots s = none) {status : ProposalStatus}
    (hstatus : status = .approved_pending_disbursement ∨ status = .rejected) {updated : Option LoanProposalRow}
    (hupdate : updateWhere loan_proposals id (·.status = .pending) (fun row => .ok { row with status }) t =
      .ok (updated, t')) :
    loanProposals.Move id ev (t.loan_proposals.lookup id) (t'.loan_proposals.lookup id) := by
  have hvote : loanProposals.vote? id ev = none := Proposals.vote?_eq_none hs hballot
  refine stored_loan_proposals.updateWhere hupdate (Proposals.opens_eq_false hs hopen) ?_ fun row row' hp hrow => ?_
  · exact fun row _ => .kept hvote rfl rfl
  · cases hrow
    exact .judged hvote (of_decide_eq_true hp) hstatus rfl

/-- A verdict is for a pending proposal. -/
theorem loanVerdict_move {s : EventSymbol} (hs : EventSymbol.ofSymbol? ev.symbol = some s)
    (hopen : loanProposals.requests s = none) (hballot : loanProposals.ballots s = none) {status : ProposalStatus}
    (hstatus : status = .approved_pending_disbursement ∨ status = .rejected) {type : NotificationType}
    {title : String} {message : Int → String} (hid : requireId ev "id" = .ok id)
    (h : loanVerdict status type title message ev t = .ok ((), t')) :
    loanProposals.Move id ev (t.loan_proposals.lookup id) (t'.loan_proposals.lookup id) := by
  simp only [loanVerdict, lift_bind_eq_ok, hid] at h
  obtain ⟨_, ⟨⟩, id', hid', h⟩ := h
  obtain rfl := integer_eq_ok hid'
  obtain ⟨updated, t₁, hupdate, htell⟩ := bind_eq_ok.mp h
  have htold : t'.loan_proposals = t₁.loan_proposals := by
    cases updated with
    | none => cases htell; rfl
    | some row => exact Leaves.same t₁ () t' htell
  rw [htold]
  exact loanProposals_judged hs hopen hballot hstatus hupdate

/-- An approval is final. -/
theorem loan_appr_move (hs : EventSymbol.ofSymbol? ev.symbol = some .loan_appr) (hid : requireId ev "id" = .ok id)
    (h : loan_appr ev t = .ok ((), t')) :
    loanProposals.Move id ev (t.loan_proposals.lookup id) (t'.loan_proposals.lookup id) := by
  have hvote : loanProposals.vote? id ev = none := Proposals.vote?_eq_none hs rfl
  obtain ⟨id', borrower, amount, due_time, principal, total, ⟨hid', -⟩, approved, t₁, happroved, -, isNew, t₂, hupsert,
    t₃, hlent, t₄, hactive, htell⟩ := loan_appr_steps h
  obtain rfl : id' = id := Except.ok.inj (hid'.symm.trans hid)
  rw [Leaves.same (f := Tables.loan_proposals) t₄ () t' htell,
    Leaves.same (f := Tables.loan_proposals) t₃ () t₄ hactive, Leaves.same (f := Tables.loan_proposals) t₂ () t₃ hlent,
    Leaves.same (f := Tables.loan_proposals) t₁ isNew t₂ hupsert]
  refine stored_loan_proposals.update happroved (Proposals.opens_eq_false hs rfl) fun row row' hrow => ?_
  cases hrow
  exact .finished hvote rfl rfl

/-- A proposal expires while it is pending. -/
theorem loan_exp_move (hs : EventSymbol.ofSymbol? ev.symbol = some .loan_exp)
    (hid : requireId ev "proposal_id" = .ok id) (h : loan_exp ev t = .ok ((), t')) :
    loanProposals.Move id ev (t.loan_proposals.lookup id) (t'.loan_proposals.lookup id) := by
  simp only [loan_exp, lift_bind_eq_ok, hid] at h
  obtain ⟨_, ⟨⟩, borrower, -, id', hid', h⟩ := h
  obtain rfl := integer_eq_ok hid'
  obtain ⟨updated, t₁, hupdate, htell⟩ := bind_eq_ok.mp h
  have htold : t'.loan_proposals = t₁.loan_proposals := by
    cases updated with
    | none => cases htell; rfl
    | some row => exact Leaves.same t₁ () t' htell
  rw [htold]
  exact loanProposals_judged hs rfl rfl (.inr rfl) hupdate

end

section

variable {ev : DecodedEvent} {id : Int} {t t' : Tables}

theorem loan_rpy_leaves (h : loan_rpy ev t = .ok ((), t')) : t'.loan_proposals = t.loan_proposals := by
  simp only [loan_rpy, lift_bind_eq_ok, select_bind_eq_ok] at h
  obtain ⟨id, -, borrower, -, outstanding, -, id', -, h⟩ := h
  exact Leaves.same t () t' h

theorem loan_dflt_leaves (h : loan_dflt ev t = .ok ((), t')) : t'.loan_proposals = t.loan_proposals := by
  obtain ⟨id, borrower, penalty, -, ⟨-, rfl⟩ | ⟨row, -, -, t₁, rfl, t₂, htotals, t₃, hdaily, x, t₄, hmember, htell⟩⟩ :=
    loan_dflt_steps h
  · rfl
  · rw [Leaves.same (f := Tables.loan_proposals) t₄ () t' htell,
      Leaves.same (f := Tables.loan_proposals) t₃ x t₄ hmember,
      Leaves.same (f := Tables.loan_proposals) t₂ () t₃ hdaily,
      Leaves.same (f := Tables.loan_proposals) _ () t₂ htotals]
    rfl

/-- **Every event moves every loan proposal.** -/
theorem loanProposals_moves : loanProposals.Moves := by
  intro ev t channels t' h id
  by_cases hkey : .loan id ∈ keys ev
  · obtain ⟨s, hs, hmem⟩ := (mem_keys (by simp)).mp hkey
    have hrun {handler : DecodedEvent → Sql Unit} (hh : handlers s = some handler) : handler ev t = .ok ((), t') :=
      (applyEvent_eq_ok hs hh).mp ⟨channels, h⟩
    have hleft (hopen : loanProposals.requests s = none) (hballot : loanProposals.ballots s = none)
        (hsame : t'.loan_proposals = t.loan_proposals) :
        loanProposals.Move id ev (t.loan_proposals.lookup id) (t'.loan_proposals.lookup id) := by
      rw [hsame]
      exact .stay (Proposals.opens_eq_false hs hopen) (Proposals.vote?_eq_none hs hballot) _
    cases s <;> simp only [symbolEntities, List.mem_append, not_loan_memberNamed, mem_loanNamed_iff,
      not_loan_treasuryNamed, or_false, List.not_mem_nil] at hmem
    case loan_req => exact loan_req_move hs hmem (hrun rfl)
    case loan_edit => exact loan_edit_move hs hmem (hrun rfl)
    case loan_vote => exact loan_vote_move hs hmem (hrun rfl)
    case loan_wait => exact loanVerdict_move hs rfl rfl (.inl rfl) hmem (hrun rfl)
    case loan_rej => exact loanVerdict_move hs rfl rfl (.inr rfl) hmem (hrun rfl)
    case loan_appr => exact loan_appr_move hs hmem (hrun rfl)
    case loan_exp => exact loan_exp_move hs hmem (hrun rfl)
    case loan_rpy => exact hleft rfl rfl (loan_rpy_leaves (hrun rfl))
    case loan_dflt => exact hleft rfl rfl (loan_dflt_leaves (hrun rfl))
  · obtain ⟨hopen, hvote⟩ : loanProposals.opens id ev = false ∧ loanProposals.vote? id ev = none := by
      refine Proposals.stays (by simp) hkey (fun s field hs hid => ?_) fun s field hs hid => ?_
      · cases s <;> cases hs
        exact mem_loanNamed_iff.mpr hid
      · cases s <;> cases hs
        exact mem_loanNamed_iff.mpr hid
    have hsame : t.loan_proposals.lookup id = t'.loan_proposals.lookup id :=
      ((applyEvent_local ev t channels t' h).1 (.loan id) hkey).1
    show loanProposals.Move id ev (t.loan_proposals.lookup id) (t'.loan_proposals.lookup id)
    rw [← hsame]
    exact .stay hopen hvote _

end

section

variable {ev : DecodedEvent} {id : Int} {t t' : Tables}

theorem stored_treasury_proposals : treasuryProposals.Stored treasury_proposals := ⟨fun _ => rfl, fun _ _ => rfl⟩

theorem tre_prop_move (hs : EventSymbol.ofSymbol? ev.symbol = some .tre_prop) (hid : requireId ev "id" = .ok id)
    (h : tre_prop ev t = .ok ((), t')) :
    treasuryProposals.Move id ev (t.treasury_proposals.lookup id) (t'.treasury_proposals.lookup id) := by
  simp only [tre_prop, lift_bind_eq_ok, hid] at h
  obtain ⟨_, ⟨⟩, amount, -, destination, -, id', hid', amount', -, h⟩ := h
  obtain rfl := integer_eq_ok hid'
  obtain ⟨isNew, t₁, hupsert, ⟨⟩⟩ := bind_eq_ok.mp h
  exact stored_treasury_proposals.upsert hupsert (names_eq_true hs rfl hid) (Proposals.vote?_eq_none hs rfl) rfl rfl
    (fun _ => rfl) fun _ => rfl

/-- A vote is counted, revealed or cast openly. -/
theorem treasuryVote_move {s : EventSymbol} (hs : EventSymbol.ofSymbol? ev.symbol = some s) {field : String}
    (hfield : treasuryBallots s = some field) (hid : requireId ev field = .ok id)
    (h : treasuryVote field ev t = .ok ((), t')) :
    treasuryProposals.Move id ev (t.treasury_proposals.lookup id) (t'.treasury_proposals.lookup id) := by
  obtain ⟨id', support, weight, hballot⟩ := ballot_of_treasuryVote h
  obtain rfl : id' = id := Except.ok.inj (hballot.proposal.symm.trans hid)
  obtain ⟨updated, hupdate⟩ := (hballot.treasuryVote hs hfield t t').mp
    ((applyEvent_eq_ok hs (treasuryBallots_handler hfield)).mpr h)
  have hopen : treasuryProposals.requests s = none := by cases s <;> cases hfield <;> rfl
  refine stored_treasury_proposals.update hupdate (Proposals.opens_eq_false hs hopen) fun row row' hrow => ?_
  obtain ⟨-, -, -, rfl⟩ := TreasuryProposalRow.cast_eq_ok.mp hrow
  exact .voted (hballot.vote? hs hfield) rfl rfl

theorem treasuryVerdict_move {s : EventSymbol} (hs : EventSymbol.ofSymbol? ev.symbol = some s)
    (hopen : treasuryProposals.requests s = none) (hballot : treasuryBallots s = none) {status : TreasuryStatus}
    (hstatus : status = .approved_pending_disbursement ∨ status = .rejected) {type : NotificationType}
    {title : String} {message : Int → String} (hid : requireId ev "id" = .ok id)
    (h : treasuryVerdict status type title message ev t = .ok ((), t')) :
    treasuryProposals.Move id ev (t.treasury_proposals.lookup id) (t'.treasury_proposals.lookup id) := by
  have hvote : treasuryProposals.vote? id ev = none := Proposals.vote?_eq_none hs hballot
  simp only [treasuryVerdict, lift_bind_eq_ok, hid] at h
  obtain ⟨_, ⟨⟩, id', hid', h⟩ := h
  obtain rfl := integer_eq_ok hid'
  obtain ⟨updated, t₁, hupdate, htell⟩ := bind_eq_ok.mp h
  have htold : t'.treasury_proposals = t₁.treasury_proposals := by
    cases updated with
    | none => cases htell; rfl
    | some row => exact Leaves.same t₁ () t' htell
  rw [htold]
  refine stored_treasury_proposals.updateWhere hupdate (Proposals.opens_eq_false hs hopen) ?_
    fun row row' hp hrow => ?_
  · exact fun row _ => .kept hvote rfl rfl
  · cases hrow
    exact .judged hvote (of_decide_eq_true hp) hstatus rfl

/-- An execution is final. -/
theorem tre_exec_move (hs : EventSymbol.ofSymbol? ev.symbol = some .tre_exec) (hid : requireId ev "id" = .ok id)
    (h : tre_exec ev t = .ok ((), t')) :
    treasuryProposals.Move id ev (t.treasury_proposals.lookup id) (t'.treasury_proposals.lookup id) := by
  have hvote : treasuryProposals.vote? id ev = none := Proposals.vote?_eq_none hs rfl
  simp only [tre_exec, lift_bind_eq_ok, hid] at h
  obtain ⟨_, ⟨⟩, destination, -, id', hid', h⟩ := h
  obtain rfl := integer_eq_ok hid'
  obtain ⟨updated, t₁, hupdate, hrest⟩ := bind_eq_ok.mp h
  rw [Leaves.same (f := Tables.treasury_proposals) t₁ () t' hrest]
  refine stored_treasury_proposals.update hupdate (Proposals.opens_eq_false hs rfl) fun row row' hrow => ?_
  cases hrow
  exact .finished hvote rfl rfl

/-- **Every event moves every treasury proposal.** -/
theorem treasuryProposals_moves : treasuryProposals.Moves := by
  intro ev t channels t' h id
  by_cases hkey : .treasury id ∈ keys ev
  · obtain ⟨s, hs, hmem⟩ := (mem_keys (by simp)).mp hkey
    have hrun {handler : DecodedEvent → Sql Unit} (hh : handlers s = some handler) : handler ev t = .ok ((), t') :=
      (applyEvent_eq_ok hs hh).mp ⟨channels, h⟩
    cases s <;> simp only [symbolEntities, List.mem_append, not_treasury_memberNamed, not_treasury_loanNamed,
      mem_treasuryNamed_iff, or_false, List.not_mem_nil] at hmem
    case tre_prop => exact tre_prop_move hs hmem (hrun rfl)
    case tre_vote => exact treasuryVote_move hs rfl hmem (hrun rfl)
    case revealed => exact treasuryVote_move hs rfl hmem (hrun rfl)
    case tre_wait => exact treasuryVerdict_move hs rfl rfl (.inl rfl) hmem (hrun rfl)
    case tre_rej => exact treasuryVerdict_move hs rfl rfl (.inr rfl) hmem (hrun rfl)
    case tre_exec => exact tre_exec_move hs hmem (hrun rfl)
  · obtain ⟨hopen, hvote⟩ : treasuryProposals.opens id ev = false ∧ treasuryProposals.vote? id ev = none := by
      refine Proposals.stays (by simp) hkey (fun s field hs hid => ?_) fun s field hs hid => ?_
      · cases s <;> cases hs
        exact mem_treasuryNamed_iff.mpr hid
      · rw [treasuryBallots_entities hs ev]
        exact mem_treasuryNamed_iff.mpr hid
    have hsame : t.treasury_proposals.lookup id = t'.treasury_proposals.lookup id :=
      (applyEvent_local ev t channels t' h).1 (.treasury id) hkey
    show treasuryProposals.Move id ev (t.treasury_proposals.lookup id) (t'.treasury_proposals.lookup id)
    rw [← hsame]
    exact .stay hopen hvote _

end

/-- **The life of every proposal**, over every run of events from empty tables. -/
theorem proposals_live (evs : List DecodedEvent) (t : Tables) (h : foldTables evs Tables.empty = .ok t) :
    loanProposals.Lifecycle evs t ∧ treasuryProposals.Lifecycle evs t :=
  ⟨loanProposals_moves.lifecycle ⟨nofun, nofun, nofun, nofun, nofun⟩ (fun _ => rfl) h,
    treasuryProposals_moves.lifecycle ⟨nofun, nofun, nofun, nofun, nofun⟩ (fun _ => rfl) h⟩

/-- What the tables hold after a run of events that can all be folded. -/
def foldedTables (evs : List DecodedEvent) : Tables := ((foldTables evs Tables.empty).toOption).getD Tables.empty

theorem foldTables_foldedTables {evs : List DecodedEvent}
    (h : ((foldTables evs Tables.empty).toOption).isSome = true) :
    foldTables evs Tables.empty = .ok (foldedTables evs) := by
  cases hf : foldTables evs Tables.empty with
  | error e => simp [hf, Except.toOption] at h
  | ok t => simp [foldedTables, hf, Except.toOption]

/-- A vote before the request, a request, two votes, a wait, an approval and a late rejection. -/
def aLongLife : List DecodedEvent := decoded
  [.published "0001" 1 "loan_vote" [.bigint 7, .str "GB", .bool true, .bigint 9],
    .published "0002" 2 "loan_req" [.bigint 7, .str "GA", .bigint 100, .bigint 110],
    .published "0003" 3 "loan_vote" [.bigint 7, .str "GB", .bool true, .bigint 3],
    .published "0004" 4 "loan_vote" [.bigint 7, .str "GC", .bool false],
    .published "0005" 5 "loan_wait" [.bigint 7], .published "0006" 6 "loan_appr" [.bigint 7, .str "GA", .bigint 100],
    .published "0007" 7 "loan_rej" [.bigint 7]]

theorem proposals_live_long :
    loanProposals.Lifecycle aLongLife (foldedTables aLongLife) ∧
      treasuryProposals.Lifecycle aLongLife (foldedTables aLongLife) :=
  proposals_live aLongLife _ (foldTables_foldedTables (by decide +kernel))

example : ((foldedTables aLongLife).loan_proposals.lookup 7).map (fun row => (row.status, loanProposals.tally row)) =
    some (.approved, ⟨3, 1, 2⟩) := by decide +kernel

end OurDao
