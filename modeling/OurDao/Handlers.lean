import OurDao.JsNumber
import OurDao.Tables

/-!
# The event handlers

Each handler mutates the derived tables for one decoded event. A field that a row
depends on goes through one of the `require` functions and a malformed one fails the
event; a genuinely optional field is coerced.
-/

namespace OurDao

inductive StreamChannel where
  | members | loan_proposals | loans | treasury_proposals | interest
  deriving DecidableEq, Repr

open Sql

/-- The message of a `FieldValidationError`. -/
def fieldValidationError (ev : DecodedEvent) (field reason : String) : String :=
  s!"event {ev.id} ({ev.symbol.text}): field \"{field}\" {reason}"

/-- The value of a string that matches `/^\d+$/`. -/
def decimal? (s : JsStr) : Option Nat :=
  if s.lone then none else JsNumber.digits 10 s.text.toList

def got (v : Json) : String := s!"got {v.stringify}"

def requireAddr (ev : DecodedEvent) (field : String) : Except String String :=
  match ev.field field with
  | .str s =>
    if s.text = "" then
      .error (fieldValidationError ev field s!"must be a non-empty address string, {got (.str s)}")
    else .ok s.text
  | v => .error (fieldValidationError ev field s!"must be a non-empty address string, {got v}")

/-- A number or a decimal-integer string. -/
def requireId (ev : DecodedEvent) (field : String) : Except String Int :=
  let invalid v := fieldValidationError ev field s!"must be a finite integer id, {got v}"
  match ev.field field with
  | .num n => .ok n
  | .str s =>
    match decimal? s with
    | some n => .ok n
    | none => .error (invalid (.str s))
  | v => .error (invalid v)

/-- A non-negative amount as the event writes it, with the number it denotes. -/
structure Amount where
  text : String
  value : Nat
  denotes : JsNumber.digits 10 text.toList = some value

def Amount.ofString? (s : JsStr) : Option Amount :=
  match h : JsNumber.digits 10 s.text.toList with
  | some n => if s.lone then none else some ⟨s.text, n, h⟩
  | none => none

/-- A number or a string, as the decimal integer it must be. -/
def amount? : Json → Option Amount
  | .num n => Amount.ofString? (JsStr.ofString (toString n))
  | .str s => Amount.ofString? s
  | _ => none

def amountOf (ev : DecodedEvent) (field : String) (v : Json) : Except String Amount :=
  match amount? v with
  | some a => .ok a
  | none =>
    .error (fieldValidationError ev field s!"must be a non-negative decimal-integer amount, {got v}")

def requireAmount (ev : DecodedEvent) (field : String) : Except String Amount :=
  amountOf ev field (ev.field field)

def requireBool (ev : DecodedEvent) (field : String) : Except String Bool :=
  match ev.field field with
  | .bool b => .ok b
  | v => .error (fieldValidationError ev field s!"must be a boolean, {got v}")

/-- The bare string, a single-element array, or a `{ tag, values }` object. -/
def normalizeProposalKind (v : Json) : Option ProposalKind :=
  let tag := match v with
    | .arr vs => vs.head?
    | .obj kvs => Json.find? "tag" kvs
    | v => some v
  match tag with
  | some (.str s) =>
    let lower := String.ofList (s.text.toList.map Char.toLower)
    if lower = "loan" then some .loan else if lower = "treasury" then some .treasury else none
  | _ => none

def requireProposalKind (ev : DecodedEvent) (field : String) : Except String ProposalKind :=
  match normalizeProposalKind (ev.field field) with
  | some kind => .ok kind
  | none =>
    .error (fieldValidationError ev field
      s!"must be a ProposalKind (\"Loan\"/\"Treasury\"), {got (ev.field field)}")

def Amount.one : Amount := ⟨"1", 1, by decide⟩

/-- A vote without a published weight counts as one. -/
def weightOf (ev : DecodedEvent) : Except String Amount :=
  match ev.field "weight" with
  | .null => .ok Amount.one
  | v => amountOf ev "weight" v

/-- `v == null ? '0' : String(v)`. -/
def str : Json → Except String String
  | .null => .ok "0"
  | v => v.toStr.map JsStr.text

/-- `typeof v === 'string' ? v : String(v ?? '')`. -/
def addr : Json → Except String String
  | .null => .ok ""
  | v => v.toStr.map JsStr.text

/-- `v === true`. -/
def isTrue : Json → Bool
  | .bool b => b
  | _ => false

/-- The INTEGER column a lenient number is stored in: absent when not finite. -/
def num (v : Json) : Except String (Option Int) := do
  match ← number v with
  | .finite q =>
    if q.isInt then return some (← integer q.num)
    else throw "invalid input syntax for type integer"
  | _ => return none

/-- `new Date(Number(v) * 1000)` in a TIMESTAMPTZ column, in milliseconds. -/
def dueTimeOf (v : Json) : Except String (Option Int) :=
  let invalid := "invalid input syntax for type timestamp with time zone"
  match v with
  | .null => .ok none
  | v => do
    match ← number v with
    | .finite q =>
      match JsNumber.ofRat (q * 1000) with
      | .finite t =>
        let ms := t.num.tdiv t.den
        -- the ranges of a JavaScript date and, before year 1, of a timestamp
        if |t| ≤ 8640000000000000 ∧ -210866803200000 ≤ ms then return some ms else throw invalid
      | _ => throw invalid
    | _ => throw invalid

/-- The UTC day an event's ledger closed on. -/
def dayOf (ev : DecodedEvent) : Int := ev.closedAt / 86400000000

def incrementDailyLoanStats (ev : DecodedEvent) (deltas : DailyLoanStats) : Sql Unit :=
  addDaily (dayOf ev) deltas

def notify (ev : DecodedEvent) (address : String) (type : NotificationType)
    (title message : String) : Sql Unit :=
  if address = "" then pure ()
  else insertNotification ev.id address fun id =>
    { id, type, title, message, ledger := ev.ledger, tx_hash := ev.txHash }

def joined (ev : DecodedEvent) : Sql Unit := do
  let member ← lift (requireAddr ev "member")
  let fee ← lift (requireAmount ev "fee")
  let contribution ← lift (numeric fee.value)
  let _ ← upsert members member { joined_ledger := some ev.ledger, contribution } fun row =>
    { row with joined_ledger := some ev.ledger, contribution, exited := false, exit_share := none,
               exited_ledger := none, has_active_loan := false }
  notify ev member .success "Welcome to OurDAO" "Your membership is active."

def exited (ev : DecodedEvent) : Sql Unit := do
  let member ← lift (requireAddr ev "member")
  let share ← lift (requireAmount ev "share")
  let _ ← update members member fun row => do
    return { row with exited := true, exit_share := some (← numeric share.value),
                      exited_ledger := some ev.ledger, stake := 0, has_active_loan := false }
  notify ev member .info "Membership ended" s!"You withdrew your share of {share.text}."

def claimed (ev : DecodedEvent) : Sql Unit := do
  let member ← lift (requireAddr ev "member")
  let pending ← lift (requireAmount ev "pending")
  let _ ← update members member fun row => do
    return { row with pending_claimed := ← numeric (row.pending_claimed + pending.value) }
  notify ev member .success "Yield claimed" s!"You claimed {pending.text} in rewards."

/-- The common body of `staked` and `unstaked`: never a new row. -/
def setStake (ev : DecodedEvent) : Sql Unit := do
  let member ← lift (requireAddr ev "member")
  let newStake ← lift (requireAmount ev "new_stake")
  let _ ← update members member fun row => do
    return { row with stake := ← numeric newStake.value }

def staked (ev : DecodedEvent) : Sql Unit := setStake ev
def unstaked (ev : DecodedEvent) : Sql Unit := setStake ev

def name_reg (ev : DecodedEvent) : Sql Unit := do
  let owner ← lift (requireAddr ev "owner")
  let name ← lift (addr (ev.field "name"))
  let _ ← update members owner fun row => .ok { row with name := some name }

def loan_req (ev : DecodedEvent) : Sql Unit := do
  let id ← lift (requireId ev "id")
  let borrower ← lift (requireAddr ev "borrower")
  let amount ← lift (requireAmount ev "amount")
  let totalRepayment ← lift (requireAmount ev "total_repayment")
  let id ← lift (integer id)
  let amount ← lift (numeric amount.value)
  let total_repayment ← lift (numeric totalRepayment.value)
  let _ ← upsert loan_proposals id
    { borrower, amount, total_repayment, created_ledger := some ev.ledger }
    fun row => { row with amount, total_repayment }
  notify ev borrower .info "Loan requested" s!"Proposal #{id} is open for voting."

def loan_edit (ev : DecodedEvent) : Sql Unit := do
  let proposalId ← lift (requireId ev "proposal_id")
  let newAmount ← lift (requireAmount ev "new_amount")
  let totalRepayment ← lift (requireAmount ev "total_repayment")
  let proposalId ← lift (integer proposalId)
  let _ ← update loan_proposals proposalId fun row => do
    return { row with amount := ← numeric newAmount.value,
                      total_repayment := ← numeric totalRepayment.value }

def loan_vote (ev : DecodedEvent) : Sql Unit := do
  let proposalId ← lift (requireId ev "proposal_id")
  let support ← lift (requireBool ev "support")
  let weight ← lift (weightOf ev)
  let proposalId ← lift (integer proposalId)
  let _ ← update loan_proposals proposalId fun row => do
    let voter_count ← integer (row.voter_count + 1)
    if support then
      return { row with votes_for := ← numeric (row.votes_for + weight.value), voter_count }
    else return { row with votes_against := ← numeric (row.votes_against + weight.value), voter_count }

/-- The common body of `loan_wait` and `loan_rej`: a verdict on a pending proposal, of
which its borrower is told. -/
def loanVerdict (status : ProposalStatus) (type : NotificationType) (title : String)
    (message : Int → String) (ev : DecodedEvent) : Sql Unit := do
  let id ← lift (requireId ev "id")
  let id ← lift (integer id)
  let updated ← updateWhere loan_proposals id (·.status = .pending) fun row => .ok { row with status }
  match updated with
  | some row => notify ev row.borrower type title (message id)
  | none => return ()

def loan_wait (ev : DecodedEvent) : Sql Unit :=
  loanVerdict .approved_pending_disbursement .info "Loan approved, awaiting funds"
    (fun id => s!"Proposal #{id} reached quorum but the treasury can't cover it yet — " ++
      "it will be disbursed once funds are available.") ev

def loan_rej (ev : DecodedEvent) : Sql Unit :=
  loanVerdict .rejected .warning "Loan proposal rejected"
    (fun id => s!"Proposal #{id} could no longer reach quorum and was rejected.") ev

def setActiveLoan (borrower : String) (active : Bool) : Sql Unit := do
  let _ ← update members borrower fun row => .ok { row with has_active_loan := active }

def loan_appr (ev : DecodedEvent) : Sql Unit := do
  let id ← lift (requireId ev "id")
  let borrower ← lift (requireAddr ev "borrower")
  let amount ← lift (requireAmount ev "amount")
  let id ← lift (integer id)
  let _ ← update loan_proposals id fun row => .ok { row with status := .approved }
  let proposal ← select loan_proposals id
  -- the event carries the principal only; the proposal knows what is to be repaid
  let totalRepayment := (proposal.map (·.total_repayment)).getD amount.value
  let due_time ← lift (dueTimeOf (ev.field "due_time"))
  let principal ← lift (numeric amount.value)
  let total_repayment ← lift (numeric totalRepayment)
  let is_new ← upsert loans id
    { borrower, amount := principal, total_repayment, outstanding := total_repayment,
      approved_ledger := some ev.ledger, due_time }
    fun row => { row with status := .active, approved_ledger := some ev.ledger }
  if is_new then
    addTotals { principal_lent := principal }
    incrementDailyLoanStats ev { loans_originated := 1, principal_lent := principal }
  setActiveLoan borrower true
  notify ev borrower .success "Loan approved" s!"Loan #{id} of {amount.text} was approved."

/-- The principal counts as repaid with the repayment that clears the loan, once. -/
def foldPrincipalRepaid (ev : DecodedEvent) (repaid : Bool) (prev upd : Option LoanRow) : Sql Unit :=
  match prev, upd with
  | some prev, some loan =>
    if repaid && prev.status ≠ .repaid then do
      addTotals { principal_repaid := loan.amount }
      incrementDailyLoanStats ev { principal_repaid := loan.amount }
    else pure ()
  | _, _ => pure ()

def loan_rpy (ev : DecodedEvent) : Sql Unit := do
  let loanId ← lift (requireId ev "loan_id")
  let borrower ← lift (requireAddr ev "borrower")
  let outstanding ← lift (requireAmount ev "outstanding")
  let repaid : Bool := outstanding.text = "0"
  let loanId ← lift (integer loanId)
  let prev ← select loans loanId
  let upd ← update loans loanId fun row => do
    return { row with outstanding := ← numeric outstanding.value,
                      status := if repaid then .repaid else .active,
                      repaid_ledger := if repaid then some ev.ledger else row.repaid_ledger }
  foldPrincipalRepaid ev repaid prev upd
  if repaid then setActiveLoan borrower false
  notify ev borrower (if repaid then .success else .info) "Loan repayment"
    (if repaid then s!"Loan #{loanId} is fully repaid."
     else s!"Repayment received; {outstanding.text} remaining.")

def loan_dflt (ev : DecodedEvent) : Sql Unit := do
  let id ← lift (requireId ev "loan_id")
  let borrower ← lift (requireAddr ev "borrower")
  let penalty ← lift (requireAmount ev "penalty")
  let id ← lift (integer id)
  let updated ← updateWhere loans id (·.status ≠ .defaulted) fun row =>
    .ok { row with status := .defaulted, defaulted_ledger := some ev.ledger }
  match updated with
  | none => return ()
  | some loan =>
    addTotals { value_defaulted := loan.outstanding }
    incrementDailyLoanStats ev { defaults_count := 1, value_defaulted := loan.outstanding }
    let _ ← update members borrower fun row => do
      return { row with contribution := row.contribution - penalty.value, has_active_loan := false,
                        defaults_count := ← integer (row.defaults_count + 1) }
    notify ev borrower .error "Loan defaulted"
      s!"Loan #{id} was marked defaulted; a penalty of {penalty.text} was applied to your contribution."

def loan_exp (ev : DecodedEvent) : Sql Unit := do
  let proposalId ← lift (requireId ev "proposal_id")
  let borrower ← lift (requireAddr ev "borrower")
  let proposalId ← lift (integer proposalId)
  let updated ← updateWhere loan_proposals proposalId (·.status = .pending) fun row =>
    .ok { row with status := .rejected }
  match updated with
  | none => return ()
  | some _ =>
    notify ev borrower .warning "Loan proposal expired"
      s!"Proposal #{proposalId} expired without reaching quorum."

def interest (ev : DecodedEvent) : Sql Unit := do
  let amount ← lift (requireAmount ev "interest")
  let active_members ← lift (num (ev.field "active"))
  let amount ← lift (numeric amount.value)
  let inserted ← insertInterest ev.id fun id =>
    { id, ledger := ev.ledger, amount, active_members, tx_hash := ev.txHash }
  if inserted then addTotals { interest_collected := amount }

def tre_prop (ev : DecodedEvent) : Sql Unit := do
  let id ← lift (requireId ev "id")
  let amount ← lift (requireAmount ev "amount")
  let destination ← lift (requireAddr ev "destination")
  let isPrivate := isTrue (ev.field "private")
  let id ← lift (integer id)
  let amount ← lift (numeric amount.value)
  let _ ← upsert treasury_proposals id
    { amount, destination, isPrivate, created_ledger := some ev.ledger }
    fun row => { row with amount, destination, isPrivate }

/-- The common body of `tre_vote` and `revealed`, which name the proposal differently. -/
def treasuryVote (idField : String) (ev : DecodedEvent) : Sql Unit := do
  let id ← lift (requireId ev idField)
  let support ← lift (requireBool ev "support")
  let weight ← lift (weightOf ev)
  let id ← lift (integer id)
  let _ ← update treasury_proposals id fun row => do
    let voter_count ← integer (row.voter_count + 1)
    if support then
      return { row with votes_for := ← numeric (row.votes_for + weight.value), voter_count }
    else return { row with votes_against := ← numeric (row.votes_against + weight.value), voter_count }

def tre_vote (ev : DecodedEvent) : Sql Unit := treasuryVote "id" ev

/-- A revealed commit-reveal ballot counts like a treasury vote. -/
def revealed (ev : DecodedEvent) : Sql Unit := treasuryVote "proposal_id" ev

/-- The common body of `tre_wait` and `tre_rej`. -/
def treasuryVerdict (status : TreasuryStatus) (type : NotificationType) (title : String)
    (message : Int → String) (ev : DecodedEvent) : Sql Unit := do
  let id ← lift (requireId ev "id")
  let id ← lift (integer id)
  let updated ← updateWhere treasury_proposals id (·.status = .pending) fun row =>
    .ok { row with status }
  match updated with
  | some row => notify ev row.destination type title (message id)
  | none => return ()

def tre_wait (ev : DecodedEvent) : Sql Unit :=
  treasuryVerdict .approved_pending_disbursement .info "Treasury withdrawal approved, awaiting funds"
    (fun id => s!"Proposal #{id} reached quorum but the treasury can't cover it yet — " ++
      "it will execute once funds are available.") ev

def tre_rej (ev : DecodedEvent) : Sql Unit :=
  treasuryVerdict .rejected .warning "Treasury proposal rejected"
    (fun id => s!"Proposal #{id} could no longer reach quorum and was rejected.") ev

def tre_exec (ev : DecodedEvent) : Sql Unit := do
  let id ← lift (requireId ev "id")
  let destination ← lift (requireAddr ev "destination")
  let id ← lift (integer id)
  let _ ← update treasury_proposals id fun row =>
    .ok { row with status := .executed, executed_ledger := some ev.ledger }
  let amount ← lift (str (ev.field "amount"))
  notify ev destination .success "Treasury withdrawal executed"
    s!"{amount} was sent to your address."

def committed (ev : DecodedEvent) : Sql Unit := do
  let voter ← lift (addr (ev.field "voter"))
  let proposalId ← lift (str (ev.field "proposal_id"))
  notify ev voter .info "Private vote committed"
    s!"Your commitment for proposal #{proposalId} was recorded."

def doc_attn (ev : DecodedEvent) : Sql Unit := do
  let proposalId ← lift (requireId ev "proposal_id")
  let caller ← lift (requireAddr ev "caller")
  let kind ← lift (requireProposalKind ev "kind")
  let proposal_id ← lift (integer proposalId)
  insertDocument ev.id fun id =>
    { id, proposal_id, kind, caller, ledger := ev.ledger, tx_hash := ev.txHash }

/-- The handler of each symbol that has one. -/
def handlers : EventSymbol → Option (DecodedEvent → Sql Unit)
  | .joined => some joined
  | .exited => some exited
  | .claimed => some claimed
  | .loan_req => some loan_req
  | .loan_edit => some loan_edit
  | .loan_vote => some loan_vote
  | .loan_wait => some loan_wait
  | .loan_rej => some loan_rej
  | .loan_appr => some loan_appr
  | .loan_rpy => some loan_rpy
  | .loan_dflt => some loan_dflt
  | .loan_exp => some loan_exp
  | .interest => some interest
  | .tre_prop => some tre_prop
  | .tre_vote => some tre_vote
  | .tre_wait => some tre_wait
  | .tre_rej => some tre_rej
  | .tre_exec => some tre_exec
  | .staked => some staked
  | .unstaked => some unstaked
  | .name_reg => some name_reg
  | .committed => some committed
  | .revealed => some revealed
  | .doc_attn => some doc_attn
  | .init | .admin_add | .admin_rem | .threshold | .policy | .paused | .unpaused => none

/-- The stream channels a fold of a symbol touches. Two of its keys are no symbols of
the catalog. -/
def channelMap : String → List StreamChannel
  | "joined" | "exited" | "staked" | "unstaked" | "claimed" | "name_reg" => [.members]
  | "loan_req" | "loan_edit" | "loan_vote" | "loan_wait" | "loan_rej" | "loan_exp"
  | "loan_reject" => [.loan_proposals]
  | "loan_appr" => [.loan_proposals, .loans]
  | "loan_disburse" | "loan_rpy" | "loan_dflt" => [.loans]
  | "tre_prop" | "tre_vote" | "committed" | "revealed" | "tre_exec" | "tre_wait" | "tre_rej" =>
    [.treasury_proposals]
  | "interest" => [.interest]
  | _ => []

/-- Apply one decoded event's side effects; an unknown symbol is a no-op. -/
def applyEvent (ev : DecodedEvent) : Sql (List StreamChannel) := do
  match (EventSymbol.ofSymbol? ev.symbol).bind handlers with
  | some handler => handler ev
  | none => pure ()
  return if ev.symbol.lone then [] else channelMap ev.symbol.text

end OurDao
