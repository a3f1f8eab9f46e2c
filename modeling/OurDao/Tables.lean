import Mathlib.Order.Basic
import OurDao.Events
import OurDao.Table

/-!
# The derived tables and the statements handlers run on them

`Tables` holds every table a rebuild truncates, with `dao_totals` and the sequences
behind the surrogate ids. A statement either fails, and then changes nothing, or
succeeds; the statements below are the shapes the handlers use. Columns filled from
`now()` are left out.
-/

namespace OurDao

/-- An error as the poller sees it: only a `ReorgDetectedError` is told apart. -/
inductive Failure where
  | reorgDetected (message : String)
  | error (message : String)
  deriving DecidableEq, Repr

def Failure.message : Failure → String
  | reorgDetected m => m
  | error m => m

structure MemberRow where
  joined_ledger : Option Nat := none
  contribution : Nat := 0
  exited : Bool := false
  exit_share : Option Nat := none
  exited_ledger : Option Nat := none
  pending_claimed : Nat := 0
  stake : Nat := 0
  has_active_loan : Bool := false
  name : Option String := none
  defaults_count : Int := 0
  deriving DecidableEq, Repr

inductive ProposalStatus where
  | pending | approved | rejected | cancelled | approved_pending_disbursement
  deriving DecidableEq, Repr

structure LoanProposalRow where
  borrower : String
  amount : Nat
  total_repayment : Nat
  status : ProposalStatus := .pending
  votes_for : Nat := 0
  votes_against : Nat := 0
  voter_count : Int := 0
  created_ledger : Option Nat
  deriving DecidableEq, Repr

inductive LoanStatus where
  | active | repaid | defaulted
  deriving DecidableEq, Repr

structure LoanRow where
  borrower : String
  amount : Nat
  outstanding : Nat
  total_repayment : Nat
  status : LoanStatus := .active
  approved_ledger : Option Nat
  /-- milliseconds since the epoch -/
  due_time : Option Int
  repaid_ledger : Option Nat := none
  defaulted_ledger : Option Nat := none
  deriving DecidableEq, Repr

inductive TreasuryStatus where
  | pending | executed | rejected | approved_pending_disbursement
  deriving DecidableEq, Repr

structure TreasuryProposalRow where
  amount : Nat
  destination : String
  isPrivate : Bool
  status : TreasuryStatus := .pending
  votes_for : Nat := 0
  votes_against : Nat := 0
  voter_count : Int := 0
  created_ledger : Option Nat
  executed_ledger : Option Nat := none
  deriving DecidableEq, Repr

inductive NotificationType where
  | info | success | warning | error
  deriving DecidableEq, Repr

/-- A row of `notifications`; its event id and address are its key. -/
structure NotificationRow where
  id : Nat
  type : NotificationType
  title : String
  message : String
  ledger : Nat
  tx_hash : Option String
  read : Bool := false
  deriving DecidableEq, Repr

structure InterestRow where
  id : Nat
  ledger : Nat
  amount : Nat
  active_members : Option Int
  tx_hash : Option String
  deriving DecidableEq, Repr

inductive ProposalKind where
  | loan | treasury
  deriving DecidableEq, Repr

structure DocumentRow where
  id : Nat
  proposal_id : Int
  kind : ProposalKind
  caller : String
  ledger : Nat
  tx_hash : Option String
  deriving DecidableEq, Repr

structure DailyLoanStats where
  loans_originated : Nat := 0
  principal_lent : Nat := 0
  principal_repaid : Nat := 0
  defaults_count : Nat := 0
  value_defaulted : Nat := 0
  deriving DecidableEq, Repr

structure DaoTotals where
  interest_collected : Nat := 0
  principal_lent : Nat := 0
  principal_repaid : Nat := 0
  value_defaulted : Nat := 0
  deriving DecidableEq, Repr

/-- The last value each `BIGSERIAL` gave out. A transaction that is rolled back gives its values
back here; in Postgres they are lost. -/
structure Sequences where
  notifications : Nat := 0
  interest_distributions : Nat := 0
  documents : Nat := 0
  deriving DecidableEq, Repr

structure Tables where
  members : Table String MemberRow := ∅
  loan_proposals : Table Int LoanProposalRow := ∅
  loans : Table Int LoanRow := ∅
  treasury_proposals : Table Int TreasuryProposalRow := ∅
  /-- keyed by event id and address -/
  notifications : Table (String × String) NotificationRow := ∅
  /-- keyed by event id -/
  interest_distributions : Table String InterestRow := ∅
  /-- keyed by day since the epoch -/
  daily_loan_stats : Table Int DailyLoanStats := ∅
  /-- keyed by event id -/
  documents : Table String DocumentRow := ∅
  dao_totals : DaoTotals := {}
  sequences : Sequences := {}

/-- Truncated tables, restarted sequences and zeroed totals. -/
def Tables.empty : Tables := {}

/-- A part of a transaction on the derived tables. -/
abbrev Sql : Type → Type := StateT Tables (Except Failure)

/-- A table of the schema. -/
structure Relation (κ ν : Type) where
  get : Tables → Table κ ν
  set : Table κ ν → Tables → Tables

namespace Sql

def members : Relation String MemberRow := ⟨Tables.members, fun t s => { s with members := t }⟩

def loan_proposals : Relation Int LoanProposalRow :=
  ⟨Tables.loan_proposals, fun t s => { s with loan_proposals := t }⟩

def loans : Relation Int LoanRow := ⟨Tables.loans, fun t s => { s with loans := t }⟩

def treasury_proposals : Relation Int TreasuryProposalRow :=
  ⟨Tables.treasury_proposals, fun t s => { s with treasury_proposals := t }⟩

/-- A check that reads no table. -/
def lift {α : Type} (x : Except String α) : Sql α :=
  match x with
  | .ok a => pure a
  | .error m => throw (.error m)

/-- Storing a value in an INTEGER column, or comparing one with it. -/
def integer (n : Int) : Except String Int :=
  if -2 ^ 31 ≤ n ∧ n < 2 ^ 31 then .ok n else .error "value out of range for type integer"

/-- Storing a value in a NUMERIC(40,0) column. -/
def numeric (n : Nat) : Except String Nat :=
  if n < 10 ^ 40 then .ok n else .error "numeric field overflow"

section

variable {κ ν : Type} [DecidableEq κ] (r : Relation κ ν) (k : κ)

def select : Sql (Option ν) := return (r.get (← get)).lookup k

def write (row : ν) : Sql Unit := modify fun s => r.set ((r.get s).insert k row) s

/-- `UPDATE … WHERE key = k AND p RETURNING …`: the row as written, if one matched. -/
def updateWhere (p : ν → Bool) (f : ν → Except String ν) : Sql (Option ν) := do
  match ← select r k with
  | none => return none
  | some row =>
    if p row then
      let row' ← lift (f row)
      write r k row'
      return some row'
    else return none

/-- `UPDATE … WHERE key = k`. -/
def update (f : ν → Except String ν) : Sql (Option ν) := updateWhere r k (fun _ => true) f

/-- `INSERT … ON CONFLICT (key) DO UPDATE SET …`: whether the row is new. -/
def upsert (row : ν) (f : ν → ν) : Sql Bool := do
  match ← select r k with
  | none => write r k row; return true
  | some old => write r k (f old); return false

end

/-- `INSERT INTO notifications … ON CONFLICT (event_id, address) DO NOTHING`. The sequence
gives out a value in either case. -/
def insertNotification (eventId address : String) (row : Nat → NotificationRow) : Sql Unit :=
  modify fun s =>
    let id := s.sequences.notifications + 1
    let s := { s with sequences := { s.sequences with notifications := id } }
    if (s.notifications.lookup (eventId, address)).isSome then s
    else { s with notifications := s.notifications.insert (eventId, address) (row id) }

/-- `INSERT INTO interest_distributions … ON CONFLICT (event_id) DO NOTHING`: whether a
row was inserted. -/
def insertInterest (eventId : String) (row : Nat → InterestRow) : Sql Bool := fun s =>
  let id := s.sequences.interest_distributions + 1
  let s := { s with sequences := { s.sequences with interest_distributions := id } }
  if (s.interest_distributions.lookup eventId).isSome then .ok (false, s)
  else .ok (true, { s with interest_distributions := s.interest_distributions.insert eventId (row id) })

/-- `INSERT INTO documents … ON CONFLICT (event_id) DO NOTHING`. -/
def insertDocument (eventId : String) (row : Nat → DocumentRow) : Sql Unit :=
  modify fun s =>
    let id := s.sequences.documents + 1
    let s := { s with sequences := { s.sequences with documents := id } }
    if (s.documents.lookup eventId).isSome then s
    else { s with documents := s.documents.insert eventId (row id) }

end Sql

namespace DaoTotals

def add (a b : DaoTotals) : DaoTotals where
  interest_collected := a.interest_collected + b.interest_collected
  principal_lent := a.principal_lent + b.principal_lent
  principal_repaid := a.principal_repaid + b.principal_repaid
  value_defaulted := a.value_defaulted + b.value_defaulted

/-- Every column fits its NUMERIC(40,0). -/
def fits (t : DaoTotals) : Bool :=
  t.interest_collected < 10 ^ 40 && t.principal_lent < 10 ^ 40 && t.principal_repaid < 10 ^ 40 &&
    t.value_defaulted < 10 ^ 40

end DaoTotals

namespace DailyLoanStats

def add (a b : DailyLoanStats) : DailyLoanStats where
  loans_originated := a.loans_originated + b.loans_originated
  principal_lent := a.principal_lent + b.principal_lent
  principal_repaid := a.principal_repaid + b.principal_repaid
  defaults_count := a.defaults_count + b.defaults_count
  value_defaulted := a.value_defaulted + b.value_defaulted

/-- Every column fits its INTEGER or NUMERIC(40,0). -/
def fits (d : DailyLoanStats) : Bool :=
  d.loans_originated < 2 ^ 31 && d.principal_lent < 10 ^ 40 && d.principal_repaid < 10 ^ 40 &&
    d.defaults_count < 2 ^ 31 && d.value_defaulted < 10 ^ 40

end DailyLoanStats

namespace Sql

/-- `UPDATE dao_totals SET column = column + $1 WHERE id = 1`. -/
def addTotals (delta : DaoTotals) : Sql Unit := fun s =>
  if (s.dao_totals.add delta).fits then .ok ((), { s with dao_totals := s.dao_totals.add delta })
  else .error (.error "numeric field overflow")

/-- The row of a day after `delta`; a day without a row starts from zero. -/
def dailyAfter (s : Tables) (day : Int) (delta : DailyLoanStats) : DailyLoanStats :=
  ((s.daily_loan_stats.lookup day).getD {}).add delta

/-- `INSERT INTO daily_loan_stats … ON CONFLICT (day) DO UPDATE SET column = column + …`. -/
def addDaily (day : Int) (delta : DailyLoanStats) : Sql Unit := fun s =>
  if (dailyAfter s day delta).fits then
    .ok ((), { s with daily_loan_stats := s.daily_loan_stats.insert day (dailyAfter s day delta) })
  else .error (.error "numeric field overflow")

end Sql

end OurDao
