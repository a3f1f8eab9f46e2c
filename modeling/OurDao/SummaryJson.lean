import OurDao.HistoricalPages
import OurDao.MemberCaches

/-!
# The amounts in a member's summary

`GET /members/:address` and `GET /loans/:id` send a row, and the driver makes a string of a
NUMERIC column. The summary is built as one JSON value by Postgres, where the same column is a
number, which is parsed to a double. What is derived from the amounts of a loan is computed from
either.
-/

namespace OurDao

/-- A `NUMERIC(40,0)`. -/
abbrev Numeric := { n : Int // |n| < 10 ^ 40 }

/-- What a field of a response holds. -/
inductive FieldValue where
  | null
  | bool (b : Bool)
  | number (x : JsNumber)
  | string (s : String)
  deriving DecidableEq

/-- A plain object with its keys in order. -/
abbrev JsObject := List (String × FieldValue)

/-- A key that is not there reads as `null`. -/
def JsObject.get (o : JsObject) (key : String) : FieldValue := (o.lookup key).getD .null

/-- A value after `JSON.stringify` and `JSON.parse`. A finite double is written so that it is read back. -/
def FieldValue.throughJson : FieldValue → FieldValue
  | .number (.finite q) => .number (.finite q)
  | .number _ => .null
  | v => v

def JsObject.throughJson (o : JsObject) : JsObject := o.map fun f => (f.1, f.2.throughJson)

namespace SummaryJson

/-- A row of `members`, all columns but its key. Times are in microseconds. -/
structure MemberColumns where
  joined_ledger : Option Int
  contribution : Numeric
  exited : Bool
  exit_share : Option Numeric
  exited_ledger : Option Int
  pending_claimed : Numeric
  stake : Numeric
  has_active_loan : Bool
  name : Option String
  defaults_count : Int
  updated_at : Int

/-- A row of `loans`, all columns but its key. -/
structure LoanColumns where
  borrower : String
  amount : Numeric
  outstanding : Numeric
  total_repayment : Numeric
  status : LoanStatus
  approved_ledger : Option Int
  due_time : Option Int
  repaid_ledger : Option Int
  defaulted_ledger : Option Int
  updated_at : Int

structure Rows where
  members : Table String MemberColumns
  loans : Table Int LoanColumns

/-- What the driver makes of the columns that it does not always make the same of. -/
structure Conversion where
  numeric : Numeric → FieldValue
  timestamptz : Int → FieldValue

/-- An `INTEGER` or a `BIGINT`. -/
def integer (n : Int) : FieldValue := .number (JsNumber.ofRat n)

def nullable {α : Type} (f : α → FieldValue) : Option α → FieldValue
  | none => .null
  | some a => f a

def statusText : LoanStatus → String
  | .active => "active"
  | .repaid => "repaid"
  | .defaulted => "defaulted"

variable (c : Conversion)

def memberObject (address : String) (row : MemberColumns) : JsObject :=
  [("address", .string address), ("joined_ledger", nullable integer row.joined_ledger),
    ("contribution", c.numeric row.contribution), ("exited", .bool row.exited),
    ("exit_share", nullable c.numeric row.exit_share), ("exited_ledger", nullable integer row.exited_ledger),
    ("pending_claimed", c.numeric row.pending_claimed), ("stake", c.numeric row.stake),
    ("has_active_loan", .bool row.has_active_loan), ("name", nullable .string row.name),
    ("defaults_count", integer row.defaults_count), ("updated_at", c.timestamptz row.updated_at)]

def loanObject (id : Int) (row : LoanColumns) : JsObject :=
  [("id", integer id), ("borrower", .string row.borrower), ("amount", c.numeric row.amount),
    ("outstanding", c.numeric row.outstanding), ("total_repayment", c.numeric row.total_repayment),
    ("status", .string (statusText row.status)), ("approved_ledger", nullable integer row.approved_ledger),
    ("due_time", nullable c.timestamptz row.due_time), ("repaid_ledger", nullable integer row.repaid_ledger),
    ("defaulted_ledger", nullable integer row.defaulted_ledger), ("updated_at", c.timestamptz row.updated_at)]

def parseIntegerAmount : FieldValue → Option Int
  | .number (.finite q) => if q.den = 1 ∧ |q| < 2 ^ 53 then some q.num else none
  | .string s =>
    match s.toList with
    | '-' :: cs => (JsNumber.digits 10 cs).map fun n : Nat => -(n : Int)
    | cs => (JsNumber.digits 10 cs).map Int.ofNat
  | _ => none

def withLoanDerived (loan : JsObject) : JsObject :=
  match parseIntegerAmount (loan.get "total_repayment"), parseIntegerAmount (loan.get "amount"),
      parseIntegerAmount (loan.get "outstanding") with
  | some totalRepayment, some amount, some outstanding =>
    let repaidAmount := totalRepayment - outstanding
    loan ++ [("interest_charge", .string (toString (totalRepayment - amount))),
      ("repaid_amount", .string (toString repaidAmount)),
      ("repayment_progress_bps", integer (repaymentProgressBps repaidAmount totalRepayment))]
  | _, _, _ =>
    loan ++ [("interest_charge", .null), ("repaid_amount", .null), ("repayment_progress_bps", .null)]

section

variable (toISOString jsonText : Int → String)

/-- A column of a row. -/
def driver : Conversion where
  numeric n := .string (toString n.1)
  timestamptz t := .string (toISOString t)

/-- A column inside a JSON value. -/
def json : Conversion where
  numeric n := .number (JsNumber.ofRat n.1)
  timestamptz t := .string (jsonText t)

/-- `GET /members/:address` -/
def getMember (db : Rows) (address : String) : Option JsObject :=
  (db.members.lookup address).map (memberObject (driver toISOString) address)

/-- `GET /loans/:id` -/
def getLoan (db : Rows) (id : Int) : Option JsObject :=
  (db.loans.lookup id).map fun row => withLoanDerived (loanObject (driver toISOString) id row)

/-- The summary's member and its embedded loans, each under its id. -/
structure Body where
  member : JsObject
  loans : List (Int × JsObject)

def embedded (db : Rows) (address : String) : List (Int × LoanColumns) :=
  let rows := (Table.rows db.loans).filter (·.2.borrower = address)
  (Keyset.ordered (fun r => OrderDual.toDual r.1) rows).take LOANS_EMBED_LIMIT

/-- What `fetchMemberSummary` selects, with the derived fields. -/
def getSummary (db : Rows) (address : String) : Option Body :=
  (db.members.lookup address).map fun row => {
    member := memberObject (json jsonText) address row
    loans := (embedded db address).map fun r => (r.1, withLoanDerived (loanObject (json jsonText) r.1 r.2)) }

end

/-- A summary that comes from the cache. -/
def Body.throughCache (body : Body) : Body where
  member := body.member.throughJson
  loans := body.loans.map fun loan => (loan.1, loan.2.throughJson)

/-- The fields of a loan that both answers are to have in common. -/
def loanFields : List String :=
  ["amount", "outstanding", "total_repayment", "interest_charge", "repaid_amount", "repayment_progress_bps"]

section

variable (toISOString : Int → String)

/-- A summary carries what the two other routes answer. -/
structure Agrees (db : Rows) (address : String) (body : Body) : Prop where
  member : getMember toISOString db address = some body.member
  loans : ∀ loan ∈ body.loans, ∃ o, getLoan toISOString db loan.1 = some o ∧
    ∀ key ∈ loanFields, loan.2.get key = o.get key

end

theorem lookup_throughJson (o : JsObject) (key : String) :
    o.throughJson.lookup key = (o.lookup key).map FieldValue.throughJson := by
  induction o with
  | nil => rfl
  | cons f o ih =>
    rw [JsObject.throughJson, List.map_cons, List.lookup_cons, List.lookup_cons]
    cases key == f.1 with
    | true => rfl
    | false => exact ih

theorem get_throughJson (o : JsObject) (key : String) : o.throughJson.get key = (o.get key).throughJson := by
  rw [JsObject.get, JsObject.get, lookup_throughJson]
  cases o.lookup key <;> rfl

/-- A number stays one. -/
theorem throughJson_ne_string (x : JsNumber) (s : String) : (FieldValue.number x).throughJson ≠ .string s := by
  intro h
  cases x <;> cases h

/-- No amount is a string in the summary, nor after the cache. -/
theorem numeric_ne_string (jsonText : Int → String) (n : Numeric) (s : String) :
    (json jsonText).numeric n ≠ .string s ∧ ((json jsonText).numeric n).throughJson ≠ .string s := by
  constructor
  · intro h
    cases h
  · exact throughJson_ne_string _ s

variable {toISOString jsonText : Int → String} {db : Rows} {address : String} {body : Body}

/-- The member of a summary is never the member that its own route answers: its amounts are numbers. -/
theorem not_agrees (h : getSummary jsonText db address = some body) :
    ¬ Agrees toISOString db address body ∧ ¬ Agrees toISOString db address body.throughCache := by
  obtain ⟨row, hrow, rfl⟩ := Option.map_eq_some_iff.mp h
  have hmember : getMember toISOString db address = some (memberObject (driver toISOString) address row) := by
    rw [getMember, hrow, Option.map_some]
  have hamount : (memberObject (driver toISOString) address row).get "contribution" =
      .string (toString row.contribution.1) := rfl
  obtain ⟨hfresh, hcached⟩ := numeric_ne_string jsonText row.contribution (toString row.contribution.1)
  constructor
  · intro hagrees
    have hsame := Option.some.inj (hmember.symm.trans hagrees.member)
    apply hfresh
    rw [← hamount, hsame]
    rfl
  · intro hagrees
    have hsame := Option.some.inj (hmember.symm.trans hagrees.member)
    apply hcached
    rw [← hamount, hsame, Body.throughCache, get_throughJson]
    rfl

/-- An integer that a double and `BigInt` both have. -/
def Safe (n : Numeric) : Prop := |n.1| < 2 ^ 53

theorem parseIntegerAmount_driver (n : Numeric) :
    parseIntegerAmount ((driver toISOString).numeric n) = some n.1 := by
  change parseIntegerAmount (.string (toString n.1)) = some n.1
  generalize n.1 = k
  cases k with
  | ofNat m =>
    have hdigits : JsNumber.digits 10 (toString (Int.ofNat m)).toList = some m := digits_toString m
    rw [parseIntegerAmount]
    split
    next cs hcs =>
      have hdigit : ('-' : Char).isDigit := toString_isDigit (n := m) (by
        change '-' ∈ (toString (Int.ofNat m)).toList
        rw [hcs]
        exact List.mem_cons_self)
      cases hdigit
    next => rw [hdigits, Option.map_some]
  | negSucc m =>
    have htext : (toString (Int.negSucc m)).toList = '-' :: (toString (m + 1)).toList :=
      String.toList_append
    rw [parseIntegerAmount, htext]
    change (JsNumber.digits 10 (toString (m + 1)).toList).map (fun n : Nat => -(n : Int)) = some (Int.negSucc m)
    rw [digits_toString, Option.map_some, Int.negSucc_eq, Nat.cast_succ]

theorem parseIntegerAmount_json (n : Numeric) :
    (Safe n → parseIntegerAmount ((json jsonText).numeric n) = some n.1) ∧
      (¬ Safe n → parseIntegerAmount ((json jsonText).numeric n) = none) := by
  change (Safe n → parseIntegerAmount (.number (JsNumber.ofRat n.1)) = some n.1) ∧
    (¬ Safe n → parseIntegerAmount (.number (JsNumber.ofRat n.1)) = none)
  constructor
  · intro hsafe
    have hbound : |(n.1 : ℚ)| < 2 ^ 53 := by exact_mod_cast hsafe
    rw [JsNumber.ofRat_intCast hsafe, parseIntegerAmount, if_pos ⟨Rat.den_intCast n.1, hbound⟩, Rat.num_intCast]
  · intro hsafe
    cases hround : JsNumber.ofRat n.1 with
    | nan => rfl
    | infinite => rfl
    | finite q =>
      have hlarge := JsNumber.le_abs_ofRat (not_lt.mp hsafe) hround
      rw [parseIntegerAmount, if_neg fun h => absurd hlarge (not_le.mpr h.2)]

/-- The fields that `withLoanDerived` adds. -/
def derivedFields : List String := ["interest_charge", "repaid_amount", "repayment_progress_bps"]

section

variable {c : Conversion} {id : Int} {row : LoanColumns}

theorem get_derived_some {t a o : Int} (ht : parseIntegerAmount (c.numeric row.total_repayment) = some t)
    (ha : parseIntegerAmount (c.numeric row.amount) = some a)
    (ho : parseIntegerAmount (c.numeric row.outstanding) = some o) :
    derivedFields.map (withLoanDerived (loanObject c id row)).get =
      [.string (toString (t - a)), .string (toString (t - o)), integer (repaymentProgressBps (t - o) t)] := by
  have htotal : parseIntegerAmount ((loanObject c id row).get "total_repayment") = some t := ht
  have hamount : parseIntegerAmount ((loanObject c id row).get "amount") = some a := ha
  have houtstanding : parseIntegerAmount ((loanObject c id row).get "outstanding") = some o := ho
  rw [withLoanDerived, htotal, hamount, houtstanding]
  rfl

theorem get_derived_none (h : parseIntegerAmount (c.numeric row.total_repayment) = none ∨
      parseIntegerAmount (c.numeric row.amount) = none ∨ parseIntegerAmount (c.numeric row.outstanding) = none) :
    derivedFields.map (withLoanDerived (loanObject c id row)).get = [.null, .null, .null] := by
  have hnull : withLoanDerived (loanObject c id row) = loanObject c id row ++
      [("interest_charge", .null), ("repaid_amount", .null), ("repayment_progress_bps", .null)] := by
    change parseIntegerAmount ((loanObject c id row).get "total_repayment") = none ∨
      parseIntegerAmount ((loanObject c id row).get "amount") = none ∨
      parseIntegerAmount ((loanObject c id row).get "outstanding") = none at h
    rw [withLoanDerived]
    split
    next ht ha ho => simp [ht, ha, ho] at h
    next => rfl
  rw [hnull]
  rfl

end

/-- What is derived is the same exactly for the loans whose amounts are safe integers. -/
theorem derived_agree_iff (id : Int) (row : LoanColumns) :
    derivedFields.map (withLoanDerived (loanObject (json jsonText) id row)).get =
      derivedFields.map (withLoanDerived (loanObject (driver toISOString) id row)).get ↔
    Safe row.total_repayment ∧ Safe row.amount ∧ Safe row.outstanding := by
  rw [get_derived_some (parseIntegerAmount_driver row.total_repayment) (parseIntegerAmount_driver row.amount)
    (parseIntegerAmount_driver row.outstanding)]
  by_cases hsafe : Safe row.total_repayment ∧ Safe row.amount ∧ Safe row.outstanding
  · rw [get_derived_some ((parseIntegerAmount_json _).1 hsafe.1) ((parseIntegerAmount_json _).1 hsafe.2.1)
      ((parseIntegerAmount_json _).1 hsafe.2.2)]
    exact iff_of_true rfl hsafe
  · have hnone : parseIntegerAmount ((json jsonText).numeric row.total_repayment) = none ∨
        parseIntegerAmount ((json jsonText).numeric row.amount) = none ∨
        parseIntegerAmount ((json jsonText).numeric row.outstanding) = none := by
      simp only [not_and_or] at hsafe
      exact hsafe.imp (parseIntegerAmount_json _).2
        (Or.imp (parseIntegerAmount_json _).2 (parseIntegerAmount_json _).2)
    rw [get_derived_none hnone]
    exact iff_of_false (fun h => by cases h) hsafe

/-- A member with one loan, whose amount no double has. -/
def aDb : Rows where
  members := (∅ : Table String MemberColumns).insert "GA" {
    joined_ledger := some 100, contribution := ⟨5000, by decide⟩, exited := false, exit_share := none
    exited_ledger := none, pending_claimed := ⟨0, by decide⟩, stake := ⟨1000, by decide⟩, has_active_loan := true
    name := none, defaults_count := 0, updated_at := 0 }
  loans := (∅ : Table Int LoanColumns).insert 1 {
    borrower := "GA", amount := ⟨9007199254740993, by decide⟩, outstanding := ⟨9007199254740994, by decide⟩
    total_repayment := ⟨9007199254740994, by decide⟩, status := .active, approved_ledger := some 100
    due_time := none, repaid_ledger := none, defaulted_ledger := none, updated_at := 0 }

/-- The epoch as `toISOString` and as Postgres write it. -/
def isoEpoch : Int → String := fun _ => "1970-01-01T00:00:00.000Z"

def jsonEpoch : Int → String := fun _ => "1970-01-01T00:00:00+00:00"

def aBody : Body := (getSummary jsonEpoch aDb "GA").getD ⟨[], []⟩

theorem not_agrees_aMember :
    ¬ Agrees isoEpoch aDb "GA" aBody ∧ ¬ Agrees isoEpoch aDb "GA" aBody.throughCache :=
  not_agrees rfl

/-- The contribution, and the loan's amount with what is derived from it, as the two routes answer them. -/
theorem summary_disagrees :
    aBody.member.get "contribution" = .number (.finite 5000) ∧
    (getMember isoEpoch aDb "GA").map (·.get "contribution") = some (.string "5000") ∧
    aBody.loans.map (fun loan => (loan.2.get "amount", loan.2.get "interest_charge")) =
      [(.number (.finite 9007199254740992), .null)] ∧
    (getLoan isoEpoch aDb 1).map (fun loan => (loan.get "amount", loan.get "interest_charge")) =
      some (.string "9007199254740993", .string "1") ∧
    ¬ Agrees isoEpoch aDb "GA" aBody := by
  refine ⟨by decide +kernel, by decide +kernel, by decide +kernel, by decide +kernel, fun h => ?_⟩
  have hmember : getMember isoEpoch aDb "GA" ≠ some aBody.member := by decide +kernel
  exact hmember h.member

end SummaryJson

end OurDao
