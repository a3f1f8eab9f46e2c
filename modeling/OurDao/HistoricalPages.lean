import OurDao.ExactlyOnce
import OurDao.FeedWrites
import OurDao.LedgerFeeds
import OurDao.LiveFold
import OurDao.StablePages

/-!
# Pages that caches may hold

A page behind a cursor is sent with an hour of shared caching, on the ground that the rows
behind a cursor are append-only. Whether an event that is folded later shows on such a page
depends on the direction of the cursor, on where it lies against the newest ledger, and on
loans being written in place.
-/

namespace OurDao

inductive CachePolicyName where
  | publicLive | publicHistorical | privateOnly | noStore
  deriving DecidableEq, Repr

def CACHE_POLICIES : CachePolicyName → String
  | .publicLive => "public, max-age=5, must-revalidate"
  | .publicHistorical => "public, max-age=3600, must-revalidate"
  | .privateOnly => "private, no-cache"
  | .noStore => "no-store"

def historicalOrLive (hasCursor : Bool) : CachePolicyName := if hasCursor then .publicHistorical else .publicLive

/-- A loan with the figures that are computed when it is read. -/
structure LoanWithDerived where
  id : Int
  row : LoanRow
  interest_charge : Int
  repaid_amount : Int
  repayment_progress_bps : Int
  deriving DecidableEq

def repaymentProgressBps (repaidAmount totalRepayment : Int) : Int :=
  if totalRepayment ≤ 0 then 0
  else
    let bps := (repaidAmount * 10000).tdiv totalRepayment
    if bps < 0 then 0 else if bps > 10000 then 10000 else bps

def withLoanDerived (loan : Int × LoanRow) : LoanWithDerived where
  id := loan.1
  row := loan.2
  interest_charge := loan.2.total_repayment - loan.2.amount
  repaid_amount := loan.2.total_repayment - loan.2.outstanding
  repayment_progress_bps :=
    repaymentProgressBps (loan.2.total_repayment - loan.2.outstanding) loan.2.total_repayment

def checkBorrower (sdk : StellarSdk) (borrower : Option QueryValue) : Except String (Option String) :=
  match borrower with
  | none | some (.one "") => .ok none
  | some (.one s) => if sdk.isValidEd25519PublicKey s then .ok (some s) else .error "invalid Stellar address"
  | some (.many _) => .error "invalid Stellar address"

def checkStatus (status : Option QueryValue) : Except String (Option LoanStatus) :=
  match status with
  | none | some (.one "") => .ok none
  | some (.one "active") => .ok (some .active)
  | some (.one "repaid") => .ok (some .repaid)
  | some (.one "defaulted") => .ok (some .defaulted)
  | _ => .error "invalid status parameter"

def loansFilter (sdk : StellarSdk) (borrower status : Option QueryValue) :
    Except String (Filter (Int × LoanRow)) := do
  let borrower ← checkBorrower sdk borrower
  let status ← checkStatus status
  return {
    selects := fun r => borrower.all (r.2.borrower = ·) && status.all (r.2.status = ·)
    bindable := borrower.all storable }

/-- `id < $n`, if there is a cursor. -/
def belowCursor (before : Option QueryValue) (id : Int) : Bool := (cursor before).all fun n => id < n

/-- `GET /loans` -/
def getLoans (sdk : StellarSdk) (db : Db) (q : PageQuery) (borrower status : Option QueryValue) :
    FeedReply LoanWithDerived :=
  match parseLimit q.limit 50 200 with
  | none => .badRequest "invalid limit parameter"
  | some limit =>
    if invalidCursor q.before then .badRequest "invalid before cursor"
    else
      match loansFilter sdk borrower status with
      | .error e => .badRequest e
      | .ok f =>
        -- `id` is an INTEGER
        if f.bindable && (cursor q.before).all (· < 2 ^ 31) then
          let rows := (Table.rows db.tables.loans).filter fun r => f.selects r && belowCursor q.before r.1
          .page (((Keyset.ordered (fun r => OrderDual.toDual r.1) rows).take limit).map withLoanDerived)
        else .failed

/-- A request to a route that picks its policy by the cursor. -/
inductive HistoryRequest where
  | events (q : EventsQuery)
  | adminLog (q : PageQuery) (contract : Option QueryValue)
  | interest (q : PageQuery)
  | documents (q : PageQuery) (kind proposal_id caller : Option QueryValue)
  | loans (q : PageQuery) (borrower status : Option QueryValue)

inductive HistoryBody where
  | events (body : EventsReply)
  | adminLog (body : FeedReply FeedRow)
  | interest (body : FeedReply InterestRow)
  | documents (body : FeedReply DocumentRow)
  | loans (body : FeedReply LoanWithDerived)

namespace HistoryRequest

/-- The policy that goes with a page. -/
def cachePolicy : HistoryRequest → CachePolicyName
  | events q => historicalOrLive ((eventCursor q.before).isSome || (eventCursor q.after).isSome)
  | adminLog q _ => historicalOrLive (cursor q.before).isSome
  | interest q => historicalOrLive (cursor q.before).isSome
  | documents q _ _ _ => historicalOrLive (cursor q.before).isSome
  | loans q _ _ => historicalOrLive (cursor q.before).isSome

variable (sdk : StellarSdk) (ties : Option Nat → List FeedRow → List FeedRow)

def answer (db : Db) : HistoryRequest → HistoryBody
  | events q => .events (getEvents db q)
  | adminLog q contract => .adminLog (getAdminLog ties db q contract)
  | interest q => .interest (getInterest db q)
  | documents q kind proposal_id caller => .documents (getDocuments sdk db q kind proposal_id caller)
  | loans q borrower status => .loans (getLoans sdk db q borrower status)

end HistoryRequest

/-- Events are folded one after the other, and each meets the condition in the state it is folded in. -/
inductive Folds (Meets : Db → DecodedEvent → Prop) : Db → List EventResponse → Db → Prop
  | nil {db : Db} : Folds Meets db [] db
  | cons {db db₁ db' : Db} {raw : EventResponse} {raws : List EventResponse} {ev : DecodedEvent}
      {pending : List (StreamChannel × String)} (hd : decodeEvent raw = .ok ev)
      (hmeets : Meets db ev) (hfold : ingestEvent 0 raw db = .ok (pending, db₁)) (hrest : Folds Meets db₁ raws db') :
      Folds Meets db (raw :: raws) db'

instance (q : EventsQuery) : DecidableRel q.Precedes := fun a b =>
  inferInstanceAs (Decidable (if q.ascending then a.key < b.key else b.key < a.key))

/-- The row satisfies the conditions of the statement. -/
def EventsQuery.wants (q : EventsQuery) (r : FeedRow) : Bool :=
  q.selects r && ((cursorCondition FeedRow.isBefore (eventCursor q.before)).any (· r)) &&
    ((cursorCondition FeedRow.isAfter (eventCursor q.after)).any (· r))

/-- A loan of this borrower with this status satisfies the conditions of the statement. -/
def wantsLoan (sdk : StellarSdk) (q : PageQuery) (borrower status : Option QueryValue) (id : Int) (b : String)
    (s : LoanStatus) : Bool :=
  match checkBorrower sdk borrower, checkStatus status with
  | .ok borrower, .ok status => borrower.all (b = ·) && status.all (s = ·) && belowCursor q.before id
  | _, _ => false

def pageSize (limit : Option QueryValue) : Nat := (parseLimit limit 50 200).getD 0

namespace HistoryRequest

/-- An event that is folded does not show in the answer: what it writes lies past the cursor or is filtered out, or
the page is full with rows before it. -/
def Misses (sdk : StellarSdk) (db : Db) (ev : DecodedEvent) : HistoryRequest → Prop
  | events q => q.wants (loggedRow ev) = false ∨
      pageSize q.limit ≤ (Table.rows db.events).countP fun o => q.Precedes o (loggedRow ev) ∧ q.wants o
  | adminLog q contract =>
    (cursor q.before).any (· ≤ ev.ledger) ∨ (adminLogFilter contract).selects (loggedRow ev) = false
  | interest q => (cursor q.before).any (· ≤ ev.ledger) ∨ EventSymbol.ofSymbol? ev.symbol ≠ some .interest
  | documents q kind proposal_id caller => (cursor q.before).any (· ≤ ev.ledger) ∨
      ∀ row : DocumentRow, row.Records ev → ∀ f, documentsFilter sdk kind proposal_id caller = .ok f →
        f.selects row = false
  | loans q borrower status => ∀ w, loanWrite ev db.tables.loans = some w →
      (wantsLoan sdk q borrower status w.id w.borrower w.status = false ∧
        ∀ old, db.tables.loans.lookup w.id = some old →
          wantsLoan sdk q borrower status w.id old.borrower old.status = false) ∨
        pageSize q.limit ≤ (Table.rows db.tables.loans).countP fun o =>
          w.id < o.1 ∧ wantsLoan sdk q borrower status o.1 o.2.borrower o.2.status

/-- The event is in the log already, or what it writes does not show. -/
def Spares (sdk : StellarSdk) (r : HistoryRequest) (db : Db) (ev : DecodedEvent) : Prop :=
  (db.events.lookup ev.id).isSome ∨ r.Misses sdk db ev

end HistoryRequest

/-- An event is in the log already, and nothing happens, or its row and its effects are added. -/
inductive Ingested (ev : DecodedEvent) (db : Db) : Db → Prop
  | known (h : (db.events.lookup ev.id).isSome) : Ingested ev db db
  | new {db' : Db} {channels : List StreamChannel} (h : db.events.lookup ev.id = none)
      (htables : applyEvent ev db.tables = .ok (channels, db'.tables))
      (hevents : db'.events = db.events.insert ev.id (loggedRow ev).2) : Ingested ev db db'

theorem ingested_of_ingestEvent {raw : EventResponse} {ev : DecodedEvent} {db db' : Db}
    {pending : List (StreamChannel × String)} (hall : AllFolded db) (hd : decodeEvent raw = .ok ev)
    (h : ingestEvent 0 raw db = .ok (pending, db')) : Ingested ev db db' ∧ AllFolded db' := by
  obtain ⟨ev', hd', -, hcase⟩ := ingestEvent_eq_ok.mp h
  cases hd.symm.trans hd'
  rcases hcase with ⟨db₁, channels, hinsert, hfold, -⟩ | ⟨hinsert, -⟩
  · obtain ⟨-, ⟨row, hrow, hneeds, -⟩ | ⟨hnew, -, rfl⟩⟩ := insertRawEvent_eq_ok.mp hinsert
    · rw [hall ev.id row hrow] at hneeds
      cases hneeds
    · obtain ⟨tables, happly, rfl⟩ := foldLogged_eq_ok.mp hfold
      have hevents : setFolded ev.id (db.events.insert ev.id (rawRow ev)) =
          db.events.insert ev.id { rawRow ev with folded := true } := setFolded_insert _ _ _
      refine ⟨.new hnew happly hevents, fun id row hrow => ?_⟩
      dsimp only at hrow
      rw [hevents, Table.lookup_insert] at hrow
      split at hrow
      · cases hrow
        rfl
      · exact hall id row hrow
  · obtain ⟨-, ⟨row, hrow, -, rfl⟩ | ⟨-, hneeds, -⟩⟩ := insertRawEvent_eq_ok.mp hinsert
    · exact ⟨.known (by rw [hrow]; rfl), hall⟩
    · cases hneeds

section

variable {sdk : StellarSdk} {ties : Option Nat → List FeedRow → List FeedRow} {db db' : Db} {ev : DecodedEvent}
  {channels : List StreamChannel}

/-- The rows of a statement and their number are all that an answer takes from the log. -/
theorem getEvents_congr {q : EventsQuery}
    (h : (q.sorted ((Table.rows db'.events).filter q.wants)).take (pageSize q.limit) =
      (q.sorted ((Table.rows db.events).filter q.wants)).take (pageSize q.limit)) :
        getEvents db' q = getEvents db q := by
  unfold getEvents
  cases hlimit : parseLimit q.limit 50 200 with
  | none => rfl
  | some limit =>
    dsimp only
    rcases hbefore : cursorCondition FeedRow.isBefore (eventCursor q.before) with _ | before
    · rfl
    rcases hafter : cursorCondition FeedRow.isAfter (eventCursor q.after) with _ | after
    · rfl
    have hwants : q.wants = fun r => q.selects r && before r && after r := by
      funext r
      simp [EventsQuery.wants, hbefore, hafter]
    rw [hwants, pageSize, hlimit] at h
    simp only [Option.getD_some] at h
    simp only [h]

theorem events_spared {q : EventsQuery} (hnew : db.events.lookup ev.id = none)
    (hevents : db'.events = db.events.insert ev.id (loggedRow ev).2)
    (h : (HistoryRequest.events q).Misses sdk db ev) : getEvents db' q = getEvents db q := by
  apply getEvents_congr
  have hsame : ∀ old, db.events.lookup ev.id = some old → False := by simp [hnew]
  rw [hevents]
  unfold EventsQuery.sorted
  split
  next hasc =>
    apply Keyset.page_insert (fun t => FeedRow.keys_nodup t) fun old hold => (hsame old hold).elim
    rcases h with hwants | hn
    · exact .inl ⟨hwants, fun old hold => (hsame old hold).elim⟩
    · right
      change _ ≤ (Table.rows db.events).countP fun r => r.key < FeedRow.key (loggedRow ev) ∧ q.wants r
      simpa [EventsQuery.Precedes, hasc] using hn
  next hdesc =>
    apply Keyset.page_insert (fun t => FeedRow.dual_keys_nodup t) fun old hold => (hsame old hold).elim
    rcases h with hwants | hn
    · exact .inl ⟨hwants, fun old hold => (hsame old hold).elim⟩
    · right
      change _ ≤ (Table.rows db.events).countP fun r => FeedRow.key (loggedRow ev) < r.key ∧ q.wants r
      simpa [EventsQuery.Precedes, hdesc] using hn

/-- A row past the cursor, or filtered out, is not among those below the cursor. -/
theorem below_cons {α : Type} {ledger : α → Nat} {selects : α → Bool} {before : Option Nat} {r : α} {rows : List α}
    (h : before.any (· ≤ ledger r) ∨ selects r = false) :
    CoarseCursor.below ledger ((r :: rows).filter selects) before =
      CoarseCursor.below ledger (rows.filter selects) before := by
  simp only [CoarseCursor.below, List.filter_filter]
  apply List.filter_cons_of_neg
  rcases h with hpast | hsel
  · obtain ⟨n, hn, hle⟩ := (Option.any_eq_true _ _).mp hpast
    have hlt : ¬ ledger r < n := by simpa using hle
    simp [hn, hlt]
  · simp [hsel]

/-- The shared handler answers alike where the rows below the cursor are the same. -/
theorem ledgerFeed_congr {α : Type} {ledger : α → Nat} {orderBy : Option Nat → List α → List α} {rows rows' : List α}
    {q : PageQuery} {filter : Except String (Filter α)}
    (h : ∀ f, filter = .ok f → CoarseCursor.below ledger (rows'.filter f.selects) (cursor q.before) =
      CoarseCursor.below ledger (rows.filter f.selects) (cursor q.before)) :
    ledgerFeed ledger orderBy rows' q filter = ledgerFeed ledger orderBy rows q filter := by
  cases filter with
  | error e => rfl
  | ok f => simp only [ledgerFeed, CoarseCursor.page, h f rfl]

theorem adminLog_spared {q : PageQuery} {contract : Option QueryValue} (hnew : db.events.lookup ev.id = none)
    (hevents : db'.events = db.events.insert ev.id (loggedRow ev).2)
    (h : (HistoryRequest.adminLog q contract).Misses sdk db ev) :
    getAdminLog ties db' q contract = getAdminLog ties db q contract := by
  have hfeed : ledgerFeed (fun r : FeedRow => r.2.ledger) ties (Table.rows db'.events) q
      (.ok (adminLogFilter contract)) =
      ledgerFeed (fun r : FeedRow => r.2.ledger) ties (Table.rows db.events) q (.ok (adminLogFilter contract)) := by
    apply ledgerFeed_congr
    rintro f ⟨⟩
    rw [hevents, Table.rows_insert_new hnew]
    exact below_cons h
  simp only [getAdminLog, hfeed]

theorem interest_spared {q : PageQuery} (htables : applyEvent ev db.tables = .ok (channels, db'.tables))
    (h : (HistoryRequest.interest q).Misses sdk db ev) : getInterest db' q = getInterest db q := by
  apply ledgerFeed_congr
  rintro f ⟨⟩
  rcases applyEvent_interest htables with hsame | ⟨hsymbol, row, hledger, hnew, hinsert⟩
  · rw [hsame]
  · rw [hinsert, Table.rows_insert_new hnew]
    apply below_cons
    rw [hledger]
    exact .inl (h.resolve_right fun hne => hne hsymbol)

theorem documents_spared {q : PageQuery} {kind proposal_id caller : Option QueryValue}
    (htables : applyEvent ev db.tables = .ok (channels, db'.tables))
    (h : (HistoryRequest.documents q kind proposal_id caller).Misses sdk db ev) :
    getDocuments sdk db' q kind proposal_id caller = getDocuments sdk db q kind proposal_id caller := by
  apply ledgerFeed_congr
  intro f hf
  rcases applyEvent_documents htables with hsame | ⟨row, hrow, hnew, hinsert⟩
  · rw [hsame]
  · rw [hinsert, Table.rows_insert_new hnew]
    apply below_cons
    rw [hrow.ledger]
    exact h.imp_right fun hsel => hsel row hrow f hf

theorem loanKeys_nodup (t : Table Int LoanRow) :
    ((Table.rows t).map fun r => OrderDual.toDual r.1).Nodup := Table.rows_keys_nodup t

theorem getLoans_congr {q : PageQuery} {borrower status : Option QueryValue}
    (h : (Keyset.ordered (fun r => OrderDual.toDual r.1) ((Table.rows db'.tables.loans).filter fun r =>
        wantsLoan sdk q borrower status r.1 r.2.borrower r.2.status)).take (pageSize q.limit) =
      (Keyset.ordered (fun r => OrderDual.toDual r.1) ((Table.rows db.tables.loans).filter fun r =>
        wantsLoan sdk q borrower status r.1 r.2.borrower r.2.status)).take (pageSize q.limit)) :
    getLoans sdk db' q borrower status = getLoans sdk db q borrower status := by
  unfold getLoans
  cases hlimit : parseLimit q.limit 50 200 with
  | none => rfl
  | some limit =>
    dsimp only
    unfold loansFilter
    rcases hb : checkBorrower sdk borrower with e | b
    · rfl
    rcases hs : checkStatus status with e | s
    · rfl
    simp only [wantsLoan, hb, hs, pageSize, hlimit, Option.getD_some] at h
    simp only [bind, Except.bind, pure, Except.pure, h]

theorem loans_spared {q : PageQuery} {borrower status : Option QueryValue}
    (htables : applyEvent ev db.tables = .ok (channels, db'.tables))
    (h : (HistoryRequest.loans q borrower status).Misses sdk db ev) :
    getLoans sdk db' q borrower status = getLoans sdk db q borrower status := by
  apply getLoans_congr
  rcases applyEvent_loans htables with hsame | ⟨w, row, hw, hborrower, hstatus, hinsert⟩
  · rw [hsame]
  · rw [hinsert]
    apply Keyset.page_insert loanKeys_nodup fun _ _ => rfl
    rcases h w hw with hwants | hn
    · left
      rw [hborrower, hstatus]
      exact hwants
    · right
      exact hn

/-- An event that misses the page leaves the answer as it is. -/
theorem answer_spared {r : HistoryRequest} (hfold : Ingested ev db db') (h : r.Spares sdk db ev) :
    r.answer sdk ties db' = r.answer sdk ties db := by
  cases hfold with
  | known => rfl
  | new hnew htables hevents =>
    have hmiss : r.Misses sdk db ev := h.resolve_left (by simp [hnew])
    cases r with
    | events q => exact congrArg HistoryBody.events (events_spared hnew hevents hmiss)
    | adminLog q contract => exact congrArg HistoryBody.adminLog (adminLog_spared hnew hevents hmiss)
    | interest q => exact congrArg HistoryBody.interest (interest_spared htables hmiss)
    | documents q kind proposal_id caller =>
      exact congrArg HistoryBody.documents (documents_spared htables hmiss)
    | loans q borrower status => exact congrArg HistoryBody.loans (loans_spared htables hmiss)

end

section

variable {sdk : StellarSdk} {ties : Option Nat → List FeedRow → List FeedRow} {db db' : Db}
  {raws later : List EventResponse} {Meets : Db → DecodedEvent → Prop}

theorem Folds.allFolded (h : Folds Meets db raws db') (hall : AllFolded db) : AllFolded db' := by
  induction h with
  | nil => exact hall
  | cons hd _ hfold _ ih => exact ih (ingested_of_ingestEvent hall hd hfold).2

theorem allFolded_empty : AllFolded Db.empty := fun _ _ h => by simp [Db.empty] at h

/-- What every event misses, the whole run misses. -/
theorem Folds.answer {r : HistoryRequest} (h : Folds (r.Spares sdk) db later db') (hall : AllFolded db) :
    r.answer sdk ties db' = r.answer sdk ties db := by
  induction h with
  | nil => rfl
  | cons hd hspares hfold _ ih =>
    obtain ⟨hfolded, hall₁⟩ := ingested_of_ingestEvent hall hd hfold
    rw [ih hall₁, answer_spared hfolded hspares]

/-- **A page stays as it is** while every event that is folded misses it: the event is in the log already, or what it
writes lies past the cursor, is filtered out or comes behind a full page. -/
theorem historical_pages_stable {r : HistoryRequest} (hreach : Folds (fun _ _ => True) Db.empty raws db)
    (hlater : Folds (r.Spares sdk) db later db') : r.answer sdk ties db' = r.answer sdk ties db :=
  hlater.answer (hreach.allFolded allFolded_empty)

/-- The request asks for rows below a ledger that is folded, of a table that only grows. -/
def HistoryRequest.Behind (tip : Nat) : HistoryRequest → Prop
  | .events q => ∃ c n, eventCursor q.before = some c ∧ c.id = none ∧ bigint c.ledger = some n ∧ n ≤ tip
  | .adminLog q _ | .interest q | .documents q _ _ _ => (cursor q.before).any (· ≤ tip)
  | .loans _ _ _ => False

theorem HistoryRequest.Behind.misses {r : HistoryRequest} {tip : Nat} {ev : DecodedEvent} (h : r.Behind tip)
    (hle : tip ≤ ev.ledger) : r.Misses sdk db ev := by
  have hpast : ∀ {before : Option Nat}, before.any (· ≤ tip) → before.any (· ≤ ev.ledger) := by
    intro before hany
    obtain ⟨n, hn, hn'⟩ := (Option.any_eq_true _ _).mp hany
    exact (Option.any_eq_true _ _).mpr ⟨n, hn, by simpa using (of_decide_eq_true hn').trans hle⟩
  cases r with
  | events q =>
    obtain ⟨c, n, hc, hid, hn, htip⟩ := h
    left
    have hlt : ¬ ev.ledger < n := by omega
    simp [EventsQuery.wants, cursorCondition, hc, hid, hn, FeedRow.isBefore, loggedRow, rawRow, hlt]
  | adminLog q contract => exact .inl (hpast h)
  | interest q => exact .inl (hpast h)
  | documents q kind proposal_id caller => exact .inl (hpast h)
  | loans q borrower status => exact h.elim

/-- Events in ascending ledger order miss every page that lies behind one of them. -/
theorem Folds.spares {r : HistoryRequest} {tip : Nat} (hbehind : r.Behind tip)
    (horder : ∀ raw ∈ later, tip ≤ raw.ledger)
    (h : Folds Meets db later db') : Folds (r.Spares sdk) db later db' := by
  induction h with
  | nil => exact .nil
  | @cons _ _ _ raw _ ev _ hd _ hfold _ ih =>
    have hle : tip ≤ ev.ledger := (decodeEvent_eq_ok hd).2.1 ▸ horder raw (by simp)
    exact .cons hd (.inr (hbehind.misses hle)) hfold (ih fun raw' hraw' => horder raw' (by simp [hraw']))

/-- **A page below a folded ledger never changes**, but for the pages of loans. -/
theorem behind_tip_stable {r : HistoryRequest} (horder : (raws ++ later).Pairwise fun a b => a.ledger ≤ b.ledger)
    (hbehind : ∃ raw ∈ raws, r.Behind raw.ledger) (hreach : Folds (fun _ _ => True) Db.empty raws db)
    (hlater : Folds (fun _ _ => True) db later db') : r.answer sdk ties db' = r.answer sdk ties db := by
  have hall := hreach.allFolded allFolded_empty
  obtain ⟨tip, htip, hbehind⟩ := hbehind
  have hspares : Folds (r.Spares sdk) db later db' :=
    hlater.spares hbehind fun raw hraw => (List.pairwise_append.mp horder).2.2 tip htip raw hraw
  exact hspares.answer hall

end

/-- The state after a list of events, if all of them are folded. -/
def ingests : List EventResponse → Db → Option Db
  | [], db => some db
  | raw :: raws, db =>
    match ingestEvent 0 raw db with
    | .ok (_, db₁) => ingests raws db₁
    | .error _ => none

theorem folds_of_ingests {raws : List EventResponse} {db db' : Db} (h : ingests raws db = some db') :
    Folds (fun _ _ => True) db raws db' := by
  induction raws generalizing db with
  | nil =>
    cases h
    exact .nil
  | cons raw raws ih =>
    rw [ingests] at h
    split at h
    next pending db₁ hfold =>
      obtain ⟨ev, hd, -⟩ := ingestEvent_eq_ok.mp hfold
      exact .cons hd trivial hfold (ih h)
    next => cases h

def foldedDb (raws : List EventResponse) : Db := (ingests raws Db.empty).getD Db.empty

theorem folds_foldedDb {raws : List EventResponse} (h : (ingests raws Db.empty).isSome) :
    Folds (fun _ _ => True) Db.empty raws (foldedDb raws) := by
  obtain ⟨db, hdb⟩ := Option.isSome_iff_exists.mp h
  rw [foldedDb, hdb]
  exact folds_of_ingests hdb

theorem ingests_append (raws later : List EventResponse) (db : Db) :
    ingests (raws ++ later) db = (ingests raws db).bind (ingests later) := by
  induction raws generalizing db with
  | nil => rfl
  | cons raw raws ih =>
    rw [List.cons_append, ingests, ingests]
    split
    next => exact ih _
    next => rfl

/-- Folding on from a first part. -/
theorem folds_on {raws : List EventResponse} (later : List EventResponse)
    (h : (ingests (raws ++ later) Db.empty).isSome) :
    Folds (fun _ _ => True) (foldedDb raws) later (foldedDb (raws ++ later)) := by
  obtain ⟨db', hdb'⟩ := Option.isSome_iff_exists.mp h
  have hsplit := hdb'
  rw [ingests_append] at hsplit
  obtain ⟨db, hdb, hlater⟩ := Option.bind_eq_some_iff.mp hsplit
  rw [foldedDb, foldedDb, hdb, hdb']
  exact folds_of_ingests hlater

def interestOf (id : String) (ledger : Nat) : EventResponse := .published id ledger "interest" [.bigint 5, .bigint 2]

def loanApproved : EventResponse := .published "0001" 9 "loan_appr" [.bigint 3, .str "GA", .bigint 50]

def loanRepaid : EventResponse := .published "0002" 11 "loan_rpy" [.bigint 3, .str "GA", .bigint 0]

def pageBefore (n : String) : PageQuery := { before := some (.one n) }

/-- What a reply shows of its page. -/
def FeedReply.shown {α β : Type} (f : α → β) : FeedReply α → List β
  | .page rows => rows.map f
  | _ => []

/-- A later distribution is past the cursor. -/
theorem historical_pages_stable_interest :
    Folds ((HistoryRequest.interest (pageBefore "10")).Spares memberSdk) (foldedDb [interestOf "0001" 9])
        [interestOf "0002" 11] (foldedDb [interestOf "0001" 9, interestOf "0002" 11]) ∧
      (HistoryRequest.interest (pageBefore "10")).answer memberSdk byLedger
        (foldedDb [interestOf "0001" 9, interestOf "0002" 11]) =
        (HistoryRequest.interest (pageBefore "10")).answer memberSdk byLedger (foldedDb [interestOf "0001" 9]) := by
  have hlater : Folds ((HistoryRequest.interest (pageBefore "10")).Spares memberSdk) (foldedDb [interestOf "0001" 9])
      [interestOf "0002" 11] (foldedDb [interestOf "0001" 9, interestOf "0002" 11]) := by
    have hbehind : (HistoryRequest.interest (pageBefore "10")).Behind 10 := by
      change (cursor (some (.one "10"))).any (· ≤ 10) = true
      decide +kernel
    exact (folds_on [interestOf "0002" 11] (by decide +kernel)).spares hbehind (by decide)
  exact ⟨hlater, historical_pages_stable (folds_foldedDb (by decide +kernel)) hlater⟩

/-- A loan that is repaid changes the page it is on. -/
theorem historical_page_changes : ¬ ∀ (r : HistoryRequest) (raws later : List EventResponse) (db db' : Db),
    r.cachePolicy = .publicHistorical → ((raws ++ later).Pairwise fun a b => a.ledger ≤ b.ledger) →
    Folds (fun _ _ => True) Db.empty raws db → Folds (fun _ _ => True) db later db' →
    r.answer memberSdk byLedger db' = r.answer memberSdk byLedger db := by
  intro h
  have hsame := h (.loans (pageBefore "5") none none) [loanApproved] [loanRepaid] _ _ (by decide +kernel)
    (by decide +kernel) (folds_foldedDb (by decide +kernel)) (folds_on [loanRepaid] (by decide +kernel))
  have hrows := congrArg (FeedReply.shown fun loan => loan.row.status) (HistoryBody.loans.inj hsame)
  exact absurd hrows (by decide +kernel)

end OurDao
