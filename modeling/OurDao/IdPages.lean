import OurDao.MemberCaches
import OurDao.Timelines
import OurDao.Walks

/-!
# Feeds paged by id

Loans, notifications, quarantined events and the audit log are listed highest id first, and the
cursor is an id: the next page takes up strictly below it. A client passes the id of the last row
it was sent; the id of a loan may be 0 or less, and is then refused as a cursor. The client may
take its time, and the tables are written to between its requests.
-/

namespace OurDao

open Faults Op Walks

/-- What the handlers share: the checks of `limit` and `before` before those of the filters, and the
statement. `bound` is where the column `id` ends. -/
def idFeed {α : Type} (id : α → Int) (bound : Nat) (stored : List α) (q : PageQuery)
    (filter : Except String (Filter α)) : FeedReply α :=
  match parseLimit q.limit 50 200 with
  | none => .badRequest "invalid limit parameter"
  | some limit =>
    if invalidCursor q.before then .badRequest "invalid before cursor"
    else
      match filter with
      | .error e => .badRequest e
      | .ok f =>
        if f.bindable && (cursor q.before).all (· < bound) then
          let rows := stored.filter fun r => f.selects r && belowCursor q.before (id r)
          .page ((Keyset.ordered (fun r => OrderDual.toDual (id r)) rows).take limit)
        else .failed

/-- A row of `notifications` with its event and its address. -/
abbrev InboxRow : Type := (String × String) × NotificationRow

def InboxRow.id (r : InboxRow) : Int := r.2.id

def checkAddress (sdk : StellarSdk) (address : Option QueryValue) : Except String String :=
  match address with
  | some (.one s) =>
    if s ≠ "" ∧ sdk.isValidEd25519PublicKey s = true then .ok s else .error "invalid Stellar address"
  | _ => .error "invalid Stellar address"

/-- The value that `read` is compared with. -/
def checkUnread (unread : Option QueryValue) : Except String (Option Bool) :=
  match unread with
  | none | some (.one "") => .ok none
  | some (.one "true") => .ok (some true)
  | some (.one "false") => .ok (some false)
  | _ => .error "invalid unread parameter"

def inboxFilter (address : String) (unread : Option QueryValue) : Except String (Filter InboxRow) := do
  let unread ← checkUnread unread
  return {
    selects := fun r => r.1.2 = address && unread.all (r.2.read = ·)
    bindable := storable address }

/-- `GET /notifications` -/
def getNotifications (sdk : StellarSdk) (db : Db) (q : PageQuery) (address unread : Option QueryValue) :
    FeedReply InboxRow :=
  match checkAddress sdk address with
  | .error e => .badRequest e
  | .ok address => idFeed InboxRow.id (2 ^ 63) (Table.rows db.tables.notifications) q (inboxFilter address unread)

/-- What is sent of a row of `failed_events`: all but its error. -/
structure FailedEventView where
  id : Nat
  event_id : String
  symbol : String
  ledger : Nat
  resolved : Bool
  deriving DecidableEq, Repr

/-- The rows of `failed_events`. -/
def Rows.failedEvents (s : Rows) : List FailedEventView :=
  (Table.rows s.db.failed_events).filterMap fun r =>
    (s.failed_event_ids.lookup r.1).map fun id => ⟨id, r.1, r.2.symbol, r.2.ledger, r.2.resolved⟩

/-- The filters of a request for quarantined events. -/
structure FailedEventsQuery where
  unresolved : Option QueryValue := none
  symbol : Option QueryValue := none
  from_ledger : Option QueryValue := none
  to_ledger : Option QueryValue := none

def checkSymbol (symbol : Option QueryValue) : Except String (Option String) :=
  match symbol with
  | none => .ok none
  | some (.one s) => if trim s = "" then .error "invalid symbol filter" else .ok (some (trim s))
  | some (.many _) => .error "invalid symbol filter"

def failedEventsFilter (r : FailedEventsQuery) : Except String (Filter FailedEventView) := do
  let symbol ← checkSymbol r.symbol
  if invalidLedgerRange r.from_ledger r.to_ledger then
    throw ("invalid ledger range: from_ledger/to_ledger must be non-negative integers, " ++
      "from_ledger <= to_ledger, and the range must not exceed 10000 ledgers")
  return {
    selects := fun row => (r.unresolved ≠ some (.one "true") || !row.resolved) && symbol.all (row.symbol = ·) &&
      (ledgerBound r.from_ledger).all (· ≤ row.ledger) && (ledgerBound r.to_ledger).all (row.ledger ≤ ·)
    bindable := symbol.all storable }

/-- The querystring schema takes strings, and two of them for `unresolved`. -/
def checkFailedEvents (q : PageQuery) (r : FailedEventsQuery) : Option String :=
  match checkStrings [("limit", q.limit), ("before", q.before), ("unresolved", r.unresolved)] with
  | some e => some e
  | none =>
    if r.unresolved = none ∨ r.unresolved = some (.one "true") ∨ r.unresolved = some (.one "false") then
      checkStrings [("symbol", r.symbol), ("from_ledger", r.from_ledger), ("to_ledger", r.to_ledger)]
    else some "querystring/unresolved must be equal to one of the allowed values"

/-- `GET /admin/failed-events` -/
def getFailedEvents (s : Rows) (q : PageQuery) (r : FailedEventsQuery) : FeedReply FailedEventView :=
  match checkFailedEvents q r with
  | some e => .badRequest e
  | none => idFeed (fun row => (row.id : Int)) (2 ^ 63) s.failedEvents q (failedEventsFilter r)

/-- `count(*)` over the filters without the cursor, which its pages carry as `X-Total-Count`. -/
def failedEventsTotal (s : Rows) (r : FailedEventsQuery) : Nat :=
  match failedEventsFilter r with
  | .error _ => 0
  | .ok f => s.failedEvents.countP f.selects

def checkAction (action : Option QueryValue) : Except String (Option String) :=
  match action with
  | none => .ok none
  | some (.one s) => .ok (if trim s = "" then none else some (trim s))
  | some (.many _) => .error "invalid action filter"

def auditLogFilter (sdk : StellarSdk) (admin action : Option QueryValue) :
    Except String (Filter (Int × AdminAuditLogRow)) := do
  let admin ← checkBorrower sdk admin
  let action ← checkAction action
  return {
    selects := fun r => admin.all (r.2.admin_address = ·) && action.all (r.2.action = ·)
    bindable := admin.all storable && action.all storable }

/-- `GET /admin/audit-log`, for a caller that is authenticated. -/
def getAuditLog (sdk : StellarSdk) (log : Table Int AdminAuditLogRow) (q : PageQuery)
    (admin action : Option QueryValue) : FeedReply (Int × AdminAuditLogRow) :=
  idFeed Prod.fst (2 ^ 63) (Table.rows log) q (auditLogFilter sdk admin action)

/-- The tables that are listed by id. -/
structure IdTables where
  rows : Rows
  /-- `admin_audit_log` with its ids -/
  audits : Table Int AdminAuditLogRow := ∅

/-- The feeds with their filters. -/
inductive IdFeed where
  | loans (borrower status : Option QueryValue)
  | notifications (address unread : Option QueryValue)
  | failedEvents (r : FailedEventsQuery)
  | auditLog (admin action : Option QueryValue)

def FeedReply.map {α β : Type} (g : α → β) : FeedReply α → FeedReply β
  | .badRequest e => .badRequest e
  | .failed => .failed
  | .page rows => .page (rows.map g)

deriving instance DecidableEq for FeedReply

/-- The ids of the rows that satisfy the filters of a request. -/
def selectedIds {α : Type} (id : α → Int) (stored : List α) (filter : Except String (Filter α)) : List Int :=
  match filter with
  | .error _ => []
  | .ok f => (stored.filter f.selects).map id

namespace IdFeed

variable (sdk : StellarSdk)

/-- The ids on the page that a request is answered with. -/
def serve (s : IdTables) (q : PageQuery) : IdFeed → FeedReply Int
  | loans borrower status => (getLoans sdk s.rows.db q borrower status).map (·.id)
  | notifications address unread => (getNotifications sdk s.rows.db q address unread).map InboxRow.id
  | failedEvents r => (getFailedEvents s.rows q r).map fun row => (row.id : Int)
  | auditLog admin action => (getAuditLog sdk s.audits q admin action).map Prod.fst

/-- The ids that the feed is about, without a cursor. -/
def selected (s : IdTables) : IdFeed → List Int
  | loans borrower status =>
    selectedIds Prod.fst (Table.rows s.rows.db.tables.loans) (loansFilter sdk borrower status)
  | notifications address unread =>
    match checkAddress sdk address with
    | .error _ => []
    | .ok address =>
      selectedIds InboxRow.id (Table.rows s.rows.db.tables.notifications) (inboxFilter address unread)
  | failedEvents r => selectedIds (fun row => (row.id : Int)) s.rows.failedEvents (failedEventsFilter r)
  | auditLog admin action => selectedIds Prod.fst (Table.rows s.audits) (auditLogFilter sdk admin action)

/-- The ids of the table. -/
def stored (s : IdTables) : IdFeed → List Int
  | loans _ _ => (Table.rows s.rows.db.tables.loans).map Prod.fst
  | notifications _ _ => (Table.rows s.rows.db.tables.notifications).map InboxRow.id
  | failedEvents _ => s.rows.failedEvents.map fun row => (row.id : Int)
  | auditLog _ _ => (Table.rows s.audits).map Prod.fst

/-- The id of a loan is an INTEGER, the others are BIGSERIALs, and numbers that a client can send back. -/
def bound : IdFeed → Nat
  | loans _ _ => 2 ^ 31
  | _ => 2 ^ 53

/-- `id` is the primary key of the table. -/
structure Keyed (feed : IdFeed) (s : IdTables) : Prop where
  unique : (feed.stored s).Nodup
  bounds : ∀ k ∈ feed.stored s, k < feed.bound

end IdFeed

/-- What a client reads that asks for the rows before the last one it was sent, until a page is empty
or its cursor is refused. The tables are those of the time of each request. -/
inductive Pages {S : Type} (ask : S → Option QueryValue → FeedReply Int) :
    List (Option QueryValue × S) → List Int → Prop
  | last {before : Option QueryValue} {s : S} : ask s before = .page [] → Pages ask [(before, s)] []
  | refused {before : Option QueryValue} {s s' : S} {page : List Int} {id : Int} {e : String} :
      ask s before = .page page → page.getLast? = some id → ask s' (some (.one (toString id))) = .badRequest e →
      Pages ask [(before, s), (some (.one (toString id)), s')] page
  | next {before : Option QueryValue} {s s' : S} {page rest : List Int} {id : Int}
      {later : List (Option QueryValue × S)} : ask s before = .page page → page.getLast? = some id →
      Pages ask ((some (.one (toString id)), s') :: later) rest →
      Pages ask ((before, s) :: (some (.one (toString id)), s') :: later) (page ++ rest)

section

variable {α : Type} {id : α → Int} {bound : Nat} {stored : List α} {q : PageQuery}
  {filter : Except String (Filter α)} {before before' : Option QueryValue}

/-- A cursor as the key that the next page takes up below. -/
def cursorKey (before : Option QueryValue) : Option Intᵒᵈ :=
  (cursor before).map fun n : Nat => OrderDual.toDual (n : Int)

/-- The ids of a page in the order of the feed. -/
theorem map_ordered_ids {rows : List α} (h : (rows.map id).Nodup) :
    (Keyset.ordered (fun r => OrderDual.toDual (id r)) rows).map id =
      Keyset.ordered OrderDual.toDual (rows.map id) := by
  apply Keyset.eq_ordered
  · rw [List.map_map]
    exact h
  · rw [List.pairwise_map]
    exact List.pairwise_insertionSort _ _
  · exact (Keyset.ordered_perm _ rows).map id

/-- What it takes for a request to be answered with a page. -/
theorem idFeed_page {rows : List α} (h : idFeed id bound stored q filter = .page rows) :
    ∃ limit f, parseLimit q.limit 50 200 = some limit ∧ invalidCursor q.before = false ∧ filter = .ok f ∧
      f.bindable = true ∧ rows = (Keyset.ordered (fun r => OrderDual.toDual (id r))
        (stored.filter fun r => f.selects r && belowCursor q.before (id r))).take limit := by
  rw [idFeed] at h
  split at h
  next => cases h
  next limit hlimit =>
    split at h
    next => cases h
    next hcursor =>
      cases filter with
      | error e => cases h
      | ok f =>
        dsimp only at h
        split at h
        next hbind =>
          cases h
          exact ⟨limit, f, hlimit, by simpa using hcursor, rfl, (Bool.and_eq_true_iff.mp hbind).1, rfl⟩
        next => cases h

/-- A page holds the first ids below the cursor. -/
theorem idFeed_ids {rows : List α} (hkeys : (stored.map id).Nodup)
    (h : idFeed id bound stored q filter = .page rows) :
    ∃ limit, parseLimit q.limit 50 200 = some limit ∧ invalidCursor q.before = false ∧
      rows.map id = Keyset.page OrderDual.toDual (selectedIds id stored filter) limit (cursorKey q.before) := by
  obtain ⟨limit, f, hlimit, hcursor, rfl, -, rfl⟩ := idFeed_page h
  refine ⟨limit, hlimit, hcursor, ?_⟩
  rw [List.map_take, map_ordered_ids (hkeys.sublist (List.filter_sublist.map id)), Keyset.page, selectedIds,
    List.filter_map, List.filter_filter]
  congr 3
  apply List.filter_congr
  intro r _
  rw [cursorKey, belowCursor, Bool.and_comm]
  cases hc : cursor q.before with
  | none => rfl
  | some n => rfl

/-- A reply that depends on the cursor only: it is refused, or served if it is in range. -/
def FeedReply.Serves {α : Type} (r : FeedReply α) (before : Option QueryValue) (bound : Nat) : Prop :=
  if invalidCursor before then ∃ e, r = .badRequest e
  else (cursor before).all (· < bound) → ∃ rows, r = .page rows

theorem idFeed_serves {limit : Option QueryValue} {rows stored' : List α}
    (h : idFeed id bound stored ⟨limit, before⟩ filter = .page rows) :
    (idFeed id bound stored' ⟨limit, before'⟩ filter).Serves before' bound := by
  obtain ⟨n, f, hlimit, -, rfl, hbind, -⟩ := idFeed_page h
  dsimp only at hlimit
  simp only [FeedReply.Serves, idFeed, hlimit, hbind, Bool.true_and]
  split
  next => exact ⟨_, rfl⟩
  next =>
    intro hbound
    rw [if_pos hbound]
    exact ⟨_, rfl⟩

theorem FeedReply.Serves.map {β : Type} {r : FeedReply α} (h : r.Serves before bound) (g : α → β) :
    (r.map g).Serves before bound := by
  rw [Serves] at h ⊢
  split
  next hinvalid =>
    rw [if_pos hinvalid] at h
    obtain ⟨e, rfl⟩ := h
    exact ⟨e, rfl⟩
  next hinvalid =>
    rw [if_neg hinvalid] at h
    intro hbound
    obtain ⟨rows, rfl⟩ := h hbound
    exact ⟨_, rfl⟩

theorem FeedReply.Serves.mono {r : FeedReply α} (h : r.Serves before bound) {bound' : Nat} (hle : bound' ≤ bound) :
    r.Serves before bound' := by
  rw [Serves] at h ⊢
  split
  next hinvalid => rwa [if_pos hinvalid] at h
  next hinvalid =>
    rw [if_neg hinvalid] at h
    intro hbound
    apply h
    cases hc : cursor before with
    | none => rfl
    | some n =>
      rw [hc] at hbound
      have hlt : n < bound' := by simpa using hbound
      simpa using lt_of_lt_of_le hlt hle

end

section

variable {sdk : StellarSdk} {feed : IdFeed} {limit before before' : Option QueryValue} {s s' : IdTables}
  {ids : List Int}

theorem selectedIds_sublist {α : Type} (id : α → Int) (stored : List α) (filter : Except String (Filter α)) :
    (selectedIds id stored filter).Sublist (stored.map id) := by
  cases filter with
  | error e => exact List.nil_sublist _
  | ok f => exact List.filter_sublist.map id

/-- What is selected are ids of rows that are there. -/
theorem IdFeed.selected_sublist : (feed.selected sdk s).Sublist (feed.stored s) := by
  cases feed with
  | notifications address unread =>
    rw [IdFeed.selected]
    split
    · exact List.nil_sublist _
    · exact selectedIds_sublist ..
  | _ => exact selectedIds_sublist ..

theorem IdFeed.Keyed.selected_nodup (h : feed.Keyed s) : (feed.selected sdk s).Nodup :=
  h.unique.sublist IdFeed.selected_sublist

theorem IdFeed.Keyed.lt_bound (h : feed.Keyed s) {k : Int} (hk : k ∈ feed.selected sdk s) : k < feed.bound :=
  h.bounds k (IdFeed.selected_sublist.mem hk)

theorem IdFeed.bound_le (feed : IdFeed) : feed.bound ≤ 2 ^ 53 := by
  cases feed <;> simp [IdFeed.bound]

theorem FeedReply.map_eq_page {α β : Type} {g : α → β} {r : FeedReply α} {rows : List β}
    (h : r.map g = .page rows) : ∃ rows', r = .page rows' ∧ rows'.map g = rows := by
  cases r with
  | badRequest e => cases h
  | failed => cases h
  | page rows' =>
    cases h
    exact ⟨rows', rfl, rfl⟩

theorem getLoans_eq (db : Db) (q : PageQuery) (borrower status : Option QueryValue) :
    getLoans sdk db q borrower status =
      (idFeed Prod.fst (2 ^ 31) (Table.rows db.tables.loans) q (loansFilter sdk borrower status)).map
        withLoanDerived := by
  rw [getLoans, idFeed]
  cases parseLimit q.limit 50 200 with
  | none => rfl
  | some limit =>
    cases loansFilter sdk borrower status with
    | error e =>
      dsimp only
      split <;> rfl
    | ok f =>
      dsimp only
      split
      next => rfl
      next => split <;> rfl

theorem serve_loans (q : PageQuery) (borrower status : Option QueryValue) :
    (IdFeed.loans borrower status).serve sdk s q =
      (idFeed Prod.fst (2 ^ 31) (Table.rows s.rows.db.tables.loans) q (loansFilter sdk borrower status)).map
        Prod.fst := by
  rw [IdFeed.serve, getLoans_eq]
  cases idFeed Prod.fst (2 ^ 31) (Table.rows s.rows.db.tables.loans) q (loansFilter sdk borrower status) with
  | badRequest e => rfl
  | failed => rfl
  | page rows => simp only [FeedReply.map, List.map_map, Function.comp_def, withLoanDerived]

theorem checkStrings_eq_none {params : List (String × Option QueryValue)} :
    checkStrings params = none ↔ ∀ p ∈ params, ∀ ss, p.2 ≠ some (.many ss) := by
  rw [checkStrings, List.findSome?_eq_none_iff]
  refine forall₂_congr fun p _ => ?_
  obtain ⟨name, _ | (v | vs)⟩ := p <;> simp

theorem checkFailedEvents_cursor {r : FailedEventsQuery} {c : String}
    (h : checkFailedEvents ⟨limit, before⟩ r = none) : checkFailedEvents ⟨limit, some (.one c)⟩ r = none := by
  rw [checkFailedEvents] at h ⊢
  split at h
  next => cases h
  next hstrings =>
    rw [checkStrings_eq_none] at hstrings
    have hstrings' : checkStrings
        [("limit", limit), ("before", some (.one c)), ("unresolved", r.unresolved)] = none := by
      rw [checkStrings_eq_none]
      simp only [List.forall_mem_cons] at hstrings ⊢
      exact ⟨hstrings.1, by simp, hstrings.2.2⟩
    rw [hstrings']
    exact h

/-- What a page holds. -/
theorem IdFeed.serve_page (hkeyed : feed.Keyed s) (h : feed.serve sdk s ⟨limit, before⟩ = .page ids) :
    ∃ n, parseLimit limit 50 200 = some n ∧ invalidCursor before = false ∧
      ids = Keyset.page OrderDual.toDual (feed.selected sdk s) n (cursorKey before) := by
  cases feed with
  | loans borrower status =>
    rw [serve_loans] at h
    obtain ⟨rows, hrows, rfl⟩ := FeedReply.map_eq_page h
    exact idFeed_ids (Table.rows_keys_nodup _) hrows
  | notifications address unread =>
    obtain ⟨rows, hrows, rfl⟩ := FeedReply.map_eq_page h
    rw [getNotifications] at hrows
    rw [IdFeed.selected]
    split at hrows
    next => cases hrows
    next => exact idFeed_ids hkeyed.unique hrows
  | failedEvents r =>
    obtain ⟨rows, hrows, rfl⟩ := FeedReply.map_eq_page h
    rw [getFailedEvents] at hrows
    split at hrows
    next => cases hrows
    next => exact idFeed_ids hkeyed.unique hrows
  | auditLog admin action =>
    obtain ⟨rows, hrows, rfl⟩ := FeedReply.map_eq_page h
    exact idFeed_ids (Table.rows_keys_nodup _) hrows

/-- Once a page was served, another cursor is refused or served for its own sake. -/
theorem IdFeed.serve_serves (h : feed.serve sdk s ⟨limit, before⟩ = .page ids) (s' : IdTables) (c : String) :
    (feed.serve sdk s' ⟨limit, some (.one c)⟩).Serves (some (.one c)) feed.bound := by
  cases feed with
  | loans borrower status =>
    rw [serve_loans] at h ⊢
    obtain ⟨rows, hrows, -⟩ := FeedReply.map_eq_page h
    exact (idFeed_serves hrows).map _
  | notifications address unread =>
    obtain ⟨rows, hrows, -⟩ := FeedReply.map_eq_page h
    apply FeedReply.Serves.map
    rw [getNotifications] at hrows ⊢
    cases haddress : checkAddress sdk address with
    | error e =>
      rw [haddress] at hrows
      cases hrows
    | ok a =>
      rw [haddress] at hrows
      exact (idFeed_serves hrows).mono ((IdFeed.bound_le _).trans (by norm_num))
  | failedEvents r =>
    obtain ⟨rows, hrows, -⟩ := FeedReply.map_eq_page h
    apply FeedReply.Serves.map
    rw [getFailedEvents] at hrows ⊢
    cases hcheck : checkFailedEvents ⟨limit, before⟩ r with
    | some e =>
      rw [hcheck] at hrows
      cases hrows
    | none =>
      rw [hcheck] at hrows
      rw [checkFailedEvents_cursor hcheck]
      exact (idFeed_serves hrows).mono ((IdFeed.bound_le _).trans (by norm_num))
  | auditLog admin action =>
    obtain ⟨rows, hrows, -⟩ := FeedReply.map_eq_page h
    exact ((idFeed_serves hrows).mono ((IdFeed.bound_le _).trans (by norm_num))).map _

/-- The ids behind which the client cannot ask on. -/
def LastId (k : Intᵒᵈ) : Prop := ¬ CursorLedger (OrderDual.ofDual k).toNat

theorem mem_dropSpace {c : Char} {cs : List Char} (hc : c ∈ cs) (hspace : JsNumber.isSpace c = false) :
    c ∈ cs.dropWhile JsNumber.isSpace := by
  rw [← List.takeWhile_append_dropWhile (p := JsNumber.isSpace) (l := cs), List.mem_append] at hc
  refine hc.resolve_left fun hfront => ?_
  rw [List.mem_takeWhile_imp hfront] at hspace
  cases hspace

/-- A number with a sign is no cursor. -/
theorem cursor_negSucc (n : Nat) : cursor (some (.one (toString (Int.negSucc n)))) = none := by
  have htext : toString (Int.negSucc n) = "-" ++ toString (n + 1) := rfl
  have hmem : '-' ∈ (trim (toString (Int.negSucc n))).toList := by
    rw [trim, String.toList_ofList, List.mem_reverse]
    refine mem_dropSpace (List.mem_reverse.mpr (mem_dropSpace ?_ (by decide))) (by decide)
    rw [htext, String.toList_append]
    exact List.mem_append_left _ (by decide)
  have hdigits : JsNumber.digits 10 (trim (toString (Int.negSucc n))).toList = none := by
    rw [JsNumber.digits, if_pos]
    rw [Bool.or_eq_true, Bool.not_eq_true', List.all_eq_false]
    exact .inr ⟨'-', hmem, by decide⟩
  rw [cursor]
  · rw [QueryValue.text, safeDigits, hdigits]
    rfl
  · rintro h
    have hempty := congrArg String.toList (QueryValue.one.inj h)
    rw [htext, String.toList_append] at hempty
    simp at hempty

/-- The cursor that the client makes of an id. -/
theorem cursor_id (k : Int) : (¬ LastId (OrderDual.toDual k) → cursor (some (.one (toString k))) = some k.toNat) ∧
    (LastId (OrderDual.toDual k) → cursor (some (.one (toString k))) = none) := by
  cases k with
  | ofNat n =>
    obtain ⟨hvalid, hinvalid⟩ := cursor_toString n
    exact ⟨fun h => hvalid (not_not.mp h), hinvalid⟩
  | negSucc n =>
    have hlast : LastId (OrderDual.toDual (Int.negSucc n)) := fun h => absurd h.1 (Nat.lt_irrefl 0)
    exact ⟨fun h => absurd hlast h, fun _ => cursor_negSucc n⟩

theorem pos_of_not_lastId {k : Int} (h : ¬ LastId (OrderDual.toDual k)) : 0 < k := by
  have hpos : 0 < k.toNat := (not_not.mp h).1
  omega

theorem invalidCursor_id (k : Int) :
    invalidCursor (some (.one (toString k))) = true ↔ LastId (OrderDual.toDual k) := by
  obtain ⟨hvalid, hinvalid⟩ := cursor_id k
  rw [invalidCursor_some]
  by_cases hk : LastId (OrderDual.toDual k)
  · rw [hinvalid hk]
    simpa using hk
  · rw [hvalid hk]
    simpa using hk

theorem cursorKey_id {k : Int} (h : ¬ LastId (OrderDual.toDual k)) :
    cursorKey (some (.one (toString k))) = some (OrderDual.toDual k) := by
  rw [cursorKey, (cursor_id k).1 h, Option.map_some, Int.toNat_of_nonneg (pos_of_not_lastId h).le]

/-- The tables that a request is answered from, which are part of what is there at that time. -/
structure IdClient (S : Type) where
  sdk : StellarSdk
  feed : IdFeed
  limit : Option QueryValue
  tables : S → IdTables

namespace IdClient

variable {S : Type} (c : IdClient S)

def ask (t : S) (before : Option QueryValue) : FeedReply Int := c.feed.serve c.sdk (c.tables t) ⟨c.limit, before⟩

/-- The ids that the client wants, as they are at a time. -/
def wanted (t : S) : List Int := c.feed.selected c.sdk (c.tables t)

/-- A request as the library sees it. -/
def asked (q : Option QueryValue × S) : Option Intᵒᵈ × List Int := (cursorKey q.1, c.wanted q.2)

variable {c} {requests : List (Option QueryValue × S)} {out : List Int} {t : S} {before : Option QueryValue}
  {ids : List Int} {k : Int}

/-- How the client's next request is answered. -/
theorem ask_id (hserve : c.ask t before = .page ids) (hk : k < c.feed.bound) (t' : S) :
    (LastId (OrderDual.toDual k) → ∃ e, c.ask t' (some (.one (toString k))) = .badRequest e) ∧
      (¬ LastId (OrderDual.toDual k) → ∃ ids', c.ask t' (some (.one (toString k))) = .page ids') := by
  have hserves := IdFeed.serve_serves hserve (c.tables t') (toString k)
  constructor
  · intro hlast
    rw [FeedReply.Serves, if_pos ((invalidCursor_id k).mpr hlast)] at hserves
    exact hserves
  · intro hlast
    rw [FeedReply.Serves, if_neg (mt (invalidCursor_id k).mp hlast), (cursor_id k).1 hlast] at hserves
    apply hserves
    have hpos := pos_of_not_lastId hlast
    rw [Option.all_some, decide_eq_true_eq]
    omega

/-- The client walks through the ids. -/
theorem walk (h : Pages c.ask requests out) (hkeyed : ∀ q ∈ requests, c.feed.Keyed (c.tables q.2)) :
    ∃ n walked, parseLimit c.limit 50 200 = some n ∧ Walk OrderDual.toDual n LastId walked out ∧
      walked.head? = requests.head?.map c.asked ∧ ∀ q ∈ walked, ∃ p ∈ requests, q = c.asked p := by
  induction h with
  | @last before s hserve =>
    obtain ⟨n, hlimit, -, hids⟩ := IdFeed.serve_page (hkeyed _ (List.mem_singleton_self _)) hserve
    have hempty : Keyset.page OrderDual.toDual (c.wanted s) n (cursorKey before) = [] := hids.symm
    refine ⟨n, [c.asked (before, s)], hlimit, ?_, rfl, by simp⟩
    rw [← hempty]
    apply Walk.stop
    intro r hr
    change (Keyset.page OrderDual.toDual (c.wanted s) n (cursorKey before)).getLast? = some r at hr
    rw [hempty] at hr
    cases hr
  | @refused before s s' ids k e hserve hlast hrefused =>
    have hs := hkeyed _ (List.mem_cons_self ..)
    obtain ⟨n, hlimit, -, rfl⟩ := IdFeed.serve_page hs hserve
    have hk := hs.lt_bound (mem_page (List.mem_of_getLast? hlast)).1
    refine ⟨n, [c.asked (before, s)], hlimit, ?_, rfl, by simp⟩
    apply Walk.stop
    intro r hr
    cases hlast.symm.trans hr
    by_contra hnot
    obtain ⟨ids', hpage⟩ := (ask_id hserve hk s').2 hnot
    cases hrefused.symm.trans hpage
  | @next before s s' ids rest k later hserve hlast hrest ih =>
    have hs := hkeyed _ (List.mem_cons_self ..)
    obtain ⟨n, hlimit, -, rfl⟩ := IdFeed.serve_page hs hserve
    obtain ⟨n', walked, hlimit', hwalk, hhead, hasked⟩ := ih fun q hq => hkeyed q (List.mem_cons_of_mem _ hq)
    cases hlimit.symm.trans hlimit'
    have hk := hs.lt_bound (mem_page (List.mem_of_getLast? hlast)).1
    have hnot : ¬ LastId (OrderDual.toDual k) := by
      intro hfinal
      obtain ⟨e, hrefused⟩ := (ask_id hserve hk s').1 hfinal
      cases hrest with
      | last hserve' => cases hrefused.symm.trans hserve'
      | refused hserve' => cases hrefused.symm.trans hserve'
      | next hserve' => cases hrefused.symm.trans hserve'
    cases walked with
    | nil => cases hhead
    | cons q walked =>
      rw [List.head?_cons, List.head?_cons, Option.map_some, Option.some_inj, asked,
        cursorKey_id hnot] at hhead
      subst hhead
      have hnext : Walk OrderDual.toDual n LastId
          (c.asked (before, s) :: (some (OrderDual.toDual k), c.wanted s') :: walked)
          (Keyset.page OrderDual.toDual (c.wanted s) n (cursorKey before) ++ rest) := .next hlast hwalk
      refine ⟨n, _, hlimit, hnext, rfl, ?_⟩
      intro q hq
      cases hq with
      | head => exact ⟨_, List.mem_cons_self .., rfl⟩
      | tail _ hq =>
        obtain ⟨p, hp, hqp⟩ := hasked q hq
        exact ⟨p, List.mem_cons_of_mem _ hp, hqp⟩

theorem keys_nodup (hkeyed : ∀ q ∈ requests, c.feed.Keyed (c.tables q.2))
    {walked : List (Option Intᵒᵈ × List Int)} (hasked : ∀ q ∈ walked, ∃ p ∈ requests, q = c.asked p) :
    ∀ q ∈ walked, (q.2.map OrderDual.toDual).Nodup := by
  intro q hq
  obtain ⟨p, hp, rfl⟩ := hasked q hq
  exact (hkeyed p hp).selected_nodup.map OrderDual.toDual.injective

/-- The client can ask on behind every id above 0. -/
theorem nonpos_of_lastId (hkeyed : c.feed.Keyed (c.tables t)) (hk : k ∈ c.wanted t)
    (h : LastId (OrderDual.toDual k)) : k ≤ 0 := by
  have hlt := hkeyed.lt_bound hk
  have hbound := c.feed.bound_le
  have hnot : ¬ (0 < k.toNat ∧ k.toNat < 2 ^ 53) := h
  omega

theorem descends (h : Pages c.ask requests out) (hkeyed : ∀ q ∈ requests, c.feed.Keyed (c.tables q.2)) :
    out.Pairwise fun a b => b < a := by
  obtain ⟨n, walked, -, hwalk, -, hasked⟩ := walk h hkeyed
  exact (hwalk.ascends (keys_nodup hkeyed hasked)).1

theorem sound (h : Pages c.ask requests out) (hkeyed : ∀ q ∈ requests, c.feed.Keyed (c.tables q.2))
    (hk : k ∈ out) : ∃ q ∈ requests, k ∈ c.wanted q.2 := by
  obtain ⟨n, walked, -, hwalk, -, hasked⟩ := walk h hkeyed
  obtain ⟨q, hq, hmem, -⟩ := hwalk.sound hk
  obtain ⟨p, hp, rfl⟩ := hasked q hq
  exact ⟨p, hp, hmem⟩

/-- What is left out comes after a last row whose id is 0 or less. -/
theorem complete (h : Pages c.ask requests out) (hkeyed : ∀ q ∈ requests, c.feed.Keyed (c.tables q.2))
    (hfirst : ∀ q, requests.head? = some q → q.1 = none)
    (hk : ∀ q ∈ requests, belowCursor q.1 k → k ∈ c.wanted q.2) :
    k ∈ out ∨ ∃ last ≤ 0, out.getLast? = some last ∧ k < last := by
  obtain ⟨n, walked, hlimit, hwalk, hhead, hasked⟩ := walk h hkeyed
  have hthere : ∀ q ∈ walked, Beyond q.1 (OrderDual.toDual k) →
      ∃ a ∈ q.2, OrderDual.toDual a = OrderDual.toDual k := by
    intro q hq hbeyond
    obtain ⟨p, hp, rfl⟩ := hasked q hq
    refine ⟨k, hk p hp ?_, rfl⟩
    rw [belowCursor]
    cases hc : cursor p.1 with
    | none => rfl
    | some m =>
      have hlt := hbeyond (OrderDual.toDual (m : Int)) (by rw [asked, cursorKey, hc]; rfl)
      exact decide_eq_true (OrderDual.toDual_lt_toDual.mp hlt)
  have hstart : ∀ q, walked.head? = some q → Beyond q.1 (OrderDual.toDual k) := by
    intro q hq
    rw [hhead] at hq
    obtain ⟨p, hp, rfl⟩ := Option.map_eq_some_iff.mp hq
    rw [asked, hfirst p hp]
    exact beyond_none _
  obtain ⟨a, ha, hkey⟩ | ⟨last, hend, hfinal, hlt⟩ := hwalk.complete (keys_nodup hkeyed hasked)
    (parseLimit_pos (by decide) hlimit) hthere hstart
  · cases hkey
    exact .inl ha
  · obtain ⟨q, hq, hwanted⟩ := sound h hkeyed (List.mem_of_getLast? hend)
    exact .inr ⟨last, nonpos_of_lastId (hkeyed q hq) hwanted hfinal, hend, OrderDual.toDual_lt_toDual.mp hlt⟩

/-- Tables that do not change are listed whole. -/
theorem length_of_unchanged (h : Pages c.ask requests out) (hkeyed : ∀ q ∈ requests, c.feed.Keyed (c.tables q.2))
    (hfirst : ∀ q, requests.head? = some q → q.1 = none) {w : List Int}
    (hsame : ∀ q ∈ requests, c.wanted q.2 = w) (hnonneg : ∀ k ∈ w, 0 ≤ k) : out.length = w.length := by
  have hw : w.Nodup := by
    cases h with
    | last => exact hsame _ (List.mem_cons_self ..) ▸ (hkeyed _ (List.mem_cons_self ..)).selected_nodup
    | refused => exact hsame _ (List.mem_cons_self ..) ▸ (hkeyed _ (List.mem_cons_self ..)).selected_nodup
    | next => exact hsame _ (List.mem_cons_self ..) ▸ (hkeyed _ (List.mem_cons_self ..)).selected_nodup
  have hout : out.Nodup := (descends h hkeyed).imp fun hlt => (ne_of_lt hlt).symm
  apply List.Perm.length_eq
  rw [List.perm_ext_iff_of_nodup hout hw]
  intro k
  constructor
  · intro hk
    obtain ⟨q, hq, hmem⟩ := sound h hkeyed hk
    rwa [hsame q hq] at hmem
  · intro hk
    have hthere : ∀ q ∈ requests, belowCursor q.1 k → k ∈ c.wanted q.2 := fun q hq _ => by rwa [hsame q hq]
    obtain hlisted | ⟨last, hlast, -, hlt⟩ := complete h hkeyed hfirst hthere
    · exact hlisted
    · have hk0 := hnonneg k hk
      omega

/-- A client that was served one page comes to an end; its cursors only go down. -/
theorem ends_from (states : Nat → S) (hkeyed : ∀ i, c.feed.Keyed (c.tables (states i)))
    (hserve : c.ask t before = .page ids) :
    ∀ (n : Nat) (k : Int) (m : Nat), k < c.feed.bound → ¬ LastId (OrderDual.toDual k) → k.toNat < n →
      ∃ requests out, Pages c.ask requests out ∧ requests.head?.map Prod.fst = some (some (.one (toString k))) ∧
        requests.map Prod.snd = (List.range' m requests.length).map states := by
  intro n
  induction n with
  | zero =>
    intro k m _ _ hn
    omega
  | succ n ih =>
    intro k m hk hlast hn
    obtain ⟨page, hpage⟩ := (ask_id hserve hk (states m)).2 hlast
    cases hend : page.getLast? with
    | none =>
      rw [List.getLast?_eq_none_iff.mp hend] at hpage
      exact ⟨_, _, .last hpage, rfl, rfl⟩
    | some k' =>
      obtain ⟨size, -, -, hids⟩ := IdFeed.serve_page (hkeyed m) hpage
      have hmem := List.mem_of_getLast? hend
      rw [hids] at hmem
      obtain ⟨hwanted, hbeyond⟩ := mem_page hmem
      rw [cursorKey_id hlast, beyond_some, OrderDual.toDual_lt_toDual] at hbeyond
      have hk' := (hkeyed m).lt_bound hwanted
      have hpos := pos_of_not_lastId hlast
      by_cases hlast' : LastId (OrderDual.toDual k')
      · obtain ⟨e, hrefused⟩ := (ask_id hserve hk' (states (m + 1))).1 hlast'
        exact ⟨_, _, .refused hpage hend hrefused, rfl, rfl⟩
      · obtain ⟨requests, out, hpages, hhead, hstates⟩ := ih k' (m + 1) hk' hlast' (by omega)
        cases requests with
        | nil => cases hhead
        | cons q later =>
          obtain ⟨c', s'⟩ := q
          cases hhead
          exact ⟨_, _, .next hpage hend hpages, rfl, by rw [List.map_cons, hstates]; rfl⟩

end IdClient

/-- **A client that pages by id lists every row once**, whatever is written between its requests: the
ids come in descending order, each was selected when it was asked for, and one is not left out that
is selected at the first request and at every later one whose cursor lies above it, unless the
client ends above it with an id that is 0 or less and therefore refused as a cursor. -/
theorem id_pages_complete {requests : List (Option QueryValue × IdTables)} {out : List Int}
    (h : Pages (fun s before => feed.serve sdk s ⟨limit, before⟩) requests out)
    (hkeyed : ∀ q ∈ requests, feed.Keyed q.2) (hfirst : ∀ q, requests.head? = some q → q.1 = none) :
    out.Pairwise (fun a b => b < a) ∧ (∀ k ∈ out, ∃ q ∈ requests, k ∈ feed.selected sdk q.2) ∧
      ∀ k, (∀ q ∈ requests, belowCursor q.1 k → k ∈ feed.selected sdk q.2) →
        k ∈ out ∨ ∃ last ≤ 0, out.getLast? = some last ∧ k < last := by
  let c : IdClient IdTables := ⟨sdk, feed, limit, id⟩
  have hpages : Pages c.ask requests out := h
  exact ⟨IdClient.descends hpages hkeyed, fun k hk => IdClient.sound hpages hkeyed hk,
    fun k hk => IdClient.complete hpages hkeyed hfirst hk⟩

/-- **Paging by id comes to an end**, whatever is written between the requests: a client that is served
its first page gets an empty page or a refused cursor after it. -/
theorem id_pages_end (states : Nat → IdTables) (hkeyed : ∀ i, feed.Keyed (states i))
    (h : feed.serve sdk (states 0) ⟨limit, none⟩ = .page ids) : ∃ requests out,
      Pages (fun s before => feed.serve sdk s ⟨limit, before⟩) requests out ∧
        requests.head?.map Prod.fst = some none ∧
        requests.map Prod.snd = (List.range requests.length).map states := by
  let c : IdClient IdTables := ⟨sdk, feed, limit, id⟩
  have hserve : c.ask (states 0) none = .page ids := h
  cases hend : ids.getLast? with
  | none =>
    rw [List.getLast?_eq_none_iff.mp hend] at hserve
    exact ⟨[(none, states 0)], _, .last hserve, rfl, rfl⟩
  | some k =>
    obtain ⟨size, -, -, hids⟩ := IdFeed.serve_page (hkeyed 0) h
    have hmem := List.mem_of_getLast? hend
    rw [hids] at hmem
    have hk := (hkeyed 0).lt_bound (mem_page hmem).1
    by_cases hlast : LastId (OrderDual.toDual k)
    · obtain ⟨e, hrefused⟩ := (IdClient.ask_id hserve hk (states 1)).1 hlast
      exact ⟨[(none, states 0), (_, states 1)], _, .refused hserve hend hrefused, rfl, rfl⟩
    · obtain ⟨requests, out, hpages, hhead, hstates⟩ :=
        IdClient.ends_from states hkeyed hserve (k.toNat + 1) k 1 hk hlast (Nat.lt_succ_self _)
      cases requests with
      | nil => cases hhead
      | cons q later =>
        obtain ⟨c', s'⟩ := q
        cases hhead
        refine ⟨(none, states 0) :: _, _, .next hserve hend hpages, rfl, ?_⟩
        rw [List.map_cons, hstates, List.length_cons, List.range_eq_range', List.range'_succ]
        rfl

/-- The notifications of an address that are marked as read. -/
def readNotifications (t : Tables) (address : String) : Nat :=
  (Table.rows t.notifications).countP fun r => r.1.2 = address ∧ r.2.read = true

theorem selectedIds_nonneg {α : Type} {id : α → Int} {stored : List α} {filter : Except String (Filter α)}
    (hid : ∀ r, 0 ≤ id r) : ∀ k ∈ selectedIds id stored filter, 0 ≤ k := by
  intro k hk
  obtain ⟨r, -, rfl⟩ := List.mem_map.mp ((selectedIds_sublist id stored filter).mem hk)
  exact hid r

theorem selected_notifications_nonneg {address unread : Option QueryValue} :
    ∀ k ∈ (IdFeed.notifications address unread).selected sdk s, 0 ≤ k := by
  rw [IdFeed.selected]
  split
  next => simp
  next => exact selectedIds_nonneg fun r => Int.natCast_nonneg r.2.id

theorem length_selected_notifications {address v : String} {read : Bool} (hserve :
    (IdFeed.notifications (some (.one address)) (some (.one v))).serve sdk s ⟨limit, before⟩ = .page ids)
    (hread : checkUnread (some (.one v)) = .ok (some read)) :
    ((IdFeed.notifications (some (.one address)) (some (.one v))).selected sdk s).length =
      (Table.rows s.rows.db.tables.notifications).countP fun r => r.1.2 = address ∧ r.2.read = read := by
  obtain ⟨rows, hrows, -⟩ := FeedReply.map_eq_page hserve
  rw [getNotifications] at hrows
  rw [IdFeed.selected]
  cases haddress : checkAddress sdk (some (.one address)) with
  | error e =>
    rw [haddress] at hrows
    cases hrows
  | ok a =>
    have ha : a = address := by
      rw [checkAddress] at haddress
      split at haddress
      · cases haddress
        rfl
      · cases haddress
    subst ha
    dsimp only
    rw [inboxFilter, hread]
    simp only [selectedIds, bind, Except.bind, pure, Except.pure, List.length_map, List.countP_eq_length_filter,
      Option.all_some, Bool.decide_and]

/-- **What is counted is what the pages list**, while the table does not change. `X-Total-Count` is the
number of quarantined events on all pages, on each of them and whatever its cursor. The summary's
`unread_notifications` is the number of notifications that are listed with `unread=false`; with
`unread=true` those that are read are listed. -/
theorem listed_as_counted {requests : List (Option QueryValue × Unit)} {out : List Int}
    (h : Pages (fun _ before => feed.serve sdk s ⟨limit, before⟩) requests out) (hkeyed : feed.Keyed s)
    (hfirst : ∀ q, requests.head? = some q → q.1 = none) :
    (∀ r, feed = .failedEvents r → out.length = failedEventsTotal s.rows r) ∧
    (∀ address, feed = .notifications (some (.one address)) (some (.one "false")) →
      out.length = unreadNotifications s.rows.db.tables address) ∧
    ∀ address, feed = .notifications (some (.one address)) (some (.one "true")) →
      out.length = readNotifications s.rows.db.tables address := by
  let c : IdClient Unit := ⟨sdk, feed, limit, fun _ => s⟩
  have hpages : Pages c.ask requests out := h
  have hlength : (∀ k ∈ feed.selected sdk s, 0 ≤ k) → out.length = (feed.selected sdk s).length :=
    IdClient.length_of_unchanged hpages (fun _ _ => hkeyed) hfirst fun _ _ => rfl
  have hserved : ∃ before ids, feed.serve sdk s ⟨limit, before⟩ = .page ids := by
    cases h with
    | last hserve => exact ⟨_, _, hserve⟩
    | refused hserve => exact ⟨_, _, hserve⟩
    | next hserve => exact ⟨_, _, hserve⟩
  obtain ⟨before, ids, hserve⟩ := hserved
  refine ⟨?_, ?_, ?_⟩
  · rintro r rfl
    rw [hlength (selectedIds_nonneg fun row => Int.natCast_nonneg row.id), IdFeed.selected, failedEventsTotal]
    cases failedEventsFilter r with
    | error e => rfl
    | ok f => simp only [selectedIds, List.length_map, List.countP_eq_length_filter]
  · rintro address rfl
    rw [hlength selected_notifications_nonneg]
    exact length_selected_notifications hserve rfl
  · rintro address rfl
    rw [hlength selected_notifications_nonneg]
    exact length_selected_notifications hserve rfl

/-- A loan that is written keeps its borrower. -/
theorem borrower_of_loanWrite {ev : DecodedEvent} {loans : Table Int LoanRow} {w : LoanWrite} {row : LoanRow}
    (h : loanWrite ev loans = some w) (hrow : loans.lookup w.id = some row) : w.borrower = row.borrower := by
  rw [loanWrite] at h
  split at h
  · split at h
    · cases h
      simp only [hrow, Option.map_some, Option.getD_some]
    · cases h
  · split at h
    · obtain ⟨old, hold, rfl⟩ := Option.map_eq_some_iff.mp h
      cases hold.symm.trans hrow
      rfl
    · cases h
  · split at h
    · obtain ⟨old, hold, rfl⟩ := Option.map_eq_some_iff.mp h
      cases (Option.filter_eq_some_iff.mp hold).1.symm.trans hrow
      rfl
    · cases h
  · cases h

theorem loan_kept {ev : DecodedEvent} {t t' : Tables} {channels : List StreamChannel}
    (h : applyEvent ev t = .ok (channels, t')) {k : Int} {row : LoanRow} (hrow : t.loans.lookup k = some row) :
    ∃ row', t'.loans.lookup k = some row' ∧ row'.borrower = row.borrower := by
  obtain hsame | ⟨w, new, hw, hborrower, -, hinsert⟩ := applyEvent_loans h
  · rw [hsame]
    exact ⟨row, hrow, rfl⟩
  · rw [hinsert, Table.lookup_insert]
    split
    next hk =>
      subst hk
      exact ⟨new, rfl, hborrower.trans (borrower_of_loanWrite hw hrow)⟩
    next => exact ⟨row, hrow, rfl⟩

theorem Folds.loan_kept {Meets : Db → DecodedEvent → Prop} {db db' : Db} {raws : List EventResponse}
    (h : Folds Meets db raws db') (hall : AllFolded db) {k : Int} {row : LoanRow}
    (hrow : db.tables.loans.lookup k = some row) :
    ∃ row', db'.tables.loans.lookup k = some row' ∧ row'.borrower = row.borrower := by
  induction h generalizing row with
  | nil => exact ⟨row, hrow, rfl⟩
  | cons hd _ hfold _ ih =>
    obtain ⟨hfolded, hall₁⟩ := ingested_of_ingestEvent hall hd hfold
    cases hfolded with
    | known => exact ih hall₁ hrow
    | new _ htables _ =>
      obtain ⟨row₁, hrow₁, hborrower₁⟩ := OurDao.loan_kept htables hrow
      obtain ⟨row', hrow', hborrower'⟩ := ih hall₁ hrow₁
      exact ⟨row', hrow', hborrower'.trans hborrower₁⟩

/-- **A client that pages through the loans misses none that was there at its first request**, though the
indexer folds on: each is listed once, if its borrower is the one asked for; only one with a negative id
can be left out, behind a page that ends with an id of 0 or less. -/
theorem loans_listed_while_folding {db₀ : Db} {raws₀ : List EventResponse} {borrower : Option QueryValue}
    {later : List (Option QueryValue × Db)} {out : List Int}
    (h : Pages (fun db before => (getLoans sdk db ⟨limit, before⟩ borrower none).map (·.id))
      ((none, db₀) :: later) out)
    (hreach : Folds (fun _ _ => True) Db.empty raws₀ db₀)
    (hlater : ∀ q ∈ later, ∃ raws, Folds (fun _ _ => True) db₀ raws q.2) :
    out.Pairwise (fun a b => b < a) ∧ ∀ f, loansFilter sdk borrower none = .ok f →
      ∀ k row, db₀.tables.loans.lookup k = some row → f.selects (k, row) = true →
        k ∈ out ∨ ∃ last ≤ 0, out.getLast? = some last ∧ k < last := by
  have hall : AllFolded db₀ := hreach.allFolded allFolded_empty
  have hcolumns : IdsInColumns db₀.tables := hreach.idsInColumns allFolded_empty idsInColumns_empty
  have hreached : ∀ q ∈ (none, db₀) :: later, ∃ raws, Folds (fun _ _ => True) db₀ raws q.2 := by
    intro q hq
    cases hq with
    | head => exact ⟨[], .nil⟩
    | tail _ hq => exact hlater q hq
  let c : IdClient Db := ⟨sdk, .loans borrower none, limit, fun db => ⟨{ db }, ∅⟩⟩
  have hpages : Pages c.ask ((none, db₀) :: later) out := h
  have hkeyed : ∀ q ∈ (none, db₀) :: later, c.feed.Keyed (c.tables q.2) := by
    intro q hq
    obtain ⟨raws, hfolds⟩ := hreached q hq
    have hloans := (hfolds.idsInColumns hall hcolumns).loans
    refine ⟨Table.rows_keys_nodup _, fun k hk => ?_⟩
    obtain ⟨⟨k, row⟩, hrow, rfl⟩ := List.mem_map.mp hk
    exact hloans k row (Table.mem_rows.mp hrow)
  refine ⟨IdClient.descends hpages hkeyed, ?_⟩
  intro f hf k row hrow hselects
  apply IdClient.complete hpages hkeyed (fun q hq => by cases hq; rfl)
  intro q hq _
  obtain ⟨raws, hfolds⟩ := hreached q hq
  obtain ⟨row', hrow', hborrower⟩ := hfolds.loan_kept hall hrow
  have hselects' : f.selects (k, row') = true := by
    rw [loansFilter] at hf
    cases hb : checkBorrower sdk borrower with
    | error e =>
      rw [hb] at hf
      cases hf
    | ok b =>
      rw [hb] at hf
      cases hf
      simpa [hborrower] using hselects
  change k ∈ selectedIds Prod.fst (Table.rows q.2.tables.loans) (loansFilter sdk borrower none)
  rw [hf]
  exact List.mem_map.mpr ⟨(k, row'), List.mem_filter.mpr ⟨Table.mem_rows.mpr hrow', hselects'⟩, rfl⟩

end

def anApproval (eventId : String) (loanId : Int) : EventResponse :=
  .published eventId 9 "loan_appr" [.num loanId, .str "GA", .bigint 50]

def firstApprovals : List EventResponse :=
  [anApproval "0001" 1, anApproval "0002" (-1), anApproval "0003" 3, anApproval "0004" (-2), anApproval "0005" (-3)]

/-- Loan 2 is approved and loan 1 repaid after the first page. -/
def meanwhile : List EventResponse :=
  [anApproval "0006" 2, .published "0007" 10 "loan_rpy" [.num 1, .str "GA", .bigint 0]]

def laterRequests : List (Option QueryValue × Db) :=
  [(some (.one "1"), foldedDb (firstApprovals ++ meanwhile)),
    (some (.one "-2"), foldedDb (firstApprovals ++ meanwhile))]

/-- The page that ends with loan -2 is the last, since the client cannot ask from there. -/
theorem pages_twoByTwo :
    Pages (fun db before => (getLoans memberSdk db ⟨some (.one "2"), before⟩ none none).map (·.id))
    ((none, foldedDb firstApprovals) :: laterRequests) ([3, 1] ++ [-1, -2]) := by
  have hlast : ([3, 1] : List Int).getLast? = some 1 := rfl
  have hnegative : ([-1, -2] : List Int).getLast? = some (-2) := rfl
  have hrefused : (getLoans memberSdk (foldedDb (firstApprovals ++ meanwhile))
      ⟨some (.one "2"), some (.one "-2")⟩ none none).map (·.id) = .badRequest "invalid before cursor" := by
    decide +kernel
  exact .next (by decide +kernel) hlast (.refused (by decide +kernel) hnegative hrefused)

/-- Loan 1 is listed; loan -3 is left out. -/
theorem loans_listed_while_folding_twoByTwo :
    ([3, 1] ++ [-1, -2] : List Int).Pairwise (fun a b => b < a) ∧ (1 : Int) ∈ ([3, 1] ++ [-1, -2] : List Int) ∧
      ∃ last ≤ (0 : Int), ([3, 1] ++ [-1, -2] : List Int).getLast? = some last ∧ -3 < last := by
  have hon : Folds (fun _ _ => True) (foldedDb firstApprovals) meanwhile (foldedDb (firstApprovals ++ meanwhile)) :=
    folds_on meanwhile (by decide +kernel)
  have hlater : ∀ q ∈ laterRequests, ∃ raws, Folds (fun _ _ => True) (foldedDb firstApprovals) raws q.2 := by
    intro q hq
    cases hq with
    | head => exact ⟨meanwhile, hon⟩
    | tail _ hq =>
      rw [List.mem_singleton.mp hq]
      exact ⟨meanwhile, hon⟩
  have hreach : Folds (fun _ _ => True) Db.empty firstApprovals (foldedDb firstApprovals) :=
    folds_foldedDb (by decide +kernel)
  obtain ⟨hdescends, hlisted⟩ := loans_listed_while_folding pages_twoByTwo hreach hlater
  have hstored : ∀ k ∈ [1, -3], ((foldedDb firstApprovals).tables.loans.lookup k).isSome = true := by decide +kernel
  obtain ⟨row, hloan⟩ := Option.isSome_iff_exists.mp (hstored 1 (by decide))
  obtain ⟨row', hloan'⟩ := Option.isSome_iff_exists.mp (hstored (-3) (by decide))
  refine ⟨hdescends, (hlisted _ rfl 1 row hloan rfl).resolve_right ?_,
    (hlisted _ rfl (-3) row' hloan' rfl).resolve_left ?_⟩
  · rintro ⟨last, hlast, -, hlt⟩
    omega
  · decide

def twoRecords : Table String FailedEventRow :=
  ((∅ : Table String FailedEventRow).insert "0001" ⟨"joined", 7, "no member", false, none⟩).insert "0002"
    ⟨"staked", 8, "no stake", true, none⟩

def quarantinedTwice : IdTables :=
  ⟨{ db := { failed_events := twoRecords },
     failed_event_ids := ((∅ : Table String Nat).insert "0001" 1).insert "0002" 2 }, ∅⟩

theorem keyed_quarantinedTwice : (IdFeed.failedEvents {}).Keyed quarantinedTwice :=
  ⟨by decide +kernel, by decide +kernel⟩

def oneByOne (s : IdTables) (before : Option QueryValue) : FeedReply Int :=
  (IdFeed.failedEvents {}).serve memberSdk s ⟨some (.one "1"), before⟩

theorem pages_oneByOne {S : Type} (tables : S → IdTables) (s : S) (h : tables s = quarantinedTwice) :
    Pages (fun s before => oneByOne (tables s) before) [(none, s), (some (.one "2"), s), (some (.one "1"), s)]
      ([2] ++ ([1] ++ [])) := by
  have htwo : ([2] : List Int).getLast? = some 2 := rfl
  have hone : ([1] : List Int).getLast? = some 1 := rfl
  refine .next ?_ htwo (.next ?_ hone (.last ?_)) <;> rw [h] <;> decide +kernel

theorem id_pages_complete_oneByOne : ([2] ++ ([1] ++ []) : List Int).Pairwise (fun a b => b < a) ∧
    (1 : Int) ∈ ([2] ++ ([1] ++ []) : List Int) := by
  have hsame : ∀ q ∈ [(none, quarantinedTwice), (some (QueryValue.one "2"), quarantinedTwice),
      (some (.one "1"), quarantinedTwice)], q.2 = quarantinedTwice := by
    intro q hq
    simp only [List.mem_cons, List.not_mem_nil, or_false] at hq
    obtain rfl | rfl | rfl := hq <;> rfl
  have hkeyed : ∀ q ∈ [(none, quarantinedTwice), (some (QueryValue.one "2"), quarantinedTwice),
      (some (.one "1"), quarantinedTwice)], (IdFeed.failedEvents {}).Keyed q.2 := by
    intro q hq
    rw [hsame q hq]
    exact keyed_quarantinedTwice
  have hpages := id_pages_complete (pages_oneByOne id quarantinedTwice rfl) hkeyed fun q hq => by cases hq; rfl
  have hselected : (1 : Int) ∈ (IdFeed.failedEvents {}).selected memberSdk quarantinedTwice := by decide +kernel
  have hthere : ∀ q ∈ [(none, quarantinedTwice), (some (QueryValue.one "2"), quarantinedTwice),
      (some (.one "1"), quarantinedTwice)], belowCursor q.1 1 →
        (1 : Int) ∈ (IdFeed.failedEvents {}).selected memberSdk q.2 := fun q hq _ => by rwa [hsame q hq]
  refine ⟨hpages.1, (hpages.2.2 1 hthere).resolve_right ?_⟩
  rintro ⟨last, hlast, -, hlt⟩
  omega

theorem id_pages_end_oneByOne : ∃ requests out, Pages oneByOne requests out ∧
    requests.head?.map Prod.fst = some none ∧
    requests.map Prod.snd = (List.range requests.length).map fun _ => quarantinedTwice := by
  have hfirst : oneByOne quarantinedTwice none = .page [2] := by decide +kernel
  exact id_pages_end (fun _ => quarantinedTwice) (fun _ => keyed_quarantinedTwice) hfirst

/-- Two notifications of a member, of which the second is marked as read. -/
def inboxOfTwo : IdTables :=
  let row (id : Nat) (read : Bool) : NotificationRow := ⟨id, .info, "", "", 7, none, read⟩
  ⟨{ db := { tables := { Tables.empty with
      notifications := ((∅ : Table (String × String) NotificationRow).insert ("0001", "GMEMBER") (row 1 false)).insert
        ("0002", "GMEMBER") (row 2 true) } } }, ∅⟩

def inbox (read : String) : IdFeed := .notifications (some (.one "GMEMBER")) (some (.one read))

theorem keyed_inboxOfTwo (read : String) : (inbox read).Keyed inboxOfTwo := by
  have hids : (inbox read).stored inboxOfTwo = [2, 1] := rfl
  constructor <;> rw [hids]
  · decide
  · simp [inbox, IdFeed.bound]

theorem listed_as_counted_oneByOne : failedEventsTotal quarantinedTwice.rows {} = 2 ∧
    unreadNotifications inboxOfTwo.rows.db.tables "GMEMBER" = 1 ∧
      readNotifications inboxOfTwo.rows.db.tables "GMEMBER" = 1 := by
  have hone : ([1] : List Int).getLast? = some 1 := rfl
  have htwo : ([2] : List Int).getLast? = some 2 := rfl
  have hunread : Pages (fun (_ : Unit) before => (inbox "false").serve memberSdk inboxOfTwo ⟨none, before⟩)
      [(none, ()), (some (.one "1"), ())] ([1] ++ []) := .next (by decide +kernel) hone (.last (by decide +kernel))
  have hread : Pages (fun (_ : Unit) before => (inbox "true").serve memberSdk inboxOfTwo ⟨none, before⟩)
      [(none, ()), (some (.one "2"), ())] ([2] ++ []) := .next (by decide +kernel) htwo (.last (by decide +kernel))
  refine ⟨?_, ?_, ?_⟩
  · have hcount := (listed_as_counted (s := quarantinedTwice)
      (pages_oneByOne (fun _ : Unit => quarantinedTwice) () rfl) keyed_quarantinedTwice
      fun q hq => by cases hq; rfl).1 {} rfl
    exact hcount.symm
  · have hcount := (listed_as_counted hunread (keyed_inboxOfTwo _) fun q hq => by cases hq; rfl).2.1 "GMEMBER" rfl
    exact hcount.symm
  · have hcount := (listed_as_counted hread (keyed_inboxOfTwo _) fun q hq => by cases hq; rfl).2.2 "GMEMBER" rfl
    exact hcount.symm

end OurDao
