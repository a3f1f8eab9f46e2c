import OurDao.CoarseCursor
import OurDao.Feed

/-!
# Feeds paged by ledger

Four feeds are listed highest ledger first, and their cursor is a ledger: the next page
takes up strictly below it. A client passes the ledger of the last row it saw, and misses
the other rows of that ledger when they did not fit on the page.
-/

namespace OurDao

open CoarseCursor

/-- A numeric pagination cursor. -/
def cursor (v : Option QueryValue) : Option Nat :=
  match v with
  | none | some (.one "") => none
  | some v => (safeDigits v.text).filter (0 < ·)

def invalidCursor (v : Option QueryValue) : Bool := v.isSome && (cursor v).isNone

@[simp] theorem cursor_none : cursor none = none := rfl

theorem invalidCursor_some (v : QueryValue) : invalidCursor (some v) = (cursor (some v)).isNone := by
  simp [invalidCursor]

/-- The parameters that every feed takes. -/
structure PageQuery where
  limit : Option QueryValue := none
  before : Option QueryValue := none

inductive FeedReply (α : Type) where
  | badRequest (error : String)
  /-- the statement fails -/
  | failed
  | page (rows : List α)

/-- The filters of a request as conditions, and whether Postgres takes their values. -/
structure Filter (α : Type) where
  selects : α → Bool
  bindable : Bool := true

/-- What the handlers share: the checks of `limit` and `before` before those of the filters, and the statement. -/
def ledgerFeed {α : Type} (ledger : α → Nat) (orderBy : Option Nat → List α → List α) (stored : List α)
    (q : PageQuery)
    (filter : Except String (Filter α)) : FeedReply α :=
  match parseLimit q.limit 50 200 with
  | none => .badRequest "invalid limit parameter"
  | some limit =>
    if invalidCursor q.before then .badRequest "invalid before cursor"
    else
      match filter with
      | .error e => .badRequest e
      | .ok f =>
        if f.bindable then .page (page ledger orderBy (stored.filter f.selects) limit (cursor q.before)) else .failed

/-- A querystring schema of strings refuses a parameter that is given more than once. -/
def checkStrings (params : List (String × Option QueryValue)) : Option String :=
  params.findSome? fun p =>
    match p.2 with
    | some (.many _) => some ("querystring/" ++ p.1 ++ " must be string")
    | _ => none

/-- `ORDER BY ledger DESC, id DESC` -/
def newestFirst {α ι : Type} [LinearOrder ι] (ledger : α → Nat) (id : α → ι) (rows : List α) : List α :=
  Keyset.ordered (fun r => OrderDual.toDual (toLex (ledger r, id r))) rows

def storable (s : String) : Bool := (JsStr.ofString s).storable

def ADMIN_EVENT_SYMBOLS : List String :=
  ["init", "admin_add", "admin_rem", "threshold", "policy", "paused", "unpaused"]

def adminLogFilter (contract : Option QueryValue) : Filter FeedRow where
  selects r := ADMIN_EVENT_SYMBOLS.contains r.2.symbol && (EventsQuery.textFilter contract).all (r.2.contract_id = ·)
  bindable := (EventsQuery.textFilter contract).all storable

/-- `GET /admin/log`. It is ordered by ledger alone; `ties` is what Postgres makes of that. -/
def getAdminLog (ties : Option Nat → List FeedRow → List FeedRow) (db : Db) (q : PageQuery)
    (contract : Option QueryValue) : FeedReply FeedRow :=
  match checkStrings [("limit", q.limit), ("before", q.before), ("contract", contract)] with
  | some e => .badRequest e
  | none => ledgerFeed (·.2.ledger) ties (Table.rows db.events) q (.ok (adminLogFilter contract))

/-- `GET /interest` -/
def getInterest (db : Db) (q : PageQuery) : FeedReply InterestRow :=
  ledgerFeed InterestRow.ledger (fun _ => newestFirst InterestRow.ledger InterestRow.id)
    ((Table.rows db.tables.interest_distributions).map (·.2)) q (.ok { selects := fun _ => true })

def checkKind (kind proposal_id : Option QueryValue) : Except String (Option ProposalKind) :=
  if kind.isNone && proposal_id.isNone then .ok none
  else
    match kind with
    | some (.one "loan") => .ok (some .loan)
    | some (.one "treasury") => .ok (some .treasury)
    | _ => .error "kind query param must be \"loan\" or \"treasury\""

def checkProposalId (proposal_id : Option QueryValue) : Except String (Option Nat) :=
  match proposal_id with
  | none => .ok none
  | some (.one s) =>
    match JsNumber.digits 10 s.toList with
    | some n => .ok (some n)
    | none => .error "proposal_id query param is required"
  | some (.many _) => .error "proposal_id query param is required"

def checkCaller (sdk : StellarSdk) (caller : Option QueryValue) : Except String (Option String) :=
  match caller with
  | none => .ok none
  | some (.one s) => if sdk.isValidEd25519PublicKey s then .ok (some s) else .error "invalid Stellar address"
  | some (.many _) => .error "invalid Stellar address"

def documentsFilter (sdk : StellarSdk) (kind proposal_id caller : Option QueryValue) :
    Except String (Filter DocumentRow) := do
  let kind ← checkKind kind proposal_id
  let proposal_id ← checkProposalId proposal_id
  let caller ← checkCaller sdk caller
  return {
    selects := fun r =>
      kind.all (r.kind = ·) && proposal_id.all (r.proposal_id = Int.ofNat ·) && caller.all (r.caller = ·)
    -- `proposal_id` is an INTEGER
    bindable := proposal_id.all (· < 2 ^ 31) && caller.all storable }

/-- `GET /documents` -/
def getDocuments (sdk : StellarSdk) (db : Db) (q : PageQuery) (kind proposal_id caller : Option QueryValue) :
    FeedReply DocumentRow :=
  ledgerFeed DocumentRow.ledger (fun _ => newestFirst DocumentRow.ledger DocumentRow.id)
    ((Table.rows db.tables.documents).map (·.2)) q (documentsFilter sdk kind proposal_id caller)

def MEMBER_ACTIVITY_SYMBOLS : List String :=
  ["joined", "exited", "claimed", "staked", "unstaked", "name_reg", "loan_req", "loan_edit", "loan_vote", "loan_appr",
    "loan_rpy", "loan_dflt", "loan_exp", "tre_vote", "committed", "revealed"]

structure TimelineEntry where
  id : String
  symbol : String
  ledger : Nat
  timestamp : Int
  tx_hash : Option String
  fields : List (String × Json)

def timelineData (r : FeedRow) : List Json :=
  match r.2.data with
  | .arr vs => vs
  | _ => []

def toTimelineEntry (r : FeedRow) : Except String TimelineEntry := do
  return {
    id := r.1, symbol := r.2.symbol, ledger := r.2.ledger, timestamp := r.2.closed_at, tx_hash := r.2.tx_hash
    fields := ← namedFields (.ofString r.2.symbol) (timelineData r) }

/-- `data @> to_jsonb(s::text)` -/
def containsText (data : Json) (s : String) : Bool :=
  match data with
  | .str t => t = .ofString s
  | .arr vs => vs.any fun
    | .str t => t = .ofString s
    | _ => false
  | _ => false

def activityFilter (address : String) (symbol : Option QueryValue) : Except String (Filter FeedRow) :=
  match symbol with
  | none => .ok {
      selects := fun r => MEMBER_ACTIVITY_SYMBOLS.contains r.2.symbol && containsText r.2.data address
      bindable := storable address }
  | some (.one s) =>
    if MEMBER_ACTIVITY_SYMBOLS.contains s then
      .ok { selects := fun r => r.2.symbol = s && containsText r.2.data address, bindable := storable address }
    else .error ("invalid symbol filter: expected one of " ++ ", ".intercalate MEMBER_ACTIVITY_SYMBOLS)
  | some (.many _) => .error ("invalid symbol filter: expected one of " ++ ", ".intercalate MEMBER_ACTIVITY_SYMBOLS)

/-- The schema also has the symbols as an `enum`. -/
def checkActivity (q : PageQuery) (symbol : Option QueryValue) : Option String :=
  match checkStrings [("limit", q.limit), ("before", q.before), ("symbol", symbol)] with
  | some e => some e
  | none =>
    match symbol with
    | some (.one s) =>
      if MEMBER_ACTIVITY_SYMBOLS.contains s then none
      else some "querystring/symbol must be equal to one of the allowed values"
    | _ => none

/-- `GET /members/:address/activity` -/
def getMemberActivity (sdk : StellarSdk) (toUpperCase : String → String) (db : Db) (q : PageQuery)
    (rawAddress : String)
    (symbol : Option QueryValue) : FeedReply TimelineEntry :=
  match checkActivity q symbol with
  | some e => .badRequest e
  | none =>
    let address := toUpperCase rawAddress
    if sdk.isValidEd25519PublicKey address then
      match ledgerFeed (·.2.ledger) (fun _ => newestFirst (·.2.ledger) (·.1)) (Table.rows db.events) q
          (activityFilter address symbol) with
      | .badRequest e => .badRequest e
      | .failed => .failed
      | .page rows =>
        match rows.mapM toTimelineEntry with
        | .ok activity => .page activity
        | .error _ => .failed
    else .badRequest "invalid Stellar address"

/-- The feeds with their filters. -/
inductive LedgerFeed where
  | adminLog (contract : Option QueryValue)
  | interest
  | documents (kind proposal_id caller : Option QueryValue)
  | activity (address : String) (symbol : Option QueryValue)

namespace LedgerFeed

def Row : LedgerFeed → Type
  | adminLog _ => FeedRow
  | interest => InterestRow
  | documents _ _ _ => DocumentRow
  | activity _ _ => TimelineEntry

def ledger : (feed : LedgerFeed) → feed.Row → Nat
  | adminLog _ => fun r : FeedRow => r.2.ledger
  | interest => InterestRow.ledger
  | documents _ _ _ => DocumentRow.ledger
  | activity _ _ => TimelineEntry.ledger

/-- What a filter selects of the stored rows, nothing if it is refused. -/
def selected {α : Type} (filter : Except String (Filter α)) (stored : List α) : List α :=
  match filter with
  | .ok f => stored.filter f.selects
  | .error _ => []

section

variable (sdk : StellarSdk) (toUpperCase : String → String) (ties : Option Nat → List FeedRow → List FeedRow)

def get (db : Db) (q : PageQuery) : (feed : LedgerFeed) → FeedReply feed.Row
  | adminLog contract => getAdminLog ties db q contract
  | interest => getInterest db q
  | documents kind proposal_id caller => getDocuments sdk db q kind proposal_id caller
  | activity address symbol => getMemberActivity sdk toUpperCase db q address symbol

/-- The rows that match the filters. -/
def matching (db : Db) : (feed : LedgerFeed) → List feed.Row
  | adminLog contract => (Table.rows db.events).filter (adminLogFilter contract).selects
  | interest => (Table.rows db.tables.interest_distributions).map (·.2)
  | documents kind proposal_id caller =>
    selected (documentsFilter sdk kind proposal_id caller) ((Table.rows db.tables.documents).map (·.2))
  | activity address symbol =>
    (selected (activityFilter (toUpperCase address) symbol) (Table.rows db.events)).filterMap
      fun r => (toTimelineEntry r).toOption

/-- What a client reads that asks below the ledger of the last row of a page, until a page is empty. -/
inductive Lists (db : Db) (limit : Option QueryValue) (feed : LedgerFeed) : Option String → List feed.Row → Prop
  | last {before : Option String} : feed.get sdk toUpperCase ties db ⟨limit, before.map .one⟩ = .page [] →
      Lists db limit feed before []
  | next {before : Option String} {rows rest : List feed.Row} {r : feed.Row} :
      feed.get sdk toUpperCase ties db ⟨limit, before.map .one⟩ = .page rows → rows.getLast? = some r →
      Lists db limit feed (some (toString (feed.ledger r))) rest → Lists db limit feed before (rows ++ rest)

end

end LedgerFeed

/-- The ledgers that are taken for a cursor. -/
def CursorLedger (ledger : Nat) : Prop := 0 < ledger ∧ ledger < 2 ^ 53

theorem toString_isDigit {n : Nat} {c : Char} (h : c ∈ (toString n).toList) : c.isDigit := by
  rw [Nat.toString_eq_ofList_toDigits, String.toList_ofList] at h
  exact Nat.isDigit_of_mem_toDigits (by decide) (by decide) h

theorem toString_ne_nil (n : Nat) : (toString n).toList ≠ [] := by
  rw [Nat.toString_eq_ofList_toDigits, String.toList_ofList]
  exact Nat.toDigits_ne_nil

theorem trim_toString (n : Nat) : trim (toString n) = toString n := by
  have hspace : ∀ c ∈ (toString n).toList, JsNumber.isSpace c = false :=
    fun c hc => JsNumber.not_isSpace (toString_isDigit hc)
  have hfront : (toString n).toList.dropWhile JsNumber.isSpace = (toString n).toList :=
    JsNumber.dropSpace fun c hc => hspace c (List.mem_of_mem_head? hc)
  have hback : (toString n).toList.reverse.dropWhile JsNumber.isSpace = (toString n).toList.reverse :=
    JsNumber.dropSpace fun c hc => hspace c (List.mem_reverse.mp (List.mem_of_mem_head? hc))
  rw [trim, hfront, hback, List.reverse_reverse, String.ofList_toList]

theorem digits_toString (n : Nat) : JsNumber.digits 10 (toString n).toList = some n := by
  rw [JsNumber.digits_eq (toString_ne_nil n) fun c => toString_isDigit, Nat.toString_eq_ofList_toDigits,
    String.toList_ofList, Nat.ofDigitChars_ten_toDigits]

theorem safeDigits_toString (n : Nat) : safeDigits (toString n) = if n < 2 ^ 53 then some n else none := by
  rw [safeDigits, trim_toString, digits_toString, Option.filter_some]
  simp only [decide_eq_true_eq]

/-- The cursor that a client makes of a row's ledger. -/
theorem cursor_toString (n : Nat) :
    (CursorLedger n → cursor (some (.one (toString n))) = some n) ∧
      (¬ CursorLedger n → cursor (some (.one (toString n))) = none) := by
  rw [cursor]
  · simp only [QueryValue.text, safeDigits_toString]
    unfold CursorLedger
    split
    next h =>
      simp [Option.filter_some]
      omega
    next h =>
      simp
      omega
  · simp

/-- A handler answers every accepted cursor with the page below it, and refuses the others. -/
structure ServesPages {β : Type} (get : Option String → FeedReply β) (ledger : β → Nat)
    (orderBy : Option Nat → List β → List β) (rows : List β) (limit : Nat) : Prop where
  order : Orders ledger orderBy
  page : ∀ before : Option String, invalidCursor (before.map .one) = false →
    get before = .page (page ledger orderBy rows limit (cursor (before.map .one)))
  refuse : ∀ before : Option String, invalidCursor (before.map .one) → ∃ e, get before = .badRequest e

theorem newestFirst_orders {α ι : Type} [LinearOrder ι] (ledger : α → Nat) (id : α → ι) :
    Orders ledger fun _ => newestFirst ledger id where
  perm _ _ := Keyset.ordered_perm _ _
  sorted _ rows := by
    have h : (newestFirst ledger id rows).Pairwise
        (Keyset.ByKey fun r => OrderDual.toDual (toLex (ledger r, id r))) :=
      List.pairwise_insertionSort _ _
    refine h.imp fun {a b} hle => ?_
    have hle : toLex (ledger b, id b) ≤ toLex (ledger a, id a) := hle
    rw [Prod.Lex.toLex_le_toLex] at hle
    rcases hle with hlt | ⟨heq, -⟩
    · exact hlt.le
    · exact heq.le

/-- The shared handler serves, once it has accepted a first request. -/
theorem ledgerFeed_serves {α : Type} {ledger : α → Nat} {orderBy : Option Nat → List α → List α}
    {stored first : List α}
    {limit : Option QueryValue} {n : Nat} {filter : Except String (Filter α)} (horder : Orders ledger orderBy)
    (hlimit : parseLimit limit 50 200 = some n)
    (hfirst : ledgerFeed ledger orderBy stored ⟨limit, none⟩ filter = .page first) :
    ServesPages (fun before => ledgerFeed ledger orderBy stored ⟨limit, before.map .one⟩ filter) ledger orderBy
      (LedgerFeed.selected filter stored) n := by
  have hnone : invalidCursor none = false := rfl
  simp only [ledgerFeed, hlimit, hnone, Bool.false_eq_true, if_false] at hfirst
  cases filter with
  | error e => simp at hfirst
  | ok f =>
    by_cases hbind : f.bindable
    · exact ⟨horder, fun before h => by simp [ledgerFeed, hlimit, h, hbind, LedgerFeed.selected],
        fun before h => ⟨"invalid before cursor", by simp [ledgerFeed, hlimit, h]⟩⟩
    · simp [hbind] at hfirst

theorem checkStrings_one {limit v : Option QueryValue} {name : String} {before : Option String}
    (h : checkStrings [("limit", limit), ("before", none), (name, v)] = none) :
    checkStrings [("limit", limit), ("before", before.map .one), (name, v)] = none := by
  cases before <;> simpa [checkStrings] using h

/-- The entry of a row whose symbol is in the catalogue. -/
def timelineEntry (r : FeedRow) : TimelineEntry where
  id := r.1
  symbol := r.2.symbol
  ledger := r.2.ledger
  timestamp := r.2.closed_at
  tx_hash := r.2.tx_hash
  fields := (namedFields (.ofString r.2.symbol) (timelineData r)).toOption.getD []

theorem toTimelineEntry_known {r : FeedRow} (h : (EventSymbol.ofSymbol? (.ofString r.2.symbol)).isSome) :
    toTimelineEntry r = .ok (timelineEntry r) := by
  obtain ⟨s, hs⟩ := Option.isSome_iff_exists.mp h
  simp only [toTimelineEntry, timelineEntry, namedFields, hs]
  rfl

theorem mapM_toTimelineEntry {rows : List FeedRow}
    (h : ∀ r ∈ rows, (EventSymbol.ofSymbol? (.ofString r.2.symbol)).isSome) :
    rows.mapM toTimelineEntry = .ok (rows.map timelineEntry) := by
  induction rows with
  | nil => rfl
  | cons r rows ih =>
    rw [List.mapM_cons, toTimelineEntry_known (h r (by simp)), ih fun r' hr' => h r' (by simp [hr'])]
    rfl

theorem filterMap_toTimelineEntry {rows : List FeedRow}
    (h : ∀ r ∈ rows, (EventSymbol.ofSymbol? (.ofString r.2.symbol)).isSome) :
    rows.filterMap (fun r => (toTimelineEntry r).toOption) = rows.map timelineEntry := by
  rw [← List.filterMap_eq_map]
  exact List.filterMap_congr fun r hr => by rw [toTimelineEntry_known (h r hr)]; rfl

theorem known_of_activity {symbol : String} (h : MEMBER_ACTIVITY_SYMBOLS.contains symbol) :
    (EventSymbol.ofSymbol? (.ofString symbol)).isSome := by
  have hknown : ∀ s ∈ MEMBER_ACTIVITY_SYMBOLS, (EventSymbol.ofSymbol? (.ofString s)).isSome := by decide
  exact hknown symbol (List.contains_iff_mem.mp h)

/-- Whatever the activity filter selects has one of the symbols. -/
theorem activityFilter_known {address : String} {symbol : Option QueryValue} {stored : List FeedRow} {r : FeedRow}
    (h : r ∈ LedgerFeed.selected (activityFilter address symbol) stored) :
    MEMBER_ACTIVITY_SYMBOLS.contains r.2.symbol := by
  unfold activityFilter LedgerFeed.selected at h
  split at h
  next f hf =>
    split at hf
    next =>
      cases hf
      exact (Bool.and_eq_true_iff.mp (List.mem_filter.mp h).2).1
    next s =>
      split_ifs at hf with hs
      cases hf
      have hsymbol := (List.mem_filter.mp h).2
      simp only [Bool.and_eq_true, decide_eq_true_eq] at hsymbol
      exact hsymbol.1 ▸ hs
    next => simp at hf
  next => simp at h

theorem checkActivity_one {limit symbol : Option QueryValue} (before : Option String)
    (h : checkActivity ⟨limit, none⟩ symbol = none) : checkActivity ⟨limit, before.map .one⟩ symbol = none := by
  unfold checkActivity at h ⊢
  split at h
  next => simp at h
  next hcheck => rw [checkStrings_one hcheck]; exact h

theorem newestFirst_map {α β ι : Type} [LinearOrder ι] {ledger : α → Nat} {id : α → ι} {ledger' : β → Nat}
    {id' : β → ι}
    {f : α → β} (hledger : ∀ r, ledger' (f r) = ledger r) (hid : ∀ r, id' (f r) = id r) (rows : List α) :
    newestFirst ledger' id' (rows.map f) = (newestFirst ledger id rows).map f := by
  apply (List.map_insertionSort _ _ _ _ _).symm
  intro a _ b _
  simp only [Keyset.ByKey, hledger, hid]

namespace LedgerFeed

variable {sdk : StellarSdk} {toUpperCase : String → String} {ties : Option Nat → List FeedRow → List FeedRow}
  {db : Db}
  {limit : Option QueryValue} {n : Nat}

theorem adminLog_serves (horder : Orders (fun r : FeedRow => r.2.ledger) ties)
    (hlimit : parseLimit limit 50 200 = some n)
    {contract : Option QueryValue} {first : List FeedRow}
    (hfirst : getAdminLog ties db ⟨limit, none⟩ contract = .page first) :
    ServesPages (fun before => getAdminLog ties db ⟨limit, before.map .one⟩ contract) (·.2.ledger) ties
      ((Table.rows db.events).filter (adminLogFilter contract).selects) n := by
  unfold getAdminLog at hfirst
  split at hfirst
  next => simp at hfirst
  next hcheck =>
    have hserves := ledgerFeed_serves horder hlimit hfirst
    have hget : ∀ before : Option String, getAdminLog ties db ⟨limit, before.map .one⟩ contract =
        ledgerFeed (·.2.ledger) ties (Table.rows db.events) ⟨limit, before.map .one⟩
          (.ok (adminLogFilter contract)) :=
      fun before => by rw [getAdminLog, checkStrings_one hcheck]
    simp only [hget]
    exact hserves

/-- A page of activity is a page of the entries. -/
theorem mapM_activity (address : String) (symbol : Option QueryValue) (stored : List FeedRow) (before : Option Nat) :
    (page (fun r : FeedRow => r.2.ledger) (fun _ => newestFirst (·.2.ledger) (·.1))
        (selected (activityFilter address symbol) stored) n before).mapM toTimelineEntry =
      .ok (page TimelineEntry.ledger (fun _ => newestFirst TimelineEntry.ledger TimelineEntry.id)
        ((selected (activityFilter address symbol) stored).map timelineEntry) n before) := by
  rw [mapM_toTimelineEntry, map_page (fun _ => rfl) fun _ => newestFirst_map (fun _ => rfl) fun _ => rfl]
  · rfl
  · intro r hr
    have hmem := mem_page (newestFirst_orders (fun r : FeedRow => r.2.ledger) (·.1)) hr
    exact known_of_activity (activityFilter_known (List.mem_filter.mp hmem).1)

theorem activity_serves (hlimit : parseLimit limit 50 200 = some n) {address : String} {symbol : Option QueryValue}
    {first : List TimelineEntry}
    (hfirst : getMemberActivity sdk toUpperCase db ⟨limit, none⟩ address symbol = .page first) :
    ServesPages (fun before => getMemberActivity sdk toUpperCase db ⟨limit, before.map .one⟩ address symbol)
      TimelineEntry.ledger (fun _ => newestFirst TimelineEntry.ledger TimelineEntry.id)
      ((activity address symbol).matching sdk toUpperCase db) n := by
  unfold getMemberActivity at hfirst
  split at hfirst
  next => simp at hfirst
  next hcheck =>
    dsimp only at hfirst
    split_ifs at hfirst with hvalid
    split at hfirst
    next => simp at hfirst
    next => simp at hfirst
    next rows hrows =>
      have hserves := ledgerFeed_serves (newestFirst_orders (fun r : FeedRow => r.2.ledger) (·.1)) hlimit hrows
      have hcheck' := fun before => checkActivity_one before hcheck
      have hmatching : (activity address symbol).matching sdk toUpperCase db =
          (selected (activityFilter (toUpperCase address) symbol) (Table.rows db.events)).map timelineEntry :=
        filterMap_toTimelineEntry fun r hr => known_of_activity (activityFilter_known hr)
      refine ⟨newestFirst_orders _ _, fun before h => ?_, fun before h => ?_⟩
      · simp only [getMemberActivity, hcheck', hvalid, if_true, hserves.page before h, mapM_activity, hmatching]
      · obtain ⟨e, he⟩ := hserves.refuse before h
        exact ⟨e, by simp only [getMemberActivity, hcheck', hvalid, if_true, he]⟩

theorem serves (horder : Orders (fun r : FeedRow => r.2.ledger) ties) (hlimit : parseLimit limit 50 200 = some n)
    {feed : LedgerFeed} {first : List feed.Row}
    (hfirst : feed.get sdk toUpperCase ties db ⟨limit, none⟩ = .page first) :
    ∃ orderBy, ServesPages (fun before => feed.get sdk toUpperCase ties db ⟨limit, before.map .one⟩)
      feed.ledger orderBy
      (feed.matching sdk toUpperCase db) n := by
  cases feed with
  | adminLog contract => exact ⟨ties, adminLog_serves horder hlimit hfirst⟩
  | interest =>
    have hfirst : getInterest db ⟨limit, none⟩ = .page first := hfirst
    have h := ledgerFeed_serves (newestFirst_orders InterestRow.ledger InterestRow.id) hlimit hfirst
    simp only [selected, List.filter_true] at h
    exact ⟨_, h⟩
  | documents kind proposal_id caller =>
    exact ⟨_, ledgerFeed_serves (newestFirst_orders DocumentRow.ledger DocumentRow.id) hlimit hfirst⟩
  | activity address symbol => exact ⟨_, activity_serves hlimit hfirst⟩

/-- A client reads a feed as the rows are read behind their ledgers. -/
theorem lists_iff_reads {feed : LedgerFeed} {orderBy : Option Nat → List feed.Row → List feed.Row}
    (h : ServesPages (fun before => feed.get sdk toUpperCase ties db ⟨limit, before.map .one⟩) feed.ledger orderBy
      (feed.matching sdk toUpperCase db) n) {before : Option String}
    (hbefore : invalidCursor (before.map .one) = false)
    (out : List feed.Row) : feed.Lists sdk toUpperCase ties db limit before out ↔
      Reads feed.ledger orderBy (feed.matching sdk toUpperCase db) n CursorLedger (cursor (before.map .one)) out := by
  constructor
  · intro hl
    induction hl with
    | last hget =>
      rw [h.page _ hbefore] at hget
      exact .last (FeedReply.page.inj hget)
    | @next before rows rest r hget hlast hrest ih =>
      rw [h.page _ hbefore] at hget
      cases FeedReply.page.inj hget
      by_cases hvalid : CursorLedger (feed.ledger r)
      · have hcursor := (cursor_toString (feed.ledger r)).1 hvalid
        have hnext : invalidCursor ((some (toString (feed.ledger r))).map .one) = false := by
          rw [Option.map_some, invalidCursor_some, hcursor, Option.isNone_some]
        have hreads := ih hnext
        rw [Option.map_some, hcursor] at hreads
        exact .next hlast hvalid hreads
      · have hcursor := (cursor_toString (feed.ledger r)).2 hvalid
        have hinvalid : invalidCursor ((some (toString (feed.ledger r))).map .one) := by
          rw [Option.map_some, invalidCursor_some, hcursor, Option.isNone_none]
        obtain ⟨e, he⟩ := h.refuse _ hinvalid
        cases hrest with
        | last hget => exact absurd (he.symm.trans hget) (by simp)
        | next hget => exact absurd (he.symm.trans hget) (by simp)
  · intro hr
    generalize hk : cursor (before.map .one) = k at hr
    induction hr generalizing before with
    | last hpage => exact .last (by rw [h.page _ hbefore, hk, hpage])
    | @next k r rest hlast hvalid _ ih =>
      have hcursor := (cursor_toString (feed.ledger r)).1 hvalid
      refine .next (by rw [h.page _ hbefore, hk]) hlast (ih ?_ ?_)
      · rw [Option.map_some, invalidCursor_some, hcursor, Option.isNone_some]
      · rw [Option.map_some, hcursor]

/-- A served client reads all rows exactly when no page ends within a ledger. -/
theorem lists_iff_unbroken {feed : LedgerFeed} {orderBy : Option Nat → List feed.Row → List feed.Row}
    (h : ServesPages (fun before => feed.get sdk toUpperCase ties db ⟨limit, before.map .one⟩) feed.ledger orderBy
      (feed.matching sdk toUpperCase db) n) (hn : 1 ≤ n) :
    (∃ out, feed.Lists sdk toUpperCase ties db limit none out ∧ out.Perm (feed.matching sdk toUpperCase db)) ↔
      Unbroken CursorLedger n (descending feed.ledger (feed.matching sdk toUpperCase db)) := by
  rw [← reads_iff h.order hn]
  exact exists_congr fun out => and_congr_left fun _ => lists_iff_reads h rfl out

/-- **A feed lists every matching row once** exactly when no page ends within a ledger, or at a ledger that is not
taken for a cursor. -/
theorem lists_exactly (horder : Orders (fun r : FeedRow => r.2.ledger) ties) {feed : LedgerFeed}
    (hlimit : parseLimit limit 50 200 = some n) {first : List feed.Row}
    (hfirst : feed.get sdk toUpperCase ties db ⟨limit, none⟩ = .page first) :
    (∃ out, feed.Lists sdk toUpperCase ties db limit none out ∧ out.Perm (feed.matching sdk toUpperCase db)) ↔
      Unbroken CursorLedger n (descending feed.ledger (feed.matching sdk toUpperCase db)) := by
  obtain ⟨orderBy, hserves⟩ := serves horder hlimit hfirst
  exact lists_iff_unbroken hserves (parseLimit_pos (by decide) hlimit)

end LedgerFeed

def interestRow (id ledger : Nat) : InterestRow where
  id
  ledger
  amount := 100
  active_members := some 3
  tx_hash := none

def interestDb (rows : List InterestRow) : Db :=
  { tables := { interest_distributions := rows.foldl (fun t r => t.insert (toString r.id) r) ∅ } }

def adminEvent (ledger : Nat) : EventRow where
  ledger
  closed_at := 0
  contract_id := "C"
  symbol := "paused"
  topics := .arr []
  data := .arr []
  tx_hash := none
  decode_error := none

def adminDb : Db := { events := ((∅ : Table String EventRow).insert "a" (adminEvent 7)).insert "b" (adminEvent 8) }

def byLedger : Option Nat → List FeedRow → List FeedRow := fun _ => newestFirst (·.2.ledger) (·.1)

/-- Two admin events of two ledgers are both listed. -/
theorem LedgerFeed.lists_exactly_two_ledgers :
    ∃ out, (LedgerFeed.adminLog none).Lists memberSdk id byLedger adminDb (some (.one "1")) none out ∧
      out.Perm ((LedgerFeed.adminLog none).matching memberSdk id adminDb) := by
  have hfirst : (LedgerFeed.adminLog none).get memberSdk id byLedger adminDb ⟨some (.one "1"), none⟩ =
      .page [("b", adminEvent 8)] := rfl
  refine (lists_exactly (newestFirst_orders _ _) (by decide : parseLimit (some (.one "1")) 50 200 = some 1)
    hfirst).mpr ?_
  intro i k hk _
  have hdescending : descending (LedgerFeed.adminLog none).ledger
      ((LedgerFeed.adminLog none).matching memberSdk id adminDb) =
      [8, 7] := rfl
  rw [hdescending] at hk ⊢
  match i with
  | 0 =>
    cases hk
    exact ⟨by unfold CursorLedger; omega, by simp⟩
  | 1 =>
    cases hk
    exact ⟨by unfold CursorLedger; omega, by simp⟩
  | i + 2 => simp at hk

def interestOfOneLedger : Db := interestDb [interestRow 1 7, interestRow 2 7]

/-- Two distributions of one ledger, and pages of one row. -/
theorem LedgerFeed.page_ends_within_a_ledger :
    (∃ first, LedgerFeed.interest.get memberSdk id byLedger interestOfOneLedger
      ⟨some (.one "1"), none⟩ = .page first) ∧
      ¬ ∃ out, LedgerFeed.interest.Lists memberSdk id byLedger interestOfOneLedger (some (.one "1")) none out ∧
        out.Perm (LedgerFeed.interest.matching memberSdk id interestOfOneLedger) := by
  have hfirst : LedgerFeed.interest.get memberSdk id byLedger interestOfOneLedger ⟨some (.one "1"), none⟩ =
      .page [interestRow 2 7] := rfl
  have horder : Orders (fun r : FeedRow => r.2.ledger) byLedger := newestFirst_orders _ _
  have hlimit : parseLimit (some (.one "1")) 50 200 = some 1 := by decide
  obtain ⟨orderBy, hserves⟩ := serves horder hlimit hfirst
  refine ⟨⟨_, hfirst⟩, fun hlists => ?_⟩
  have hunbroken := (lists_iff_unbroken hserves (by decide)).mp hlists
  have hlast := hunbroken 0 7 rfl (.inl rfl)
  exact absurd (hlast.2 7 (by decide)) (by decide)

end OurDao
