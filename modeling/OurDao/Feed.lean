import Mathlib.Data.Prod.Lex
import Mathlib.Tactic.IntervalCases
import OurDao.Keyset
import OurDao.Numerals
import OurDao.Routes

/-!
# The event feed

`GET /events` lists the raw log newest first, or oldest first on request, and gives with
each page a cursor to the next one. The cursor is the id of the page's last row. A Soroban
paging id starts with the row's TOID, the ledger in the high half of 64 bits, and that
number is what the next request takes for the ledger.
-/

namespace OurDao

/-- The value of a query parameter, given once or several times. -/
inductive QueryValue where
  | one (s : String)
  | many (ss : List String)
  deriving DecidableEq

/-- `String(v)`. -/
def QueryValue.text : QueryValue → String
  | .one s => s
  | .many ss => ",".intercalate ss

/-- `req.query`. -/
structure EventsQuery where
  limit : Option QueryValue := none
  before : Option QueryValue := none
  after : Option QueryValue := none
  from_ledger : Option QueryValue := none
  to_ledger : Option QueryValue := none
  order : Option QueryValue := none
  symbol : Option QueryValue := none
  contract : Option QueryValue := none
  decode_error : Option QueryValue := none

/-- The value of a text of decimal digits, where that is a safe integer. -/
def safeDigits (s : String) : Option Nat :=
  (JsNumber.digits 10 (trim s).toList).filter (· < 2 ^ 53)

def parseLimit (v : Option QueryValue) (default max : Nat) : Option Nat :=
  match v with
  | none | some (.one "") => some default
  | some v => (safeDigits v.text).filter fun n => 0 < n ∧ n ≤ max

/-- Where a page starts: behind a ledger, or behind one row of it. -/
structure EventCursor where
  ledger : JsNumber
  id : Option String
  deriving DecidableEq

/-- `/^[0-9]+-[0-9]+$/` -/
def isPagingText (s : String) : Bool :=
  match s.toList.dropWhile Char.isDigit with
  | '-' :: cs => !(s.toList.takeWhile Char.isDigit).isEmpty && !cs.isEmpty && cs.all Char.isDigit
  | _ => false

def eventCursor (v : Option QueryValue) : Option EventCursor :=
  match v with
  | none | some (.one "") => none
  | some v =>
    let raw := trim v.text
    if isPagingText raw then
      let head := String.ofList (raw.toList.takeWhile (· ≠ '-'))
      some ⟨JsNumber.parse (JsStr.ofString head), some raw⟩
    else
      match JsNumber.parse (JsStr.ofString raw) with
      | .finite q => if q.den = 1 ∧ 0 < q ∧ q < 2 ^ 53 then some ⟨.finite q, none⟩ else none
      | _ => none

@[simp] theorem eventCursor_none : eventCursor none = none := rfl

def invalidEventCursor (v : Option QueryValue) : Bool := v.isSome && (eventCursor v).isNone

def ledgerBound (v : Option QueryValue) : Option Nat :=
  match v with
  | none | some (.one "") => none
  | some v => safeDigits v.text

def MAX_LEDGER_RANGE : Nat := 10000

def invalidLedgerRange (fromRaw toRaw : Option QueryValue) : Bool :=
  (fromRaw.isSome && (ledgerBound fromRaw).isNone) || (toRaw.isSome && (ledgerBound toRaw).isNone) ||
    match ledgerBound fromRaw, ledgerBound toRaw with
    | some from_, some to_ => to_ < from_ || MAX_LEDGER_RANGE < to_ - from_
    | _, _ => false

/-- A row of `events` with its id. -/
abbrev FeedRow : Type := String × EventRow

/-- The columns of `ORDER BY ledger, id`. -/
def FeedRow.key (r : FeedRow) : Nat ×ₗ String := toLex (r.2.ledger, r.1)

/-- A number as Postgres takes it for a BIGINT, if it is in range. -/
def bigint (x : JsNumber) : Option Nat := x.printed.filter (· < 2 ^ 63)

namespace EventsQuery

variable (q : EventsQuery)

def ascending : Bool := q.order = some (.one "asc")

def textFilter (v : Option QueryValue) : Option String :=
  match v with
  | some (.one s) => if s = "" then none else some s
  | _ => none

/-- Postgres takes the text parameters. -/
def bindable : Bool :=
  (textFilter q.symbol).all (fun s => (JsStr.ofString s).storable) &&
    (textFilter q.contract).all fun s => (JsStr.ofString s).storable

/-- The conditions of the filters. -/
def selects (r : FeedRow) : Bool :=
  (textFilter q.symbol).all (r.2.symbol = ·) && (textFilter q.contract).all (r.2.contract_id = ·) &&
    (q.decode_error ≠ some (.one "true") || r.2.decode_error.isSome) &&
    (ledgerBound q.from_ledger).all (· ≤ r.2.ledger) && (ledgerBound q.to_ledger).all (r.2.ledger ≤ ·)

end EventsQuery

/-- `(ledger, id) < ($1, $2)`, or `ledger < $1`. -/
def FeedRow.isBefore (ledger : Nat) (id : Option String) (r : FeedRow) : Bool :=
  match id with
  | some id => r.key < toLex (ledger, id)
  | none => r.2.ledger < ledger

def FeedRow.isAfter (ledger : Nat) (id : Option String) (r : FeedRow) : Bool :=
  match id with
  | some id => toLex (ledger, id) < r.key
  | none => ledger < r.2.ledger

/-- The condition of a cursor, if its parameter is in range. -/
def cursorCondition (beyond : Nat → Option String → FeedRow → Bool) (c : Option EventCursor) :
    Option (FeedRow → Bool) :=
  match c with
  | none => some fun _ => true
  | some c => (bigint c.ledger).map fun ledger => beyond ledger c.id

inductive EventsReply where
  | badRequest (error : String)
  /-- the statement fails -/
  | failed
  | page (events : List FeedRow) (nextCursor : Option String)

def EventsReply.ofRows (events : List FeedRow) : EventsReply := .page events (events.getLast?.map (·.1))

/-- `ORDER BY ledger, id` in the direction asked for. -/
def EventsQuery.sorted (q : EventsQuery) (rows : List FeedRow) : List FeedRow :=
  if q.ascending then Keyset.ordered FeedRow.key rows
  else Keyset.ordered (fun r : FeedRow => OrderDual.toDual r.key) rows

/-- `GET /events` -/
def getEvents (db : Db) (q : EventsQuery) : EventsReply :=
  match parseLimit q.limit 50 200 with
  | none => .badRequest "invalid limit parameter"
  | some limit =>
    if invalidEventCursor q.before then .badRequest "invalid before cursor"
    else if invalidEventCursor q.after then .badRequest "invalid after cursor"
    else if (eventCursor q.before).isSome && (eventCursor q.after).isSome then
      .badRequest "cannot use before and after together"
    else if invalidLedgerRange q.from_ledger q.to_ledger then
      .badRequest ("invalid ledger range: from_ledger/to_ledger must be non-negative integers, " ++
        "from_ledger <= to_ledger, and the range must not exceed 10000 ledgers")
    else
      match cursorCondition FeedRow.isBefore (eventCursor q.before),
          cursorCondition FeedRow.isAfter (eventCursor q.after) with
      | some before, some after =>
        if q.bindable then
          let rows := (Table.rows db.events).filter fun r => q.selects r && before r && after r
          .ofRows ((q.sorted rows).take limit)
        else .failed
      | _, _ => .failed

/-- The request for the page behind a cursor. -/
def EventsQuery.follow (q : EventsQuery) (nextCursor : String) : EventsQuery :=
  if q.ascending then { q with after := some (.one nextCursor) } else { q with before := some (.one nextCursor) }

/-- What a client reads that follows `nextCursor` until a page has none. -/
inductive Lists (db : Db) : EventsQuery → List FeedRow → Prop
  | last {q : EventsQuery} {events : List FeedRow} : getEvents db q = .page events none → Lists db q events
  | next {q : EventsQuery} {events rest : List FeedRow} {c : String} : getEvents db q = .page events (some c) →
      Lists db (q.follow c) rest → Lists db q (events ++ rest)

/-- A TOID, and the index of an event of that operation. -/
structure PagingId where
  toid : Nat
  index : Nat
  toid_lt : toid < 10 ^ 19

namespace PagingId

/-- The high 32 bits of the TOID. -/
def ledger (p : PagingId) : Nat := p.toid / 2 ^ 32

def text (p : PagingId) : String :=
  String.ofList (List.leftpad 19 '0' (Nat.toDigits 10 p.toid) ++
    '-' :: List.leftpad 10 '0' (Nat.toDigits 10 p.index))

theorem isDigit_leftpad {w n : Nat} {c : Char} (h : c ∈ List.leftpad w '0' (Nat.toDigits 10 n)) : c.isDigit := by
  rw [List.leftpad, List.mem_append] at h
  rcases h with h | h
  · rw [List.eq_of_mem_replicate h]
    decide
  · exact Nat.isDigit_of_mem_toDigits (by decide) (by decide) h

theorem ofDigitChars_leftpad (w n : Nat) : Nat.ofDigitChars 10 (List.leftpad w '0' (Nat.toDigits 10 n)) 0 = n := by
  rw [List.leftpad, Nat.ofDigitChars_append, Nat.ofDigitChars_replicate_zero, Nat.mul_zero,
    Nat.ofDigitChars_ten_toDigits]

theorem leftpad_ne_nil (w n : Nat) : List.leftpad w '0' (Nat.toDigits 10 n) ≠ [] := by
  simp [List.leftpad, Nat.toDigits_ne_nil]

theorem toid_text (p : PagingId) : p.text.toList = List.leftpad 19 '0' (Nat.toDigits 10 p.toid) ++
    '-' :: List.leftpad 10 '0' (Nat.toDigits 10 p.index) := String.toList_ofList

theorem takeWhile_text (p : PagingId) (f : Char → Bool) (hd : ∀ c : Char, c.isDigit → f c) (hdash : f '-' = false) :
    p.text.toList.takeWhile f = List.leftpad 19 '0' (Nat.toDigits 10 p.toid) := by
  rw [toid_text, List.takeWhile_append_of_pos fun c hc => hd c (isDigit_leftpad hc),
    List.takeWhile_cons_of_neg (by simp [hdash]), List.append_nil]

theorem isPagingText_text (p : PagingId) : isPagingText p.text := by
  have hdrop : p.text.toList.dropWhile Char.isDigit = '-' :: List.leftpad 10 '0' (Nat.toDigits 10 p.index) := by
    rw [toid_text, List.dropWhile_append_of_pos fun c hc => isDigit_leftpad hc,
      List.dropWhile_cons_of_neg (by decide)]
  rw [isPagingText, hdrop, takeWhile_text p _ (fun _ h => h) (by decide)]
  have hall : (List.leftpad 10 '0' (Nat.toDigits 10 p.index)).all Char.isDigit :=
    List.all_eq_true.mpr fun c hc => isDigit_leftpad hc
  simp only [List.isEmpty_eq_false_iff.mpr (leftpad_ne_nil _ _), hall]
  rfl

theorem trim_text (p : PagingId) : trim p.text = p.text := by
  have hfront : p.text.toList.dropWhile JsNumber.isSpace = p.text.toList := by
    apply JsNumber.dropSpace
    intro c hc
    rw [toid_text, List.head?_append_of_ne_nil _ (leftpad_ne_nil _ _)] at hc
    exact JsNumber.not_isSpace (isDigit_leftpad (List.mem_of_mem_head? hc))
  have hback : p.text.toList.reverse.dropWhile JsNumber.isSpace = p.text.toList.reverse := by
    apply JsNumber.dropSpace
    intro c hc
    rw [toid_text, List.reverse_append, List.reverse_cons, List.append_assoc,
      List.head?_append_of_ne_nil _ (List.reverse_ne_nil_iff.mpr (leftpad_ne_nil _ _))] at hc
    exact JsNumber.not_isSpace (isDigit_leftpad (List.mem_reverse.mp (List.mem_of_mem_head? hc)))
  rw [trim, hfront, hback, List.reverse_reverse, String.ofList_toList]

theorem eventCursor_text (p : PagingId) :
    eventCursor (some (.one p.text)) = some ⟨JsNumber.ofRat p.toid, some p.text⟩ := by
  have hne : p.text ≠ "" := by
    intro h
    have := congrArg String.toList h
    rw [toid_text] at this
    simp at this
  have hhead : p.text.toList.takeWhile (· ≠ '-') = List.leftpad 19 '0' (Nat.toDigits 10 p.toid) := by
    refine takeWhile_text p _ (fun c hc => ?_) (by decide)
    rw [decide_eq_true_eq]
    rintro rfl
    exact absurd hc (by decide)
  rw [eventCursor]
  · simp only [QueryValue.text, trim_text, if_pos (isPagingText_text p), hhead]
    rw [JsNumber.parse_digits (leftpad_ne_nil _ _) fun c hc => isDigit_leftpad hc, ofDigitChars_leftpad]
  · simpa using hne

end PagingId

theorem bigint_small {n : Nat} (h : n < 2 ^ 53) : bigint (JsNumber.ofRat n) = some n := by
  have hlt : n < 2 ^ 63 := by omega
  rw [JsNumber.ofRat_exact h, bigint, JsNumber.printed_small h, Option.filter_some, if_pos (by simpa using hlt)]

/-- From 2 ^ 53 on the number is rounded, and the last 512 below 2 ^ 63 are rounded out of range. -/
theorem bigint_large {n : Nat} (h : 2 ^ 53 ≤ n) (hn : n < 2 ^ 64) :
    (n + 512 < 2 ^ 63 → ∃ m, bigint (JsNumber.ofRat n) = some m ∧ 2 ^ 53 ≤ m) ∧
      (2 ^ 63 ≤ n + 512 → bigint (JsNumber.ofRat n) = none) := by
  obtain ⟨k, hk, hlow, hhigh, hround⟩ := JsNumber.ofRat_large h hn
  generalize hz : n / 2 ^ k + (if 2 * (n % 2 ^ k) < 2 ^ k then 0 else
    if 2 ^ k < 2 * (n % 2 ^ k) then 1 else n / 2 ^ k % 2) = z
  have hvalue : JsNumber.ofRat n = .finite ((z * 2 ^ k : Nat) : ℚ) := by
    rw [hround, show (n : ℚ) / 2 ^ k = (n : ℚ) / (2 ^ k : Nat) by push_cast; rfl,
      JsNumber.roundEven_natCast_div n (by positivity), hz]
    push_cast
    rfl
  have hfits : z * 2 ^ k < 10 ^ 21 ∧ 2 ^ 53 ≤ z * 2 ^ k ∧ (z * 2 ^ k < 2 ^ 63 ↔ n + 512 < 2 ^ 63) := by
    clear hround hvalue
    interval_cases k <;> norm_num at hlow hhigh hz ⊢ <;> split_ifs at hz <;> omega
  obtain ⟨hprints, hlarge, hrange⟩ := hfits
  have hbigint : bigint (JsNumber.ofRat n) =
      if JsNumber.printedFrom (z * 2 ^ k) 20 < 2 ^ 63 then some (JsNumber.printedFrom (z * 2 ^ k) 20) else none := by
    rw [hvalue, bigint, JsNumber.printed_natCast hprints, Option.filter_some]
    simp only [decide_eq_true_eq]
  rw [hbigint, ← hrange, ← JsNumber.printedFrom_lt]
  refine ⟨fun hlt => ⟨_, if_pos hlt, JsNumber.le_printedFrom hlarge⟩, fun hle => if_neg ?_⟩
  rw [JsNumber.printedFrom_lt, hrange]
  omega

/-- A TOID of ledger 0 is kept as it is, and any other one lies above every ledger. -/
theorem bigint_toid {n : Nat} (hn : n < 10 ^ 19) : n + 512 < 2 ^ 63 →
    ∃ m, bigint (JsNumber.ofRat n) = some m ∧ (n < 2 ^ 32 → m = n) ∧ (2 ^ 32 ≤ n → 2 ^ 32 ≤ m) := by
  intro hfits
  rcases Nat.lt_or_ge n (2 ^ 53) with h | h
  · exact ⟨n, bigint_small h, fun _ => rfl, id⟩
  · obtain ⟨m, hm, hle⟩ := (bigint_large h (by omega)).1 hfits
    exact ⟨m, hm, fun hlt => by omega, fun _ => by omega⟩

theorem bigint_toid_none {n : Nat} (hn : n < 10 ^ 19) (h : 2 ^ 63 ≤ n + 512) : bigint (JsNumber.ofRat n) = none :=
  (bigint_large (by omega) (by omega)).2 h

/-- The number before the dash of a row's id. -/
def FeedRow.toid (r : FeedRow) : Nat := Nat.ofDigitChars 10 (r.1.toList.takeWhile Char.isDigit) 0

/-- Every row has a paging id, and the ledger that the id carries. -/
def PagedLog (events : Table String EventRow) : Prop :=
  ∀ id row, events.lookup id = some row → ∃ p : PagingId, p.text = id ∧ row.ledger = p.ledger

namespace EventsQuery

variable (q : EventsQuery) (db : Db)

/-- The rows that the filters select, in the order asked for. -/
def feed : List FeedRow := q.sorted ((Table.rows db.events).filter q.selects)

def beyond : Nat → Option String → FeedRow → Bool := if q.ascending then FeedRow.isAfter else FeedRow.isBefore

/-- The rows that the request for the page behind row `r` selects, if its parameter is in range. -/
def resume (r : FeedRow) : Option (List FeedRow) :=
  (bigint (JsNumber.ofRat r.toid)).map fun ledger => (q.feed db).filter (q.beyond ledger (some r.1))

/-- `a` is listed before `b`. -/
def Precedes (a b : FeedRow) : Prop := if q.ascending then a.key < b.key else b.key < a.key

/-- A first request that the handler does not refuse. -/
structure Accepted (limit : Nat) : Prop where
  limit : parseLimit q.limit 50 200 = some limit
  before : q.before = none
  after : q.after = none
  range : invalidLedgerRange q.from_ledger q.to_ledger = false

end EventsQuery

theorem PagedLog.row {events : Table String EventRow} (h : PagedLog events) {r : FeedRow}
    (hr : r ∈ Table.rows events) : ∃ p : PagingId, p.text = r.1 ∧ r.2.ledger = p.ledger ∧ r.toid = p.toid := by
  obtain ⟨p, hid, hledger⟩ := h r.1 r.2 (Table.mem_rows.mp hr)
  refine ⟨p, hid, hledger, ?_⟩
  rw [FeedRow.toid, ← hid, p.takeWhile_text _ (fun _ h => h) (by decide), PagingId.ofDigitChars_leftpad]

theorem FeedRow.keys_nodup (events : Table String EventRow) : ((Table.rows events).map FeedRow.key).Nodup := by
  have h := Table.rows_keys_nodup events
  rw [List.Nodup, List.pairwise_map] at h ⊢
  exact h.imp fun hne heq => hne (Prod.mk.inj (toLex.injective heq)).2

theorem FeedRow.dual_keys_nodup (events : Table String EventRow) :
    ((Table.rows events).map fun r : FeedRow => OrderDual.toDual r.key).Nodup := keys_nodup events

namespace EventsQuery

variable {q : EventsQuery} {db : Db} {limit : Nat} {r : FeedRow}

theorem sorted_filter (p : FeedRow → Bool) :
    q.sorted ((Table.rows db.events).filter p) = (q.sorted (Table.rows db.events)).filter p := by
  unfold sorted
  split
  next => exact Keyset.ordered_filter (FeedRow.keys_nodup db.events) p
  next => exact Keyset.ordered_filter (FeedRow.dual_keys_nodup db.events) p

theorem sorted_precedes : (q.sorted (Table.rows db.events)).Pairwise q.Precedes := by
  unfold sorted Precedes
  split
  next => exact Keyset.ordered_lt (FeedRow.keys_nodup db.events)
  next => exact Keyset.ordered_lt (FeedRow.dual_keys_nodup db.events)

theorem feed_eq : q.feed db = (q.sorted (Table.rows db.events)).filter q.selects := sorted_filter _

theorem feed_filter (p : FeedRow → Bool) :
    (q.feed db).filter p = q.sorted ((Table.rows db.events).filter fun r => q.selects r && p r) := by
  rw [feed_eq, List.filter_filter, ← sorted_filter]
  simp only [Bool.and_comm]

theorem feed_precedes : (q.feed db).Pairwise q.Precedes := by
  rw [feed_eq]
  exact sorted_precedes.sublist List.filter_sublist

theorem mem_feed : r ∈ q.feed db ↔ r ∈ Table.rows db.events ∧ q.selects r := by
  rw [feed_eq, List.mem_filter]
  unfold sorted
  split <;> rw [Keyset.mem_ordered]

@[simp] theorem follow_follow (c c' : String) : (q.follow c).follow c' = q.follow c' := by
  unfold follow ascending
  split <;> simp_all

/-- The first page. -/
theorem getEvents_first (h : q.Accepted limit) :
    getEvents db q = if q.bindable then .ofRows ((q.feed db).take limit) else .failed := by
  have hselect : (Table.rows db.events).filter (fun r => q.selects r && true && true) =
      (Table.rows db.events).filter q.selects := by simp
  unfold getEvents
  simp only [h.limit, h.before, h.after, h.range, invalidEventCursor, eventCursor, cursorCondition, hselect]
  rfl

/-- A later page. -/
theorem getEvents_follow (h : q.Accepted limit) (hids : PagedLog db.events) (hr : r ∈ q.feed db) :
    getEvents db (q.follow r.1) =
      match q.resume db r with
      | some rows => if q.bindable then .ofRows (rows.take limit) else .failed
      | none => .failed := by
  have hcursor : eventCursor (some (.one r.1)) = some ⟨JsNumber.ofRat r.toid, some r.1⟩ := by
    obtain ⟨p, htext, -, htoid⟩ := hids.row (mem_feed.mp hr).1
    rw [← htext, htoid]
    exact p.eventCursor_text
  have hvalid : invalidEventCursor (some (.one r.1)) = false := by rw [invalidEventCursor, hcursor]; rfl
  have hnone : invalidEventCursor none = false := rfl
  unfold resume follow beyond
  cases hasc : q.ascending with
  | true =>
    simp only [if_true, getEvents, h.limit, h.before, h.range, hnone, hvalid, eventCursor_none, hcursor,
      cursorCondition, Option.isSome_none, Bool.false_and, Bool.false_eq_true, if_false]
    cases bigint (JsNumber.ofRat r.toid) with
    | none => rfl
    | some ledger =>
      simp only [Option.map_some, feed_filter, Bool.and_true]
      rfl
  | false =>
    simp only [Bool.false_eq_true, if_false, getEvents, h.limit, h.after, h.range, hnone, hvalid, eventCursor_none,
      hcursor, cursorCondition, Option.isSome_none, Bool.and_false]
    cases bigint (JsNumber.ofRat r.toid) with
    | none => rfl
    | some ledger =>
      simp only [Option.map_some, feed_filter, Bool.and_true]
      rfl

theorem resume_subset {more : List FeedRow} (h : q.resume db r = some more) : more ⊆ q.feed db := by
  obtain ⟨ledger, -, rfl⟩ := Option.map_eq_some_iff.mp h
  exact List.filter_subset_self _

end EventsQuery

theorem parseLimit_pos {v : Option QueryValue} {default max limit : Nat} (hd : 1 ≤ default)
    (h : parseLimit v default max = some limit) : 1 ≤ limit := by
  unfold parseLimit at h
  split at h
  next => exact Option.some.inj h ▸ hd
  next => exact Option.some.inj h ▸ hd
  next => exact (of_decide_eq_true (Option.filter_eq_some_iff.mp h).2).1

section

variable {q q' : EventsQuery} {db : Db} {limit : Nat} {rows out : List FeedRow}

theorem Lists.not_failed (h : Lists db q out) : getEvents db q ≠ .failed := by
  cases h with
  | last h => simp [h]
  | next h => simp [h]

/-- Following the cursors of a request that pages through `rows`. -/
theorem Lists.traversal (h : q.Accepted limit) (hids : PagedLog db.events) (hl : Lists db q' out)
    (hpage : getEvents db q' = .ofRows (rows.take limit)) (hfollow : ∀ c, q'.follow c = q.follow c)
    (hrows : rows ⊆ q.feed db) : Keyset.Traversal (q.resume db) limit rows out := by
  have hpos := parseLimit_pos (by decide) h.limit
  induction hl generalizing rows with
  | last hlast =>
    rw [hpage, EventsReply.ofRows, EventsReply.page.injEq, Option.map_eq_none_iff, List.getLast?_eq_none_iff] at hlast
    obtain ⟨rfl, hnil⟩ := hlast
    have hempty : rows = [] := (List.take_eq_nil_iff.mp hnil).resolve_left (by omega)
    rw [hnil, hempty]
    exact .done
  | @next p events rest c hnext hrest ih =>
    rw [hpage, EventsReply.ofRows, EventsReply.page.injEq] at hnext
    obtain ⟨rfl, hc⟩ := hnext
    obtain ⟨r, hlast, rfl⟩ := Option.map_eq_some_iff.mp hc
    have hmem : r ∈ rows := List.mem_of_mem_take (List.mem_of_getLast? hlast)
    have hreply := EventsQuery.getEvents_follow h hids (hrows hmem)
    rw [← hfollow] at hreply
    cases hresume : q.resume db r with
    | none =>
      rw [hresume] at hreply
      exact absurd hreply hrest.not_failed
    | some more =>
      rw [hresume] at hreply
      by_cases hbind : q.bindable
      · refine .next hlast hresume (ih ((hreply.trans (if_pos hbind))) (fun c => ?_)
          (EventsQuery.resume_subset hresume))
        rw [EventsQuery.follow_follow, hfollow]
      · exact absurd (hreply.trans (if_neg hbind)) hrest.not_failed

theorem lists_of_traversal (h : q.Accepted limit) (hids : PagedLog db.events) (hbind : q.bindable)
    (ht : Keyset.Traversal (q.resume db) limit rows out)
    (hpage : getEvents db q' = .ofRows (rows.take limit)) (hfollow : ∀ c, q'.follow c = q.follow c)
    (hrows : rows ⊆ q.feed db) : Lists db q' out := by
  induction ht generalizing q' with
  | done => exact .last (by simpa [EventsReply.ofRows] using hpage)
  | @next rows more rest r hlast hresume ht ih =>
    have hmem : r ∈ rows := List.mem_of_mem_take (List.mem_of_getLast? hlast)
    have hreply := EventsQuery.getEvents_follow h hids (hrows hmem)
    rw [hresume, ← hfollow] at hreply
    have hnext : getEvents db q' = .page (rows.take limit) (some r.1) := by
      rw [hpage, EventsReply.ofRows, hlast]
      rfl
    refine .next hnext (ih (hreply.trans (if_pos hbind)) (fun c => ?_) (EventsQuery.resume_subset hresume))
    rw [EventsQuery.follow_follow, hfollow]

end

namespace EventsQuery

/-- Following the cursors ends, and lists every row that the filters select once, in the order
asked for. -/
def Enumerates (q : EventsQuery) (db : Db) : Prop :=
  ∃ rows, Lists db q rows ∧ rows.Nodup ∧ (∀ r, r ∈ rows ↔ r ∈ Table.rows db.events ∧ q.selects r) ∧
    rows.Pairwise q.Precedes

/-- The request behind row `r` selects exactly the rows that follow it: oldest first, they lie above
the row's TOID taken for a ledger; newest first, the TOID is 0. -/
def CursorExact (q : EventsQuery) (r : FeedRow) (rest : List FeedRow) : Prop :=
  if q.ascending then r.toid + 512 < 2 ^ 63 ∧ ∀ b ∈ rest, toLex (r.toid, r.1) < b.key else r.toid = 0

variable {q : EventsQuery} {db : Db} {limit : Nat} {r : FeedRow}

theorem Precedes.asymm {a b : FeedRow} (h : q.Precedes a b) : ¬ q.Precedes b a := by
  unfold Precedes at h ⊢
  split at h <;> simp_all [not_lt_of_gt]

theorem feed_nodup : (q.feed db).Nodup := by
  refine feed_precedes.imp fun {a b} h heq => ?_
  subst heq
  exact h.asymm h

theorem enumerates_iff_lists : q.Enumerates db ↔ Lists db q (q.feed db) := by
  constructor
  · rintro ⟨rows, hlists, hnodup, hmem, hsorted⟩
    have hperm : rows.Perm (q.feed db) :=
      (List.perm_ext_iff_of_nodup hnodup feed_nodup).mpr fun r => (hmem r).trans mem_feed.symm
    have heq : rows = q.feed db :=
      hperm.eq_of_pairwise (fun a b _ _ hab hba => absurd hba hab.asymm) hsorted feed_precedes
    exact heq ▸ hlists
  · exact fun h => ⟨_, h, feed_nodup, fun _ => mem_feed, feed_precedes⟩

theorem lists_feed_iff (h : q.Accepted limit) (hids : PagedLog db.events) :
    Lists db q (q.feed db) ↔ q.bindable ∧ Keyset.Traversal (q.resume db) limit (q.feed db) (q.feed db) := by
  have hfirst : getEvents db q = if q.bindable then .ofRows ((q.feed db).take limit) else .failed :=
    getEvents_first h
  by_cases hbind : q.bindable
  · rw [if_pos hbind] at hfirst
    constructor
    · exact fun hl => ⟨hbind, hl.traversal h hids hfirst (fun _ => rfl) (List.Subset.refl _)⟩
    · exact fun ht => lists_of_traversal h hids hbind ht.2 hfirst (fun _ => rfl) (List.Subset.refl _)
  · rw [if_neg hbind] at hfirst
    exact ⟨fun hl => absurd hfirst hl.not_failed, fun ht => absurd ht.1 hbind⟩

theorem beyond_mono (ledger : Nat) (id : String) :
    (q.feed db).Pairwise fun a b => q.beyond ledger (some id) a → q.beyond ledger (some id) b := by
  refine feed_precedes.imp fun {a b} hab ha => ?_
  unfold Precedes at hab
  unfold beyond at ha ⊢
  split at hab
  next hasc =>
    rw [if_pos hasc] at ha ⊢
    exact decide_eq_true ((of_decide_eq_true ha).trans hab)
  next hasc =>
    rw [if_neg hasc] at ha ⊢
    exact decide_eq_true (hab.trans (of_decide_eq_true ha))

theorem resume_suffix {more : List FeedRow} (h : q.resume db r = some more) : more <:+ q.feed db := by
  obtain ⟨ledger, -, rfl⟩ := Option.map_eq_some_iff.mp h
  exact Keyset.filter_suffix (beyond_mono ledger r.1)

/-- The page end `r` resumes at the row after it exactly where its cursor is exact. -/
theorem resume_iff (hids : PagedLog db.events) {i : Nat} (hr : (q.feed db)[i]? = some r) :
    q.resume db r = some ((q.feed db).drop (i + 1)) ↔ q.CursorExact r ((q.feed db).drop (i + 1)) := by
  obtain ⟨p, -, hledger, htoid⟩ := hids.row (mem_feed.mp (List.mem_of_getElem? hr)).1
  have hlt : r.toid < 10 ^ 19 := htoid ▸ p.toid_lt
  have hledger : r.2.ledger = r.toid / 2 ^ 32 := by rw [hledger, htoid, PagingId.ledger]
  have hrest : ∀ b ∈ (q.feed db).drop (i + 1), b.2.ledger < 2 ^ 32 := by
    intro b hb
    obtain ⟨p, -, hledger, -⟩ := hids.row (mem_feed.mp (List.mem_of_mem_drop hb)).1
    have := p.toid_lt
    rw [hledger, PagingId.ledger]
    omega
  unfold resume CursorExact
  rcases Nat.lt_or_ge (r.toid + 512) (2 ^ 63) with hfits | hfits
  · obtain ⟨ledger, hbigint, hsmall, hlarge⟩ := bigint_toid hlt hfits
    rw [hbigint, Option.map_some, Option.some.injEq, Keyset.filter_eq_drop_iff hr (beyond_mono ledger r.1)]
    unfold beyond
    split
    next =>
      have hself : ¬ r.isAfter ledger (some r.1) := by
        rw [FeedRow.isAfter, decide_eq_true_eq, FeedRow.key, Prod.Lex.toLex_lt_toLex]
        rintro (h | ⟨-, h⟩)
        · omega
        · exact lt_irrefl _ h
      have hafter : ∀ b ∈ (q.feed db).drop (i + 1),
          b.isAfter ledger (some r.1) ↔ toLex (r.toid, r.1) < b.key := by
        intro b hb
        have hb := hrest b hb
        rw [FeedRow.isAfter, decide_eq_true_eq, FeedRow.key, Prod.Lex.toLex_lt_toLex, Prod.Lex.toLex_lt_toLex]
        rcases Nat.lt_or_ge r.toid (2 ^ 32) with h | h
        · rw [hsmall h]
        · have := hlarge h
          constructor <;> rintro (h | ⟨h, -⟩) <;> omega
      exact ⟨fun h => ⟨hfits, fun b hb => (hafter b hb).mp (h.2 b hb)⟩,
        fun h => ⟨hself, fun b hb => (hafter b hb).mpr (h.2 b hb)⟩⟩
    next hasc =>
      constructor
      · rintro ⟨hself, -⟩
        rw [FeedRow.isBefore, decide_eq_true_eq, FeedRow.key, Prod.Lex.toLex_lt_toLex, not_or] at hself
        rcases Nat.lt_or_ge r.toid (2 ^ 32) with h | h
        · have := hsmall h
          omega
        · have := hlarge h
          omega
      · intro hzero
        have hkey : toLex (ledger, r.1) = r.key := by
          rw [FeedRow.key, hledger, hsmall (by omega), hzero, Nat.zero_div]
        refine ⟨by simp [FeedRow.isBefore, hkey], fun b hb => ?_⟩
        have hprecedes := Keyset.rel_drop hr feed_precedes b hb
        rw [Precedes, if_neg hasc] at hprecedes
        simpa [FeedRow.isBefore, hkey] using hprecedes
  · rw [bigint_toid_none hlt hfits]
    split
    next => simp; omega
    next => simp; omega

theorem enumerates_iff_resumes (h : q.Accepted limit) (hids : PagedLog db.events) :
    q.Enumerates db ↔ q.bindable ∧ Keyset.Resumes (q.resume db) limit (q.feed db) := by
  rw [enumerates_iff_lists, lists_feed_iff h hids, Keyset.traversal_iff feed_nodup
    (parseLimit_pos (by decide) h.limit) (fun _ _ => resume_suffix) (List.suffix_refl _)]

theorem resumes_iff (hids : PagedLog db.events) : Keyset.Resumes (q.resume db) limit (q.feed db) ↔
    ∀ i r, (q.feed db)[i]? = some r → (i + 1) % limit = 0 ∨ i + 1 = (q.feed db).length →
      q.CursorExact r ((q.feed db).drop (i + 1)) :=
  forall₃_congr fun i r hr => by rw [resume_iff hids hr]

end EventsQuery

/-- Where no event lies in ledger 0, the feed is listed oldest first if it fits on one page whose
last cursor is in range, and newest first if it is empty. -/
theorem enumerates_iff_one_page {db : Db} {q : EventsQuery} {limit : Nat} (hids : PagedLog db.events)
    (h : q.Accepted limit) (hledger : ∀ r ∈ Table.rows db.events, 0 < r.2.ledger) :
    q.Enumerates db ↔ q.bindable ∧
      if q.ascending then (q.feed db).length ≤ limit ∧ ∀ r ∈ (q.feed db).getLast?, r.toid + 512 < 2 ^ 63
      else q.feed db = [] := by
  have htoid : ∀ r ∈ q.feed db, 2 ^ 32 ≤ r.toid ∧ r.2.ledger < 2 ^ 32 := by
    intro r hr
    obtain ⟨p, -, hp, ht⟩ := hids.row (EventsQuery.mem_feed.mp hr).1
    have hpos := hledger r (EventsQuery.mem_feed.mp hr).1
    have hlt := p.toid_lt
    rw [hp, PagingId.ledger] at hpos ⊢
    omega
  have hlimit := parseLimit_pos (by decide) h.limit
  rw [EventsQuery.enumerates_iff_resumes h hids, EventsQuery.resumes_iff hids]
  refine and_congr_right fun _ => ?_
  unfold EventsQuery.CursorExact
  split
  next =>
    constructor
    · intro hend
      constructor
      · by_contra hlong
        have hr := List.getElem?_eq_getElem (show limit - 1 < (q.feed db).length by omega)
        have hb := List.getElem_mem (show 0 < ((q.feed db).drop (limit - 1 + 1)).length by
          rw [List.length_drop]; omega)
        have habove := (hend _ _ hr (.inl (by rw [Nat.sub_add_cancel hlimit, Nat.mod_self]))).2 _ hb
        rw [FeedRow.key, Prod.Lex.toLex_lt_toLex] at habove
        have hlow := (htoid _ (List.mem_of_getElem? hr)).1
        have hhigh := (htoid _ (List.mem_of_mem_drop hb)).2
        rcases habove with h | ⟨h, -⟩ <;> omega
      · intro r hr
        rw [List.getLast?_eq_getElem?] at hr
        have hi := (List.getElem?_eq_some_iff.mp hr).1
        exact (hend _ r hr (.inr (by omega))).1
    · rintro ⟨hle, hlast⟩ i r hr hend
      have hi := (List.getElem?_eq_some_iff.mp hr).1
      have hlength : i + 1 = (q.feed db).length := by
        rcases hend with hend | hend
        · have := Nat.le_of_dvd (by omega) (Nat.dvd_of_mod_eq_zero hend)
          omega
        · exact hend
      rw [hlength, List.drop_length]
      refine ⟨hlast r ?_, fun _ hb => by cases hb⟩
      rw [List.getLast?_eq_getElem?, ← hlength]
      exact hr
  next =>
    constructor
    · intro hend
      by_contra hne
      have hlen : 0 < (q.feed db).length := List.length_pos_of_ne_nil hne
      have hr := List.getElem?_eq_getElem (show (q.feed db).length - 1 < (q.feed db).length by omega)
      have hzero := hend _ _ hr (.inr (by omega))
      have := (htoid _ (List.mem_of_getElem? hr)).1
      omega
    · intro hnil
      simp [hnil]

/-- **The feed by its cursors.** Following them lists the feed exactly if Postgres takes the filters
and the cursor of the last row of every page is exact. -/
theorem feed_enumerated_iff (db : Db) (q : EventsQuery) (limit : Nat) (hids : PagedLog db.events)
    (h : q.Accepted limit) :
    q.Enumerates db ↔ q.bindable ∧ ∀ i r, (q.feed db)[i]? = some r →
      (i + 1) % limit = 0 ∨ i + 1 = (q.feed db).length → q.CursorExact r ((q.feed db).drop (i + 1)) := by
  rw [EventsQuery.enumerates_iff_resumes h hids, EventsQuery.resumes_iff hids]

/-- The first event of ledger 1. -/
def firstEvent : PagingId := ⟨2 ^ 32, 1, by decide⟩

def firstRow : EventRow where
  ledger := 1
  closed_at := 0
  contract_id := "C1"
  symbol := "staked"
  topics := .arr []
  data := .arr []
  tx_hash := none
  decode_error := none

def firstLog : Db := { events := (∅ : Table String EventRow).insert firstEvent.text firstRow }

theorem firstLog_paged : PagedLog firstLog.events := by
  intro id row h
  rw [firstLog, Table.lookup_insert] at h
  split at h
  next hid => exact ⟨firstEvent, hid.symm, by rw [← Option.some.inj h]; decide⟩
  next => cases h

def oldestFirst : EventsQuery := { order := some (.one "asc") }

/-- Oldest first, a log of one page is listed. -/
theorem firstLog_enumerated_oldest_first : oldestFirst.Enumerates firstLog := by
  have hlength : (oldestFirst.feed firstLog).length = 1 := by decide +kernel
  refine (feed_enumerated_iff firstLog oldestFirst 50 firstLog_paged
    ⟨rfl, rfl, rfl, rfl⟩).mpr ⟨rfl, fun i r hr hend => ?_⟩
  have hfits : ∀ r ∈ oldestFirst.feed firstLog, r.toid + 512 < 2 ^ 63 := by
    decide +kernel
  have hi : i = 0 := by
    have := (List.getElem?_eq_some_iff.mp hr).1
    omega
  rw [EventsQuery.CursorExact, if_pos (show oldestFirst.ascending = true from rfl), hi,
    List.drop_eq_nil_of_le (by omega)]
  exact ⟨hfits r (List.mem_of_getElem? hr), fun _ h => by cases h⟩

/-- Newest first, the cursor behind the only row selects that row again. -/
theorem firstLog_not_enumerated :
    PagedLog firstLog.events ∧ EventsQuery.Accepted {} 50 ∧ ¬ EventsQuery.Enumerates {} firstLog := by
  have haccepted : EventsQuery.Accepted {} 50 := ⟨rfl, rfl, rfl, rfl⟩
  refine ⟨firstLog_paged, haccepted, fun h => ?_⟩
  have hlength : (EventsQuery.feed {} firstLog).length = 1 := by decide +kernel
  have hagain : ∀ r ∈ EventsQuery.feed {} firstLog,
      ((EventsQuery.resume {} firstLog r).map List.length) = some 1 := by decide +kernel
  have hresumes := ((EventsQuery.enumerates_iff_resumes haccepted firstLog_paged).mp h).2
  have hr := List.getElem?_eq_getElem (show 0 < (EventsQuery.feed {} firstLog).length by omega)
  have hsome := hagain _ (List.mem_of_getElem? hr)
  rw [hresumes 0 _ hr (.inr (by omega)), List.drop_eq_nil_of_le (by omega)] at hsome
  simp at hsome

end OurDao
