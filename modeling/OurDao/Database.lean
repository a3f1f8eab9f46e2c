import OurDao.Handlers
import OurDao.Reorder

/-!
# The database

The raw event log, the derived tables and the bookkeeping of the indexer, with the
statements that work on them. `applied` records which events the derived tables are
the fold of; no statement reads it, and it is what the statements about
exactly-once folding speak of.
-/

namespace OurDao

/-- A row of `events` under its id; `folded` is whether `folded_at` is set. -/
structure EventRow where
  ledger : Nat
  closed_at : Int
  contract_id : String
  symbol : String
  topics : Json
  data : Json
  tx_hash : Option String
  decode_error : Option String
  folded : Bool := false

inductive Resolution where
  | resolved | ignored
  deriving DecidableEq, Repr

/-- A row of `failed_events` under its event id; `resolved` is whether `resolved_at` is set. -/
structure FailedEventRow where
  symbol : String
  ledger : Nat
  error : String
  resolved : Bool := false
  resolution : Option Resolution := none
  deriving DecidableEq, Repr

structure CursorRow where
  paging_token : Option String
  last_ledger : Option Nat
  last_ledger_hash : Option String
  observed_tip_ledger : Option Nat
  deriving DecidableEq, Repr

/-- A row of `quarantine_state` under its contract id; `escalated` is whether `escalated_at`
is set. -/
structure QuarantineStateRow where
  page_key : Option String
  error_message : Option String
  failures : Nat
  escalated : Bool
  deriving DecidableEq, Repr

structure ReorgHalt where
  id : Nat
  contract_id : String
  last_ledger : Option Nat
  last_ledger_hash : Option String
  detail : String
  /-- milliseconds since the epoch -/
  detected_at : Int
  cleared_by : Option String := none
  deriving DecidableEq, Repr

structure Db where
  tables : Tables := Tables.empty
  /-- the events whose effects the derived tables hold, in order of application -/
  applied : List DecodedEvent := []
  events : Table String EventRow := ∅
  failed_events : Table String FailedEventRow := ∅
  indexer_cursor : Table String CursorRow := ∅
  quarantine_state : Table String QuarantineStateRow := ∅
  reorg_halts : List ReorgHalt := []

def Db.empty : Db := {}

/-- `TRUNCATE … RESTART IDENTITY` of the derived tables, and `resetDaoTotals`. -/
def Db.truncate (db : Db) : Db := { db with tables := Tables.empty, applied := [] }

/-- A transaction: all of its statements, or none. -/
abbrev Tx : Type → Type := StateT Db (Except Failure)

def textFault (s : JsStr) : Option String :=
  if s.storable then none else some "invalid byte sequence for encoding \"UTF8\""

/-- `events_symbol_idx` and `events_entity_id_idx` refuse an entry that is too large. -/
def indexFault (indexable : Bool) : Option String :=
  if indexable then none else some "index row size exceeds btree version 4 maximum 2704"

/-- Why Postgres refuses an event's raw row, if it does. -/
def rawFault (ev : DecodedEvent) : Option String :=
  textFault ev.symbol <|> Json.fault (.arr ev.topics) <|> Json.fault (.arr ev.data) <|>
    ev.decodeError.bind textFault <|> indexFault ev.indexable

def rawRow (ev : DecodedEvent) : EventRow where
  ledger := ev.ledger
  closed_at := ev.closedAt
  contract_id := ev.contractId
  symbol := ev.symbol.text
  topics := Json.normalize (.arr ev.topics)
  data := Json.normalize (.arr ev.data)
  tx_hash := ev.txHash
  decode_error := ev.decodeError.map (·.text)

/-- Insert one event's raw log row, idempotent on its id, and report whether the row that
now exists still needs folding. -/
def insertRawEvent (ev : DecodedEvent) : Tx Bool := fun db =>
  match rawFault ev with
  | some m => .error (.error m)
  | none =>
    match db.events.lookup ev.id with
    | some row => .ok (!row.folded, db)
    | none => .ok (true, { db with events := db.events.insert ev.id (rawRow ev) })

/-- `UPDATE events SET folded_at = now() WHERE id = …`. -/
def setFolded (id : String) (events : Table String EventRow) : Table String EventRow :=
  match events.lookup id with
  | some row => events.insert id { row with folded := true }
  | none => events

/-- Mark an event's row as folded. -/
def markFolded (id : String) : Tx Unit := modify fun db =>
  { db with events := setFolded id db.events }

/-- Apply one event's side effects to the derived tables. -/
def foldEvent (ev : DecodedEvent) : Tx (List StreamChannel) := fun db =>
  match applyEvent ev db.tables with
  | .ok (channels, tables) => .ok (channels, { db with tables, applied := db.applied ++ [ev] })
  | .error e => .error e

/-- An event as the stored row gives it back: JSONB values, and milliseconds. -/
def toDecodedEvent (id : String) (row : EventRow) : Except String DecodedEvent := do
  let data := match row.data with
    | .arr vs => vs
    | v => [v]
  let topics := match row.topics with
    | .arr vs => vs
    | _ => []
  let symbol := JsStr.ofString row.symbol
  return {
    id, ledger := row.ledger, closedAt := row.closed_at / 1000 * 1000, contractId := row.contract_id,
    txHash := row.tx_hash, symbol, topics, data, fields := ← namedFields symbol data
    decodeError := none }

namespace Tx

variable {α : Type}

/-- A check that reads no table. -/
def lift (x : Except String α) : Tx α := fun db =>
  match x with
  | .ok a => .ok (a, db)
  | .error m => .error (.error m)

@[simp] theorem pure_run (a : α) (db : Db) : (pure a : Tx α) db = .ok (a, db) := rfl

@[simp] theorem lift_ok (a : α) (db : Db) : lift (.ok a) db = .ok (a, db) := rfl

@[simp] theorem lift_error (m : String) (db : Db) :
    (lift (.error m) : Tx α) db = .error (.error m) := rfl

theorem lift_eq_ok {x : Except String α} {db db' : Db} {a : α} :
    lift x db = .ok (a, db') ↔ x = .ok a ∧ db' = db := by
  cases x <;> simp [eq_comm]

end Tx

/-- The derived tables after a list of events, one after the other. -/
def foldTables (evs : List DecodedEvent) (t : Tables) : Except Failure Tables :=
  evs.foldlM (Reorder.step applyEvent) t

@[simp] theorem foldTables_nil (t : Tables) : foldTables [] t = .ok t := rfl

theorem foldTables_cons_ok {ev : DecodedEvent} {evs : List DecodedEvent} {t t' : Tables} :
    foldTables (ev :: evs) t = .ok t' ↔
      ∃ channels t₁, applyEvent ev t = .ok (channels, t₁) ∧ foldTables evs t₁ = .ok t' := by
  simp only [foldTables, Reorder.foldlM_cons_ok, Reorder.step_eq_ok]
  constructor
  · rintro ⟨t₁, ⟨channels, h₁⟩, h₂⟩
    exact ⟨channels, t₁, h₁, h₂⟩
  · rintro ⟨channels, t₁, h₁, h₂⟩
    exact ⟨t₁, ⟨channels, h₁⟩, h₂⟩

theorem foldTables_append_ok {evs evs' : List DecodedEvent} {t t' : Tables} :
    foldTables (evs ++ evs') t = .ok t' ↔
      ∃ t₁, foldTables evs t = .ok t₁ ∧ foldTables evs' t₁ = .ok t' := Reorder.foldlM_append_ok

/-- One more event on top of a fold. -/
theorem foldTables_concat {evs : List DecodedEvent} {ev : DecodedEvent} {t t₁ t₂ : Tables}
    {channels : List StreamChannel} (h₁ : foldTables evs t = .ok t₁)
    (h₂ : applyEvent ev t₁ = .ok (channels, t₂)) : foldTables (evs ++ [ev]) t = .ok t₂ :=
  foldTables_append_ok.mpr ⟨t₁, h₁, foldTables_cons_ok.mpr ⟨channels, t₂, h₂, rfl⟩⟩

theorem insertRawEvent_eq_ok {ev : DecodedEvent} {db db' : Db} {needsFold : Bool} :
    insertRawEvent ev db = .ok (needsFold, db') ↔ rawFault ev = none ∧
      ((∃ row, db.events.lookup ev.id = some row ∧ needsFold = !row.folded ∧ db' = db) ∨
        (db.events.lookup ev.id = none ∧ needsFold = true ∧
          db' = { db with events := db.events.insert ev.id (rawRow ev) })) := by
  rcases hf : rawFault ev with _ | m
  · rcases hrow : db.events.lookup ev.id with _ | row <;> simp [insertRawEvent, hf, hrow, eq_comm]
  · simp [insertRawEvent, hf]

theorem foldEvent_eq_ok {ev : DecodedEvent} {db db' : Db} {channels : List StreamChannel} :
    foldEvent ev db = .ok (channels, db') ↔ ∃ tables, applyEvent ev db.tables = .ok (channels, tables) ∧
      db' = { db with tables, applied := db.applied ++ [ev] } := by
  rcases h : applyEvent ev db.tables with _ | ⟨_, _⟩ <;> simp [foldEvent, h, eq_comm]

@[simp] theorem markFolded_run (id : String) (db : Db) :
    markFolded id db = .ok ((), { db with events := setFolded id db.events }) := rfl

theorem lookup_setFolded (id j : String) (events : Table String EventRow) :
    (setFolded id events).lookup j =
      (events.lookup j).map fun row => if j = id then { row with folded := true } else row := by
  rw [setFolded]
  rcases hid : events.lookup id with _ | row <;> rcases eq_or_ne j id with rfl | hj
  · simp [hid]
  · simp [hj]
  · simp [hid]
  · simp [hj, AList.lookup_insert_ne hj]

end OurDao
