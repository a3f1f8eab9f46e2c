import OurDao.Runtime

/-!
# Ingesting a page

A page of events is folded in one transaction. When the same page has failed with the
same error often enough, it is folded again one event per transaction, and an event
that still fails is recorded in `failed_events` instead of being folded.
-/

namespace OurDao

open Faults Op

/-- The event a fetched page must not contain: one from below the last folded ledger. -/
def rewound (ledger lastLedger : Nat) : Bool := lastLedger > 0 && ledger < lastLedger

def rewoundError (ev : DecodedEvent) (lastLedger : Nat) : Failure :=
  .reorgDetected
    s!"event {ev.id} is from ledger {ev.ledger}, below the last folded ledger {lastLedger}"

/-- Apply an event whose raw row is there, and mark the row. -/
def foldLogged (ev : DecodedEvent) : Tx (List StreamChannel) := do
  let channels ← foldEvent ev
  markFolded ev.id
  return channels

/-- The body of the loop over a page's events: what it wants announced. -/
def ingestEvent (lastLedger : Nat) (raw : EventResponse) : Tx (List (StreamChannel × String)) := do
  let ev ← Tx.lift (decodeEvent raw)
  if rewound ev.ledger lastLedger then throw (rewoundError ev lastLedger)
  let needsFold ← insertRawEvent ev
  if needsFold then
    let channels ← foldLogged ev
    return channels.map (·, ev.symbol.text)
  else return []

def ingestEvents (lastLedger : Nat) : List EventResponse → Tx (List (StreamChannel × String))
  | [] => return []
  | raw :: events => do
    let pending ← ingestEvent lastLedger raw
    return pending ++ (← ingestEvents lastLedger events)

theorem foldLogged_eq_ok {ev : DecodedEvent} {db db' : Db} {channels : List StreamChannel} :
    foldLogged ev db = .ok (channels, db') ↔ ∃ tables, applyEvent ev db.tables = .ok (channels, tables) ∧
      db' = { db with tables, applied := db.applied ++ [ev], events := setFolded ev.id db.events } := by
  simp only [foldLogged, bind_eq_ok, foldEvent_eq_ok, markFolded_run, Tx.pure_run]
  constructor
  · rintro ⟨c, _, ⟨tables, h, rfl⟩, _, _, hm, he⟩
    cases hm
    cases he
    exact ⟨tables, h, rfl⟩
  · rintro ⟨tables, h, rfl⟩
    exact ⟨channels, _, ⟨tables, h, rfl⟩, _, _, rfl, rfl⟩

/-- An event of a page is folded, or found folded already. -/
theorem ingestEvent_eq_ok {lastLedger : Nat} {raw : EventResponse} {db db' : Db}
    {pending : List (StreamChannel × String)} :
    ingestEvent lastLedger raw db = .ok (pending, db') ↔
      ∃ ev, decodeEvent raw = .ok ev ∧ rewound ev.ledger lastLedger = false ∧
        ((∃ db₁ channels, insertRawEvent ev db = .ok (true, db₁) ∧
            foldLogged ev db₁ = .ok (channels, db') ∧ pending = channels.map (·, ev.symbol.text)) ∨
          (insertRawEvent ev db = .ok (false, db') ∧ pending = [])) := by
  rw [ingestEvent, bind_eq_ok]
  constructor
  · rintro ⟨ev, db₀, hlift, h⟩
    obtain ⟨hd, rfl⟩ := Tx.lift_eq_ok.mp hlift
    rcases hr : rewound ev.ledger lastLedger with _ | _
    · refine ⟨ev, hd, hr, ?_⟩
      simp only [hr, Bool.false_eq_true, if_false] at h
      obtain ⟨needsFold, db₁, hi, h⟩ := bind_eq_ok.mp h
      cases needsFold with
      | false => cases h; exact .inr ⟨hi, rfl⟩
      | true =>
        obtain ⟨channels, db₂, hf, h⟩ := bind_eq_ok.mp h
        cases h
        exact .inl ⟨db₁, channels, hi, hf, rfl⟩
    · simp [hr] at h
  · rintro ⟨ev, hd, hr, h⟩
    refine ⟨ev, db, Tx.lift_eq_ok.mpr ⟨hd, rfl⟩, ?_⟩
    simp only [hr, Bool.false_eq_true, if_false]
    rcases h with ⟨db₁, channels, hi, hf, rfl⟩ | ⟨hi, rfl⟩
    · exact bind_eq_ok.mpr ⟨true, db₁, hi, bind_eq_ok.mpr ⟨channels, db', hf, rfl⟩⟩
    · exact bind_eq_ok.mpr ⟨false, db', hi, rfl⟩

theorem ingestEvents_cons_ok {lastLedger : Nat} {raw : EventResponse} {events : List EventResponse}
    {db db' : Db} {pending : List (StreamChannel × String)} :
    ingestEvents lastLedger (raw :: events) db = .ok (pending, db') ↔
      ∃ p db₁ ps, ingestEvent lastLedger raw db = .ok (p, db₁) ∧
        ingestEvents lastLedger events db₁ = .ok (ps, db') ∧ pending = p ++ ps := by
  simp only [ingestEvents, bind_eq_ok]
  constructor
  · rintro ⟨p, db₁, hp, ps, db₂, hps, h⟩
    cases h
    exact ⟨p, db₁, ps, hp, hps, rfl⟩
  · rintro ⟨p, db₁, ps, hp, hps, rfl⟩
    exact ⟨p, db₁, hp, ps, db', hps, rfl⟩

/-- What every event of a page keeps, the page keeps. -/
theorem ingestEvents_keeps {I : Db → Prop} {lastLedger : Nat} {events : List EventResponse}
    (h : ∀ raw ∈ events, ∀ db p db', I db → ingestEvent lastLedger raw db = .ok (p, db') → I db')
    {db db' : Db} {pending : List (StreamChannel × String)} (hI : I db)
    (hp : ingestEvents lastLedger events db = .ok (pending, db')) : I db' := by
  induction events generalizing db pending with
  | nil => cases hp; exact hI
  | cons raw events ih =>
    obtain ⟨p, db₁, ps, h₁, h₂, -⟩ := ingestEvents_cons_ok.mp hp
    exact ih (fun r hr => h r (by simp [hr])) (h raw (by simp) db p db₁ hI h₁) h₂

def pageKeyFor : List EventResponse → String
  | [] => ""
  | e :: es => s!"{e.id}..{(es.getLastD e).id}:{es.length + 1}"

def upsertFailedEvent (ev : DecodedEvent) (message : String) : Tx Unit := modify fun db =>
  let row := match db.failed_events.lookup ev.id with
    | some row => { row with error := message, resolved := false }
    | none => { symbol := ev.symbol.text, ledger := ev.ledger, error := message }
  { db with failed_events := db.failed_events.insert ev.id row }

def upsertQuarantineState (contractId : String) (state : Option QuarantineState) (escalating : Bool) :
    Tx Unit := modify fun db =>
  let row := match state with
    | none => { page_key := none, error_message := none, failures := 1, escalated := false }
    | some s =>
      { page_key := some s.pageKey, error_message := some s.errorMessage.text, failures := s.failures,
        escalated := escalating || (db.quarantine_state.lookup contractId).any (·.escalated) }
  { db with quarantine_state := db.quarantine_state.insert contractId row }

/-- The state a row stands for: an unset or empty key or message stands for none. -/
def QuarantineStateRow.state (row : QuarantineStateRow) : Option QuarantineState :=
  match row.page_key, row.error_message with
  | some pageKey, some errorMessage =>
    if pageKey = "" || errorMessage = "" then none
    else some { pageKey, errorMessage, failures := row.failures }
  | _, _ => none

section

variable {ρ : Type} (E : Environment ρ)

def recordQuarantinedEvent (ev : DecodedEvent) (error : Failure) : Proc ρ Unit := do
  tryCatch (transaction E (upsertFailedEvent ev error.message)) fun insertErr =>
    throw (.error (s!"Failed to record quarantined event {ev.id} in failed_events: " ++
      insertErr.message))
  say (.quarantined ev.id error.message)

/-- Unreadable state counts as none. -/
def loadQuarantineState (contractId : String) : Proc ρ (Option QuarantineState) :=
  tryCatch
    (transaction E fun db =>
      .ok ((db.quarantine_state.lookup contractId).bind QuarantineStateRow.state, db))
    fun _ => pure none

def persistQuarantineState (contractId : String) (state : Option QuarantineState)
    (escalating : Bool) : Proc ρ Unit :=
  swallow (transaction E (upsertQuarantineState contractId state escalating))

/-- Persist a page of events and their derived side effects atomically. -/
def ingestPage (events : List EventResponse) (lastLedger : Nat) : Proc ρ Unit :=
  if events.isEmpty then pure ()
  else do
    let pending ← withLock E
      "Cannot ingest events: reindex is currently in progress (advisory lock held)"
      (transaction E (ingestEvents lastLedger events))
    announce E pending

/-- Record an event that was rolled back, and go on even when that fails. -/
def quarantine (ev : DecodedEvent) (err : Failure) : Proc ρ (List StreamChannel) := do
  ask E.statement -- ROLLBACK, whose own failure is not caught
  tryCatch (recordQuarantinedEvent E ev err) fun _ => say (.notRecorded ev.id)
  return []

/-- The raw row commits on its own; a fold that fails is rolled back and recorded instead. -/
def foldOrQuarantine (ev : DecodedEvent) : Proc ρ (List StreamChannel) := do
  let needsFold ← transaction E (insertRawEvent ev)
  if needsFold then tryCatch (transaction E (foldLogged ev)) (quarantine E ev)
  else return []

/-- Fold exactly one event. -/
def ingestEventQuarantined (ev : DecodedEvent) (lastLedger : Nat) : Proc ρ Unit :=
  if rewound ev.ledger lastLedger then throw (rewoundError ev lastLedger)
  else do
    let channels ← withLock E
      "Cannot fold quarantined event: reindex is currently in progress (advisory lock held)"
      (foldOrQuarantine E ev)
    announce E (channels.map (·, ev.symbol.text))

def setQuarantineState (contractId : String) (state : Option QuarantineState) : Proc ρ Unit :=
  update fun w => { w with memory := { w.memory with
    quarantineStates := w.memory.quarantineStates.insert contractId state } }

/-- Load the persisted state on the first use for a contract. -/
def ensureQuarantineState (contractId : String) : Proc ρ Unit := do
  let w ← world
  if w.memory.quarantineStatesLoaded.contains contractId then pure ()
  else do
    let state ← loadQuarantineState E contractId
    setQuarantineState contractId state
    update fun w => { w with memory := { w.memory with
      quarantineStatesLoaded := contractId :: w.memory.quarantineStatesLoaded } }

/-- The state kept for a contract. -/
def quarantineStateOf (contractId : String) : Proc ρ (Option QuarantineState) := do
  ensureQuarantineState E contractId
  let w ← world
  return (w.memory.quarantineStates.lookup contractId).join

/-- The failure count after one more failure: it goes on only for the same page and error. -/
def countFailure (state : Option QuarantineState) (pageKey : String) (errorMessage : JsText) : QuarantineState :=
  match state with
  | some s =>
    if s.pageKey = pageKey ∧ s.errorMessage = errorMessage then { s with failures := s.failures + 1 }
    else { pageKey, errorMessage, failures := 1 }
  | none => { pageKey, errorMessage, failures := 1 }

/-- One round of the per-event loop; what decoding throws is not caught. -/
def ingestAlone (raw : EventResponse) (lastLedger : Nat) : Proc ρ Unit :=
  match decodeEvent raw with
  | .ok ev => ingestEventQuarantined E ev lastLedger
  | .error m => throw (.error m)

/-- Ingest every event of a page on its own. -/
def ingestEach (events : List EventResponse) (lastLedger : Nat) : Proc ρ Unit :=
  forM events fun raw => ingestAlone E raw lastLedger

/-- Nothing to count any more. -/
def clearQuarantineState (contractId : String) : Proc ρ Unit := do
  setQuarantineState contractId none
  persistQuarantineState E contractId none false

/-- What follows a page failure other than a reorg. -/
def onPageFailure (config : Config) (events : List EventResponse) (lastLedger : Nat)
    (contractId : String) (state : Option QuarantineState) (err : Failure) : Proc ρ Unit := do
  let state := countFailure state (pageKeyFor events) err.message
  setQuarantineState contractId (some state)
  persistQuarantineState E contractId (some state) false
  if (state.failures : Int) < config.quarantineAfterFailures then throw err
  else do
    say (.switching contractId state.failures err.message)
    persistQuarantineState E contractId (some state) true
    ingestEach E events lastLedger
    clearQuarantineState E contractId

/-- The whole-page fast path with the quarantine fallback. -/
def ingestPageWithQuarantine (config : Config) (events : List EventResponse) (lastLedger : Nat)
    (contractId : String) : Proc ρ Unit := do
  let state ← quarantineStateOf E contractId
  tryCatch
    (do
      ingestPage E events lastLedger
      clearQuarantineState E contractId)
    fun
      | .reorgDetected m => throw (.reorgDetected m)
      | .error m => onPageFailure E config events lastLedger contractId state (.error m)

end

end OurDao
