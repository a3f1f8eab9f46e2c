import OurDao.Ingest

/-!
# The poller

One poll of a contract loads its cursor, checks that the chain still agrees with it,
and drains pages from the RPC, saving the cursor after each page. Before the first
poll the cursor rows are compared with the configured contracts.
-/

namespace OurDao

open Faults Op

variable {ρ : Type} (E : Environment ρ)

/-- Wipe the derived tables and every cursor. -/
def resetTx : Tx Unit := modify fun db => { db.truncate with indexer_cursor := ∅ }

def resetForContractChange : Proc ρ Unit := do
  let locked ← ask E.pg_try_advisory_lock
  if !locked then
    throw (.error ("Cannot reset database for contract change: reindex or fold operation is " ++
      "currently in progress (advisory lock held)"))
  else transaction E resetTx

/-- The contracts with a cursor that are not configured. -/
def staleContracts (db : Db) (contractIds : List String) : List String :=
  db.indexer_cursor.keys.filter fun id => !contractIds.contains id

/-- Guard against silently merging two deployments' state. -/
def ensureCursorContract (config : Config) (contractIds : List String) : Proc ρ Unit := do
  let stale ← transaction E fun db => .ok (staleContracts db contractIds, db)
  if stale.isEmpty then return ()
  else if config.resetOnContractChange then
    say (.staleContracts stale)
    resetForContractChange E
  else
    throw (.error ("Indexer cursor has row(s) for contract(s) no longer configured: " ++
      ", ".intercalate stale ++ " (configured: " ++ ", ".intercalate contractIds ++
      "). Resuming would merge " ++
      "a stale deployment's derived state with a new one. To repoint at a new deployment: start once " ++
      "with INDEXER_RESET_ON_CONTRACT_CHANGE=true to wipe the cursor and derived tables, or point " ++
      "DATABASE_URL at a fresh database. See the README's \"Redeploying the contract\" section."))

def loadCursor (contractId : String) : Proc ρ (Option CursorRow) :=
  transaction E fun db => .ok (db.indexer_cursor.lookup contractId, db)

def upsertCursor (contractId : String) (row : CursorRow) : Tx Unit := modify fun db =>
  { db with indexer_cursor := db.indexer_cursor.insert contractId row }

def saveCursor (contractId : String) (row : CursorRow) : Proc ρ Unit :=
  tryCatch (transaction E (upsertCursor contractId row)) fun err =>
    throw (.error s!"Cursor write failed: {err.message}")

/-- Only `updated_at` changes. -/
def touchCursor : Proc ρ Unit := transaction E (pure ())

/-- `null` when the RPC cannot answer. -/
def getLedgerHash (sequence : Nat) : Proc ρ (Option String) :=
  tryCatch
    (do
      let ledger ← ask (E.getLedgers sequence)
      return ledger.bind fun l => if l.sequence = sequence then some l.hash else none)
    fun _ => pure none

/-- The ledger to start from on a cold start, at least 1. -/
def resolveStartLedger (config : Config) : Proc ρ Nat := do
  if config.startLedger > 0 then return (max 1 config.startLedger).toNat
  else do
    let latest ← ask E.getLatestLedger
    return (max 1 ((latest.sequence : Int) - config.startLookbackLedgers)).toNat

def GRACE_WINDOW : Nat := 10

def rewoundTip (tip priorLedger : Nat) : Failure :=
  .reorgDetected (s!"RPC latest ledger {tip} is below the last folded ledger {priorLedger} — " ++
    "the chain rewound past applied history")

def forkedHash (priorLedger : Nat) (stored actual : String) : Failure :=
  .reorgDetected (s!"ledger {priorLedger}'s hash changed from {stored} to {actual} — " ++
    "history diverged at the same height")

def CursorRow.priorLedger (cursor : Option CursorRow) : Nat :=
  (cursor.bind (·.last_ledger)).getD 0

/-- The tip must not have fallen below the last folded ledger, but for a small drift. -/
def checkTip (cursor : Option CursorRow) (tip : Nat) : Proc ρ Unit := do
  let priorLedger := CursorRow.priorLedger cursor
  let observedTip := (cursor.bind (·.observed_tip_ledger)).getD 0
  if priorLedger > 0 ∧ tip < priorLedger then
    let drift := priorLedger - tip
    if ¬ (observedTip > 0 ∧ drift ≤ GRACE_WINDOW ∧ priorLedger ≤ tip + GRACE_WINDOW) then
      throw (rewoundTip tip priorLedger)

/-- The last folded ledger must still have the hash it had. -/
def checkHash (cursor : Option CursorRow) : Proc ρ Unit := do
  let priorLedger := CursorRow.priorLedger cursor
  match cursor.bind (·.last_ledger_hash) with
  | none => return ()
  | some stored =>
    if priorLedger > 0 ∧ stored ≠ "" then
      match ← getLedgerHash E priorLedger with
      | none => return ()
      | some actual => if actual ≠ stored then throw (forkedHash priorLedger stored actual)

structure Drain where
  position : Position
  totalPages : Nat := 0
  totalEvents : Nat := 0
  lastLedger : Nat
  lastLedgerHash : Option String
  observedTipLedger : Nat
  cursorWritten : Bool := false

/-- The cursor of the request a page answered, if it had one. -/
def Position.token : Position → Option String
  | cursor token => token
  | startLedger _ => none

def EventsPage.nextToken (res : EventsPage) (position : Position) : Option String :=
  (res.events.getLast?.map (·.id)) <|> res.cursor <|> position.token

/-- The highest ledger folded; an empty page leaves it. -/
def EventsPage.foldedLedger (res : EventsPage) (lastLedger : Nat) : Nat :=
  (res.events.getLast?.map (·.ledger)).getD lastLedger

/-- The hash of the folded ledger, asked for only when that ledger moved. -/
def foldedLedgerHash (s : Drain) (foldedLedger : Nat) : Proc ρ (Option String) :=
  if foldedLedger ≠ s.lastLedger then getLedgerHash E foldedLedger else pure s.lastLedgerHash

/-- Advance the persisted cursor past a page, unless nothing of it would change. -/
def advanceCursor (contractId : String) (cursor : Option CursorRow) (res : EventsPage) (s : Drain) :
    Proc ρ Drain := do
  let nextToken := res.nextToken s.position
  let foldedLedger := res.foldedLedger s.lastLedger
  let newObservedTip := res.latestLedger.getD s.observedTipLedger
  -- without a cursor row even a missing token counts as a change
  let tokenMoved := cursor.all fun row => row.paging_token ≠ nextToken
  if tokenMoved ∨ foldedLedger ≠ s.lastLedger ∨ newObservedTip ≠ s.observedTipLedger then
    let lastLedgerHash ← foldedLedgerHash E s foldedLedger
    saveCursor E contractId
      { paging_token := nextToken, last_ledger := some foldedLedger,
        last_ledger_hash := lastLedgerHash, observed_tip_ledger := some newObservedTip }
    return { s with lastLedger := foldedLedger, lastLedgerHash,
                    observedTipLedger := newObservedTip, cursorWritten := true }
  else return s

def deliver (events : List EventResponse) : Proc ρ Unit :=
  update fun w => { w with delivered := w.delivered ++ events }

/-- One page: fetched, ingested, and the cursor advanced past it. -/
def drainPage (config : Config) (contractId : String) (cursor : Option CursorRow) (s : Drain) :
    Proc ρ (EventsPage × Drain) := do
  let res ← ask (E.getEvents { contractId, limit := config.pageLimit, position := s.position })
  deliver res.events
  ingestPageWithQuarantine E config res.events s.lastLedger contractId
  let s ← advanceCursor E contractId cursor res s
  return (res, { s with totalPages := s.totalPages + 1,
                        totalEvents := s.totalEvents + res.events.length })

/-- The drain loop: it stops on a shutdown, on a short page, or at one of its caps. -/
def drain (config : Config) (contractId : String) (cursor : Option CursorRow) (drainStart : Nat) :
    Nat → Drain → Proc ρ Drain
  | 0, s => return s
  | fuel + 1, s => do
    let aborted ← look E.aborted
    if aborted then return s
    else do
      let (res, next) ← drainPage E config contractId cursor s
      let now ← look E.now
      let isFullPage := config.pageLimit ≤ res.events.length
      let pagesExhausted := config.maxDrainPages ≤ next.totalPages
      let timeExhausted := config.maxDrainMs ≤ (now : Int) - drainStart
      if ¬ isFullPage ∨ pagesExhausted ∨ timeExhausted then return next
      else
        drain config contractId cursor drainStart fuel
          { next with position := .cursor (res.nextToken s.position) }

/-- The page cap bounds the loop; the first page is always asked for. -/
def Config.drainFuel (config : Config) : Nat := (max 1 config.maxDrainPages).toNat

/-- The saved token, if it is one. -/
def CursorRow.token (cursor : Option CursorRow) : Option String :=
  (cursor.bind (·.paging_token)).filter (· ≠ "")

/-- Where the first request of a poll starts: behind the saved token, if there is one. -/
def startPosition (config : Config) (cursor : Option CursorRow) : Proc ρ Position :=
  match CursorRow.token cursor with
  | some token => pure (.cursor (some token))
  | none => do
    let ledger ← resolveStartLedger E config
    return .startLedger ledger

/-- What a poll finds out before it asks for events: its cursor, and that the chain the RPC serves
does not contradict it. -/
def checkChain (contractId : String) : Proc ρ (Option CursorRow × LedgerInfo) := do
  let cursor ← loadCursor E contractId
  let tip ← ask E.getLatestLedger
  checkTip cursor tip.sequence
  checkHash E cursor
  return (cursor, tip)

/-- Fetch events from the RPC and ingest them, draining pages when behind. -/
def fetchOnce (config : Config) (contractId : String) : Proc ρ Unit := do
  let (cursor, tip) ← checkChain E contractId
  let position ← startPosition E config cursor
  let drainStart ← look E.now
  let s ← drain E config contractId cursor drainStart config.drainFuel
    { position, lastLedger := CursorRow.priorLedger cursor,
      lastLedgerHash := cursor.bind (·.last_ledger_hash),
      observedTipLedger := (cursor.bind (·.observed_tip_ledger)).getD tip.sequence }
  if s.totalEvents = 0 ∧ s.cursorWritten = false then touchCursor E

end OurDao
