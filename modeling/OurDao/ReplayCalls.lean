import OurDao.MemberCaches
import OurDao.Rebuild

/-!
# Replay, statement by statement

`replayFailedEvent` with every statement it sends on its client, the transaction that
client is in, and what may happen to a statement: Postgres refuses it, the connection
breaks before or after it was carried out, or the process dies. Calls of one database
exclude each other by the advisory lock, which goes with the session: a call without it
sends nothing else, so those that have it run one after the other, and each finds what
the ones before it committed.
-/

namespace OurDao.Replays

open Faults Op

/-- The transaction block a session is in. -/
inductive Block where
  | idle
  | active (work : Db)
  | failed

/-- The database as one session has it: what is committed, and its own block. `commits` counts
the blocks it has committed. -/
structure Backend where
  db : Db
  block : Block := .idle
  commits : Nat := 0

structure Session extends Backend where
  connected : Bool := false
  /-- how many answers were awaited -/
  clock : Nat := 0

/-- What becomes of a statement. -/
inductive Fate where
  | answered
  | refused (message : String)
  /-- the connection breaks, before or after the statement was carried out -/
  | lost (message : String) (carriedOut : Bool)
  /-- the process dies waiting for the answer -/
  | died (carriedOut : Bool)
  deriving DecidableEq, Repr

/-- Everything a call waits for, by the number of the wait. -/
structure Surroundings where
  /-- `pool.connect()`: the client may come with a block that failed and was never rolled back -/
  connect : Nat → Outcome Failure Bool
  fate : Nat → Fate
  lock : Nat → Bool
  /-- what a handler that throws leaves of its block: its writes so far, or nothing, when it was
  Postgres that refused one of them -/
  unfinished : Nat → Option Db
  /-- the error of a query on a client whose connection broke -/
  unqueryable : String
  /-- the Redis client, or `null` when none is configured; the constructor is ioredis's -/
  getClient : Nat → Outcome Failure Bool
  redis : Nat → Outcome Failure Unit
  /-- `pool.query('SELECT pg_notify …')` -/
  notify : Nat → Outcome Failure Unit

/-- What the server does with a statement. -/
def Serve (α : Type) : Type := Backend → Except Failure α × Backend

def aborted : Failure :=
  .error "current transaction is aborted, commands ignored until end of transaction block"

/-- In a block a statement works on the block's own state; outside it is committed at once. -/
def statement {α : Type} (body : Tx α) : Serve α := fun b =>
  match b.block with
  | .idle =>
    match body b.db with
    | .ok (a, db) => (.ok a, { b with db })
    | .error e => (.error e, b)
  | .active work =>
    match body work with
    | .ok (a, work) => (.ok a, { b with block := .active work })
    | .error e => (.error e, { b with block := .failed })
  | .failed => (.error aborted, b)

def beginBlock : Serve Unit := fun b =>
  match b.block with
  | .idle => (.ok (), { b with block := .active b.db })
  | .active _ => (.ok (), b)
  | .failed => (.error aborted, b)

/-- A failed block is rolled back by `COMMIT`, and without an error. -/
def commitBlock : Serve Unit := fun b =>
  match b.block with
  | .idle => (.ok (), b)
  | .active work => (.ok (), { db := work, block := .idle, commits := b.commits + 1 })
  | .failed => (.ok (), { b with block := .idle })

def rollbackBlock : Serve Unit := fun b => (.ok (), { b with block := .idle })

/-- What an error leaves of a block. -/
def Block.afterError : Block → Block
  | .idle => .idle
  | _ => .failed

/-- What a handler's error leaves of a block. -/
def Block.unfinished (left : Option Db) : Block → Block
  | .active _ =>
    match left with
    | some work => .active work
    | none => .failed
  | block => block

/-- The connection is gone, and its block with it. -/
def Session.hangUp (s : Session) (b : Backend) : Session :=
  { s with toBackend := { b with block := .idle }, connected := false }

section

variable (S : Surroundings) {α : Type}

/-- One statement and its answer; `refuse` is what a refusal makes of the block. -/
def exchange (refuse : Block → Block) (serve : Serve α) : Op Session Failure α := fun s =>
  if s.connected then
    let s₁ := { s with clock := s.clock + 1 }
    match S.fate s.clock with
    | .answered =>
      match serve s.toBackend with
      | (.ok a, b) => (.done a, { s₁ with toBackend := b })
      | (.error e, b) => (.raised e, { s₁ with toBackend := b })
    | .refused m => (.raised (.error m), { s₁ with block := refuse s.block })
    | .lost m carriedOut =>
      (.raised (.error m), s₁.hangUp (if carriedOut then (serve s.toBackend).2 else s.toBackend))
    | .died carriedOut => (.crashed, s₁.hangUp (if carriedOut then (serve s.toBackend).2 else s.toBackend))
  else (.raised (.error S.unqueryable), s)

def query (body : Tx α) : Op Session Failure α := exchange S Block.afterError (statement body)

/-- A wait for something other than this client. -/
def await (answer : Nat → Outcome Failure α) : Op Session Failure α := fun s =>
  let s₁ := { s with clock := s.clock + 1 }
  match answer s.clock with
  | .done a => (.done a, s₁)
  | .raised e => (.raised e, s₁)
  | .crashed => (.crashed, s₁.hangUp s.toBackend)

/-- An error here is only logged. -/
def logged (m : Op Session Failure Unit) : Op Session Failure Unit := tryCatch m fun _ => pure ()

def connect : Op Session Failure Unit := do
  let stuck ← await S.connect
  update fun s => { s with connected := true, block := if stuck then .failed else .idle }

/-- `applyEvent` on the client. Its statements are all in the block, so that of a handler that
throws only what it leaves there matters. -/
def applyEventOn (ev : DecodedEvent) : Op Session Failure (List StreamChannel) := fun s =>
  let refuse := Block.unfinished (S.unfinished s.clock)
  exchange S refuse (fun b =>
    match statement (foldEvent ev) b with
    | (.error e, _) => (.error e, { b with block := refuse b.block })
    | answer => answer) s

/-- `invalidateMembersListCache` and `invalidateCache`: the client is made outside the `try`. -/
def invalidate : Op Session Failure Unit := do
  let configured ← await S.getClient
  if configured then logged (await S.redis)

/-- What a select returns. -/
def select (f : Db → α) : Tx α := fun db => .ok (f db, db)

def foldAgain (eventId : String) (resolution : Resolution) (ev : DecodedEvent) :
    Op Session Failure (List StreamChannel) := do
  exchange S Block.afterError beginBlock
  let channels ← applyEventOn S ev
  query S (markFolded ev.id)
  query S (updateUnresolved eventId (FailedEventRow.resolve resolution))
  -- a refused COMMIT ends the block
  exchange S (fun _ => .idle) commitBlock
  invalidate S
  if (invalidatedSummary .replay ev).isSome then invalidate S
  return channels

def stillFails (eventId : String) (err : Failure) :
    Op Session Failure (ReplayOutcome × List StreamChannel) := do
  exchange S Block.afterError rollbackBlock
  query S (updateUnresolved eventId fun r => { r with error := err.message })
  return (.still_failing err.message, [])

def replayRow (eventId : String) (resolution : Resolution) (row : EventRow) :
    Op Session Failure (ReplayOutcome × List StreamChannel) :=
  if row.folded then do
    query S (updateUnresolved eventId (FailedEventRow.resolve resolution))
    return (.already_resolved, [])
  else
    match toDecodedEvent eventId row with
    | .error m => throw (.error m)
    | .ok ev =>
      tryCatch
        (do
          let channels ← foldAgain S eventId resolution ev
          return (.replayed, channels))
        (stillFails S eventId)

def replayLocked (eventId : String) (resolution : Resolution) :
    Op Session Failure (ReplayOutcome × List StreamChannel) := do
  let unresolved ← query S (select fun db => (db.failed_events.lookup eventId).any fun r => !r.resolved)
  if !unresolved then return (.already_resolved, [])
  else do
    let row? ← query S (select fun db => db.events.lookup eventId)
    match row? with
    | none =>
      throw (.error (s!"event {eventId} has an unresolved failed_events record but no matching " ++
        "row in events — data inconsistency, investigate manually"))
    | some row => replayRow S eventId resolution row

/-- `SELECT pg_advisory_unlock`, in the `finally`. -/
def unlock : Op Session Failure Unit := logged (query S (select fun _ => ()))

def withLock (eventId : String) (body : Op Session Failure α) : Op Session Failure α := do
  let locked ← fun s => query S (select fun _ => S.lock s.clock) s
  if !locked then
    throw (.error (s!"Cannot replay event {eventId}: reindex or the live indexer worker is currently " ++
      "folding events (advisory lock 0x0d400001 held). Stop the indexer worker (or wait for the " ++
      "reindex to finish) and retry."))
  else do
    let a ← tryCatch body fun err => do
      unlock S
      throw err
    unlock S
    return a

/-- Re-fold exactly one event by its raw id, and mark its record resolved on success. -/
def replayFailedEvent (eventId : String) (resolution : Resolution) : Op Session Failure ReplayOutcome := do
  connect S
  let (outcome, channels) ← withLock S eventId (replayLocked S eventId resolution)
  forM channels fun _ => logged (await S.notify)
  return outcome

/-- The session after any number of calls, whatever each of them ended in. -/
def replays (s : Session) (calls : List (String × Resolution)) : Session :=
  calls.foldl (fun s call => (replayFailedEvent S call.1 call.2 s).2) s

end

/-- Only records of failures of this one event may differ, and none is added or removed. -/
structure Kept (eventId : String) (db db' : Db) : Prop where
  rest : db' = { db with failed_events := db'.failed_events }
  records : ∀ id, id ∈ db'.failed_events ↔ id ∈ db.failed_events
  others : ∀ id, id ≠ eventId → db'.failed_events.lookup id = db.failed_events.lookup id

/-- The event was folded on top, its row marked and its record resolved. -/
structure Refolds (eventId : String) (ev : DecodedEvent) (db db' : Db) : Prop where
  unresolved : (db.failed_events.lookup eventId).any (fun r => !r.resolved) = true
  unmarked : ∃ row, db.events.lookup eventId = some row ∧ row.folded = false ∧
    toDecodedEvent eventId row = .ok ev
  effects : ∃ channels, applyEvent ev db.tables = .ok (channels, db'.tables)
  rest : db' = { db with
    tables := db'.tables, applied := db.applied ++ [ev], events := setFolded eventId db.events,
    failed_events := db'.failed_events }
  resolved : ∃ r, db'.failed_events.lookup eventId = some r ∧ r.resolved = true
  records : ∀ id, id ∈ db'.failed_events ↔ id ∈ db.failed_events
  others : ∀ id, id ≠ eventId → db'.failed_events.lookup id = db.failed_events.lookup id

namespace Kept

variable {eventId : String} {db db' : Db}

theorem refl (eventId : String) (db : Db) : Kept eventId db db := ⟨rfl, fun _ => Iff.rfl, fun _ _ => rfl⟩

theorem tables (h : Kept eventId db db') : db'.tables = db.tables := by rw [h.rest]

theorem applied (h : Kept eventId db db') : db'.applied = db.applied := by rw [h.rest]

theorem events (h : Kept eventId db db') : db'.events = db.events := by rw [h.rest]

end Kept

namespace Refolds

variable {eventId : String} {ev : DecodedEvent} {db db' : Db}

theorem applied (h : Refolds eventId ev db db') : db'.applied = db.applied ++ [ev] := by rw [h.rest]

theorem events (h : Refolds eventId ev db db') : db'.events = setFolded eventId db.events := by rw [h.rest]

theorem id_eq (h : Refolds eventId ev db db') : ev.id = eventId := by
  obtain ⟨row, -, -, hd⟩ := h.unmarked
  exact toDecodedEvent_id hd

theorem marked (h : Refolds eventId ev db db') :
    ∃ row, db'.events.lookup eventId = some row ∧ row.folded = true := by
  obtain ⟨row, hrow, -, -⟩ := h.unmarked
  exact ⟨{ row with folded := true }, by simp [h.events, lookup_setFolded, hrow], rfl⟩

end Refolds

theorem mem_whereUnresolved (eventId id : String) (f : FailedEventRow → FailedEventRow)
    (failed : Table String FailedEventRow) : id ∈ whereUnresolved eventId f failed ↔ id ∈ failed := by
  rw [whereUnresolved]
  rcases hrow : failed.lookup eventId with _ | row
  · rfl
  · have hmem : eventId ∈ failed := AList.lookup_isSome.mp (by simp [hrow])
    by_cases hresolved : row.resolved = true
    · simp [hresolved]
    · simpa [hresolved] using fun h : id = eventId => h ▸ hmem

theorem lookup_whereUnresolved_ne {eventId id : String} (h : id ≠ eventId)
    (f : FailedEventRow → FailedEventRow) (failed : Table String FailedEventRow) :
    (whereUnresolved eventId f failed).lookup id = failed.lookup id := by
  rw [whereUnresolved]
  rcases failed.lookup eventId with _ | row
  · rfl
  · by_cases hresolved : row.resolved = true
    · simp [hresolved]
    · simp [hresolved, AList.lookup_insert_ne h]

/-- An update of the unresolved record keeps everything else. -/
theorem kept_updateUnresolved {eventId : String} {f : FailedEventRow → FailedEventRow} {db db' : Db}
    (h : updateUnresolved eventId f db = .ok ((), db')) : Kept eventId db db' := by
  cases h
  exact ⟨rfl, fun id => mem_whereUnresolved eventId id f _, fun id hid => lookup_whereUnresolved_ne hid f _⟩

/-- What the block of a replay holds when it is committed. -/
theorem refolds_of_replayTx {eventId : String} {resolution : Resolution} {row : EventRow} {ev : DecodedEvent}
    {channels : List StreamChannel} {db db' : Db}
    (hunresolved : (db.failed_events.lookup eventId).any (fun r => !r.resolved) = true)
    (hrow : db.events.lookup eventId = some row) (hfolded : row.folded = false)
    (hd : toDecodedEvent eventId row = .ok ev)
    (h : replayTx eventId resolution ev db = .ok (channels, db')) : Refolds eventId ev db db' := by
  obtain ⟨db₁, hf, rfl⟩ := replayTx_eq_ok.mp h
  obtain ⟨tables, happly, rfl⟩ := foldLogged_eq_ok.mp hf
  refine ⟨hunresolved, ⟨row, hrow, hfolded, hd⟩, ⟨channels, happly⟩, ?_, ?_,
    fun id => mem_whereUnresolved eventId id _ _, fun id hid => lookup_whereUnresolved_ne hid _ _⟩
  · rw [toDecodedEvent_id hd]
  · rcases hr : db.failed_events.lookup eventId with _ | r
    · simp [hr] at hunresolved
    · have hopen : r.resolved = false := by simpa [hr] using hunresolved
      exact ⟨r.resolve resolution, by simp [whereUnresolved, hr, hopen], by simp [FailedEventRow.resolve, hopen]⟩

section

variable {ω ε α β : Type}

/-- A postcondition with one assertion for every early end, raised or dead. -/
def Ends (Q : α → ω → Prop) (early : ω → Prop) : Outcome ε α → ω → Prop
  | .done a, w => Q a w
  | _, w => early w

theorem Ends.mono {Q Q' : α → ω → Prop} {early early' : ω → Prop} (hQ : ∀ a w, Q a w → Q' a w)
    (he : ∀ w, early w → early' w) (o : Outcome ε α) (w : ω) (h : Ends Q early o w) : Ends Q' early' o w := by
  cases o with
  | done a => exact hQ a w h
  | raised e => exact he w h
  | crashed => exact he w h

theorem bind_ends {P : ω → Prop} {m : Op ω ε α} {f : α → Op ω ε β} {R : α → ω → Prop} {Q : β → ω → Prop}
    {early : ω → Prop} (hm : Ensures P m (Ends R early)) (hf : ∀ a, Ensures (R a) (f a) (Ends Q early)) :
    Ensures P (m >>= f) (Ends Q early) :=
  hm.bind hf (fun _ _ h => h) fun _ h => h

theorem pure_ends {P : ω → Prop} {a : α} {Q : α → ω → Prop} {early : ω → Prop} (h : ∀ w, P w → Q a w) :
    Ensures P (pure a : Op ω ε α) (Ends Q early) := h

end

section

variable {S : Surroundings} {α : Type}

/-- A session that has committed `n` blocks, and the database `db`. -/
def At (db : Db) (n : Nat) (s : Session) : Prop := s.db = db ∧ s.commits = n

/-- What a statement does: it is carried out and answered, or nothing outside its block changes,
or it is carried out and the server's error or a broken connection is all the client sees. -/
theorem exchange_ends (refuse : Block → Block) (serve : Serve α) (s₀ : Session) :
    Ends (fun a s => serve s₀.toBackend = (.ok a, s.toBackend))
      (fun s => At s₀.db s₀.commits s ∨ At (serve s₀.toBackend).2.db (serve s₀.toBackend).2.commits s ∧
        (s.connected = false ∨ ∃ e, (serve s₀.toBackend).1 = .error e))
      (exchange S refuse serve s₀).1 (exchange S refuse serve s₀).2 := by
  have hgone : ∀ carriedOut : Bool, ∀ s : Session, s.connected = false →
      At (if carriedOut then (serve s₀.toBackend).2 else s₀.toBackend).db
        (if carriedOut then (serve s₀.toBackend).2 else s₀.toBackend).commits s →
      At s₀.db s₀.commits s ∨ At (serve s₀.toBackend).2.db (serve s₀.toBackend).2.commits s ∧
        (s.connected = false ∨ ∃ e, (serve s₀.toBackend).1 = .error e) := fun carriedOut s hs h => by
    cases carriedOut with
    | true => exact .inr ⟨h, .inl hs⟩
    | false => exact .inl h
  by_cases hc : s₀.connected = true
  · cases hfate : S.fate s₀.clock with
    | answered =>
      rcases hrun : serve s₀.toBackend with ⟨e | a, b⟩
      · simp [exchange, hc, hfate, hrun, Ends, At]
      · simp [exchange, hc, hfate, hrun, Ends]
    | refused m => simp [exchange, hc, hfate, Ends, At]
    | lost m carriedOut =>
      simpa [exchange, hc, hfate, Ends] using hgone carriedOut (Session.hangUp _ _) rfl ⟨rfl, rfl⟩
    | died carriedOut =>
      simpa [exchange, hc, hfate, Ends] using hgone carriedOut (Session.hangUp _ _) rfl ⟨rfl, rfl⟩
  · simp [exchange, hc, Ends, At]

theorem Session.ensures_exchange {P : Session → Prop} {Q : α → Session → Prop} {I : Db → Nat → Prop}
    {refuse : Block → Block} {serve : Serve α} (hP : ∀ s, P s → I s.db s.commits)
    (hserve : ∀ s, P s → I (serve s.toBackend).2.db (serve s.toBackend).2.commits)
    (hok : ∀ s a s', P s → serve s.toBackend = (.ok a, s'.toBackend) → Q a s') :
    Ensures P (exchange S refuse serve) (Ends Q fun s => I s.db s.commits) := by
  intro s hs
  refine Ends.mono (fun a s' h => hok s a s' hs h) ?_ _ _ (exchange_ends refuse serve s)
  rintro s' (⟨hdb, hn⟩ | ⟨⟨hdb, hn⟩, -⟩)
  · rw [hdb, hn]
    exact hP s hs
  · rw [hdb, hn]
    exact hserve s hs

/-- Nothing is committed yet, and the client is in no block. -/
def Idle (db : Db) (n : Nat) (s : Session) : Prop := At db n s ∧ s.block = .idle

/-- Nothing is committed yet, and the client is in a block whose work is as `W` says. -/
def Active (db : Db) (n : Nat) (W : Db → Prop) (s : Session) : Prop :=
  At db n s ∧ ∃ work, s.block = .active work ∧ W work

/-- A client fresh from the pool. -/
def Fresh (db : Db) (n : Nat) (s : Session) : Prop := At db n s ∧ (s.block = .idle ∨ s.block = .failed)

variable {db : Db} {n : Nat} {I : Db → Nat → Prop}

theorem Idle.fresh {s : Session} (h : Idle db n s) : Fresh db n s := ⟨h.1, .inl h.2⟩

theorem At.inv {s : Session} (h : At db n s) (hI : I db n) : I s.db s.commits := by rw [h.1, h.2]; exact hI

theorem statement_keeps (body : Tx α) {b : Backend} {work : Db} (hblock : b.block = .active work) :
    (statement body b).2.db = b.db ∧ (statement body b).2.commits = b.commits := by
  rcases hbody : body work with e | ⟨a, work'⟩ <;> simp [statement, hblock, hbody]

theorem statement_active_ok {body : Tx α} {a : α} {b b' : Backend} {work : Db}
    (hblock : b.block = .active work) (h : statement body b = (.ok a, b')) :
    ∃ work', body work = .ok (a, work') ∧ b' = { b with block := .active work' } := by
  rcases hbody : body work with e | ⟨a', work'⟩
  · simp [statement, hblock, hbody] at h
  · simp only [statement, hblock, hbody, Prod.mk.injEq, Except.ok.injEq] at h
    obtain ⟨rfl, rfl⟩ := h
    exact ⟨work', rfl, rfl⟩

/-- A select outside a block. -/
theorem query_select (f : Session → Db → α) (hI : I db n) :
    Ensures (Fresh db n) (fun s => query S (select (f s)) s)
      (Ends (fun a s => Idle db n s ∧ ∃ s₀, a = f s₀ db) fun s => I s.db s.commits) := by
  intro s₀ h₀
  refine Session.ensures_exchange (P := fun s => s = s₀) (fun s hs => ?_) (fun s hs => ?_)
    (fun s a s' hs h => ?_) s₀ rfl
  all_goals
    subst hs
    obtain ⟨⟨hdb, hn⟩, hblock | hblock⟩ := h₀
  · exact At.inv ⟨hdb, hn⟩ hI
  · exact At.inv ⟨hdb, hn⟩ hI
  · simpa [statement, select, hblock, hdb, hn] using hI
  · simpa [statement, hblock, hdb, hn] using hI
  · simp only [statement, hblock, select, Prod.mk.injEq, Except.ok.injEq] at h
    obtain ⟨rfl, hb⟩ := h
    refine ⟨⟨⟨?_, ?_⟩, ?_⟩, s, by rw [hdb]⟩ <;> simp [← hb, hdb, hn]
  · simp [statement, hblock] at h

theorem select_ends (f : Db → α) (hI : I db n) : Ensures (Idle db n) (query S (select f))
    (Ends (fun a s => Idle db n s ∧ a = f db) fun s => I s.db s.commits) :=
  (query_select (fun _ => f) hI).mono (fun _ h => h.fresh)
    (Ends.mono (fun _ _ h => ⟨h.1, h.2.elim fun _ h => h⟩) fun _ h => h)

/-- A statement in the block sees and leaves the block's work. -/
theorem query_active {body : Tx α} {W : Db → Prop} (hI : I db n) :
    Ensures (Active db n W) (query S body)
      (Ends (fun a => Active db n fun work' => ∃ work, W work ∧ body work = .ok (a, work'))
        fun s => I s.db s.commits) := by
  refine Session.ensures_exchange (fun s h => h.1.inv hI) (fun s h => ?_) fun s a s' h hrun => ?_
  all_goals obtain ⟨hat, work, hblock, hwork⟩ := h
  · rw [(statement_keeps body hblock).1, (statement_keeps body hblock).2]
    exact hat.inv hI
  · obtain ⟨work', hbody, hb⟩ := statement_active_ok hblock hrun
    exact ⟨⟨by simpa [hb] using hat.1, by simpa [hb] using hat.2⟩, work', by simp [hb], work, hwork, hbody⟩

/-- An update outside a block is committed at once. -/
theorem query_update {g : Tx Unit} {db' : Db} (hg : g db = .ok ((), db')) (hI : I db n) (hI' : I db' n) :
    Ensures (Idle db n) (query S g) (Ends (fun _ => At db' n) fun s => I s.db s.commits) := by
  have hrun : ∀ s : Session, Idle db n s →
      statement g s.toBackend = (.ok (), { s.toBackend with db := db' }) := by
    rintro s ⟨⟨hdb, -⟩, hblock⟩
    simp [statement, hblock, hdb, hg]
  refine Session.ensures_exchange (fun s h => h.1.inv hI) (fun s h => ?_) fun s a s' h hs' => ?_
  · rw [hrun s h]
    simpa [h.1.2] using hI'
  · rw [hrun s h] at hs'
    have hb := (Prod.mk.inj hs').2
    exact ⟨by rw [← hb], by rw [← hb]; exact h.1.2⟩

theorem begin_ends (hI : I db n) : Ensures (Idle db n) (exchange S Block.afterError beginBlock)
    (Ends (fun _ => Active db n (· = db)) fun s => I s.db s.commits) := by
  have hrun : ∀ s : Session, Idle db n s →
      beginBlock s.toBackend = (.ok (), { s.toBackend with block := .active db }) := by
    rintro s ⟨⟨hdb, -⟩, hblock⟩
    simp [beginBlock, hblock, hdb]
  refine Session.ensures_exchange (fun s h => h.1.inv hI) (fun s h => ?_) fun s _ s' h hs' => ?_
  · rw [hrun s h]
    exact h.1.inv hI
  · rw [hrun s h] at hs'
    have hb := (Prod.mk.inj hs').2
    exact ⟨⟨by rw [← hb]; exact h.1.1, by rw [← hb]; exact h.1.2⟩, db, by rw [← hb], rfl⟩

/-- The handlers' statements stay in the block, however many of them there are. -/
theorem applyEventOn_ends (ev : DecodedEvent) (hI : I db n) : Ensures (Active db n (· = db)) (applyEventOn S ev)
    (Ends (fun channels => Active db n fun work => foldEvent ev db = .ok (channels, work))
      fun s => I s.db s.commits) := by
  intro s₀ h₀
  rw [applyEventOn]
  refine Session.ensures_exchange (P := Active db n (· = db)) (fun s h => h.1.inv hI) (fun s h => ?_)
    (fun s a s' h hrun => ?_) s₀ h₀
  all_goals
    obtain ⟨hat, work, hblock, rfl⟩ := h
    have hkeep := statement_keeps (foldEvent ev) hblock
    rcases hst : statement (foldEvent ev) s.toBackend with ⟨e | a', b⟩
  · simpa [hst] using hat.inv hI
  · rw [hst] at hkeep
    have hI' := hat.inv hI
    rw [← hkeep.1, ← hkeep.2] at hI'
    exact hI'
  · simp [hst] at hrun
  · simp only [hst, Prod.mk.injEq, Except.ok.injEq] at hrun
    obtain ⟨rfl, rfl⟩ := hrun
    obtain ⟨work', hfold, hb⟩ := statement_active_ok hblock hst
    exact ⟨⟨by simpa [hb] using hat.1, by simpa [hb] using hat.2⟩, work', by simp [hb], hfold⟩

/-- The block is committed: the database is one of those that `C` allows. -/
def Committed (n : Nat) (C : Db → Prop) (s : Session) : Prop := C s.db ∧ s.commits = n + 1

/-- How the block may have ended when an error comes out of it: nothing is committed, or it is, and the
connection is gone. -/
def Torn (db : Db) (n : Nat) (C : Db → Prop) (s : Session) : Prop :=
  At db n s ∨ Committed n C s ∧ s.connected = false

variable {C : Db → Prop}

theorem commit_ends : Ensures (Active db n C) (exchange S (fun _ => .idle) commitBlock)
    (Ends (fun _ => Committed n C) (Torn db n C)) := by
  rintro s ⟨⟨hdb, hn⟩, work, hblock, hC⟩
  have hrun : commitBlock s.toBackend = (.ok (), { db := work, block := .idle, commits := n + 1 }) := by
    simp [commitBlock, hblock, hn]
  have hends := exchange_ends (S := S) (fun _ => .idle) commitBlock s
  refine Ends.mono (fun _ s' h => ?_) (fun s' h => ?_) _ _ hends
  · rw [hrun] at h
    have hb := (Prod.mk.inj h).2
    exact ⟨by rw [← hb]; exact hC, by rw [← hb]⟩
  · rw [hrun, hdb, hn] at h
    rcases h with h | ⟨⟨hdb', hn'⟩, hgone | ⟨e, he⟩⟩
    · exact .inl h
    · exact .inr ⟨⟨by rw [hdb']; exact hC, hn'⟩, hgone⟩
    · cases he

/-- Rolling back works on a live connection only, and on that nothing was committed. -/
theorem rollback_ends : Ensures (Torn db n C) (exchange S Block.afterError rollbackBlock)
    (Ends (fun _ => Idle db n) (Torn db n C)) := by
  rintro s (hat | hgone)
  · have h : Ensures (At db n) (exchange S Block.afterError rollbackBlock)
        (Ends (fun _ => Idle db n) (At db n)) := by
      refine Session.ensures_exchange (I := fun d m => d = db ∧ m = n) (fun _ h => h) (fun _ h => h)
        fun _ _ _ h hrun => ?_
      have hb := (Prod.mk.inj hrun).2
      exact ⟨⟨by rw [← hb]; exact h.1, by rw [← hb]; exact h.2⟩, by rw [← hb]⟩
    exact Ends.mono (fun _ _ h => h) (fun _ h => .inl h) _ _ (h s hat)
  · have hrun : exchange S Block.afterError rollbackBlock s = (.raised (.error S.unqueryable), s) := by
      simp [exchange, hgone.2]
    rw [hrun]
    exact .inr hgone

theorem await_ends {J : Db → Nat → Prop} (answer : Nat → Outcome Failure α) :
    Ensures (fun s => J s.db s.commits) (await answer) fun o s => J s.db s.commits ∧
      (∀ e, o = .raised e → ∃ k, answer k = .raised e) ∧ (o = .crashed → s.connected = false) := by
  intro s hs
  rw [await]
  cases hanswer : answer s.clock with
  | done a => exact ⟨hs, by simp, by simp⟩
  | raised e => exact ⟨hs, fun e he => ⟨s.clock, by cases he; exact hanswer⟩, by simp⟩
  | crashed => exact ⟨hs, by simp, fun _ => rfl⟩

/-- Whatever is only logged leaves the database alone, and stops the call only by stopping the process. -/
theorem logged_ends {J : Db → Nat → Prop} (answer : Nat → Outcome Failure Unit) :
    Ensures (fun s => J s.db s.commits) (logged (await answer))
      (Ends (fun _ s => J s.db s.commits) fun s => J s.db s.commits ∧ s.connected = false) :=
  Ensures.tryCatch (await_ends answer) (fun _ _ h => h.1) (fun _ => pure_ends fun _ h => h.1)
    fun _ h => ⟨h.1, h.2.2 rfl⟩

/-- The Redis client can be made from the configured URL. -/
def Surroundings.Constructs (S : Surroundings) : Prop := ∀ n e, S.getClient n ≠ .raised e

/-- The cache work after the commit raises nothing. -/
theorem invalidate_ends (hS : S.Constructs) : Ensures (Committed n C) (invalidate S)
    (Ends (fun _ => Committed n C) (Torn db n C)) := by
  refine Ensures.bind (await_ends (J := fun d m => C d ∧ m = n + 1) S.getClient) (fun configured => ?_)
    (fun e _ h => ?_) fun _ h => .inr ⟨h.1, h.2.2 rfl⟩
  · split
    · exact Ensures.mono (logged_ends (J := fun d m => C d ∧ m = n + 1) S.redis) (fun _ h => h.1)
        (Ends.mono (fun _ _ h => h) fun _ h => .inr h)
    · exact pure_ends fun _ h => h.1
  · obtain ⟨k, hk⟩ := h.2.1 e rfl
    exact (hS k e hk).elim

/-- The block of a replay, up to its commit and the cache work after it. -/
theorem foldAgain_ends (hS : S.Constructs) {eventId : String} {resolution : Resolution} {ev : DecodedEvent}
    (hC : ∀ channels db', replayTx eventId resolution ev db = .ok (channels, db') → C db') :
    Ensures (Idle db n) (foldAgain S eventId resolution ev) (Ends (fun _ => Committed n C) (Torn db n C)) := by
  have hearly : ∀ s, At db n s → Torn db n C s := fun _ h => .inl h
  have hweaken : ∀ {β : Type} {P : Session → Prop} {m : Op Session Failure β} {Q : β → Session → Prop},
      Ensures P m (Ends Q fun s => At db n s) → Ensures P m (Ends Q (Torn db n C)) :=
    fun h => h.post (Ends.mono (fun _ _ h => h) hearly)
  refine bind_ends (hweaken (begin_ends (I := fun d m => d = db ∧ m = n) ⟨rfl, rfl⟩)) fun _ => ?_
  refine bind_ends (hweaken (applyEventOn_ends (I := fun d m => d = db ∧ m = n) ev ⟨rfl, rfl⟩))
    fun channels => ?_
  refine bind_ends (hweaken (query_active (I := fun d m => d = db ∧ m = n) ⟨rfl, rfl⟩)) fun _ => ?_
  refine bind_ends (hweaken (query_active (I := fun d m => d = db ∧ m = n) ⟨rfl, rfl⟩)) fun _ => ?_
  refine bind_ends (R := fun _ => Committed n C) (commit_ends.mono (fun s h => ?_) fun _ _ h => h) fun _ => ?_
  · obtain ⟨hat, work, hblock, work₂, ⟨work₁, hfold, hmark⟩, hresolve⟩ := h
    refine ⟨hat, work, hblock, hC channels work (replayTx_eq_ok.mpr ⟨work₂, ?_, ?_⟩)⟩
    · rw [foldLogged, bind_eq_ok]
      exact ⟨channels, work₁, hfold, bind_eq_ok.mpr ⟨(), work₂, hmark, rfl⟩⟩
    · cases hresolve
      rfl
  refine bind_ends (R := fun _ => Committed n C) (invalidate_ends hS) fun _ => ?_
  split
  · exact bind_ends (invalidate_ends hS) fun _ => pure_ends fun _ h => h
  · exact pure_ends fun _ h => h

end

/-- Nothing was committed by a block. -/
def Uncommitted (eventId : String) (db : Db) (n : Nat) (db' : Db) (m : Nat) : Prop :=
  Kept eventId db db' ∧ m = n

/-- One block was committed, and it folded the event. -/
def Recommitted (eventId : String) (db : Db) (n : Nat) (db' : Db) (m : Nat) : Prop :=
  (∃ ev, Refolds eventId ev db db') ∧ m = n + 1

/-- What a returned outcome says of the database. -/
def Reported (eventId : String) (db : Db) (n : Nat) : ReplayOutcome → Db → Nat → Prop
  | .replayed => Recommitted eventId db n
  | .already_resolved => Uncommitted eventId db n
  | .still_failing _ => Uncommitted eventId db n

/-- How a call that threw, or whose process died, may have left the database. -/
def Stopped (eventId : String) (db : Db) (n : Nat) (db' : Db) (m : Nat) : Prop :=
  Uncommitted eventId db n db' m ∨ Recommitted eventId db n db' m

abbrev Exits (eventId : String) (db : Db) (n : Nat) :
    Outcome Failure (ReplayOutcome × List StreamChannel) → Session → Prop :=
  Ends (fun p s => Reported eventId db n p.1 s.db s.commits) fun s => Stopped eventId db n s.db s.commits

theorem Reported.stopped {eventId : String} {db db' : Db} {n m : Nat} {o : ReplayOutcome}
    (h : Reported eventId db n o db' m) : Stopped eventId db n db' m := by
  cases o with
  | replayed => exact .inr h
  | already_resolved => exact .inl h
  | still_failing e => exact .inl h

section

variable {S : Surroundings} {α : Type} {eventId : String} {resolution : Resolution} {db : Db} {n : Nat}

theorem uncommitted_refl : Uncommitted eventId db n db n := ⟨.refl eventId db, rfl⟩

/-- An update of the record, outside a block, and the outcome that is returned after it. -/
theorem record_ends {f : FailedEventRow → FailedEventRow} {o : ReplayOutcome}
    (ho : ∀ db' m, Uncommitted eventId db n db' m → Reported eventId db n o db' m) :
    Ensures (Idle db n)
      (do
        query S (updateUnresolved eventId f)
        return (o, ([] : List StreamChannel)))
      (Exits eventId db n) := by
  obtain ⟨db', hrun⟩ : ∃ db', updateUnresolved eventId f db = .ok ((), db') := ⟨_, rfl⟩
  have hkept : Uncommitted eventId db n db' n := ⟨kept_updateUnresolved hrun, rfl⟩
  refine bind_ends (query_update hrun (.inl uncommitted_refl) (.inl hkept)) fun _ => ?_
  exact pure_ends fun s h => ho _ _ (h.inv hkept)

/-- An error that comes out of the block is still failing, and is nothing else. -/
theorem stillFails_ends (err : Failure) :
    Ensures (Torn db n fun db' => ∃ ev, Refolds eventId ev db db') (stillFails S eventId err)
      (Exits eventId db n) := by
  refine bind_ends (rollback_ends.post (Ends.mono (fun _ _ h => h) ?_)) fun _ => record_ends fun _ _ h => h
  rintro s (hat | ⟨hcommitted, -⟩)
  · exact .inl (hat.inv uncommitted_refl)
  · exact .inr hcommitted

theorem replayRow_ends (hS : S.Constructs) {row : EventRow}
    (hunresolved : (db.failed_events.lookup eventId).any (fun r => !r.resolved) = true)
    (hrow : db.events.lookup eventId = some row) :
    Ensures (Idle db n) (replayRow S eventId resolution row)
      (Exits eventId db n) := by
  rw [replayRow]
  split
  · exact record_ends fun _ _ h => h
  next hfolded =>
    rcases hd : toDecodedEvent eventId row with m | ev
    · exact fun s h => .inl (h.1.inv uncommitted_refl)
    · refine Ensures.tryCatch (R := Ends (fun p s => p.1 = .replayed ∧
          Committed n (fun db' => ∃ ev, Refolds eventId ev db db') s)
        (Torn db n fun db' => ∃ ev, Refolds eventId ev db db')) ?_ (fun p s h => ?_)
        (fun err => stillFails_ends err) fun s h => ?_
      · refine bind_ends (foldAgain_ends hS fun channels db' hrun => ⟨ev, ?_⟩) fun _ =>
          pure_ends fun _ h => ⟨rfl, h⟩
        exact refolds_of_replayTx hunresolved hrow (by simpa using hfolded) hd hrun
      · obtain ⟨hp, hcommitted⟩ := h
        change Reported eventId db n p.1 s.db s.commits
        rw [hp]
        exact hcommitted
      · rcases h with hat | ⟨hcommitted, -⟩
        · exact .inl (hat.inv uncommitted_refl)
        · exact .inr hcommitted

/-- What the call does under the lock. -/
theorem replayLocked_ends (hS : S.Constructs) : Ensures (Idle db n) (replayLocked S eventId resolution)
    (Exits eventId db n) := by
  refine bind_ends (R := fun unresolved s => Idle db n s ∧
      unresolved = (db.failed_events.lookup eventId).any fun r => !r.resolved) ?_ fun unresolved => ?_
  · exact select_ends _ (.inl uncommitted_refl)
  cases unresolved with
  | false => exact pure_ends fun s h => h.1.1.inv uncommitted_refl
  | true =>
    rintro s ⟨hidle, hunresolved⟩
    refine bind_ends (select_ends _ (.inl uncommitted_refl)) (fun row? => ?_) s hidle
    rintro s₁ ⟨hidle₁, hrow⟩
    cases row? with
    | none => exact .inl (hidle₁.1.inv uncommitted_refl)
    | some row => exact replayRow_ends hS hunresolved.symm hrow.symm s₁ hidle₁

/-- Releasing the lock touches nothing. -/
theorem unlock_ends {J : Db → Nat → Prop} :
    Ensures (fun s => J s.db s.commits) (unlock S) fun _ s => J s.db s.commits := by
  have hkeep : ∀ b : Backend, (statement (select fun _ => ()) b).2.db = b.db ∧
      (statement (select fun _ => ()) b).2.commits = b.commits := fun b => by
    rcases hblock : b.block with _ | work | _ <;> simp [statement, select, hblock]
  have hquery : Ensures (fun s => J s.db s.commits) (query S (select fun _ => ()))
      (Ends (fun _ s => J s.db s.commits) fun s => J s.db s.commits) := by
    refine Session.ensures_exchange (fun _ h => h) (fun s h => ?_) fun s _ s' h hrun => ?_
    · rw [(hkeep s.toBackend).1, (hkeep s.toBackend).2]
      exact h
    · have hb := hkeep s.toBackend
      rw [hrun] at hb
      rw [hb.1, hb.2]
      exact h
  exact Ensures.tryCatch (hquery.post fun o _ h => by cases o <;> exact h) (fun _ _ h => h)
    (fun _ => ensures_pure fun _ h => h) fun _ h => h

theorem withLock_ends {Q : α → Db → Nat → Prop} {I : Db → Nat → Prop} {body : Op Session Failure α}
    (hI : I db n) (hbody : Ensures (Idle db n) body (Ends (fun a s => Q a s.db s.commits) fun s => I s.db s.commits))
    (hQ : ∀ a db' m, Q a db' m → I db' m) : Ensures (Fresh db n) (withLock S eventId body)
      (Ends (fun a s => Q a s.db s.commits) fun s => I s.db s.commits) := by
  refine bind_ends (query_select (fun s _ => S.lock s.clock) hI) fun locked => ?_
  split
  · exact fun s h => h.1.1.inv hI
  · refine bind_ends (R := fun a s => Q a s.db s.commits) ?_ fun a => ?_
    · refine Ensures.tryCatch (hbody.mono (fun _ h => h.1) fun _ _ h => h) (fun _ _ h => h)
        (fun err => ?_) fun _ h => h
      exact Ensures.bind unlock_ends (fun _ => fun _ h => h) (fun _ _ h => h) fun _ h => h
    · exact Ensures.bind unlock_ends (fun _ => pure_ends fun _ h => h) (fun _ s h => hQ a _ _ h)
        fun s h => hQ a _ _ h

/-- The stream notifications after the call's own work. -/
theorem notify_ends {J : Db → Nat → Prop} (channels : List StreamChannel) :
    Ensures (fun s => J s.db s.commits) (forM channels fun _ => logged (await S.notify))
      (Ends (fun _ s => J s.db s.commits) fun s => J s.db s.commits) := by
  induction channels with
  | nil => exact fun _ h => h
  | cons channel channels ih =>
    exact bind_ends ((logged_ends S.notify).post (Ends.mono (fun _ _ h => h) fun _ h => h.1)) fun _ => ih

/-- **One call**, whatever the surroundings do to it. -/
theorem replayFailedEvent_ends (hS : S.Constructs) (eventId : String) (resolution : Resolution) :
    Ensures (At db n) (replayFailedEvent S eventId resolution)
      (Ends (fun o s => Reported eventId db n o s.db s.commits)
        fun s => Stopped eventId db n s.db s.commits) := by
  refine bind_ends (R := fun _ => Fresh db n) ?_ fun _ => ?_
  · refine Ensures.bind (await_ends (J := fun d m => d = db ∧ m = n) S.connect) (fun stuck => ?_)
      (fun _ s h => .inl (At.inv h.1 uncommitted_refl)) fun s h => .inl (At.inv h.1 uncommitted_refl)
    intro s h
    refine ⟨h.1, ?_⟩
    cases stuck with
    | true => exact .inr rfl
    | false => exact .inl rfl
  refine bind_ends (R := fun p s => Reported eventId db n p.1 s.db s.commits)
    (withLock_ends (.inl uncommitted_refl) (replayLocked_ends hS) fun p _ _ h => h.stopped) fun p => ?_
  exact bind_ends ((notify_ends p.2).post (Ends.mono (fun _ _ h => h) fun _ h => Reported.stopped h))
    fun _ => pure_ends fun _ h => h

end

/-- One call, exit by exit. -/
structure Atomic (eventId : String) (s : Session) (o : Outcome Failure ReplayOutcome) (s' : Session) :
    Prop where
  replayed : o = .done .replayed → ∃ ev, Refolds eventId ev s.db s'.db
  already_resolved : o = .done .already_resolved → Kept eventId s.db s'.db
  still_failing : ∀ error, o = .done (.still_failing error) → Kept eventId s.db s'.db
  /-- in particular when it threw, or its process died, before its `COMMIT` -/
  uncommitted : s'.commits = s.commits → Kept eventId s.db s'.db
  committed : s'.commits ≠ s.commits → ∃ ev, Refolds eventId ev s.db s'.db

theorem atomic_of_ends {eventId : String} {s s' : Session} {o : Outcome Failure ReplayOutcome}
    (h : Ends (fun o s' => Reported eventId s.db s.commits o s'.db s'.commits)
      (fun s' => Stopped eventId s.db s.commits s'.db s'.commits) o s') : Atomic eventId s o s' := by
  have hstopped : Stopped eventId s.db s.commits s'.db s'.commits := by
    cases o with
    | done o => exact Reported.stopped h
    | raised e => exact h
    | crashed => exact h
  refine ⟨?_, ?_, ?_, fun hn => ?_, fun hn => ?_⟩
  · rintro rfl
    exact h.1
  · rintro rfl
    exact h.1
  · rintro error rfl
    exact h.1
  · obtain ⟨hkept, -⟩ | ⟨-, hmore⟩ := hstopped
    · exact hkept
    · omega
  · obtain ⟨-, hsame⟩ | ⟨hfolds, -⟩ := hstopped
    · exact absurd hsame hn
    · exact hfolds

/-- Between `db` and `db'` the events `evs` were applied, once each, and are marked for good. -/
structure AppliedOnce (evs : List DecodedEvent) (db db' : Db) : Prop where
  applied : db'.applied = db.applied ++ evs
  effects : foldTables evs db.tables = .ok db'.tables
  once : (evs.map (·.id)).Nodup
  marked : ∀ ev ∈ evs, ∃ row, db'.events.lookup ev.id = some row ∧ row.folded = true

namespace AppliedOnce

variable {evs : List DecodedEvent} {db db₁ db₂ : Db} {eventId : String} {ev : DecodedEvent}

theorem nil (db : Db) : AppliedOnce [] db db := ⟨by simp, rfl, by simp, by simp⟩

theorem kept (h : AppliedOnce evs db db₁) (hk : Kept eventId db₁ db₂) : AppliedOnce evs db db₂ :=
  ⟨hk.applied ▸ h.applied, hk.tables ▸ h.effects, h.once, hk.events ▸ h.marked⟩

/-- A marked row is not folded again, so what is folded now was not folded before. -/
theorem refolds (h : AppliedOnce evs db db₁) (hr : Refolds eventId ev db₁ db₂) :
    AppliedOnce (evs ++ [ev]) db db₂ := by
  obtain ⟨row, hrow, hunfolded, -⟩ := hr.unmarked
  have hnew : ∀ e ∈ evs, e.id ≠ eventId := by
    rintro e he rfl
    obtain ⟨row', hrow', hfolded⟩ := h.marked e he
    rw [hrow] at hrow'
    cases hrow'
    simp [hunfolded] at hfolded
  refine ⟨?_, ?_, ?_, fun e he => ?_⟩
  · rw [hr.applied, h.applied, List.append_assoc]
  · obtain ⟨channels, happly⟩ := hr.effects
    exact foldTables_concat h.effects happly
  · rw [List.map_append]
    refine List.nodup_append_comm.mp (List.nodup_cons.mpr ⟨fun hmem => ?_, h.once⟩)
    obtain ⟨e, he, hid⟩ := List.mem_map.mp hmem
    exact hnew e he (hid.trans hr.id_eq)
  · rcases List.mem_append.mp he with he | he
    · obtain ⟨row', hrow', hfolded⟩ := h.marked e he
      exact ⟨row', by simp [hr.events, lookup_setFolded, hrow', hnew e he], hfolded⟩
    · obtain rfl : e = ev := by simpa using he
      exact hr.id_eq ▸ hr.marked

end AppliedOnce

section

variable {S : Surroundings}

/-- A call is one of the steps that the model without statements allows. -/
theorem replayFailedEvent_replayed (hS : S.Constructs) (eventId : String) (resolution : Resolution)
    (s : Session) :
    Replayed eventId s.db (replayFailedEvent S eventId resolution s).2.db := by
  have h := replayFailedEvent_ends hS eventId resolution s ⟨rfl, rfl⟩
  have hatomic := atomic_of_ends h
  by_cases hn : (replayFailedEvent S eventId resolution s).2.commits = s.commits
  · rw [(hatomic.uncommitted hn).rest]
    exact .recorded _
  · obtain ⟨ev, hr⟩ := hatomic.committed hn
    obtain ⟨row, hrow, hunfolded, hd⟩ := hr.unmarked
    obtain ⟨channels, happly⟩ := hr.effects
    have hfold : foldLogged ev s.db = .ok (channels, { s.db with
        tables := (replayFailedEvent S eventId resolution s).2.db.tables
        applied := s.db.applied ++ [ev]
        events := setFolded eventId s.db.events }) :=
      foldLogged_eq_ok.mpr ⟨_, happly, by rw [hr.id_eq]⟩
    have hreplayed := Replayed.folded (replayFailedEvent S eventId resolution s).2.db.failed_events hr.unresolved
      hrow hunfolded hd hfold
    rw [hr.rest]
    exact hreplayed

/-- Calls, one after the other, of any events. -/
theorem replays_once (hS : S.Constructs) (calls : List (String × Resolution)) {s₀ s : Session}
    {evs : List DecodedEvent} (h : AppliedOnce evs s₀.db s.db) :
    ∃ more, AppliedOnce (evs ++ more) s₀.db (replays S s calls).db ∧
      ∀ ev ∈ more, ev.id ∈ calls.map Prod.fst := by
  induction calls generalizing s evs with
  | nil => exact ⟨[], by simpa [replays] using h, by simp⟩
  | cons call calls ih =>
    rw [replays, List.foldl_cons, ← replays]
    have hatomic := atomic_of_ends (replayFailedEvent_ends hS call.1 call.2 s ⟨rfl, rfl⟩)
    by_cases hn : (replayFailedEvent S call.1 call.2 s).2.commits = s.commits
    · obtain ⟨more, honce, hasked⟩ := ih (h.kept (hatomic.uncommitted hn))
      exact ⟨more, honce, fun ev hev => List.mem_cons_of_mem _ (hasked ev hev)⟩
    · obtain ⟨ev, hr⟩ := hatomic.committed hn
      obtain ⟨more, honce, hasked⟩ := ih (h.refolds hr)
      refine ⟨ev :: more, by simpa using honce, fun e he => ?_⟩
      rcases List.mem_cons.mp he with rfl | he
      · exact List.mem_cons.mpr (.inl hr.id_eq)
      · exact List.mem_cons_of_mem _ (hasked e he)

/-- **Replay is atomic and idempotent**: of any number of calls each event is applied at most once, with
its effects on top of what was there; and each call, whatever happens to any of its statements, keeps
what its outcome says. -/
theorem replay_atomic_idempotent (hS : S.Constructs) (s : Session) :
    (∀ calls, ∃ evs, AppliedOnce evs s.db (replays S s calls).db ∧ ∀ ev ∈ evs, ev.id ∈ calls.map Prod.fst) ∧
      ∀ calls eventId resolution, Atomic eventId (replays S s calls)
        (replayFailedEvent S eventId resolution (replays S s calls)).1
        (replayFailedEvent S eventId resolution (replays S s calls)).2 :=
  ⟨fun calls => replays_once hS calls (.nil s.db),
    fun _ _ _ => atomic_of_ends (replayFailedEvent_ends hS _ _ _ ⟨rfl, rfl⟩)⟩

end

/-- Every wait is answered, with no Redis configured. -/
def Surroundings.healthy : Surroundings where
  connect _ := .done false
  fate _ := .answered
  lock _ := true
  unfinished _ := none
  unqueryable := "Client has encountered a connection error and is not queryable"
  getClient _ := .done false
  redis _ := .done ()
  notify _ := .done ()

/-- One event in the log that was never folded, and its record. -/
def quarantinedOne : Db :=
  { Db.empty with
    events := Db.empty.events.insert "e" {
      ledger := 7, closed_at := 0, contract_id := "C", symbol := "exited", topics := .arr [],
      data := .arr [.str (.ofString "GA"), .str (.ofString "5")], tx_hash := none, decode_error := none }
    failed_events := Db.empty.failed_events.insert "e" { symbol := "exited", ledger := 7, error := "boom" } }

/-- The answer to the first call's `COMMIT` is lost after it was carried out. -/
def Surroundings.answerLost : Surroundings :=
  { Surroundings.healthy with
    fate := fun n => if n = 8 then .lost "Connection terminated unexpectedly" true else .answered }

/-- That call throws, out of its `ROLLBACK`; the next one finds the event resolved. -/
theorem replay_answer_lost :
    (replayFailedEvent .answerLost "e" .resolved { db := quarantinedOne }).1 =
        .raised (.error "Client has encountered a connection error and is not queryable") ∧
      (∃ ev, Refolds "e" ev quarantinedOne (replays .answerLost { db := quarantinedOne } [("e", .resolved)]).db) ∧
      (replayFailedEvent .answerLost "e" .ignored
        (replays .answerLost { db := quarantinedOne } [("e", .resolved)])).1 = .done .already_resolved := by
  have hS : Surroundings.answerLost.Constructs := fun n e h => by cases h
  obtain ⟨-, hcalls⟩ := replay_atomic_idempotent hS { db := quarantinedOne }
  exact ⟨by decide +kernel, (hcalls [] "e" .resolved).committed (by decide +kernel), by decide +kernel⟩

end OurDao.Replays
