import Mathlib.Data.Prod.Lex
import OurDao.Effects
import OurDao.Ingest
import OurDao.Keyset

/-!
# Rebuilding and replaying

`reindexFromEventLog` truncates the derived tables and applies the whole raw log
again, in (ledger, id) order, page by page. `replayFailedEvent` applies one
quarantined event on top of what is there.
-/

namespace OurDao

open Faults Op

/-- `ORDER BY ledger ASC, id ASC`. -/
def logKey (r : String × EventRow) : ℕ ×ₗ String := toLex (r.2.ledger, r.1)

/-- The notifications their recipients have read. -/
def savedReads (t : Tables) : List (String × String) :=
  ((Table.rows t.notifications).filter (·.2.read)).map Prod.fst

def markRead (t : Table (String × String) NotificationRow) (key : String × String) :
    Table (String × String) NotificationRow :=
  match t.lookup key with
  | some row => t.insert key { row with read := true }
  | none => t

def restoreReads (reads : List (String × String)) (t : Tables) : Tables :=
  { t with notifications := reads.foldl markRead t.notifications }

/-- What the loop over the log has done so far. -/
structure Rebuilt where
  db : Db
  touchedChannels : List StreamChannel := []
  processed : Nat := 0

/-- Adding to a set that keeps the order of insertion. -/
def addChannels (touched channels : List StreamChannel) : List StreamChannel :=
  channels.foldl (fun t c => if c ∈ t then t else t ++ [c]) touched

/-- One row of the log applied again; its `folded_at` is not looked at. -/
def rebuildRow (s : Rebuilt) (row : String × EventRow) : Except Failure Rebuilt :=
  match toDecodedEvent row.1 row.2 with
  | .error m => .error (.error m)
  | .ok ev =>
    match foldEvent ev s.db with
    | .error e => .error e
    | .ok (channels, db) =>
      .ok { db, touchedChannels := addChannels s.touchedChannels channels, processed := s.processed + 1 }

def FailedEventRow.resolve (resolution : Resolution) (row : FailedEventRow) : FailedEventRow :=
  if row.resolved then row else { row with resolved := true, resolution := some resolution }

def ReorgHalt.clear (clearedBy : String) (halt : ReorgHalt) : ReorgHalt :=
  if halt.cleared_by.isSome then halt else { halt with cleared_by := some clearedBy }

/-- Clearing leaves none open. -/
theorem ReorgHalt.filter_clear (clearedBy : String) (halts : List ReorgHalt) :
    (halts.map (ReorgHalt.clear clearedBy)).filter (·.cleared_by.isNone) = [] := by
  simp only [List.filter_eq_nil_iff, List.mem_map]
  rintro _ ⟨halt, -, rfl⟩
  rw [ReorgHalt.clear]
  split
  next h => simpa using Option.ne_none_iff_isSome.mpr h
  next => simp

/-- The loop over the log, a page at a time. -/
def rebuildFrom (events : Table String EventRow) (batchSize : Nat) (db : Db) : Except Failure Rebuilt :=
  Keyset.scan logKey (Table.rows events) batchSize rebuildRow ((Table.rows events).length + 1) none
    { db }

theorem logKey_nodup (events : Table String EventRow) : ((Table.rows events).map logKey).Nodup := by
  have h : (((Table.rows events).map logKey).map fun k => (ofLex k).2).Nodup := by
    simpa [List.map_map, Function.comp_def, logKey] using Table.rows_keys_nodup events
  exact h.of_map

/-- The log in the order of a rebuild. -/
def orderedLog (events : Table String EventRow) : List (String × EventRow) :=
  Keyset.ordered logKey (Table.rows events)

/-- Whatever the page size, the loop applies every row of the log once, in order. -/
theorem rebuildFrom_eq (events : Table String EventRow) {batchSize : Nat} (hb : 1 ≤ batchSize) (db : Db) :
    rebuildFrom events batchSize db = (orderedLog events).foldlM rebuildRow { db } :=
  Keyset.scan_eq (logKey_nodup events) hb rebuildRow (Nat.lt_succ_self _) _

theorem rebuildRow_eq_ok {s s' : Rebuilt} {row : String × EventRow} :
    rebuildRow s row = .ok s' ↔ ∃ ev channels tables, toDecodedEvent row.1 row.2 = .ok ev ∧
      applyEvent ev s.db.tables = .ok (channels, tables) ∧
      s' = { db := { s.db with tables, applied := s.db.applied ++ [ev] }
             touchedChannels := addChannels s.touchedChannels channels
             processed := s.processed + 1 } := by
  rcases hd : toDecodedEvent row.1 row.2 with m | ev
  · simp [rebuildRow, hd]
  · rcases ha : applyEvent ev s.db.tables with e | ⟨channels, tables⟩ <;>
      simp [rebuildRow, foldEvent, hd, ha, eq_comm]

/-- The rows `rows` decode to the events `evs`, one by one. -/
abbrev Decode (rows : List (String × EventRow)) (evs : List DecodedEvent) : Prop :=
  List.Forall₂ (fun r ev => toDecodedEvent r.1 r.2 = .ok ev) rows evs

/-- A rebuild over some rows is the fold of the events they decode to. -/
theorem rebuildRows_eq_ok {rows : List (String × EventRow)} {s s' : Rebuilt}
    (h : rows.foldlM rebuildRow s = .ok s') : ∃ evs, Decode rows evs ∧
      foldTables evs s.db.tables = .ok s'.db.tables ∧
      s'.db = { s.db with tables := s'.db.tables, applied := s.db.applied ++ evs } ∧
      s'.processed = s.processed + rows.length := by
  induction rows generalizing s with
  | nil => cases h; exact ⟨[], .nil, rfl, by simp, rfl⟩
  | cons row rows ih =>
    obtain ⟨s₁, h₁, h₂⟩ := Reorder.foldlM_cons_ok.mp h
    obtain ⟨ev, channels, tables, hd, ha, rfl⟩ := rebuildRow_eq_ok.mp h₁
    obtain ⟨evs, hds, hfold, hdb, hn⟩ := ih h₂
    refine ⟨ev :: evs, .cons hd hds, foldTables_cons_ok.mpr ⟨channels, tables, ha, hfold⟩, ?_, ?_⟩
    · rw [hdb]; simp
    · rw [hn]; simp only [List.length_cons]; omega

theorem rebuildRows_of_fold {rows : List (String × EventRow)} {evs : List DecodedEvent}
    (hd : Decode rows evs) {s : Rebuilt} {t : Tables} (hf : foldTables evs s.db.tables = .ok t) :
    ∃ s', rows.foldlM rebuildRow s = .ok s' ∧ s'.db.tables = t := by
  induction hd generalizing s with
  | nil => cases hf; exact ⟨s, rfl, rfl⟩
  | cons hd _ ih =>
    obtain ⟨channels, t₁, ha, hrest⟩ := foldTables_cons_ok.mp hf
    obtain ⟨s₁, hrow, hs₁⟩ : ∃ s₁, rebuildRow s _ = .ok s₁ ∧ s₁.db.tables = t₁ :=
      ⟨_, rebuildRow_eq_ok.mpr ⟨_, channels, t₁, hd, ha, rfl⟩, rfl⟩
    obtain ⟨s', hs', ht⟩ := ih (hs₁ ▸ hrest)
    exact ⟨s', Reorder.foldlM_cons_ok.mpr ⟨s₁, hrow, hs'⟩, ht⟩

theorem toDecodedEvent_id {id : String} {row : EventRow} {ev : DecodedEvent}
    (h : toDecodedEvent id row = .ok ev) : ev.id = id := by
  simp only [toDecodedEvent, bind, Except.bind] at h
  split at h
  · cases h
  · cases h; rfl

theorem Decode.ids {rows : List (String × EventRow)} {evs : List DecodedEvent} (h : Decode rows evs) :
    evs.map (·.id) = rows.map Prod.fst := by
  induction h with
  | nil => rfl
  | cons hd _ ih => rw [List.map_cons, List.map_cons, toDecodedEvent_id hd, ih]

theorem Decode.mem {rows : List (String × EventRow)} {evs : List DecodedEvent} (h : Decode rows evs)
    {ev : DecodedEvent} (hev : ev ∈ evs) : ∃ r ∈ rows, toDecodedEvent r.1 r.2 = .ok ev := by
  induction h with
  | nil => cases hev
  | @cons r _ _ _ hd _ ih =>
    rcases List.mem_cons.mp hev with rfl | hev
    · exact ⟨r, List.mem_cons_self, hd⟩
    · obtain ⟨r, hr, hd⟩ := ih hev
      exact ⟨r, List.mem_cons_of_mem _ hr, hd⟩

/-- Nothing to restore when nothing was read. -/
theorem savedReads_of_unread {t : Tables} (h : Unread t) : savedReads t = [] := by
  have hfilter : (Table.rows t.notifications).filter (·.2.read) = [] := by
    rw [List.filter_eq_nil_iff]
    rintro ⟨k, row⟩ hrow
    simp [h k row (Table.mem_rows.mp hrow)]
  simp [savedReads, hfilter]

/-- The transaction of a rebuild from `TRUNCATE` on, with the reads that were saved before. -/
def rebuildWith (reads : List (String × String)) (batchSize : Int) : Tx Rebuilt := fun db =>
  match rebuildFrom db.events (max 1 batchSize).toNat db.truncate with
  | .error e => .error e
  | .ok s =>
    .ok (s, { s.db with
      tables := restoreReads reads s.db.tables
      failed_events := Table.mapRows (fun _ => FailedEventRow.resolve .resolved) s.db.failed_events
      reorg_halts := s.db.reorg_halts.map (ReorgHalt.clear "reindex") })

/-- The transaction of a rebuild. -/
def reindexTx (batchSize : Int) : Tx Rebuilt := fun db =>
  match rebuildFrom db.events (max 1 batchSize).toNat db.truncate with
  | .error e => .error e
  | .ok s =>
    .ok (s, { s.db with
      tables := restoreReads (savedReads db.tables) s.db.tables
      failed_events := Table.mapRows (fun _ => FailedEventRow.resolve .resolved) s.db.failed_events
      reorg_halts := s.db.reorg_halts.map (ReorgHalt.clear "reindex") })

theorem reindexTx_eq (batchSize : Int) (db : Db) :
    reindexTx batchSize db = rebuildWith (savedReads db.tables) batchSize db := rfl

theorem one_le_batch (batchSize : Int) : 1 ≤ (max 1 batchSize).toNat := by omega

/-- A rebuild that commits leaves the fold of the whole log, in order, and the saved reads. -/
theorem rebuildWith_eq_ok {reads : List (String × String)} {batchSize : Int} {db db' : Db} {s : Rebuilt}
    (h : rebuildWith reads batchSize db = .ok (s, db')) : ∃ evs t, Decode (orderedLog db.events) evs ∧
      foldTables evs Tables.empty = .ok t ∧ s.processed = (Table.rows db.events).length ∧
      db' = { db with
        tables := restoreReads reads t
        applied := evs
        failed_events := Table.mapRows (fun _ => FailedEventRow.resolve .resolved) db.failed_events
        reorg_halts := db.reorg_halts.map (ReorgHalt.clear "reindex") } := by
  rw [rebuildWith, rebuildFrom_eq _ (one_le_batch batchSize)] at h
  rcases hs : (orderedLog db.events).foldlM rebuildRow { db := db.truncate } with e | s₁ <;>
    rw [hs] at h <;> cases h
  obtain ⟨evs, hd, hf, hdb, hn⟩ := rebuildRows_eq_ok hs
  refine ⟨evs, s.db.tables, hd, hf, ?_, ?_⟩
  · rw [hn]
    simpa [orderedLog] using (Keyset.ordered_perm logKey (Table.rows db.events)).length_eq
  · rw [hdb]
    simp [Db.truncate]

theorem reindexTx_eq_ok {batchSize : Int} {db db' : Db} {s : Rebuilt}
    (h : reindexTx batchSize db = .ok (s, db')) : ∃ evs t, Decode (orderedLog db.events) evs ∧
      foldTables evs Tables.empty = .ok t ∧ s.processed = (Table.rows db.events).length ∧
      db' = { db with
        tables := restoreReads (savedReads db.tables) t
        applied := evs
        failed_events := Table.mapRows (fun _ => FailedEventRow.resolve .resolved) db.failed_events
        reorg_halts := db.reorg_halts.map (ReorgHalt.clear "reindex") } :=
  rebuildWith_eq_ok (reindexTx_eq batchSize db ▸ h)

theorem reindexTx_of_fold (batchSize : Int) {db : Db} {evs : List DecodedEvent} {t : Tables}
    (hd : Decode (orderedLog db.events) evs) (hf : foldTables evs Tables.empty = .ok t) :
    ∃ s db', reindexTx batchSize db = .ok (s, db') := by
  obtain ⟨s, hs, -⟩ := rebuildRows_of_fold hd (s := { db := db.truncate }) hf
  rw [reindexTx, rebuildFrom_eq _ (one_le_batch batchSize), hs]
  exact ⟨_, _, rfl⟩

section

variable {ρ : Type} (E : Environment ρ)

def reindexFromEventLog (batchSize : Option Int) : Proc ρ Nat := do
  let s ← withLock E
    ("Cannot acquire reindex advisory lock (0x0d400001). Another reindex is in progress or the " ++
      "indexer worker is currently folding events. Stop the indexer worker before running reindex.")
    (transaction E (reindexTx (batchSize.getD 1000)))
  announce E (s.touchedChannels.map (·, "reindex"))
  return s.processed

inductive ReplayOutcome where
  | replayed
  | already_resolved
  | still_failing (error : String)
  deriving DecidableEq, Repr

/-- `UPDATE failed_events SET … WHERE event_id = … AND resolved_at IS NULL`. -/
def whereUnresolved (eventId : String) (f : FailedEventRow → FailedEventRow)
    (failed : Table String FailedEventRow) : Table String FailedEventRow :=
  match failed.lookup eventId with
  | some row => if row.resolved then failed else failed.insert eventId (f row)
  | none => failed

def updateUnresolved (eventId : String) (f : FailedEventRow → FailedEventRow) : Tx Unit :=
  modify fun db => { db with failed_events := whereUnresolved eventId f db.failed_events }

/-- The transaction of a replay. -/
def replayTx (eventId : String) (resolution : Resolution) (ev : DecodedEvent) :
    Tx (List StreamChannel) := do
  let channels ← foldLogged ev
  updateUnresolved eventId (FailedEventRow.resolve resolution)
  return channels

theorem replayTx_eq_ok {eventId : String} {resolution : Resolution} {ev : DecodedEvent} {db db' : Db}
    {channels : List StreamChannel} : replayTx eventId resolution ev db = .ok (channels, db') ↔
      ∃ db₁, foldLogged ev db = .ok (channels, db₁) ∧ db' = { db₁ with
        failed_events := whereUnresolved eventId (.resolve resolution) db₁.failed_events } := by
  rw [replayTx, bind_eq_ok]
  constructor
  · rintro ⟨c, db₁, hf, h⟩
    cases h
    exact ⟨db₁, hf, rfl⟩
  · rintro ⟨db₁, hf, rfl⟩
    exact ⟨channels, db₁, hf, rfl⟩

/-- A replay that failed: only the error of the record changes. -/
def stillFailing (eventId : String) (err : Failure) : Proc ρ (ReplayOutcome × List StreamChannel) := do
  ask E.statement -- ROLLBACK, whose own failure is not caught
  transaction E (updateUnresolved eventId fun r => { r with error := err.message })
  return (.still_failing err.message, [])

/-- Re-fold a row that is logged: bookkeeping only, when it is marked as folded. -/
def replayRow (eventId : String) (resolution : Resolution) (row : EventRow) :
    Proc ρ (ReplayOutcome × List StreamChannel) :=
  if row.folded then do
    transaction E (updateUnresolved eventId (FailedEventRow.resolve resolution))
    return (.already_resolved, [])
  else
    match toDecodedEvent eventId row with
    | .error m => throw (.error m)
    | .ok ev =>
      tryCatch
        (do
          let channels ← transaction E (replayTx eventId resolution ev)
          return (.replayed, channels))
        (stillFailing E eventId)

/-- What a replay does under the lock. -/
def replayLocked (eventId : String) (resolution : Resolution) :
    Proc ρ (ReplayOutcome × List StreamChannel) := do
  let unresolved ← transaction E fun db =>
    .ok ((db.failed_events.lookup eventId).any fun r => !r.resolved, db)
  if !unresolved then return (.already_resolved, [])
  else do
    let row? ← transaction E fun db => .ok (db.events.lookup eventId, db)
    match row? with
    | none =>
      throw (.error (s!"event {eventId} has an unresolved failed_events record but no matching " ++
        "row in events — data inconsistency, investigate manually"))
    | some row => replayRow E eventId resolution row

/-- Re-fold exactly one event by its raw id, and mark its record resolved on success. -/
def replayFailedEvent (eventId : String) (resolution : Resolution) : Proc ρ ReplayOutcome := do
  let (outcome, channels) ← withLock E
    (s!"Cannot replay event {eventId}: reindex or the live indexer worker is currently folding " ++
      "events (advisory lock 0x0d400001 held). Stop the indexer worker (or wait for the reindex to " ++
      "finish) and retry.")
    (replayLocked E eventId resolution)
  announce E (channels.map (·, "replay"))
  return outcome

/-- What a replay may do to the database: it touches the records of failures, and it may fold the
unmarked row of an unresolved record. -/
inductive Replayed (eventId : String) (db : Db) : Db → Prop
  | recorded (failed : Table String FailedEventRow) : Replayed eventId db { db with failed_events := failed }
  | folded {row : EventRow} {ev : DecodedEvent} {channels : List StreamChannel} {db₁ : Db}
      (failed : Table String FailedEventRow) :
      (db.failed_events.lookup eventId).any (fun r => !r.resolved) = true → db.events.lookup eventId = some row →
      row.folded = false → toDecodedEvent eventId row = .ok ev → foldLogged ev db = .ok (channels, db₁) →
      Replayed eventId db { db₁ with failed_events := failed }

variable {E}

theorem updateUnresolved_replayed {db : Db} {eventId : String} (f : FailedEventRow → FailedEventRow) :
    Ensures (fun w : World ρ => w.db = db) (transaction E (updateUnresolved eventId f))
      fun _ w => Replayed eventId db w.db := by
  refine ensures_transaction drifts_same ?_ (fun w _ h => h ▸ .recorded w.db.failed_events)
    fun w h => h ▸ .recorded w.db.failed_events
  intro w _ db' h hu
  cases hu
  exact h ▸ .recorded _

theorem replayRow_replayed {db : Db} {eventId : String} (resolution : Resolution) {row : EventRow}
    (hunresolved : (db.failed_events.lookup eventId).any (fun r => !r.resolved) = true)
    (hrow : db.events.lookup eventId = some row) :
    Ensures (fun w : World ρ => w.db = db) (replayRow E eventId resolution row)
      fun _ w => Replayed eventId db w.db := by
  have hsame : ∀ w : World ρ, w.db = db → Replayed eventId db w.db := fun w h => h ▸ .recorded w.db.failed_events
  rw [replayRow]
  split
  · exact Ensures.bind (updateUnresolved_replayed _) (fun _ => ensures_pure fun _ h => h) (fun _ _ h => h)
      fun _ h => h
  next hfolded =>
    rcases hd : toDecodedEvent eventId row with m | ev
    · exact ensures_throw hsame
    · refine Ensures.tryCatch (R := fun o w => Replayed eventId db w.db ∧ ((∃ e, o = .raised e) → w.db = db)) ?_
        (fun _ _ h => h.1) (fun err => ?_) fun _ h => h.1
      · refine Ensures.bind (R := fun o w => Replayed eventId db w.db ∧ ((∃ e, o = .raised e) → w.db = db)) ?_
          (fun _ => ensures_pure fun _ h => ⟨h.1, by simp⟩) (fun _ _ h => ⟨h.1, fun _ => h.2 ⟨_, rfl⟩⟩)
          fun _ h => ⟨h.1, by simp⟩
        refine ensures_transaction drifts_same ?_ (fun w _ h => ⟨hsame w h, fun _ => h⟩)
          fun w h => ⟨hsame w h, by simp⟩
        intro w channels db' h hr
        obtain ⟨db₁, hf, rfl⟩ := replayTx_eq_ok.mp hr
        rw [h] at hf
        exact ⟨.folded _ hunresolved hrow (by simpa using hfolded) hd hf, by simp⟩
      · refine Ensures.mono (P := fun w => w.db = db) ?_ (fun _ h => h.2 ⟨_, rfl⟩) fun _ _ h => h
        refine Ensures.bind (keeps_statement drifts_same) (fun _ => ?_) (fun _ w h => hsame w h) hsame
        exact Ensures.bind (updateUnresolved_replayed _) (fun _ => ensures_pure fun _ h => h) (fun _ _ h => h)
          fun _ h => h

/-- **What a replay does**, however it ends. -/
theorem replayFailedEvent_replayed {db : Db} (eventId : String) (resolution : Resolution) :
    Ensures (fun w : World ρ => w.db = db) (replayFailedEvent E eventId resolution)
      fun _ w => Replayed eventId db w.db := by
  have hsame : ∀ w : World ρ, w.db = db → Replayed eventId db w.db := fun w h => h ▸ .recorded w.db.failed_events
  have hdrift : Drifts E fun w => Replayed eventId db w.db := drifts_db
  refine Ensures.bind (R := fun _ w => Replayed eventId db w.db) ?_ (fun p => ?_) (fun _ _ h => h) fun _ h => h
  · refine ensures_withLock drifts_same ?_ (fun _ => hdrift) (fun _ w h => hsame w h) hsame fun _ _ h => h
    refine Ensures.bind (ensures_read _) (fun unresolved => ?_) (fun _ w h => hsame w h.1) fun w h => hsame w h.1
    cases unresolved with
    | false => exact ensures_pure fun w h => hsame w h.1
    | true =>
      rintro w ⟨hw, hunresolved⟩
      refine Ensures.bind (Q := fun _ w => Replayed eventId db w.db) (ensures_read _) (fun row? => ?_)
        (fun _ w h => hsame w h.1) (fun w h => hsame w h.1) w hw
      rintro w₁ ⟨hw₁, hrow⟩
      cases row? with
      | none => exact hsame w₁ hw₁
      | some row =>
        exact replayRow_replayed resolution (hunresolved true rfl).symm (hrow _ rfl).symm w₁ hw₁
  · exact Ensures.bind (keeps_announce hdrift _) (fun _ => ensures_pure fun _ h => h) (fun _ _ h => h) fun _ h => h

/-- A rebuild commits its transaction, or leaves the database as it was. -/
theorem reindexFromEventLog_db {db : Db} (batchSize : Option Int) :
    Ensures (fun w : World ρ => w.db = db) (reindexFromEventLog E batchSize) fun _ w =>
      w.db = db ∨ ∃ s, reindexTx (batchSize.getD 1000) db = .ok (s, w.db) := by
  have hdrift : Drifts E fun w : World ρ => w.db = db ∨ ∃ s, reindexTx (batchSize.getD 1000) db = .ok (s, w.db) :=
    drifts_db (I := fun db' => db' = db ∨ ∃ s, reindexTx (batchSize.getD 1000) db = .ok (s, db'))
  refine Ensures.bind (R := fun _ w => w.db = db ∨ ∃ s, reindexTx (batchSize.getD 1000) db = .ok (s, w.db)) ?_
    (fun s => ?_) (fun _ _ h => h) fun _ h => h
  · refine ensures_withLock drifts_same ?_ (fun _ => hdrift) (fun _ _ h => .inl h) (fun _ h => .inl h) fun _ _ h => h
    refine ensures_transaction drifts_same (fun w s db' h hr => ?_) (fun _ _ h => .inl h) fun _ h => .inl h
    exact .inr ⟨s, h ▸ hr⟩
  · exact Ensures.bind (keeps_announce hdrift _) (fun _ => ensures_pure fun _ h => h) (fun _ _ h => h) fun _ h => h

/-- With a healthy database a rebuild that can commit does, and returns. -/
theorem reindexFromEventLog_returns (hE : E.Healthy) {batchSize : Option Int} {db db' : Db} {s : Rebuilt}
    (hr : reindexTx (batchSize.getD 1000) db = .ok (s, db')) :
    Returns (fun w : World ρ => w.db = db) (reindexFromEventLog E batchSize)
      fun n w => n = s.processed ∧ w.db = db' := by
  have hdrift : ∀ s₁ : Rebuilt, Drifts E fun w : World ρ => s₁ = s ∧ w.db = db' := fun s₁ =>
    drifts_db (I := fun d => s₁ = s ∧ d = db')
  have htx : Returns (fun w : World ρ => w.db = db) (transaction E (reindexTx (batchSize.getD 1000)))
      fun s₁ w => s₁ = s ∧ w.db = db' := by
    refine hE.returns_transaction drifts_same fun w hw => ⟨s, db', ?_, rfl, rfl⟩
    rw [hw]
    exact hr
  refine (hE.returns_withLock drifts_same htx hdrift).bind fun s₁ => ?_
  exact (hE.returns_announce (hdrift s₁) _).bind fun _ => returns_pure fun _ h => ⟨by rw [h.1], h.2⟩

variable (E)

/-- `SELECT DISTINCT event_id … WHERE resolved_at IS NULL ORDER BY event_id`. -/
def unresolvedIds (db : Db) : List String :=
  (((Table.rows db.failed_events).filter fun r => !r.2.resolved).map Prod.fst).insertionSort (· ≤ ·)

def replayEach : List String → Proc ρ (List (String × ReplayOutcome))
  | [] => return []
  | id :: ids => do
    let outcome ← replayFailedEvent E id .resolved
    return (id, outcome) :: (← replayEach ids)

/-- Replay every currently unresolved event, one at a time. -/
def replayAllUnresolvedFailedEvents : Proc ρ (List (String × ReplayOutcome)) := do
  let ids ← transaction E fun db => .ok (unresolvedIds db, db)
  replayEach E ids

end

end OurDao
