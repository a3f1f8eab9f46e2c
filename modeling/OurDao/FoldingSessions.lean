import OurDao.Notifications
import OurDao.Poller
import OurDao.Turns

/-!
# Folding from many sessions

Any number of workers, rebuilds, replays and resets on one database, each sending its statements
under the advisory lock, and others who write read flags and bookkeeping without it. What the
transactions of an operation keep is kept however the sessions are interleaved, and so
every event is folded exactly once.
-/

namespace OurDao

open Turns

/-- The tables with every notification unread: whoever reads one marks it without the lock. -/
def clearReads (t : Tables) : Tables :=
  { t with notifications := Table.mapRows (fun _ row => { row with read := false }) t.notifications }

/-- The raw log and the derived tables, read flags aside. -/
def Db.guarded (db : Db) : Db where
  tables := clearReads db.tables
  applied := db.applied
  events := db.events

/-- A statement that does to the guarded part what it does to the whole. -/
def Framed {α : Type} (body : Tx α) : Prop :=
  ∀ db a db', body db = .ok (a, db') → body db.guarded = .ok (a, db'.guarded)

/-- A statement that leaves the guarded part alone. -/
def KeepsFold {α : Type} (body : Tx α) : Prop := ∀ db a db', body db = .ok (a, db') → db'.guarded = db.guarded

theorem mapRows_insert_new {κ ν : Type} [DecidableEq κ] (f : κ → ν → ν) {t : Table κ ν} {k : κ} {v : ν}
    (h : t.lookup k = none) : Table.mapRows f (t.insert k v) = (Table.mapRows f t).insert k (f k v) := by
  have hk : k ∉ t := AList.lookup_eq_none.mp h
  have hk' : k ∉ Table.mapRows f t := AList.lookup_eq_none.mp (by simp [h])
  have hentries : ∀ u : Table κ ν, (Table.mapRows f u).entries = u.entries.map (.map id f) := fun _ => rfl
  apply AList.ext
  rw [AList.entries_insert_of_notMem hk', hentries, hentries, AList.entries_insert_of_notMem hk]
  rfl

theorem mapRows_mapRows {κ ν : Type} (f h : κ → ν → ν) (t : Table κ ν) :
    Table.mapRows f (Table.mapRows h t) = Table.mapRows (fun k v => f k (h k v)) t := by
  apply AList.ext
  exact List.map_map

theorem mapRows_congr {κ ν : Type} [DecidableEq κ] {f h : κ → ν → ν} {t : Table κ ν}
    (hfh : ∀ k v, t.lookup k = some v → f k v = h k v) : Table.mapRows f t = Table.mapRows h t := by
  apply AList.ext
  refine List.map_congr_left fun r hr => ?_
  rw [Sigma.map, Sigma.map, hfh r.1 r.2 (AList.mem_lookup_iff.mpr hr)]

theorem clearReads_clearReads (t : Tables) : clearReads (clearReads t) = clearReads t := by
  rw [clearReads, clearReads, mapRows_mapRows]

@[simp] theorem guarded_guarded (db : Db) : db.guarded.guarded = db.guarded := by
  rw [Db.guarded, Db.guarded, clearReads_clearReads]

theorem clearReads_of_unread {t : Tables} (h : Unread t) : clearReads t = t := by
  have hsame : Table.mapRows (fun _ row => { row with read := false }) t.notifications =
      Table.mapRows (fun _ row => row) t.notifications := mapRows_congr fun k row hrow => by
    rw [← h k row hrow]
  have hid : Table.mapRows (fun _ row => row) t.notifications = t.notifications := by
    apply AList.ext
    exact List.map_id _
  rw [clearReads, hsame, hid]

theorem unread_clearReads (t : Tables) : Unread (clearReads t) := by
  intro k row hrow
  rw [clearReads, Table.lookup_mapRows, Option.map_eq_some_iff] at hrow
  obtain ⟨row₀, -, rfl⟩ := hrow
  rfl

theorem keepsFold_updateRead (p : String × String → NotificationRow → Bool) : KeepsFold (updateRead p) := by
  intro db rows db' h
  cases h
  simp only [Db.guarded, clearReads, mapRows_mapRows]
  congr 3
  funext k row
  split <;> rfl

theorem keepsFold_updateUnresolved (eventId : String) (f : FailedEventRow → FailedEventRow) :
    KeepsFold (updateUnresolved eventId f) := by
  intro db a db' h
  cases h
  rfl

theorem statements_clearReads : Statements (fun _ => True) fun m m' =>
    ∀ t a t', m t = .ok (a, t') → m' (clearReads t) = .ok (a, clearReads t') where
  pure a t b t' h := by
    cases h
    rfl
  bind hm hf t b t' h := by
    obtain ⟨a, t₁, h₁, h₂⟩ := Faults.bind_eq_ok.mp h
    exact Faults.bind_eq_ok.mpr ⟨a, clearReads t₁, hm _ _ _ h₁, hf a _ _ _ h₂⟩
  liftBind {_ _ x y f f'} _ hxy hf t b t' h := by
    cases x with
    | error m => cases h
    | ok a =>
      rw [hxy a rfl]
      exact hf a rfl t b t' h
  member _ := ⟨fun t a t' h => by cases h; rfl, fun row t a t' h => by cases h; rfl⟩
  loanProposal _ := ⟨fun t a t' h => by cases h; rfl, fun row t a t' h => by cases h; rfl⟩
  loan _ := ⟨fun t a t' h => by cases h; rfl, fun row t a t' h => by cases h; rfl⟩
  treasury _ := ⟨fun t a t' h => by cases h; rfl, fun row t a t' h => by cases h; rfl⟩
  notification {id address row} _ hrow hread t a t' h := by
    cases h
    rcases hlook : t.notifications.lookup (id, address) with _ | old
    · have hcleared : { row (t.sequences.notifications + 1) with read := false } =
          row (t.sequences.notifications + 1) := by rw [hrow, ← hread]
      simp [Sql.insertNotification, modify, modifyGet, MonadStateOf.modifyGet, StateT.modifyGet, clearReads, hlook,
        mapRows_insert_new _ hlook, hcleared]
      rfl
    · simp [Sql.insertNotification, modify, modifyGet, MonadStateOf.modifyGet, StateT.modifyGet, clearReads, hlook]
      rfl
  interest _ _ t a t' h := by
    simp only [Sql.insertInterest] at h
    split at h <;> cases h
    next hold => exact if_pos hold
    next hnew => exact if_neg hnew
  document {id row} _ _ t a t' h := by
    cases h
    rcases hlook : t.documents.lookup id with _ | old <;>
      simp [Sql.insertDocument, modify, modifyGet, MonadStateOf.modifyGet, StateT.modifyGet, clearReads, hlook] <;>
      rfl
  totals delta t a t' h := by
    simp only [Sql.addTotals] at h
    split at h <;> cases h
    next hfits => exact if_pos hfits
  daily day delta t a t' h := by
    simp only [Sql.addDaily] at h
    split at h <;> cases h
    next hfits => exact if_pos hfits

/-- What an event does to the tables does not depend on what was read, but for the flags themselves. -/
theorem applyEvent_clearReads {ev : DecodedEvent} {t t' : Tables} {channels : List StreamChannel}
    (h : applyEvent ev t = .ok (channels, t')) : applyEvent ev (clearReads t) = .ok (channels, clearReads t') :=
  statements_clearReads.applyEvent (.refl ev) (fun _ _ => trivial) t channels t' h

theorem framed_foldEvent (ev : DecodedEvent) : Framed (foldEvent ev) := by
  intro db channels db' h
  obtain ⟨tables, happly, rfl⟩ := foldEvent_eq_ok.mp h
  exact foldEvent_eq_ok.mpr ⟨_, applyEvent_clearReads happly, rfl⟩

theorem framed_markFolded (id : String) : Framed (markFolded id) := by
  intro db a db' h
  cases h
  rfl

theorem framed_insertRawEvent (ev : DecodedEvent) : Framed (insertRawEvent ev) := by
  intro db needsFold db' h
  obtain ⟨hfault, h | h⟩ := insertRawEvent_eq_ok.mp h
  · obtain ⟨row, hrow, hfolded, rfl⟩ := h
    exact insertRawEvent_eq_ok.mpr ⟨hfault, .inl ⟨row, hrow, hfolded, rfl⟩⟩
  · obtain ⟨hnone, hneeds, rfl⟩ := h
    exact insertRawEvent_eq_ok.mpr ⟨hfault, .inr ⟨hnone, hneeds, rfl⟩⟩

/-- A query of the raw log. -/
theorem framed_events {α : Type} (f : Table String EventRow → α) :
    Framed fun db => .ok (f db.events, db) := by
  intro db a db' h
  cases h
  rfl

abbrev Sends : Type 1 := Code Db Failure

/-- `ROLLBACK` in the `catch`, after which the error is thrown on. -/
def rollBack : Sends := .rollback .done

/-- The fold of one event and its mark, in a block; `failed` is what follows an error. -/
def sendFold (ev : DecodedEvent) (failed : Failure → Sends) (next : Sends) : Sends :=
  .query (foldEvent ev) fun
    | .error e => failed e
    | .ok _ => .query (markFolded ev.id) fun
      | .error e => failed e
      | .ok _ => next

/-- The loop of `ingestPage` over the events of a page. -/
def sendPage (lastLedger : Nat) : List EventResponse → Sends
  | [] => .commit fun
    | .error _ => rollBack
    | .ok _ => .done
  | raw :: events =>
    match decodeEvent raw with
    | .error _ => rollBack
    | .ok ev =>
      if rewound ev.ledger lastLedger then rollBack
      else .query (insertRawEvent ev) fun
        | .error _ => rollBack
        | .ok false => sendPage lastLedger events
        | .ok true => sendFold ev (fun _ => rollBack) (sendPage lastLedger events)

def sendIngestPage (events : List EventResponse) (lastLedger : Nat) : Sends :=
  .beginBlock fun
    | .error _ => rollBack
    | .ok _ => sendPage lastLedger events

/-- The failure is recorded on another connection. -/
def sendEventQuarantined (ev : DecodedEvent) : Sends :=
  .query (insertRawEvent ev) fun
    | .error _ => .done
    | .ok false => .done
    | .ok true => .beginBlock fun
      | .error _ => rollBack
      | .ok _ => sendFold ev (fun _ => rollBack) <| .commit fun
        | .error _ => rollBack
        | .ok _ => .done

def sendRows (next : Sends) : List (String × EventRow) → Sends
  | [] => next
  | row :: rows =>
    match toDecodedEvent row.1 row.2 with
    | .error _ => rollBack
    | .ok ev => .query (foldEvent ev) fun
      | .error _ => rollBack
      | .ok _ => sendRows next rows

def sendReads (next : Sends) : List (String × String) → Sends
  | [] => next
  | key :: reads => .query (updateRead fun k _ => decide (k = key)) fun
    | .error _ => rollBack
    | .ok _ => sendReads next reads

/-- The page of the log behind `last`. -/
def logPage (limit : Nat) (last : Option (ℕ ×ₗ String)) : Tx (List (String × EventRow)) := fun db =>
  .ok (Keyset.page logKey (Table.rows db.events) limit last, db)

/-- The loop of `reindexFromEventLog` over the log; `fuel` bounds the number of pages asked for. -/
def sendLog (limit : Nat) (finish : Sends) : Nat → Option (ℕ ×ₗ String) → Sends
  | 0, _ => rollBack
  | fuel + 1, last => .query (logPage limit last) fun
    | .error _ => rollBack
    | .ok [] => finish
    | .ok (r :: rs) => sendRows (sendLog limit finish fuel (some (logKey (rs.getLastD r)))) (r :: rs)

def resolveAll : Tx Unit := modify fun db =>
  { db with failed_events := Table.mapRows (fun _ => FailedEventRow.resolve .resolved) db.failed_events }

def clearHalts : Tx Unit := modify fun db =>
  { db with reorg_halts := db.reorg_halts.map (ReorgHalt.clear "reindex") }

def truncateTables : Tx Unit := modify Db.truncate

def countEvents : Tx Nat := fun db => .ok ((Table.rows db.events).length, db)

def sendReindex (batchSize : Int) : Sends :=
  .beginBlock fun
    | .error _ => rollBack
    -- the flags that were saved: notifications are marked as read without the lock
    | .ok _ => .ask fun reads : List (String × String) =>
      .query truncateTables fun
        | .error _ => rollBack
        | .ok _ => .query countEvents fun
          | .error _ => rollBack
          | .ok n => sendLog (max 1 batchSize).toNat (sendReads (.query resolveAll fun
            | .error _ => rollBack
            | .ok _ => .query clearHalts fun
              | .error _ => rollBack
              | .ok _ => .commit fun
                | .error _ => rollBack
                | .ok _ => .done) reads) (n + 1) none

/-- A replay that failed. -/
def sendStillFails (eventId : String) (err : Failure) : Sends :=
  .rollback <| .query (updateUnresolved eventId fun r => { r with error := err.message }) fun _ => .done

def sendReplay (eventId : String) (resolution : Resolution) : Sends :=
  -- `failed_events` is written without the lock
  .ask fun unresolved : Bool =>
    if !unresolved then .done
    else .query (fun db : Db => .ok (db.events.lookup eventId, db)) fun
      | .error _ => .done
      | .ok none => .done
      | .ok (some row) =>
        if row.folded then .query (updateUnresolved eventId (.resolve resolution)) fun _ => .done
        else
          match toDecodedEvent eventId row with
          | .error _ => .done
          | .ok ev => .beginBlock fun
            | .error e => sendStillFails eventId e
            | .ok _ => sendFold ev (sendStillFails eventId) <|
              .query (updateUnresolved eventId (.resolve resolution)) fun
                | .error e => sendStillFails eventId e
                | .ok _ => .commit fun
                  | .error e => sendStillFails eventId e
                  -- an error of the cache is caught with those of the block
                  | .ok _ => .ask fun err? : Option Failure => err?.elim .done (sendStillFails eventId)

/-- The lock goes with the block, whose `BEGIN` is sent just before the lock is asked for. -/
def sendReset : Sends :=
  .beginBlock fun
    | .error _ => rollBack
    | .ok _ => .query resetTx fun
      | .error _ => rollBack
      | .ok _ => .commit fun
        | .error _ => rollBack
        | .ok _ => .done

/-- The operations that take the advisory lock. -/
inductive Job where
  | ingestPage (events : List EventResponse) (lastLedger : Nat)
  | ingestEventQuarantined (ev : DecodedEvent)
  | reindexFromEventLog (batchSize : Int)
  | replayFailedEvent (eventId : String) (resolution : Resolution)
  | resetForContractChange

def Job.code : Job → Sends
  | .ingestPage events lastLedger => sendIngestPage events lastLedger
  | .ingestEventQuarantined ev => sendEventQuarantined ev
  | .reindexFromEventLog batchSize => sendReindex batchSize
  | .replayFailedEvent eventId resolution => sendReplay eventId resolution
  | .resetForContractChange => sendReset

section

variable {I : Db → Prop} {x work : Db} {α : Type}

theorem keeps_rollBack {b : View Db} : rollBack.Keeps Db.guarded I b x := Code.keeps_rollback Code.keeps_done

theorem keeps_framed {body : Tx α} {next : Except Failure α → Sends} (hbody : Framed body)
    (herror : ∀ e, (next (.error e)).Keeps Db.guarded I .failed x)
    (hok : ∀ a work', body work = .ok (a, work') → (next (.ok a)).Keeps Db.guarded I (.active work') x) :
    (Code.query body next).Keeps Db.guarded I (.active work) x :=
  Code.keeps_query herror fun d a d' hd hrun => hok a d'.guarded (hd ▸ hbody d a d' hrun)

theorem keeps_of_keepsFold {body : Tx α} {next : Except Failure α → Sends} (hbody : KeepsFold body)
    (herror : ∀ e, (next (.error e)).Keeps Db.guarded I .failed x)
    (hok : ∀ a, (next (.ok a)).Keeps Db.guarded I (.active work) x) :
    (Code.query body next).Keeps Db.guarded I (.active work) x :=
  Code.keeps_query herror fun d a d' hd hrun => by rw [hbody d a d' hrun, hd]; exact hok a

theorem keeps_sendFold {ev : DecodedEvent} {failed : Failure → Sends} {next : Sends}
    (hfailed : ∀ e, (failed e).Keeps Db.guarded I .failed x)
    (hnext : ∀ channels work', foldLogged ev work = .ok (channels, work') →
      next.Keeps Db.guarded I (.active work') x) : (sendFold ev failed next).Keeps Db.guarded I (.active work) x := by
  refine keeps_framed (framed_foldEvent ev) hfailed fun channels work₁ hfold => ?_
  refine keeps_framed (framed_markFolded ev.id) hfailed fun _ work₂ hmark => hnext channels work₂ ?_
  exact Faults.bind_eq_ok.mpr ⟨channels, work₁, hfold, Faults.bind_eq_ok.mpr ⟨(), work₂, hmark, rfl⟩⟩

/-- A page commits what its transaction makes of the log and the tables. -/
theorem keeps_sendPage {lastLedger : Nat} {events : List EventResponse}
    (h : ∀ pending work', ingestEvents lastLedger events work = .ok (pending, work') → I work') :
    (sendPage lastLedger events).Keeps Db.guarded I (.active work) x := by
  induction events generalizing work with
  | nil => exact Code.keeps_commit (fun _ => keeps_rollBack) (h [] work rfl) Code.keeps_done
  | cons raw events ih =>
    rw [sendPage]
    rcases hd : decodeEvent raw with m | ev
    · exact keeps_rollBack
    · dsimp only
      rcases hr : rewound ev.ledger lastLedger with _ | _
      · rw [if_neg Bool.false_ne_true]
        refine keeps_framed (framed_insertRawEvent ev) (fun _ => keeps_rollBack) fun needsFold work₁ hraw => ?_
        cases needsFold with
        | false =>
          refine ih fun pending work' hrest => h ([] ++ pending) work' ?_
          exact ingestEvents_cons_ok.mpr ⟨[], work₁, pending,
            ingestEvent_eq_ok.mpr ⟨ev, hd, hr, .inr ⟨hraw, rfl⟩⟩, hrest, rfl⟩
        | true =>
          refine keeps_sendFold (fun _ => keeps_rollBack) fun channels work₂ hfold => ?_
          refine ih fun pending work' hrest => h (channels.map (·, ev.symbol.text) ++ pending) work' ?_
          exact ingestEvents_cons_ok.mpr ⟨_, work₂, pending,
            ingestEvent_eq_ok.mpr ⟨ev, hd, hr, .inl ⟨work₁, channels, hraw, hfold, rfl⟩⟩, hrest, rfl⟩
      · rw [if_pos rfl]
        exact keeps_rollBack

theorem keeps_sendIngestPage {lastLedger : Nat} {events : List EventResponse}
    (h : ∀ pending y, ingestEvents lastLedger events x = .ok (pending, y) → I y) :
    (sendIngestPage events lastLedger).Keeps Db.guarded I .idle x :=
  Code.keeps_beginBlock (fun _ => keeps_rollBack) (keeps_sendPage h)

/-- The raw row of an event is committed on its own, and then the fold if the row was unmarked. -/
theorem keeps_sendEventQuarantined {ev : DecodedEvent}
    (hraw : ∀ needsFold y, insertRawEvent ev x = .ok (needsFold, y) → I y)
    (hfold : ∀ y channels z, insertRawEvent ev x = .ok (true, y) → foldLogged ev y = .ok (channels, z) → I z) :
    (sendEventQuarantined ev).Keeps Db.guarded I .idle x := by
  refine Code.keeps_alone (fun _ => Code.keeps_done) fun d needsFold d' hd hrun => ?_
  have hinsert : insertRawEvent ev x = .ok (needsFold, d'.guarded) := hd ▸ framed_insertRawEvent ev d _ d' hrun
  refine ⟨hraw _ _ hinsert, ?_⟩
  cases needsFold with
  | false => exact Code.keeps_done
  | true =>
    refine Code.keeps_beginBlock (fun _ => keeps_rollBack) (keeps_sendFold (fun _ => keeps_rollBack) ?_)
    intro channels z hz
    exact Code.keeps_commit (fun _ => keeps_rollBack) (hfold _ channels z hinsert hz) Code.keeps_done

theorem keeps_sendStillFails {eventId : String} {err : Failure} {b : View Db} (hI : I x) :
    (sendStillFails eventId err).Keeps Db.guarded I b x := by
  refine Code.keeps_rollback (Code.keeps_alone (fun _ => Code.keeps_done) fun d a d' hd hrun => ?_)
  rw [keepsFold_updateUnresolved _ _ d a d' hrun, hd]
  exact ⟨hI, Code.keeps_done⟩

/-- A replay commits the fold of an event that the log has unmarked. -/
theorem keeps_sendReplay {eventId : String} {resolution : Resolution} (hI : I x)
    (hfold : ∀ row ev channels y, x.events.lookup eventId = some row → row.folded = false →
      toDecodedEvent eventId row = .ok ev → foldLogged ev x = .ok (channels, y) → I y) :
    (sendReplay eventId resolution).Keeps Db.guarded I .idle x := by
  refine Code.keeps_ask fun unresolved => ?_
  cases unresolved with
  | false => exact Code.keeps_done
  | true =>
    refine Code.keeps_alone (fun _ => Code.keeps_done) fun d row? d' hd hrun => ?_
    obtain ⟨rfl, rfl⟩ : x.events.lookup eventId = row? ∧ d' = d := by
      cases hrun
      exact ⟨by rw [← hd]; rfl, rfl⟩
    rw [hd]
    refine ⟨hI, ?_⟩
    rcases hrow : x.events.lookup eventId with _ | row
    · exact Code.keeps_done
    · dsimp only
      rcases hfolded : row.folded with _ | _
      · rw [if_neg Bool.false_ne_true]
        rcases hdec : toDecodedEvent eventId row with m | ev
        · exact Code.keeps_done
        · refine Code.keeps_beginBlock (fun _ => keeps_sendStillFails hI)
            (keeps_sendFold (fun _ => keeps_sendStillFails hI) fun channels y hy => ?_)
          have hIy : I y := hfold row ev channels y hrow hfolded hdec hy
          refine keeps_of_keepsFold (keepsFold_updateUnresolved _ _) (fun _ => keeps_sendStillFails hI) fun _ => ?_
          refine Code.keeps_commit (fun _ => keeps_sendStillFails hI) hIy (Code.keeps_ask fun err? => ?_)
          cases err? with
          | none => exact Code.keeps_done
          | some err => exact keeps_sendStillFails hIy
      · rw [if_pos rfl]
        refine Code.keeps_alone (fun _ => Code.keeps_done) fun d₁ a d₁' hd₁ hrun₁ => ?_
        rw [keepsFold_updateUnresolved _ _ d₁ a d₁' hrun₁, hd₁]
        exact ⟨hI, Code.keeps_done⟩

theorem keeps_sendReset (h : I x.truncate) : sendReset.Keeps Db.guarded I .idle x := by
  refine Code.keeps_beginBlock (fun _ => keeps_rollBack) (Code.keeps_query (fun _ => keeps_rollBack) ?_)
  rintro d a d' rfl hrun
  cases hrun
  exact Code.keeps_commit (fun _ => keeps_rollBack) h Code.keeps_done

theorem keeps_sendRows {next : Sends} {rows : List (String × EventRow)} {s : Rebuilt}
    (hnext : ∀ s', rows.foldlM rebuildRow s = .ok s' → next.Keeps Db.guarded I (.active s'.db) x) :
    (sendRows next rows).Keeps Db.guarded I (.active s.db) x := by
  induction rows generalizing s with
  | nil => exact hnext s rfl
  | cons row rows ih =>
    rw [sendRows]
    rcases hd : toDecodedEvent row.1 row.2 with m | ev
    · exact keeps_rollBack
    · refine keeps_framed (framed_foldEvent ev) (fun _ => keeps_rollBack) fun channels work₁ hfold => ?_
      let s₁ : Rebuilt :=
        { db := work₁, touchedChannels := addChannels s.touchedChannels channels, processed := s.processed + 1 }
      have hrow : rebuildRow s row = .ok s₁ := by simp [rebuildRow, hd, hfold, s₁]
      exact ih (s := s₁) fun s' hs' => hnext s' (Reorder.foldlM_cons_ok.mpr ⟨s₁, hrow, hs'⟩)

theorem keeps_sendReads {next : Sends} (hnext : next.Keeps Db.guarded I (.active work) x)
    (reads : List (String × String)) : (sendReads next reads).Keeps Db.guarded I (.active work) x := by
  induction reads with
  | nil => exact hnext
  | cons key reads ih => exact keeps_of_keepsFold (keepsFold_updateRead _) (fun _ => keeps_rollBack) fun _ => ih

/-- Behind the rows that are done, the loop applies the rows that are to come and then goes on. -/
theorem keeps_sendLog {limit : Nat} (hlimit : 1 ≤ limit) {finish : Sends} {s₀ : Rebuilt}
    (hevents : s₀.db.events = x.events)
    (hfinish : ∀ s', (orderedLog x.events).foldlM rebuildRow s₀ = .ok s' →
      finish.Keeps Db.guarded I (.active s'.db) x)
    (fuel : Nat) {done todo : List (String × EventRow)} (hlog : orderedLog x.events = done ++ todo) {s : Rebuilt}
    (hdone : done.foldlM rebuildRow s₀ = .ok s) :
    (sendLog limit finish fuel (done.getLast?.map logKey)).Keeps Db.guarded I (.active s.db) x := by
  induction fuel generalizing done todo s with
  | zero => exact keeps_rollBack
  | succ fuel ih =>
    rw [sendLog]
    refine keeps_framed (framed_events fun events => Keyset.page logKey (Table.rows events) limit _)
      (fun _ => keeps_rollBack) fun rows work' hrows => ?_
    have hsame : s.db.events = x.events := by
      obtain ⟨evs, -, -, hdb, -⟩ := rebuildRows_eq_ok hdone
      rw [hdb, ← hevents]
    have hpage : rows = todo.take limit ∧ work' = s.db := by
      cases hrows
      rw [hsame]
      exact ⟨Keyset.page_eq (logKey_nodup x.events) hlog limit, rfl⟩
    obtain ⟨hrows', rfl⟩ := hpage
    cases todo with
    | nil =>
      rw [List.take_nil] at hrows'
      subst hrows'
      rw [List.append_nil] at hlog
      exact hfinish s (hlog ▸ hdone)
    | cons r rest =>
      obtain ⟨k, rfl⟩ : ∃ k, limit = k + 1 := ⟨limit - 1, by omega⟩
      rw [List.take_succ_cons] at hrows'
      subst hrows'
      refine keeps_sendRows fun s' hs' => ?_
      have hlast : (done ++ r :: rest.take k).getLast?.map logKey =
          some (logKey ((rest.take k).getLastD r)) := by
        rw [List.getLast?_append_of_ne_nil _ (by simp), List.getLast?_cons]
        simp [List.getLastD_eq_getLast?]
      rw [← hlast]
      have hsplit : orderedLog x.events = (done ++ r :: rest.take k) ++ rest.drop k := by
        rw [hlog, List.append_assoc, List.cons_append, List.take_append_drop]
      exact ih hsplit (Reorder.foldlM_append_ok.mpr ⟨s, hdone, hs'⟩)

/-- A rebuild commits the fold of the whole log, in its order. -/
theorem keeps_sendReindex {batchSize : Int}
    (h : ∀ s, (orderedLog x.events).foldlM rebuildRow { db := x.truncate } = .ok s → I s.db) :
    (sendReindex batchSize).Keeps Db.guarded I .idle x := by
  refine Code.keeps_beginBlock (fun _ => keeps_rollBack) (Code.keeps_ask fun reads => ?_)
  have htruncate : Framed truncateTables := fun db a db' hrun => by cases hrun; rfl
  refine keeps_framed htruncate (fun _ => keeps_rollBack) fun _ work₁ hrun => ?_
  cases hrun
  refine keeps_framed (framed_events fun events => (Table.rows events).length) (fun _ => keeps_rollBack)
    fun n work₂ hrun₂ => ?_
  cases hrun₂
  have hstart : ({ db := x.truncate } : Rebuilt).db.events = x.events := rfl
  refine keeps_sendLog (x := x) (one_le_batch batchSize) hstart (fun s hs => ?_) _ (List.nil_append _).symm rfl
  refine keeps_sendReads (keeps_of_keepsFold (fun db a db' hrun₃ => ?_) (fun _ => keeps_rollBack) fun _ => ?_) reads
  · cases hrun₃
    rfl
  · refine keeps_of_keepsFold (fun db a db' hrun₃ => ?_) (fun _ => keeps_rollBack) fun _ => ?_
    · cases hrun₃
      rfl
    · exact Code.keeps_commit (fun _ => keeps_rollBack) (h s hs) Code.keeps_done

end

/-- What an operation has committed when it is done, with nobody else at work. -/
inductive Job.Commits : Job → Db → Db → Prop
  | page {events : List EventResponse} {lastLedger : Nat} {pending : List (StreamChannel × String)} {x y : Db} :
      ingestEvents lastLedger events x = .ok (pending, y) → Commits (.ingestPage events lastLedger) x y
  | logged {ev : DecodedEvent} {needsFold : Bool} {x y : Db} : insertRawEvent ev x = .ok (needsFold, y) →
      Commits (.ingestEventQuarantined ev) x y
  | folded {ev : DecodedEvent} {channels : List StreamChannel} {x y z : Db} : insertRawEvent ev x = .ok (true, y) →
      foldLogged ev y = .ok (channels, z) → Commits (.ingestEventQuarantined ev) x z
  | rebuilt {batchSize : Int} {s : Rebuilt} {x y : Db} : reindexTx batchSize x = .ok (s, y) →
      Commits (.reindexFromEventLog batchSize) x y.guarded
  | replayed {eventId : String} {resolution : Resolution} {row : EventRow} {ev : DecodedEvent}
      {channels : List StreamChannel} {x y : Db} : x.events.lookup eventId = some row → row.folded = false →
      toDecodedEvent eventId row = .ok ev → foldLogged ev x = .ok (channels, y) →
      Commits (.replayFailedEvent eventId resolution) x y
  | reset {x : Db} : Commits .resetForContractChange x x.truncate

theorem Framed.bind {α β : Type} {m : Tx α} {f : α → Tx β} (hm : Framed m) (hf : ∀ a, Framed (f a)) :
    Framed (m >>= f) := by
  intro db b db' h
  obtain ⟨a, db₁, h₁, h₂⟩ := Faults.bind_eq_ok.mp h
  exact Faults.bind_eq_ok.mpr ⟨a, db₁.guarded, hm db a db₁ h₁, hf a db₁ b db' h₂⟩

theorem Framed.pure {α : Type} (a : α) : Framed (pure a : Tx α) := by
  intro db b db' h
  cases h
  rfl

theorem framed_foldLogged (ev : DecodedEvent) : Framed (foldLogged ev) :=
  (framed_foldEvent ev).bind fun channels => (framed_markFolded ev.id).bind fun _ => .pure channels

theorem framed_ingestEvent (lastLedger : Nat) (raw : EventResponse) : Framed (ingestEvent lastLedger raw) := by
  intro db pending db' h
  obtain ⟨ev, hd, hr, ⟨db₁, channels, hraw, hfold, rfl⟩ | ⟨hraw, rfl⟩⟩ := ingestEvent_eq_ok.mp h
  · exact ingestEvent_eq_ok.mpr ⟨ev, hd, hr, .inl ⟨db₁.guarded, channels, framed_insertRawEvent ev _ _ _ hraw,
      framed_foldLogged ev _ _ _ hfold, rfl⟩⟩
  · exact ingestEvent_eq_ok.mpr ⟨ev, hd, hr, .inr ⟨framed_insertRawEvent ev _ _ _ hraw, rfl⟩⟩

theorem framed_ingestEvents (lastLedger : Nat) (events : List EventResponse) :
    Framed (ingestEvents lastLedger events) := by
  induction events with
  | nil => exact .pure []
  | cons raw events ih =>
    exact (framed_ingestEvent lastLedger raw).bind fun pending => ih.bind fun rest => .pure (pending ++ rest)

/-- What is there besides the guarded part plays no role where there is nothing. -/
theorem Framed.guarded {α : Type} {body : Tx α} (h : Framed body) {x y : Db} {a : α} (hx : x.guarded = x)
    (hrun : body x = .ok (a, y)) : y.guarded = y := by
  have hrun' := h x a y hrun
  rw [hx, hrun] at hrun'
  exact (Prod.mk.inj (Except.ok.inj hrun')).2.symm

/-- Behind the log, a rebuild holds what its transaction commits to the guarded part. -/
theorem reindexTx_guarded {x : Db} (hx : x.guarded = x) (batchSize : Int) {s : Rebuilt}
    (h : (orderedLog x.events).foldlM rebuildRow { db := x.truncate } = .ok s) :
    ∃ y, reindexTx batchSize x = .ok (s, y) ∧ y.guarded = s.db := by
  have hunread : Unread x.tables := by
    rw [← hx]
    exact unread_clearReads _
  obtain ⟨evs, -, hfold, hdb, -⟩ := rebuildRows_eq_ok h
  have ht : clearReads s.db.tables = s.db.tables := clearReads_of_unread (foldTables_unread hfold unread_empty)
  refine ⟨_, by rw [reindexTx, rebuildFrom_eq _ (one_le_batch batchSize), h], ?_⟩
  rw [savedReads_of_unread hunread, Db.guarded, hdb]
  simp only [restoreReads, List.foldl_nil, ht]
  rw [← hx]
  rfl

theorem Job.Commits.guarded {job : Job} {x y : Db} (h : job.Commits x y) (hx : x.guarded = x) : y.guarded = y := by
  cases h with
  | page hrun => exact (framed_ingestEvents _ _).guarded hx hrun
  | logged hrun => exact (framed_insertRawEvent _).guarded hx hrun
  | folded hraw hfold => exact (framed_foldLogged _).guarded ((framed_insertRawEvent _).guarded hx hraw) hfold
  | rebuilt hrun => exact guarded_guarded _
  | replayed hrow hfolded hdec hfold => exact (framed_foldLogged _).guarded hx hfold
  | reset =>
    rw [← hx]
    rfl

/-- What is kept by the transactions of an operation is kept by all it sends. -/
theorem Job.keeps {I : Db → Prop} {job : Job} {x : Db} (hx : x.guarded = x) (hI : I x)
    (h : ∀ y, job.Commits x y → I y) : job.code.Keeps Db.guarded I .idle x := by
  cases job with
  | ingestPage events lastLedger => exact keeps_sendIngestPage fun pending y hrun => h y (.page hrun)
  | ingestEventQuarantined ev =>
    exact keeps_sendEventQuarantined (fun needsFold y hrun => h y (.logged hrun))
      fun y channels z hraw hfold => h z (.folded hraw hfold)
  | reindexFromEventLog batchSize =>
    refine keeps_sendReindex fun s hs => ?_
    obtain ⟨y, hrun, hy⟩ := reindexTx_guarded hx batchSize hs
    exact hy ▸ h _ (.rebuilt hrun)
  | replayFailedEvent eventId resolution =>
    exact keeps_sendReplay hI fun row ev channels y hrow hfolded hdec hfold => h y (.replayed hrow hfolded hdec hfold)
  | resetForContractChange => exact keeps_sendReset (h _ .reset)

/-- Whatever is started under the lock is the code of one of the operations, and `Meets` its condition. -/
def Starts (Meets : Job → Db → Prop) (x : Db) (code : Sends) : Prop := ∃ job : Job, code = job.code ∧ Meets job x

section

variable {σ : Type} [DecidableEq σ] {Meets : Job → Db → Prop} {S₀ S : System σ Db Failure}

/-- What is kept by the transactions of the operations holds of what is committed. -/
theorem orderly_of_sessions {I : Db → Prop} (hstart : ∀ s, S₀.running s = none) (h₀ : I S₀.db.guarded)
    (hcommits : ∀ (job : Job) x y, I x → Meets job x → job.Commits x y → I y)
    (h : Relation.ReflTransGen (Step Db.guarded (Starts Meets)) S₀ S) :
    S.Orderly Db.guarded fun x => x.guarded = x ∧ I x := by
  refine System.orderly_of_steps hstart ⟨guarded_guarded _, h₀⟩ ?_ h
  rintro x code ⟨hx, hI⟩ ⟨job, rfl, hmeets⟩
  exact job.keeps hx ⟨hx, hI⟩ fun y hy => ⟨hy.guarded hx, hcommits job x y hI hmeets hy⟩

/-- A rebuild finds every row marked, or fails; nothing is reset. -/
def Job.Harmless : Job → Db → Prop
  | .reindexFromEventLog batchSize, x => RebuildsFolded (some batchSize) x
  | .resetForContractChange, _ => False
  | _, _ => True

theorem ExactlyOnce.guarded {db : Db} (h : ExactlyOnce db) : ExactlyOnce db.guarded :=
  h.congr (clearReads_of_unread h.unread) rfl rfl

theorem Job.Commits.exactlyOnce {job : Job} {x y : Db} (h : job.Commits x y) (hx : ExactlyOnce x)
    (hharmless : job.Harmless x) : ExactlyOnce y := by
  cases h with
  | page hrun => exact ingestEvents_keeps (fun _ _ _ _ _ h hi => h.ingestEvent hi) hx hrun
  | logged hrun => exact (hx.insertRawEvent hrun).1
  | folded hraw hfold =>
    obtain ⟨h₁, row, hrow, hfolded⟩ := hx.insertRawEvent hraw
    exact h₁.foldLogged hrow (by simpa using hfolded) hfold
  | rebuilt hrun =>
    have hall : AllFolded x := hharmless (by rw [Option.getD_some, hrun]; rfl)
    exact ((reindexTx_exactlyOnce_iff hx hrun).mpr hall).guarded
  | replayed hrow hfolded hdec hfold =>
    obtain rfl := toDecodedEvent_id hdec
    exact hx.foldLogged hrow hfolded hfold
  | reset => exact hharmless.elim

/-- **Exactly-once folding from many sessions**, as long as no rebuild that succeeds begins over an
unmarked row and nothing is reset. -/
theorem exactlyOnce_of_sessions (hstart : ∀ s, S₀.running s = none) (h₀ : ExactlyOnce S₀.db.guarded)
    (h : Relation.ReflTransGen (Step Db.guarded (Starts Job.Harmless)) S₀ S) : ExactlyOnce S.db.guarded :=
  (orderly_of_sessions hstart h₀ (fun _ _ _ hx hharmless hy => hy.exactlyOnce hx hharmless) h).holds.2

end

def welcomeLogged (db : Db) : Db := (insertRawEvent (aWelcome "0001" 1 "GA")).after db

def welcomeApplied (db : Db) : Db := (foldEvent (aWelcome "0001" 1 "GA")).after (welcomeLogged db)

def welcomeMarked (db : Db) : Db := (markFolded "0001").after (welcomeApplied db)

def aHalt : ReorgHalt where
  id := 1
  contract_id := "C"
  last_ledger := none
  last_ledger_hash := none
  detail := "history diverged"
  detected_at := 0

/-- One session folds an event, and while its block is open another client records a halt. -/
theorem welcome_run {G : Type} {g : Db → G} (hg : ∀ db halts, g { db with reorg_halts := halts } = g db)
    {May : G → Sends → Prop} {db : Db} (hmay : May (g db) (sendEventQuarantined (aWelcome "0001" 1 "GA")))
    (hnew : db.events.lookup "0001" = none) (hlogs : (insertRawEvent (aWelcome "0001" 1 "GA") db).isOk)
    (hfolds : (foldEvent (aWelcome "0001" 1 "GA") (welcomeLogged db)).isOk) :
    ∃ S : System Bool Db Failure, Relation.ReflTransGen (Step g May) { db } S ∧
      S.db = { welcomeMarked db with reorg_halts := [aHalt] } := by
  have hraw : insertRawEvent (aWelcome "0001" 1 "GA") db = .ok (true, welcomeLogged db) := by
    obtain ⟨needsFold, h⟩ := Tx.after_eq (insertRawEvent (aWelcome "0001" 1 "GA")) db hlogs
    obtain ⟨-, ⟨row, hrow, -, -⟩ | ⟨-, rfl, -⟩⟩ := insertRawEvent_eq_ok.mp h
    · cases hnew.symm.trans hrow
    · exact h
  obtain ⟨channels, hfold⟩ := Tx.after_eq (foldEvent (aWelcome "0001" 1 "GA")) (welcomeLogged db) hfolds
  have hacquire : Reaches g May { db } true ⟨sendEventQuarantined (aWelcome "0001" 1 "GA"), .idle⟩ db :=
    .acquire rfl rfl hmay
  have hbegin := (hacquire.move (.alone hraw)).move .beginBlock
  have hrecord := hbegin.elsewhere { welcomeLogged db with reorg_halts := [aHalt] } (hg _ _)
  have hmark := (hrecord.move (.query (fun _ => rfl) hfold)).move (.query (fun _ => rfl) (markFolded_run _ _))
  have hcommit := hmark.move (.commit (v := { welcomeMarked db with reorg_halts := [aHalt] }) fun _ => hg _ _)
  obtain ⟨S, hrun, -, hdb⟩ := hcommit
  exact ⟨S, hrun, hdb⟩

theorem exactlyOnce_of_sessions_welcome : ∃ S : System Bool Db Failure,
    S.db.applied.map (·.id) = ["0001"] ∧ S.db.reorg_halts.map (·.detail) = ["history diverged"] ∧
      ExactlyOnce S.db.guarded := by
  have hmay : Starts Job.Harmless Db.empty.guarded (sendEventQuarantined (aWelcome "0001" 1 "GA")) :=
    ⟨.ingestEventQuarantined (aWelcome "0001" 1 "GA"), rfl, trivial⟩
  obtain ⟨S, hrun, hdb⟩ := welcome_run (fun _ _ => rfl) hmay rfl (by decide +kernel) (by decide +kernel)
  refine ⟨S, ?_, ?_, exactlyOnce_of_sessions (fun _ => rfl) exactlyOnce_empty.guarded hrun⟩
  · rw [hdb]
    decide +kernel
  · rw [hdb]
    rfl

end OurDao
