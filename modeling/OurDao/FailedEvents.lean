import OurDao.Routes
import OurDao.Runs

/-!
# Records of failed events

Five writers set the columns of `failed_events`. All but one only touch an open record in a way
that keeps its columns in line. A failure of an event whose record is resolved opens the record
again, and leaves its resolution and its note.
-/

namespace OurDao

open Faults Op Site

/-- The site of the other columns of `failed_events`, and the columns that no other part reads. -/
structure FailedEvents (ρ ν : Type) where
  site : Site ρ ν
  /-- in milliseconds -/
  created_at : Table String Int := ∅
  /-- the sequence behind `id` -/
  next_id : Nat := 1

/-- The operations on the records. -/
inductive RecordsCommand where
  | recordQuarantinedEvent (ev : DecodedEvent) (error : Failure) (now : Int)
  | replayFailedEvent (eventId : String) (resolution : Option Resolution)
  | reindexFromEventLog (batchSize : Option Int)
  /-- `POST /admin/failed-events/batch-resolve` -/
  | batchResolve (headers : Headers) (ip : Option String) (body : Option BatchResolveBody)
  | delete_expired_failed_events (now : Int) (retention_days : Option Int)

namespace FailedEvents

section

variable {ρ ν α : Type} (E : Environment ρ) (sdk : StellarSdk) (store : NonceStore ν) (r : FailedEvents ρ ν)

def records : Table String FailedEventRow := r.site.world.db.failed_events

def notes : Table String String := r.site.resolution_notes

def onSite (m : Op (Site ρ ν) Failure α) : Op (FailedEvents ρ ν) Failure α := fun r =>
  ((m r.site).1, { r with site := (m r.site).2 })

/-- What the insert of a record, or the update that takes its place, writes besides. -/
def stamp (eventId : String) (now : Int) (isNew : Bool) : FailedEvents ρ ν where
  site :=
    if isNew then { r.site with failed_event_ids := r.site.failed_event_ids.insert eventId r.next_id } else r.site
  created_at := r.created_at.insert eventId now
  next_id := r.next_id + 1

def recordQuarantinedEvent (ev : DecodedEvent) (error : Failure) (now : Int) : Op (FailedEvents ρ ν) Failure Unit :=
  fun r =>
    let (o, r') := onSite (onWorld (OurDao.recordQuarantinedEvent E ev error)) r
    match o with
    | .done _ => (o, r'.stamp ev.id now (r.records.lookup ev.id).isNone)
    | _ => (o, r')

/-- `DELETE FROM failed_events WHERE …`: a row goes with all its columns. -/
def deleteRows (p : String → FailedEventRow → Bool) : FailedEvents ρ ν :=
  let deleted eventId := (r.records.lookup eventId).any (p eventId)
  { r with
    site := { r.site with
      world := { r.site.world with db := { r.site.world.db with failed_events := r.records.deleteWhere p } }
      failed_event_ids := r.site.failed_event_ids.deleteWhere fun eventId _ => deleted eventId
      resolution_notes := r.site.resolution_notes.deleteWhere fun eventId _ => deleted eventId }
    created_at := r.created_at.deleteWhere fun eventId _ => deleted eventId }

/-- Whether a row is older than the retention. -/
def expired (now : Int) (retention_days : Option Int) (eventId : String) : Bool :=
  (r.created_at.lookup eventId).any fun created_at => created_at < now - 86400000 * retention_days.getD 30

def delete_expired_failed_events (now : Int) (retention_days : Option Int) : Op (FailedEvents ρ ν) Failure Unit := do
  onSite (onWorld (ask E.statement))
  update fun r => r.deleteRows fun eventId row => row.resolved && r.expired now retention_days eventId

def serve : RecordsCommand → Op (FailedEvents ρ ν) Failure Unit
  | .recordQuarantinedEvent ev error now => recordQuarantinedEvent E ev error now
  | .replayFailedEvent eventId resolution => do
    let _ ← onSite (onWorld (OurDao.replayFailedEvent E eventId (resolution.getD .resolved)))
  | .reindexFromEventLog batchSize => do
    let _ ← onSite (onWorld (OurDao.reindexFromEventLog E batchSize))
  | .batchResolve headers ip body => do
    let _ ← onSite ((Mutation.batchResolve body).serve E sdk store headers ip)
  | .delete_expired_failed_events now retention_days => delete_expired_failed_events E now retention_days

/-- What a command leaves, however it ends. -/
def act (c : RecordsCommand) : FailedEvents ρ ν := (serve E sdk store c r).2

/-- A site that has no records. -/
def unrecorded (site : Site ρ ν) : FailedEvents ρ ν where
  site := { site with
    world := { site.world with db := { site.world.db with failed_events := ∅ } }
    failed_event_ids := ∅
    resolution_notes := ∅ }

/-- An open record has neither a resolution nor a note, and a resolved one has a resolution. -/
structure InLine (row : FailedEventRow) (note : Option String) : Prop where
  unresolved : row.resolved = false → row.resolution = none ∧ note = none
  resolved : row.resolved = true → row.resolution.isSome = true

structure Consistent : Prop where
  unique : ((Table.rows r.records).map Prod.fst).Nodup
  inLine : ∀ eventId row, r.records.lookup eventId = some row → InLine row (r.notes.lookup eventId)

/-- The open records of `r` are still there in `r'`. -/
def NoneLost (r r' : FailedEvents ρ ν) : Prop :=
  ∀ eventId row, r.records.lookup eventId = some row → row.resolved = false → (r'.records.lookup eventId).isSome

/-- The command records another failure of an event whose record is resolved, and the database carries it out. -/
def Reopens (r : FailedEvents ρ ν) : RecordsCommand → Prop
  | .recordQuarantinedEvent ev _ _ =>
    (∃ row, r.records.lookup ev.id = some row ∧ row.resolved = true) ∧ (E.statement r.site.world.env).1 = .done ()
  | _ => False

end

/-- Another error, or a resolution for an open record. -/
inductive Settles (row : FailedEventRow) : FailedEventRow → Prop
  | refailed (error : String) : Settles row { row with error }
  | resolved (hopen : row.resolved = false) (error : String) (resolution : Resolution) :
    Settles row { row with error, resolved := true, resolution := some resolution }

theorem Settles.refl (row : FailedEventRow) : Settles row row := .refailed row.error

theorem Settles.trans {row row' row'' : FailedEventRow} (h : Settles row row') (h' : Settles row' row'') :
    Settles row row'' := by
  cases h with
  | refailed error =>
    cases h' with
    | refailed error' => exact .refailed error'
    | resolved hopen error' resolution =>
      have hrow : row.resolved = false := hopen
      exact .resolved hrow error' resolution
  | resolved hopen error resolution =>
    cases h' with
    | refailed error' => exact .resolved hopen error' resolution
    | resolved hopen' => cases hopen'

theorem settles_resolve (resolution : Resolution) (row : FailedEventRow) : Settles row (row.resolve resolution) := by
  rw [FailedEventRow.resolve]
  split
  · exact .refl row
  next hopen => exact .resolved (by simpa using hopen) row.error resolution

/-- The columns of an event before and after a command that reopens nothing. -/
inductive Moved : Option FailedEventRow → Option String → Option FailedEventRow → Option String → Prop
  | absent (note : Option String) : Moved none note none note
  | settled {row row' : FailedEventRow} {note note' : Option String} (h : Settles row row')
    (hnote : note' = note ∨ row'.resolved = true) : Moved (some row) note (some row') note'
  | recorded {row : FailedEventRow} (hopen : row.resolved = false) (hresolution : row.resolution = none)
    (note : Option String) : Moved none note (some row) note
  | deleted {row : FailedEventRow} {note : Option String} (hresolved : row.resolved = true) :
    Moved (some row) note none none

theorem Moved.refl (row : Option FailedEventRow) (note : Option String) : Moved row note row note := by
  cases row with
  | none => exact .absent note
  | some row => exact .settled (.refl row) (.inl rfl)

theorem rel_trans {row row' row'' : Option FailedEventRow} (h : Option.Rel Settles row row')
    (h' : Option.Rel Settles row' row'') : Option.Rel Settles row row'' := by
  cases h with
  | none => exact h'
  | some h =>
    cases h' with
    | some h' => exact .some (h.trans h')

/-- Two tables of records that differ by settling. -/
def SettledFrom (t t' : Table String FailedEventRow) : Prop :=
  ∀ eventId, Option.Rel Settles (t.lookup eventId) (t'.lookup eventId)

theorem SettledFrom.refl (t : Table String FailedEventRow) : SettledFrom t t := by
  intro eventId
  cases t.lookup eventId with
  | none => exact .none
  | some row => exact .some (.refl row)

theorem settledFrom_mapRows (resolution : Resolution) (t : Table String FailedEventRow) :
    SettledFrom t (Table.mapRows (fun _ => FailedEventRow.resolve resolution) t) := by
  intro eventId
  rw [Table.lookup_mapRows]
  cases t.lookup eventId with
  | none => exact .none
  | some row => exact .some (settles_resolve resolution row)

theorem settledFrom_whereUnresolved (eventId : String) {f : FailedEventRow → FailedEventRow}
    (hf : ∀ row, Settles row (f row)) (t : Table String FailedEventRow) :
    SettledFrom t (whereUnresolved eventId f t) := by
  rw [whereUnresolved]
  cases hrow : t.lookup eventId with
  | none => exact .refl t
  | some row =>
    dsimp only
    split
    · exact .refl t
    · intro other
      rw [Table.lookup_insert]
      by_cases h : other = eventId
      · subst h
        rw [hrow, if_pos rfl]
        exact .some (hf row)
      · rw [if_neg h]
        exact SettledFrom.refl t other

theorem moved_of_settles {row row' : Option FailedEventRow} (h : Option.Rel Settles row row') (note : Option String) :
    Moved row note row' note := by
  cases h with
  | none => exact .absent note
  | some h => exact .settled h (.inl rfl)

section

variable {ρ ν : Type} {E : Environment ρ}

/-- What the two updates of a replay keep, a replay keeps. -/
theorem keeps_replayFailedEvent {J : Table String FailedEventRow → Prop} (eventId : String) (resolution : Resolution)
    (hsettles : ∀ f : FailedEventRow → FailedEventRow, (∀ row, Settles row (f row)) → ∀ t, J t →
      J (whereUnresolved eventId f t)) :
    Keeps (fun w : World ρ => J w.db.failed_events) (OurDao.replayFailedEvent E eventId resolution) := by
  have hdrift : Drifts E fun w => J w.db.failed_events := drifts_db (I := fun db => J db.failed_events)
  have hread : ∀ {α : Type} (f : Db → α), Keeps (fun w : World ρ => J w.db.failed_events)
      (transaction E fun db => .ok (f db, db)) := by
    intro α f
    refine keeps_transaction (I := fun db => J db.failed_events) fun db a db' h hr => ?_
    cases hr
    exact h
  have hupdate : ∀ f : FailedEventRow → FailedEventRow, (∀ row, Settles row (f row)) →
      Keeps (fun w : World ρ => J w.db.failed_events) (transaction E (updateUnresolved eventId f)) := by
    intro f hf
    refine keeps_transaction (I := fun db => J db.failed_events) fun db a db' h hr => ?_
    cases hr
    exact hsettles f hf _ h
  have hfold : ∀ ev, Keeps (fun w : World ρ => J w.db.failed_events)
      (transaction E (replayTx eventId resolution ev)) := by
    intro ev
    refine keeps_transaction (I := fun db => J db.failed_events) fun db channels db' h hr => ?_
    obtain ⟨db₁, hf, rfl⟩ := replayTx_eq_ok.mp hr
    obtain ⟨tables, -, rfl⟩ := foldLogged_eq_ok.mp hf
    exact hsettles _ (settles_resolve resolution) _ h
  have hrow : ∀ row, Keeps (fun w : World ρ => J w.db.failed_events) (replayRow E eventId resolution row) := by
    intro row
    rw [replayRow]
    split
    · exact (hupdate _ (settles_resolve resolution)).bind fun _ => Keeps.pure _
    · cases toDecodedEvent eventId row with
      | error m => exact Keeps.throw _
      | ok ev =>
        refine ((hfold ev).bind fun _ => Keeps.pure _).tryCatch fun err => ?_
        exact (keeps_statement hdrift).bind fun _ =>
          (hupdate _ fun row => .refailed err.message).bind fun _ => Keeps.pure _
  refine (keeps_withLock hdrift ?_).bind fun _ => (keeps_announce hdrift _).bind fun _ => Keeps.pure _
  refine (hread _).bind fun unresolved => ?_
  cases unresolved with
  | false => exact Keeps.pure _
  | true =>
    refine (hread _).bind fun row? => ?_
    cases row? with
    | none => exact Keeps.throw _
    | some row => exact hrow row

theorem settledFrom_replayFailedEvent (eventId : String) (resolution : Resolution) (w : World ρ) :
    SettledFrom w.db.failed_events (OurDao.replayFailedEvent E eventId resolution w).2.db.failed_events :=
  keeps_replayFailedEvent (J := SettledFrom w.db.failed_events) eventId resolution
    (fun _ hf t h eventId' => rel_trans (h eventId') (settledFrom_whereUnresolved eventId hf t eventId')) w
    (.refl _)

theorem settledFrom_reindexFromEventLog (batchSize : Option Int) (w : World ρ) :
    SettledFrom w.db.failed_events (OurDao.reindexFromEventLog E batchSize w).2.db.failed_events := by
  obtain hsame | ⟨s, hcommit⟩ : (OurDao.reindexFromEventLog E batchSize w).2.db = w.db ∨ ∃ s,
      reindexTx (batchSize.getD 1000) w.db = .ok (s, (OurDao.reindexFromEventLog E batchSize w).2.db) :=
    reindexFromEventLog_db batchSize w rfl
  · rw [hsame]
    exact .refl _
  · obtain ⟨evs, t, -, -, -, hdb⟩ := reindexTx_eq_ok hcommit
    rw [hdb]
    exact settledFrom_mapRows .resolved _

/-- Writing one note, or none, for some of the events. -/
theorem lookup_foldl_write {f : Table String String → String → Table String String} {v : Option String}
    (hf : ∀ notes eventId other, (f notes eventId).lookup other = if other = eventId then v else notes.lookup other)
    (eventIds : List String) (notes : Table String String) (other : String) :
    (eventIds.foldl f notes).lookup other = if other ∈ eventIds then v else notes.lookup other := by
  induction eventIds generalizing notes with
  | nil => simp
  | cons first eventIds ih =>
    rw [List.foldl_cons, ih, hf]
    by_cases hmem : other ∈ eventIds
    · simp [hmem]
    · by_cases hfirst : other = first
      · simp [hfirst]
      · simp [hmem, hfirst]

/-- What a part of a site's work does to the records and their notes. -/
def Moves (s s' : Site ρ ν) : Prop :=
  ∀ eventId, Moved (s.world.db.failed_events.lookup eventId) (s.resolution_notes.lookup eventId)
    (s'.world.db.failed_events.lookup eventId) (s'.resolution_notes.lookup eventId)

theorem moves_of_rows {s s' : Site ρ ν} (h : s'.rows = s.rows) : Moves s s' := by
  have hdb : s'.world.db = s.world.db := congrArg Rows.db h
  have hnotes : s'.resolution_notes = s.resolution_notes := congrArg Rows.resolution_notes h
  intro eventId
  rw [hdb, hnotes]
  exact .refl _ _

theorem moves_resolveBatch (ids : List Int) (resolution : Resolution) (note : Option String) (s : Site ρ ν) :
    Moves s (resolveBatch E ids resolution note s).2 := by
  intro eventId
  rcases hstatement : ask E.statement s.world with ⟨o, w⟩
  simp only [resolveBatch, bind, Op.andThen, onWorld, hstatement]
  have hdb : w.db = s.world.db := by rw [← (Prod.mk.inj hstatement).2]
  cases o with
  | raised e => rw [hdb]; exact .refl _ _
  | crashed => rw [hdb]; exact .refl _ _
  | done a =>
    dsimp only
    rw [lookup_foldl_write (v := note), Table.lookup_mapRows, hdb]
    swap
    · intro notes eventId other
      cases note with
      | some note => exact Table.lookup_insert
      | none =>
        by_cases h : other = eventId
        · rw [h, AList.lookup_erase, if_pos rfl]
        · rw [AList.lookup_erase_ne h, if_neg h]
    cases hrow : s.world.db.failed_events.lookup eventId with
    | none =>
      have hout : eventId ∉ unresolvedAmong ids { s with world := w } := by
        intro hmem
        obtain ⟨row, hrow', -⟩ := Table.mem_filter_rows.mp hmem
        rw [hdb, hrow] at hrow'
        cases hrow'
      rw [if_neg hout]
      exact .absent _
    | some row =>
      by_cases hmem : eventId ∈ unresolvedAmong ids { s with world := w }
      · rw [if_pos hmem, Option.map_some, if_pos hmem]
        have hresolved : (row.resolve resolution).resolved = true := by
          rw [FailedEventRow.resolve]
          split
          · assumption
          · rfl
        exact .settled (settles_resolve resolution row) (.inr hresolved)
      · rw [if_neg hmem, Option.map_some, if_neg hmem]
        exact .settled (.refl row) (.inl rfl)

theorem moves_batchResolveFor (body : Option BatchResolveBody) (ip : Option String) (address : String)
    (s : Site ρ ν) : Moves s (batchResolveFor E body ip address s).2 := by
  have hlogged : ∀ row, Ensures (Moves s) (writeAuditLog E row) fun _ => Moves s := by
    intro row s' h
    rw [writeAuditLog, tryCatch_run, insertAuditLog, bind_run, onWorld]
    rcases hstatement : ask E.statement s'.world with ⟨o, w⟩
    have hdb : w.db = s'.world.db := by rw [← (Prod.mk.inj hstatement).2]
    rw [Moves, ← hdb] at h
    cases o <;> exact h
  cases body with
  | none => exact moves_of_rows rfl
  | some body =>
    rw [batchResolveFor]
    cases checkBatch body with
    | error error => exact moves_of_rows rfl
    | ok checked =>
      obtain ⟨ids, resolution, note⟩ := checked
      refine Ensures.bind (P := fun s' => s' = s) (R := fun _ => Moves s) (Q := fun _ => Moves s) ?_ (fun count => ?_)
        (fun _ _ h => h) (fun _ h => h) s rfl
      · rintro s' rfl
        exact moves_resolveBatch ids resolution note s'
      · exact (hlogged _).bind (fun _ => ensures_pure fun _ h => h) (fun _ _ h => h) fun _ h => h

theorem moves_batchResolve (sdk : StellarSdk) (store : NonceStore ν) (headers : Headers) (ip : Option String)
    (body : Option BatchResolveBody) (s : Site ρ ν) :
    Moves s ((Mutation.batchResolve body).serve E sdk store headers ip s).2 := by
  obtain hrows | ⟨address, key, -, hnext⟩ := authenticated_run sdk store headers none
    (fun address _ => batchResolveFor E body ip address) s
  · exact moves_of_rows hrows
  · have hrows := authOutcome_rows sdk store headers none s
    have hdb := congrArg Rows.db hrows
    have hnotes := congrArg Rows.resolution_notes hrows
    have hmoves := moves_batchResolveFor (E := E) body ip address (authOutcome sdk store headers none s).2
    rw [Mutation.serve, hnext]
    intro eventId
    have hmoved := hmoves eventId
    rw [show (authOutcome sdk store headers none s).2.world.db = s.world.db from hdb,
      show (authOutcome sdk store headers none s).2.resolution_notes = s.resolution_notes from hnotes] at hmoved
    exact hmoved

/-- The insert that records a failure, carried out: a new record, or the error and `resolved_at` of the one there. -/
def recordedRow (ev : DecodedEvent) (error : Failure) : Option FailedEventRow → FailedEventRow
  | some row => { row with error := error.message, resolved := false }
  | none => { symbol := ev.symbol.text, ledger := ev.ledger, error := error.message }

def recordedIn (ev : DecodedEvent) (error : Failure) (db : Db) : Db where
  __ := db
  failed_events := db.failed_events.insert ev.id (recordedRow ev error (db.failed_events.lookup ev.id))

theorem upsertFailedEvent_run (ev : DecodedEvent) (error : Failure) (db : Db) :
    upsertFailedEvent ev error.message db = .ok ((), recordedIn ev error db) := by
  cases hrow : db.failed_events.lookup ev.id <;>
    simp [upsertFailedEvent, modify, modifyGet, MonadStateOf.modifyGet, StateT.modifyGet, pure, Except.pure, hrow,
      recordedIn, recordedRow]

theorem records_stamp (r : FailedEvents ρ ν) (eventId : String) (now : Int) (isNew : Bool) :
    (r.stamp eventId now isNew).records = r.records := by cases isNew <;> rfl

theorem notes_stamp (r : FailedEvents ρ ν) (eventId : String) (now : Int) (isNew : Bool) :
    (r.stamp eventId now isNew).notes = r.notes := by cases isNew <;> rfl

/-- Recording a failure is one statement, which is not caught. -/
theorem recordQuarantinedEvent_eq (ev : DecodedEvent) (error : Failure) (w : World ρ) :
    OurDao.recordQuarantinedEvent E ev error w =
      match ask E.statement w with
      | (.done _, w) => (.done (), { w with
          db := recordedIn ev error w.db
          console := w.console ++ [.quarantined ev.id error.message] })
      | (.raised e, w) => (.raised (.error (s!"Failed to record quarantined event {ev.id} in failed_events: " ++
          e.message)), w)
      | (.crashed, w) => (.crashed, w) := by
  rw [OurDao.recordQuarantinedEvent, bind_run, tryCatch_run, transaction, bind_run]
  rcases ask E.statement w with ⟨o, w⟩
  cases o with
  | done a => simp [commit, upsertFailedEvent_run, say]
  | raised e => rfl
  | crashed => rfl

/-- A failure is recorded when its statement is answered, and nothing is written otherwise. -/
theorem recordQuarantinedEvent_run (ev : DecodedEvent) (error : Failure) (now : Int) (r : FailedEvents ρ ν) :
    (recordQuarantinedEvent E ev error now r).2.notes = r.notes ∧
      (((E.statement r.site.world.env).1 = .done () ∧ (recordQuarantinedEvent E ev error now r).2.records =
        r.records.insert ev.id (recordedRow ev error (r.records.lookup ev.id))) ∨
      ((E.statement r.site.world.env).1 ≠ .done () ∧ (recordQuarantinedEvent E ev error now r).2.records =
        r.records)) := by
  simp only [recordQuarantinedEvent, onSite, onWorld, recordQuarantinedEvent_eq]
  rcases hstatement : ask E.statement r.site.world with ⟨o, w⟩
  have houtcome : (E.statement r.site.world.env).1 = o := (Prod.mk.inj hstatement).1
  have hdb : w.db = r.site.world.db := by rw [← (Prod.mk.inj hstatement).2]
  rw [houtcome]
  cases o with
  | done a =>
    refine ⟨notes_stamp _ _ _ _, .inl ⟨rfl, (records_stamp _ _ _ _).trans ?_⟩⟩
    change (recordedIn ev error w.db).failed_events = _
    rw [recordedIn, hdb]
    rfl
  | raised e => exact ⟨rfl, .inr ⟨by simp, by rw [records, records, hdb]⟩⟩
  | crashed => exact ⟨rfl, .inr ⟨by simp, by rw [records, records, hdb]⟩⟩

variable {sdk : StellarSdk} {store : NonceStore ν} {r : FailedEvents ρ ν} {c : RecordsCommand}

theorem run_onSite {α : Type} (m : Op (Site ρ ν) Failure α) (r : FailedEvents ρ ν) :
    ((do let _ ← onSite m : Op (FailedEvents ρ ν) Failure Unit) r).2 = { r with site := (m r.site).2 } := by
  rw [bind_run, onSite]
  rcases m r.site with ⟨o, s⟩
  cases o <;> rfl

theorem moved_deleteRows {p : String → FailedEventRow → Bool}
    (hp : ∀ eventId row, p eventId row = true → row.resolved = true) (eventId : String) :
    Moved (r.records.lookup eventId) (r.notes.lookup eventId) ((r.deleteRows p).records.lookup eventId)
      ((r.deleteRows p).notes.lookup eventId) := by
  have hrecords : (r.deleteRows p).records.lookup eventId =
      (r.records.lookup eventId).filter fun row => !p eventId row := Table.lookup_deleteWhere
  have hnotes : (r.deleteRows p).notes.lookup eventId = (r.notes.lookup eventId).filter fun _ =>
      !(r.records.lookup eventId).any (p eventId) :=
    Table.lookup_deleteWhere (q := fun eventId _ => (r.records.lookup eventId).any (p eventId))
  have hall : ∀ note : Option String, note.filter (fun _ => true) = note := by
    intro note
    cases note <;> rfl
  rw [hrecords, hnotes]
  cases hrow : r.records.lookup eventId with
  | none => exact (hall _).symm ▸ .absent _
  | some row =>
    by_cases hdeleted : p eventId row = true
    · have hgone : ((some row).filter fun row => !p eventId row) = none := by simp [Option.filter, hdeleted]
      have hnote : (r.notes.lookup eventId).filter (fun _ => !(some row).any (p eventId)) = none := by simp [hdeleted]
      rw [hgone, hnote]
      exact .deleted (hp eventId row hdeleted)
    · have hkept : ((some row).filter fun row => !p eventId row) = some row := by simp [Option.filter, hdeleted]
      have hnote : (r.notes.lookup eventId).filter (fun _ => !(some row).any (p eventId)) =
          r.notes.lookup eventId := by simpa [hdeleted] using hall _
      rw [hkept, hnote]
      exact .refl _ _

/-- **One command**: where it reopens nothing, each event's columns move as they may. -/
theorem act_moved (sdk : StellarSdk) (store : NonceStore ν) (hnot : ¬ Reopens E r c) (eventId : String) :
    Moved (r.records.lookup eventId) (r.notes.lookup eventId) ((act E sdk store r c).records.lookup eventId)
      ((act E sdk store r c).notes.lookup eventId) := by
  cases c with
  | recordQuarantinedEvent ev error now =>
    obtain ⟨hnotes, ⟨hdone, hrecords⟩ | ⟨-, hrecords⟩⟩ := recordQuarantinedEvent_run (E := E) ev error now r
    · change Moved _ _ ((recordQuarantinedEvent E ev error now r).2.records.lookup eventId)
        ((recordQuarantinedEvent E ev error now r).2.notes.lookup eventId)
      rw [hnotes, hrecords, Table.lookup_insert]
      by_cases heq : eventId = ev.id
      · subst heq
        rw [if_pos rfl]
        cases hrow : r.records.lookup ev.id with
        | none => exact .recorded rfl rfl _
        | some row =>
          have hopen : row.resolved = false := by
            by_contra hresolved
            exact hnot ⟨⟨row, hrow, by simpa using hresolved⟩, hdone⟩
          have hsame : recordedRow ev error (some row) = { row with error := error.message } := by
            rw [recordedRow, ← hopen]
          rw [hsame]
          exact .settled (.refailed _) (.inl rfl)
      · rw [if_neg heq]
        exact .refl _ _
    · change Moved _ _ ((recordQuarantinedEvent E ev error now r).2.records.lookup eventId)
        ((recordQuarantinedEvent E ev error now r).2.notes.lookup eventId)
      rw [hnotes, hrecords]
      exact .refl _ _
  | replayFailedEvent id resolution =>
    rw [act, serve, run_onSite]
    exact moved_of_settles (settledFrom_replayFailedEvent id _ r.site.world eventId) _
  | reindexFromEventLog batchSize =>
    rw [act, serve, run_onSite]
    exact moved_of_settles (settledFrom_reindexFromEventLog batchSize r.site.world eventId) _
  | batchResolve headers ip body =>
    rw [act, serve, run_onSite]
    exact moves_batchResolve sdk store headers ip body r.site eventId
  | delete_expired_failed_events now retention_days =>
    rw [act, serve, delete_expired_failed_events, bind_run, onSite, onWorld]
    rcases hstatement : ask E.statement r.site.world with ⟨o, w⟩
    have hdb : w.db = r.site.world.db := by rw [← (Prod.mk.inj hstatement).2]
    have hrecords : r.records = w.db.failed_events := by rw [records, hdb]
    rw [hrecords]
    cases o with
    | done a =>
      exact moved_deleteRows (r := { r with site := { r.site with world := w } })
        (fun _ _ h => (Bool.and_eq_true_iff.mp h).1) eventId
    | raised e => exact .refl _ _
    | crashed => exact .refl _ _

theorem act_reopens (sdk : StellarSdk) (store : NonceStore ν) (h : Reopens E r c) :
    ∃ eventId row error, r.records.lookup eventId = some row ∧ row.resolved = true ∧
      (act E sdk store r c).notes = r.notes ∧
      (act E sdk store r c).records = r.records.insert eventId { row with error, resolved := false } := by
  cases c with
  | recordQuarantinedEvent ev error now =>
    obtain ⟨⟨row, hrow, hresolved⟩, hdone⟩ := h
    obtain ⟨hnotes, ⟨-, hrecords⟩ | ⟨hnot, -⟩⟩ := recordQuarantinedEvent_run (E := E) ev error now r
    · rw [hrow] at hrecords
      exact ⟨ev.id, row, error.message, hrow, hresolved, hnotes, hrecords⟩
    · exact absurd hdone hnot
  | replayFailedEvent eventId resolution => exact h.elim
  | reindexFromEventLog batchSize => exact h.elim
  | batchResolve headers ip body => exact h.elim
  | delete_expired_failed_events now retention_days => exact h.elim

/-- Only an event with a record has a note. -/
def NotesBelong (r : FailedEvents ρ ν) : Prop :=
  ∀ eventId, r.records.lookup eventId = none → r.notes.lookup eventId = none

theorem Moved.note_none {row : Option FailedEventRow} {note note' : Option String} (h : Moved row note none note')
    (hnote : row = none → note = none) : note' = none := by
  cases h with
  | absent note => exact hnote rfl
  | deleted hresolved => rfl

theorem Moved.inLine {row : Option FailedEventRow} {row' : FailedEventRow} {note note' : Option String}
    (h : Moved row note (some row') note') (hnote : row = none → note = none)
    (hrow : ∀ old, row = some old → InLine old note) : InLine row' note' := by
  cases h with
  | recorded hopen hresolution note =>
    refine ⟨fun _ => ⟨hresolution, hnote rfl⟩, fun hresolved => ?_⟩
    rw [hopen] at hresolved
    cases hresolved
  | settled hs hkept =>
    obtain ⟨hunresolved, hresolved⟩ := hrow _ rfl
    cases hs with
    | refailed error =>
      refine ⟨fun hopen => ⟨(hunresolved hopen).1, ?_⟩, hresolved⟩
      obtain rfl | hclosed := hkept
      · exact (hunresolved hopen).2
      · exact absurd hclosed (Bool.eq_false_iff.mp hopen)
    | resolved hopen error resolution => exact ⟨by simp, by simp⟩

theorem Moved.isSome {row : FailedEventRow} {row' : Option FailedEventRow} {note note' : Option String}
    (h : Moved (some row) note row' note') (hopen : row.resolved = false) : row'.isSome := by
  cases h with
  | settled hs hnote => rfl
  | deleted hresolved =>
    rw [hopen] at hresolved
    cases hresolved

theorem notesBelong_act (h : NotesBelong r) (c : RecordsCommand) : NotesBelong (act E sdk store r c) := by
  intro eventId hnone
  by_cases hreopens : Reopens E r c
  · obtain ⟨reopened, row, error, hrow, -, hnotes, hrecords⟩ := act_reopens sdk store hreopens
    rw [hrecords, Table.lookup_insert] at hnone
    split at hnone
    · cases hnone
    · rw [hnotes]
      exact h eventId hnone
  · have hmoved := act_moved sdk store hreopens eventId
    rw [hnone] at hmoved
    exact hmoved.note_none (h eventId)

/-- No command deletes an open record. -/
theorem noneLost_act (r : FailedEvents ρ ν) (c : RecordsCommand) : NoneLost r (act E sdk store r c) := by
  intro eventId row hrow hopen
  by_cases hreopens : Reopens E r c
  · obtain ⟨reopened, old, error, -, -, -, hrecords⟩ := act_reopens sdk store hreopens
    rw [hrecords, Table.lookup_insert]
    split
    · rfl
    · rw [hrow]
      rfl
  · have hmoved := act_moved sdk store hreopens eventId
    rw [hrow] at hmoved
    exact hmoved.isSome hopen

/-- A command leaves records in line exactly where it reopens none. -/
theorem consistent_act (h : Consistent r) (hnotes : NotesBelong r) (c : RecordsCommand) :
    Consistent (act E sdk store r c) ↔ ¬ Reopens E r c := by
  constructor
  · intro hafter hreopens
    obtain ⟨eventId, row, error, hrow, hresolved, -, hrecords⟩ :=
      act_reopens sdk store hreopens
    have hnone := ((hafter.inLine eventId { row with error, resolved := false } (by
      rw [hrecords, Table.lookup_insert, if_pos rfl])).unresolved rfl).1
    have hsome := (h.inLine eventId row hrow).resolved hresolved
    dsimp only at hnone
    rw [hnone] at hsome
    cases hsome
  · intro hnot
    refine ⟨Table.rows_keys_nodup _, fun eventId row' hrow' => ?_⟩
    have hmoved := act_moved sdk store hnot eventId
    rw [hrow'] at hmoved
    exact hmoved.inLine (hnotes eventId) fun old hold => h.inLine eventId old hold

/-- **Records stay in line as long as none is reopened**: over any commands from a site without
records, the records are consistent in every state and no open one is deleted, if and only if no
failure is recorded of an event whose record is resolved. -/
theorem records_consistent_iff (site : Site ρ ν) (commands : List RecordsCommand) :
    ((∀ past, past <+: commands → Consistent (past.foldl (act E sdk store) (unrecorded site))) ∧
      ∀ past c, past ++ [c] <+: commands → NoneLost (past.foldl (act E sdk store) (unrecorded site))
        ((past ++ [c]).foldl (act E sdk store) (unrecorded site))) ↔
    ∀ past c, past ++ [c] <+: commands → ¬ Reopens E (past.foldl (act E sdk store) (unrecorded site)) c := by
  have hnotes : ∀ past, past <+: commands → NotesBelong (past.foldl (act E sdk store) (unrecorded site)) :=
    fun past hpast => Runs.all_along (P := NotesBelong) (fun _ _ => rfl)
      (fun past c _ h => notesBelong_act h c) hpast
  constructor
  · rintro ⟨hconsistent, -⟩ past c hpast
    have hbefore := hconsistent past (Runs.prefix_of_snoc hpast)
    have hafter := hconsistent (past ++ [c]) hpast
    rw [List.foldl_concat] at hafter
    exact (consistent_act hbefore (hnotes past (Runs.prefix_of_snoc hpast)) c).mp hafter
  · intro hnot
    refine ⟨fun past hpast => ?_, fun past c hpast => ?_⟩
    · refine Runs.all_along (P := Consistent) ?_ (fun past c hpast h => ?_) hpast
      · exact ⟨List.nodup_nil, fun _ _ h => by cases h⟩
      · exact (consistent_act h (hnotes past (Runs.prefix_of_snoc hpast)) c).mpr (hnot past c hpast)
    · rw [List.foldl_concat]
      exact noneLost_act _ c

end

def aBadPenalty : DecodedEvent where
  id := "0002"
  ledger := 2
  closedAt := 0
  contractId := "C"
  txHash := none
  symbol := "loan_dflt"
  topics := []
  data := []
  fields := []
  decodeError := none

/-- A site without records, whose store holds the nonce of one member. -/
def memberSite : Site Nat MemoryNonceStore where
  world := freshWorld 0
  nonces := sharedNonce.nonces

def asMember : Headers := fun name =>
  if name = "authorization" then some "StellarSignature GMEMBER:sig:0000000003e8ff" else none

/-- An event fails, its record is set aside with a note, and the event fails again. -/
def failedAgain : List RecordsCommand :=
  [.recordQuarantinedEvent aBadPenalty (.error "penalty is missing") 1000,
    .batchResolve asMember none
      (some { ids := some [some 1], resolution := some "ignored", note := some (some "known") }),
    .recordQuarantinedEvent aBadPenalty (.error "penalty is missing") 3000]

def afterFailedAgain : FailedEvents Nat MemoryNonceStore :=
  failedAgain.foldl (act .healthy memberSdk (memoryStore 2000)) (unrecorded memberSite)

/-- The record is open, and still has its resolution and its note. -/
theorem reopened_record_keeps_resolution :
    afterFailedAgain.notes.lookup "0002" = some "known" ∧
      ¬ ∀ past, past <+: failedAgain →
        Consistent (past.foldl (act .healthy memberSdk (memoryStore 2000)) (unrecorded memberSite)) := by
  have hrow : (afterFailedAgain.records.lookup "0002").map (fun row => (row.resolved, row.resolution)) =
      some (false, some .ignored) := by decide +kernel
  refine ⟨by decide +kernel, fun h => ?_⟩
  obtain ⟨row, hlookup, hcolumns⟩ := Option.map_eq_some_iff.mp hrow
  obtain ⟨hopen, hresolution⟩ := Prod.mk.inj hcolumns
  have hnone := ((h failedAgain List.prefix_rfl).inLine "0002" row hlookup).unresolved hopen
  rw [hnone.1] at hresolution
  cases hresolution

end FailedEvents

end OurDao
