import OurDao.Rebuild

/-!
# Exactly-once folding

The invariant that ties the raw log to the derived state: what the derived tables hold
is the fold of some list of logged events, no event twice, and `folded_at` marks
exactly those. Every operation that folds keeps it, with one exception: a rebuild
folds rows whose marker is unset and leaves it unset, so that they are folded again
when they are delivered again.
-/

namespace OurDao

open Faults Op

/-- Every row of the log is in the derived state at most once, and is marked as folded
exactly when it is in. -/
structure ExactlyOnce (db : Db) : Prop where
  once : (db.applied.map (·.id)).Nodup
  folded : ∀ id row, db.events.lookup id = some row →
    (row.folded = true ↔ id ∈ db.applied.map (·.id))
  logged : ∀ id ∈ db.applied.map (·.id), (db.events.lookup id).isSome
  included : foldTables db.applied Tables.empty = .ok db.tables
  unread : Unread db.tables

theorem exactlyOnce_empty : ExactlyOnce Db.empty where
  once := by simp [Db.empty]
  folded := by simp [Db.empty]
  logged := by simp [Db.empty]
  included := rfl
  unread := unread_empty

namespace ExactlyOnce

variable {db db' : Db} {ev : DecodedEvent}

/-- A raw insert leaves a row whose marker says whether the event is in. -/
theorem insertRawEvent (h : ExactlyOnce db) {needsFold : Bool}
    (hi : insertRawEvent ev db = .ok (needsFold, db')) :
    ExactlyOnce db' ∧ ∃ row, db'.events.lookup ev.id = some row ∧ row.folded = !needsFold := by
  obtain ⟨-, ⟨row, hrow, hn, rfl⟩ | ⟨hnone, rfl, rfl⟩⟩ := insertRawEvent_eq_ok.mp hi
  · exact ⟨h, row, hrow, by simp [hn]⟩
  have hnew : ev.id ∉ db.applied.map (·.id) := fun hmem => by simpa [hnone] using h.logged _ hmem
  refine ⟨⟨h.once, ?_, ?_, h.included, h.unread⟩, rawRow ev, AList.lookup_insert _, rfl⟩
  · intro id row hrow
    rcases eq_or_ne id ev.id with rfl | hne
    · rw [AList.lookup_insert] at hrow
      cases hrow
      simpa [rawRow] using hnew
    · exact h.folded id row (by rwa [AList.lookup_insert_ne hne] at hrow)
  · intro id hid
    have hne : id ≠ ev.id := fun he => hnew (he ▸ hid)
    simpa [AList.lookup_insert_ne hne] using h.logged id hid

/-- Folding a row that is there and unmarked. -/
theorem foldLogged (h : ExactlyOnce db) {row : EventRow} {channels : List StreamChannel}
    (hrow : db.events.lookup ev.id = some row) (hunfolded : row.folded = false)
    (hf : foldLogged ev db = .ok (channels, db')) : ExactlyOnce db' := by
  obtain ⟨tables, ha, rfl⟩ := foldLogged_eq_ok.mp hf
  have hnew : ev.id ∉ db.applied.map (·.id) := fun hmem => by
    simpa [hunfolded] using (h.folded _ _ hrow).mpr hmem
  refine ⟨?_, ?_, ?_, foldTables_concat h.included ha, applyEvent_unread _ _ _ ha h.unread⟩
  · rw [List.map_append]
    exact List.nodup_append_comm.mp (List.nodup_cons.mpr ⟨hnew, h.once⟩)
  · intro id r hr
    simp only [lookup_setFolded] at hr
    obtain ⟨r₀, hr₀, rfl⟩ := Option.map_eq_some_iff.mp hr
    by_cases hid : id = ev.id
    · simp [hid]
    · simpa [hid] using h.folded id r₀ hr₀
  · intro id hid
    simp only [lookup_setFolded, Option.isSome_map]
    rw [List.map_append, List.mem_append] at hid
    rcases hid with hid | hid
    · exact h.logged id hid
    · obtain rfl : id = ev.id := by simpa using hid
      simp [hrow]

theorem ingestEvent (h : ExactlyOnce db) {lastLedger : Nat} {raw : EventResponse}
    {pending : List (StreamChannel × String)}
    (hi : ingestEvent lastLedger raw db = .ok (pending, db')) : ExactlyOnce db' := by
  obtain ⟨ev, -, -, ⟨db₁, channels, hraw, hf, -⟩ | ⟨hraw, -⟩⟩ := ingestEvent_eq_ok.mp hi
  · obtain ⟨h₁, row, hrow, hfolded⟩ := h.insertRawEvent hraw
    exact h₁.foldLogged hrow (by simpa using hfolded) hf
  · exact (h.insertRawEvent hraw).1

/-- Only the log and the derived state matter. -/
theorem congr (h : ExactlyOnce db) (ht : db'.tables = db.tables) (ha : db'.applied = db.applied)
    (he : db'.events = db.events) : ExactlyOnce db' :=
  ⟨ha ▸ h.once, by rw [he, ha]; exact h.folded, by rw [he, ha]; exact h.logged,
    by rw [ha, ht]; exact h.included, ht ▸ h.unread⟩

end ExactlyOnce

/-- Every row of the log is marked as folded. -/
def AllFolded (db : Db) : Prop := ∀ id row, db.events.lookup id = some row → row.folded = true

theorem allFolded_iff {db : Db} : (∀ r ∈ Table.rows db.events, r.2.folded = true) ↔ AllFolded db :=
  ⟨fun h _ _ hrow => h _ (Table.mem_rows.mpr hrow), fun h r hr => h r.1 r.2 (Table.mem_rows.mp hr)⟩

instance (db : Db) : Decidable (AllFolded db) := decidable_of_iff _ allFolded_iff

theorem foldTables_unread {evs : List DecodedEvent} {t t' : Tables} (h : foldTables evs t = .ok t')
    (ht : Unread t) : Unread t' := by
  induction evs generalizing t with
  | nil => cases h; exact ht
  | cons ev evs ih =>
    obtain ⟨channels, t₁, h₁, h₂⟩ := foldTables_cons_ok.mp h
    exact ih h₂ (applyEvent_unread _ _ _ h₁ ht)

theorem orderedLog_ids (events : Table String EventRow) :
    ((orderedLog events).map Prod.fst).Perm events.keys := by
  have h := (Keyset.ordered_perm logKey (Table.rows events)).map Prod.fst
  rwa [Table.rows_keys] at h

/-- **A rebuild keeps exactly-once folding exactly when every row was marked.** -/
theorem reindexTx_exactlyOnce_iff {db db' : Db} (h : ExactlyOnce db) {batchSize : Int} {s : Rebuilt}
    (hr : reindexTx batchSize db = .ok (s, db')) : ExactlyOnce db' ↔ AllFolded db := by
  obtain ⟨evs, t, hd, hf, -, rfl⟩ := reindexTx_eq_ok hr
  have hids : ∀ id, id ∈ evs.map (·.id) ↔ (db.events.lookup id).isSome := fun id => by
    rw [hd.ids, (orderedLog_ids db.events).mem_iff, ← AList.mem_keys, AList.lookup_isSome]
  constructor
  · intro h' id row hrow
    exact (h'.folded id row hrow).mpr ((hids id).mpr (by simp [hrow]))
  · intro hall
    have hunread := foldTables_unread hf unread_empty
    refine ⟨?_, ?_, fun id hid => (hids id).mp hid, ?_, ?_⟩
    · rw [hd.ids]
      exact (orderedLog_ids db.events).nodup_iff.mpr db.events.keys_nodup
    · intro id row hrow
      simpa [hall id row hrow] using (hids id).mpr (by simp [hrow])
    · simpa [savedReads_of_unread h.unread, restoreReads] using hf
    · simpa [savedReads_of_unread h.unread, restoreReads] using hunread

section

variable {ρ : Type} (E : Environment ρ)

/-- The invariant of a process: its database folds exactly once. -/
abbrev FoldsOnce (w : World ρ) : Prop := ExactlyOnce w.db

theorem ingestPage_foldsOnce (events : List EventResponse) (lastLedger : Nat) :
    Keeps FoldsOnce (ingestPage E events lastLedger) := by
  rw [ingestPage]
  split
  · exact Keeps.pure ()
  · refine Keeps.bind (keeps_withLock drifts_db (keeps_transaction ?_)) fun _ => keeps_announce drifts_db _
    intro db pending db' h hp
    exact ingestEvents_keeps (fun _ _ _ _ _ h hi => h.ingestEvent hi) h hp

theorem quarantine_foldsOnce (ev : DecodedEvent) (err : Failure) :
    Keeps FoldsOnce (quarantine E ev err) := by
  refine Keeps.bind (keeps_statement drifts_db) fun _ => ?_
  refine Keeps.bind (Keeps.tryCatch ?_ fun _ => fun w h => h) fun _ => Keeps.pure _
  refine Keeps.bind (Keeps.tryCatch (keeps_transaction ?_) fun _ => Keeps.throw _) fun _ => fun w h => h
  intro db _ db' h hp
  cases hp
  exact h.congr rfl rfl rfl

/-- A raw row that is there and not marked. -/
def Awaiting (id : String) (w : World ρ) : Prop :=
  ∃ row, w.db.events.lookup id = some row ∧ row.folded = false

theorem drifts_awaiting (id : String) : Drifts E fun w => FoldsOnce w ∧ Awaiting id w :=
  ⟨fun _ _ _ h => h, fun _ _ h => h⟩

theorem foldOrQuarantine_foldsOnce (ev : DecodedEvent) : Keeps FoldsOnce (foldOrQuarantine E ev) := by
  have hraw : Ensures FoldsOnce (transaction E (insertRawEvent ev)) fun o w => FoldsOnce w ∧
      (o = .done true → Awaiting ev.id w) := by
    refine ensures_transaction drifts_db ?_ (fun _ _ h => ⟨h, by simp⟩) fun _ h => ⟨h, by simp⟩
    intro w needsFold db h hi
    obtain ⟨h', row, hrow, hfolded⟩ := ExactlyOnce.insertRawEvent h hi
    refine ⟨h', fun ho => ⟨row, hrow, ?_⟩⟩
    cases ho
    simpa using hfolded
  refine Ensures.bind hraw (fun needsFold => ?_) (fun _ _ h => h.1) fun _ h => h.1
  cases needsFold with
  | false => exact ensures_pure fun _ h => h.1
  | true =>
    refine Ensures.tryCatch (R := fun _ => FoldsOnce) ?_ (fun _ _ h => h)
      (fun err => quarantine_foldsOnce E ev err) fun _ h => h
    refine Ensures.mono (P := fun w => FoldsOnce w ∧ Awaiting ev.id w) ?_
      (fun w h => ⟨h.1, h.2 rfl⟩) fun _ _ h => h
    refine ensures_transaction (drifts_awaiting E ev.id) ?_ (fun _ _ h => h.1) fun _ h => h.1
    rintro w channels db ⟨h, row, hrow, hunfolded⟩ hf
    exact ExactlyOnce.foldLogged h hrow hunfolded hf

theorem ingestEventQuarantined_foldsOnce (ev : DecodedEvent) (lastLedger : Nat) :
    Keeps FoldsOnce (ingestEventQuarantined E ev lastLedger) := by
  rw [ingestEventQuarantined]
  split
  · exact Keeps.throw _
  · exact Keeps.bind (keeps_withLock drifts_db (foldOrQuarantine_foldsOnce E ev))
      fun _ => keeps_announce drifts_db _

theorem ingestAlone_foldsOnce (raw : EventResponse) (lastLedger : Nat) :
    Keeps FoldsOnce (ingestAlone E raw lastLedger) := by
  rw [ingestAlone]
  split
  · exact ingestEventQuarantined_foldsOnce E _ lastLedger
  · exact Keeps.throw _

theorem ExactlyOnce.replayed {db db' : Db} {eventId : String} (h : ExactlyOnce db) (hr : Replayed eventId db db') :
    ExactlyOnce db' := by
  cases hr with
  | recorded failed => exact h.congr rfl rfl rfl
  | folded failed _ hrow hfalse hd hf =>
    obtain rfl := toDecodedEvent_id hd
    exact (h.foldLogged hrow hfalse hf).congr rfl rfl rfl

theorem replayFailedEvent_foldsOnce (eventId : String) (resolution : Resolution) :
    Keeps FoldsOnce (replayFailedEvent E eventId resolution) := fun w h =>
  h.replayed (replayFailedEvent_replayed eventId resolution w rfl)

/-- The condition under which a rebuild is harmless: it would fail, or there is no unmarked row. -/
def RebuildsFolded (batchSize : Option Int) (db : Db) : Prop :=
  (reindexTx (batchSize.getD 1000) db).isOk = true → AllFolded db

theorem reindexFromEventLog_foldsOnce (batchSize : Option Int) :
    Ensures (fun w => FoldsOnce w ∧ RebuildsFolded batchSize w.db) (reindexFromEventLog E batchSize)
      fun _ => FoldsOnce := by
  rintro w ⟨h, hall⟩
  rcases reindexFromEventLog_db (E := E) batchSize w rfl with hsame | ⟨s, hr⟩
  · exact h.congr (congrArg Db.tables hsame) (congrArg Db.applied hsame) (congrArg Db.events hsame)
  · exact (reindexTx_exactlyOnce_iff h hr).mpr (hall (by rw [hr]; rfl))

end

inductive Command where
  | ingestPage (events : List EventResponse) (lastLedger : Nat)
  | ingestEventQuarantined (raw : EventResponse) (lastLedger : Nat)
  | reindexFromEventLog (batchSize : Option Int)
  | replayFailedEvent (eventId : String) (resolution : Resolution)

section

variable {ρ : Type} (E : Environment ρ)

def Command.run : Command → Proc ρ Unit
  | .ingestPage events lastLedger => OurDao.ingestPage E events lastLedger
  | .ingestEventQuarantined raw lastLedger => ingestAlone E raw lastLedger
  | .reindexFromEventLog batchSize => do let _ ← OurDao.reindexFromEventLog E batchSize
  | .replayFailedEvent eventId resolution => do
    let _ ← OurDao.replayFailedEvent E eventId resolution

/-- A rebuild is started only where it is harmless. -/
def Command.Harmless : Command → Db → Prop
  | .reindexFromEventLog batchSize, db => RebuildsFolded batchSize db
  | _, _ => True

/-- A run: commands in any order, each started in a state that `Meets` its condition, and
each ending, failing or dying wherever the surroundings have it. -/
inductive Run (Meets : Command → Db → Prop) : World ρ → World ρ → Prop
  | refl (w : World ρ) : Run Meets w w
  | step {w w' : World ρ} (c : Command) : Run Meets w w' → Meets c w'.db →
    Run Meets w (recover (c.run E w'))

theorem Command.run_foldsOnce (c : Command) :
    Ensures (fun w => FoldsOnce w ∧ c.Harmless w.db) (c.run E) fun _ => FoldsOnce := by
  cases c with
  | ingestPage events lastLedger =>
    exact (ingestPage_foldsOnce E events lastLedger).mono (fun _ h => h.1) fun _ _ h => h
  | ingestEventQuarantined raw lastLedger =>
    exact (ingestAlone_foldsOnce E raw lastLedger).mono (fun _ h => h.1) fun _ _ h => h
  | reindexFromEventLog batchSize =>
    exact (reindexFromEventLog_foldsOnce E batchSize).bind (fun _ => ensures_pure fun _ h => h)
      (fun _ _ h => h) fun _ h => h
  | replayFailedEvent eventId resolution =>
    exact Ensures.mono (Keeps.bind (replayFailedEvent_foldsOnce E eventId resolution) fun _ =>
      Keeps.pure ()) (fun _ h => h.1) fun _ _ h => h

variable {E}

theorem recover_db (o : Outcome Failure Unit × World ρ) : (recover o).db = o.2.db := by
  rcases o with ⟨_ | _ | _, w⟩ <;> rfl

/-- **Exactly-once folding**, in every run that never rebuilds over an unmarked row. -/
theorem exactlyOnce_of_run {w w' : World ρ} (h : Run E Command.Harmless w w')
    (hw : w.db = Db.empty) : ExactlyOnce w'.db := by
  induction h with
  | refl => exact hw ▸ exactlyOnce_empty
  | step c _ hc ih =>
    rw [recover_db]
    exact c.run_foldsOnce E _ ⟨ih, hc⟩

end

def runAll {ρ : Type} (E : Environment ρ) (cs : List Command) (w : World ρ) : World ρ :=
  cs.foldl (fun w c => recover (c.run E w)) w

theorem run_snoc {ρ : Type} {E : Environment ρ} {Meets : Command → Db → Prop} {w : World ρ}
    {cs cs' : List Command} (c : Command) (h : Run E Meets w (runAll E cs w))
    (hc : Meets c (runAll E cs w).db) (hcs : cs' = cs ++ [c]) : Run E Meets w (runAll E cs' w) := by
  rw [hcs, runAll, List.foldl_append]
  exact h.step c hc

def aJoin : EventResponse := .published "0001" 1 "joined" [.str "GA", .bigint 100]

def aClaim : EventResponse := .published "0002" 2 "claimed" [.str "GA", .bigint 5]

/-- Two pages and a rebuild between them: the rebuild finds every row marked. -/
theorem exactlyOnce_of_run_healthy :
    ExactlyOnce (runAll .healthy
      [.ingestPage [aJoin] 0, .reindexFromEventLog none, .ingestPage [aJoin, aClaim] 1]
      (freshWorld 0)).db := by
  have h₀ : Run .healthy Command.Harmless (freshWorld 0) (runAll .healthy [] (freshWorld 0)) := .refl _
  have h₁ : Run .healthy Command.Harmless (freshWorld 0)
      (runAll .healthy [.ingestPage [aJoin] 0] (freshWorld 0)) := run_snoc (.ingestPage [aJoin] 0) h₀ trivial rfl
  have h₂ : Run .healthy Command.Harmless (freshWorld 0)
      (runAll .healthy [.ingestPage [aJoin] 0, .reindexFromEventLog none] (freshWorld 0)) :=
    run_snoc (.reindexFromEventLog none) h₁ (fun _ => of_decide_eq_true (by decide +kernel)) rfl
  exact exactlyOnce_of_run (run_snoc (.ingestPage [aJoin, aClaim] 1) h₂ trivial rfl) rfl

/-- A stop between the raw insert and the fold of an event, then a rebuild, then the event
again: it is folded by the rebuild and by the page. -/
theorem rebuild_then_redelivery_folds_twice :
    let w := runAll (Environment.scripted fun n => if n = 4 then .crashed else .done ())
      [.ingestPage [aJoin] 0, .ingestEventQuarantined aClaim 1, .reindexFromEventLog none,
        .ingestPage [aClaim] 1] (freshWorld 0)
    w.db.applied.map (·.id) = ["0001", "0002", "0002"] ∧
      (w.db.tables.members.lookup "GA").map (·.pending_claimed) = some 10 ∧ ¬ ExactlyOnce w.db := by
  intro w
  have hids : w.db.applied.map (·.id) = ["0001", "0002", "0002"] := by decide +kernel
  refine ⟨hids, by decide +kernel, fun h => ?_⟩
  have honce := h.once
  rw [hids] at honce
  exact absurd honce (by decide)

end OurDao
