import OurDao.OnePass

/-!
# Repointing at another deployment

A change of the configured contracts wipes the derived tables and the cursors and keeps the
raw log with its marks. What is refetched then is folded only where its row was not marked
before: a contract that had been indexed comes back empty. And the log that a rebuild or a
replay reads is the log of every contract that was ever indexed.
-/

namespace OurDao

open Faults Op

variable {ρ : Type}

/-- The row of the event was marked as folded. -/
def Db.marked (db : Db) (id : String) : Bool := (db.events.lookup id).any (·.folded)

/-- The reset, and then the pages that the poller is served, each with the ledger it was folded up to. -/
def refetch (E : Environment ρ) (pages : List (List EventResponse × Nat)) : Proc ρ Unit := do
  resetForContractChange E
  forM pages fun p => ingestPage E p.1 p.2

theorem decoded_append (raws raws' : List EventResponse) : decoded (raws ++ raws') = decoded raws ++ decoded raws' :=
  List.filterMap_append

theorem decoded_singleton {raw : EventResponse} {ev : DecodedEvent} (h : decodeEvent raw = .ok ev) :
    decoded [raw] = [ev] := by
  simp [decoded, h, Except.toOption]

/-- `db` after the events `raws`, all new since the reset of `db₀`. -/
structure Refetched (db₀ : Db) (raws : List EventResponse) (db : Db) : Prop where
  applied : db.applied = (decoded raws).filter fun ev => !db₀.marked ev.id
  tables : foldTables db.applied Tables.empty = .ok db.tables
  marked : ∀ id ∉ raws.map (·.id), db.marked id = db₀.marked id

namespace Refetched

variable {db₀ db db' : Db} {raws page : List EventResponse} {raw : EventResponse}

theorem reset (db₀ : Db) : Refetched db₀ [] { db₀.truncate with indexer_cursor := ∅ } :=
  ⟨rfl, rfl, fun _ _ => rfl⟩

end Refetched

/-- What an ingested event does: a marked row is skipped, any other is folded. -/
theorem ingestEvent_marked {db db' : Db} {lastLedger : Nat} {raw : EventResponse}
    {pending : List (StreamChannel × String)} (h : ingestEvent lastLedger raw db = .ok (pending, db')) :
    ∃ ev, decodeEvent raw = .ok ev ∧ ev.id = raw.id ∧
      ((db.marked raw.id = true ∧ db' = db) ∨
        (db.marked raw.id = false ∧ db'.applied = db.applied ++ [ev] ∧
          ∃ channels, applyEvent ev db.tables = .ok (channels, db'.tables))) ∧
      ∀ id ≠ raw.id, db'.marked id = db.marked id := by
  obtain ⟨ev, hd, -, hcases⟩ := ingestEvent_eq_ok.mp h
  have hid := (decodeEvent_eq_ok hd).1
  refine ⟨ev, hd, hid, ?_⟩
  rw [← hid]
  rcases hcases with ⟨db₁, channels, hraw, hf, -⟩ | ⟨hraw, -⟩
  · obtain ⟨t, happly, rfl⟩ := foldLogged_eq_ok.mp hf
    obtain ⟨-, ⟨row, hrow, hfalse, rfl⟩ | ⟨hnone, -, rfl⟩⟩ := insertRawEvent_eq_ok.mp hraw
    · refine ⟨.inr ⟨by simpa [Db.marked, hrow] using hfalse.symm, rfl, channels, happly⟩, fun id hne => ?_⟩
      simp [Db.marked, lookup_setFolded, hne]
    · refine ⟨.inr ⟨by simp [Db.marked, hnone], rfl, channels, happly⟩, fun id hne => ?_⟩
      simp [Db.marked, lookup_setFolded, hne, AList.lookup_insert_ne hne]
  · obtain ⟨-, ⟨row, hrow, htrue, rfl⟩ | ⟨-, hfalse, -⟩⟩ := insertRawEvent_eq_ok.mp hraw
    · exact ⟨.inl ⟨by simpa [Db.marked, hrow] using htrue.symm, rfl⟩, fun _ _ => rfl⟩
    · cases hfalse

namespace Refetched

variable {db₀ db db' : Db} {raws page : List EventResponse} {raw : EventResponse}

theorem ingestEvent (h : Refetched db₀ raws db) (hnew : raw.id ∉ raws.map (·.id)) {lastLedger : Nat}
    {pending : List (StreamChannel × String)} (hi : ingestEvent lastLedger raw db = .ok (pending, db')) :
    Refetched db₀ (raws ++ [raw]) db' := by
  obtain ⟨ev, hd, hid, hcases, hothers⟩ := ingestEvent_marked hi
  have hbefore := h.marked raw.id hnew
  have hmarked : ∀ id ∉ (raws ++ [raw]).map (·.id), db'.marked id = db₀.marked id := by
    intro id hmem
    simp only [List.map_append, List.map_cons, List.map_nil, List.mem_append, List.mem_singleton, not_or] at hmem
    rw [hothers id hmem.2, h.marked id hmem.1]
  rcases hcases with ⟨htrue, rfl⟩ | ⟨hfalse, happlied, channels, happly⟩
  · refine ⟨?_, h.tables, hmarked⟩
    rw [decoded_append, decoded_singleton hd, List.filter_append, h.applied]
    simp [hid, ← hbefore, htrue]
  · refine ⟨?_, ?_, hmarked⟩
    · rw [decoded_append, decoded_singleton hd, List.filter_append, happlied, h.applied]
      simp [hid, ← hbefore, hfalse]
    · rw [happlied]
      exact foldTables_concat h.tables happly

theorem ingestEvents (h : Refetched db₀ raws db) (hids : ((raws ++ page).map (·.id)).Nodup) {lastLedger : Nat}
    {pending : List (StreamChannel × String)} (hi : ingestEvents lastLedger page db = .ok (pending, db')) :
    Refetched db₀ (raws ++ page) db' := by
  induction page generalizing db raws pending with
  | nil =>
    cases hi
    rwa [List.append_nil]
  | cons raw page ih =>
    obtain ⟨p, db₁, ps, h₁, h₂, -⟩ := ingestEvents_cons_ok.mp hi
    have hnew : raw.id ∉ raws.map (·.id) := by
      intro hmem
      rw [List.map_append] at hids
      exact (List.nodup_append.mp hids).2.2 _ hmem _ (by simp) rfl
    rw [List.append_cons] at hids ⊢
    exact ih (h.ingestEvent hnew h₁) hids h₂

variable {E : Environment ρ}

theorem ingestPage (lastLedger : Nat) (hids : ((raws ++ page).map (·.id)).Nodup) :
    Ensures (fun w => Refetched db₀ raws w.db) (ingestPage E page lastLedger)
      (OnDone fun _ w => Refetched db₀ (raws ++ page) w.db) := by
  rw [OurDao.ingestPage]
  split
  next hempty =>
    obtain rfl := List.isEmpty_iff.mp hempty
    exact ensures_pure_done fun w h => by rwa [List.append_nil]
  next =>
    refine Ensures.bind_done (R := fun _ w => Refetched db₀ (raws ++ page) w.db) ?_ fun pending =>
      (keeps_announce drifts_db pending).onDone
    refine ensures_withLock_done drifts_db (ensures_transaction_done drifts_db ?_) fun _ => drifts_db
    intro w pending db h hi
    exact h.ingestEvents hids hi

end Refetched

/-- A reset that returns has wiped the derived tables and the cursors, and nothing else. -/
theorem resetForContractChange_done {E : Environment ρ} {db : Db} :
    Ensures (fun w : World ρ => w.db = db) (resetForContractChange E) (OnDone fun _ w =>
      w.db = { db.truncate with indexer_cursor := ∅ }) := by
  refine Ensures.bind_done (keeps_ask .pg_try_advisory_lock drifts_same).onDone fun locked => ?_
  cases locked with
  | false => exact ensures_throw_done
  | true =>
    refine ensures_transaction_done drifts_same fun w _ db' h hreset => ?_
    cases hreset
    rw [h]

/-- **A refetch folds what was not marked.** After a reset the derived tables are those of the refetched
events if and only if leaving out the marked ones makes no difference to them; and every refetched
event is folded if and only if none was marked. -/
theorem refetch_rebuilds_iff {E : Environment ρ} {w w' : World ρ} {pages : List (List EventResponse × Nat)}
    {evs : List DecodedEvent} (hevs : decoded (pages.flatMap Prod.fst) = evs)
    (hids : ((pages.flatMap Prod.fst).map (·.id)).Nodup) (hrun : refetch E pages w = (.done (), w')) :
    (foldTables evs Tables.empty = .ok w'.db.tables ↔
      foldTables (evs.filter fun ev => !w.db.marked ev.id) Tables.empty = foldTables evs Tables.empty) ∧
    (w'.db.applied = evs ↔ ∀ ev ∈ evs, w.db.marked ev.id = false) := by
  have hpages : Ensures (fun w' : World ρ => Refetched w.db [] w'.db) (forM pages fun p => ingestPage E p.1 p.2)
      (OnDone fun _ (w' : World ρ) => Refetched w.db (pages.flatMap Prod.fst) w'.db) := by
    refine ensures_forM (P := fun before (w' : World ρ) => Refetched w.db (before.flatMap Prod.fst) w'.db) pages
      (fun before p after hsplit => ?_) fun w' h => h
    have hpage : (((before.flatMap Prod.fst) ++ p.1).map (·.id)).Nodup := by
      rw [hsplit, List.flatMap_append, List.flatMap_cons, ← List.append_assoc, List.map_append] at hids
      exact (List.nodup_append.mp hids).1
    have hstep : Ensures (fun v => Refetched w.db (before.flatMap Prod.fst) v.db) (ingestPage E p.1 p.2)
        (OnDone fun _ v => Refetched w.db (before.flatMap Prod.fst ++ p.1) v.db) :=
      Refetched.ingestPage p.2 hpage
    refine hstep.post fun o w' h => ?_
    cases o with
    | done _ => simpa [List.flatMap_append, OnDone] using h
    | raised _ => trivial
    | crashed => trivial
  have hall : Ensures (fun w' : World ρ => w'.db = w.db) (refetch E pages)
      (OnDone fun _ w' => Refetched w.db (pages.flatMap Prod.fst) w'.db) := by
    refine Ensures.bind_done resetForContractChange_done fun _ => ?_
    exact hpages.mono (fun w' h => h ▸ Refetched.reset w.db) fun _ _ h => h
  have h : Refetched w.db (pages.flatMap Prod.fst) w'.db := by
    have := hall w rfl
    rwa [hrun] at this
  have hfold := h.applied ▸ h.tables
  rw [h.applied, hevs] at *
  constructor
  · rw [hfold]
    exact eq_comm
  · rw [List.filter_eq_self]
    simp

/-- The derived tables are the fold of events of the configured contracts. -/
structure Reflects (contractIds : List String) (db : Db) : Prop where
  included : foldTables db.applied Tables.empty = .ok db.tables
  unread : Unread db.tables
  configured : ∀ ev ∈ db.applied, ev.contractId ∈ contractIds

theorem reflects_empty (contractIds : List String) : Reflects contractIds Db.empty :=
  ⟨rfl, unread_empty, by simp [Db.empty]⟩

namespace Reflects

variable {contractIds : List String} {db db' : Db} {ev : DecodedEvent}

theorem congr (h : Reflects contractIds db) (ht : db'.tables = db.tables) (ha : db'.applied = db.applied) :
    Reflects contractIds db' := ⟨by rw [ha, ht]; exact h.included, ht ▸ h.unread, ha ▸ h.configured⟩

theorem foldLogged (h : Reflects contractIds db) (hev : ev.contractId ∈ contractIds)
    {channels : List StreamChannel} (hf : foldLogged ev db = .ok (channels, db')) : Reflects contractIds db' := by
  obtain ⟨t, happly, rfl⟩ := foldLogged_eq_ok.mp hf
  refine ⟨foldTables_concat h.included happly, applyEvent_unread _ _ _ happly h.unread, fun e he => ?_⟩
  rcases List.mem_append.mp he with he | he
  · exact h.configured e he
  · exact List.mem_singleton.mp he ▸ hev

theorem insertRawEvent (h : Reflects contractIds db) {needsFold : Bool}
    (hi : insertRawEvent ev db = .ok (needsFold, db')) : Reflects contractIds db' := by
  obtain ⟨-, ⟨_, -, -, rfl⟩ | ⟨-, -, rfl⟩⟩ := insertRawEvent_eq_ok.mp hi
  · exact h
  · exact h.congr rfl rfl

end Reflects

theorem toDecodedEvent_contractId {id : String} {row : EventRow} {ev : DecodedEvent}
    (h : toDecodedEvent id row = .ok ev) : ev.contractId = row.contract_id := by
  simp only [toDecodedEvent, bind, Except.bind] at h
  split at h
  · cases h
  · cases h; rfl

theorem pollable_reflects {E : Environment ρ} (contractIds : List String) :
    Pollable E (fun ev => ev.contractId ∈ contractIds) fun w => Reflects contractIds w.db where
  drifts := drifts_db
  insertRawEvent _ _ _ _ _ h hi := h.insertRawEvent hi
  foldLogged _ _ _ _ hev h hf := h.foldLogged hev hf
  failed _ _ _ _ _ h hf := by
    cases hf
    exact h.congr rfl rfl
  quarantineState _ _ _ _ _ h hq := by
    cases hq
    exact h.congr rfl rfl
  console _ _ h := h
  memory _ _ h := h
  cursor _ _ _ h := h.congr rfl rfl
  deliver _ _ h := h

/-- What the operator and the worker do to a deployment. -/
inductive Operation where
  /-- a start of the worker with a configuration -/
  | ensureCursorContract (config : Config)
  | fetchOnce (config : Config) (contractId : String)
  | reindexFromEventLog (batchSize : Option Int)
  | replayFailedEvent (eventId : String) (resolution : Resolution)
  | restart

/-- Runs of a deployment with the contracts that are configured: every change of them is followed by a
successful `ensureCursorContract`, polls are of configured contracts, and all but that may end, fail or
die wherever the surroundings have it. -/
inductive Deployed (E : Environment ρ) (Meets : List String → Db → Operation → Prop) (w₀ : World ρ) :
    List String → World ρ → Prop
  | start (contractIds : List String) : Deployed E Meets w₀ contractIds w₀
  | configure {contractIds : List String} {w w' : World ρ} (config : Config) : Deployed E Meets w₀ contractIds w →
    Meets contractIds w.db (.ensureCursorContract config) →
    ensureCursorContract E config config.contractIds w = (.done (), w') → Deployed E Meets w₀ config.contractIds w'
  | poll {contractIds : List String} {w : World ρ} (config : Config) {c : String} :
    Deployed E Meets w₀ contractIds w →
    c ∈ contractIds → Meets contractIds w.db (.fetchOnce config c) →
    Deployed E Meets w₀ contractIds (recover (fetchOnce E config c w))
  | reindex {contractIds : List String} {w : World ρ} (batchSize : Option Int) : Deployed E Meets w₀ contractIds w →
    Meets contractIds w.db (.reindexFromEventLog batchSize) →
    Deployed E Meets w₀ contractIds (recover (reindexFromEventLog E batchSize w))
  | replay {contractIds : List String} {w : World ρ} (eventId : String) (resolution : Resolution) :
    Deployed E Meets w₀ contractIds w → Meets contractIds w.db (.replayFailedEvent eventId resolution) →
    Deployed E Meets w₀ contractIds (recover (replayFailedEvent E eventId resolution w))
  | restart {contractIds : List String} {w : World ρ} : Deployed E Meets w₀ contractIds w →
    Deployed E Meets w₀ contractIds (restart w)

/-- A rebuild that would commit finds rows of configured contracts only, a replay that would fold finds
one, and a change of the contracts that no cursor row gives away leaves out no contract whose events
were folded. -/
def Confined (contractIds : List String) (db : Db) : Operation → Prop
  | .ensureCursorContract config => staleContracts db config.contractIds = [] →
      ∀ ev ∈ db.applied, ev.contractId ∈ config.contractIds
  | .reindexFromEventLog batchSize => (reindexTx (batchSize.getD 1000) db).isOk = true →
      ∀ id row, db.events.lookup id = some row → row.contract_id ∈ contractIds
  | .replayFailedEvent eventId _ => (db.failed_events.lookup eventId).any (fun r => !r.resolved) = true →
      ∀ row, db.events.lookup eventId = some row → row.folded = false → row.contract_id ∈ contractIds
  | .fetchOnce _ _ => True
  | .restart => True

namespace Reflects

variable {E : Environment ρ} {contractIds : List String} {db db' : Db}

theorem replayed (h : Reflects contractIds db) {eventId : String} {resolution : Resolution}
    (hconfined : Confined contractIds db (.replayFailedEvent eventId resolution)) (hr : Replayed eventId db db') :
    Reflects contractIds db' := by
  cases hr with
  | recorded failed => exact h.congr rfl rfl
  | folded failed hunresolved hrow hfalse hd hf =>
    have hev := hconfined hunresolved _ hrow hfalse
    rw [← toDecodedEvent_contractId hd] at hev
    exact (h.foldLogged hev hf).congr rfl rfl

theorem reindexed (h : Reflects contractIds db) {batchSize : Option Int} {s : Rebuilt}
    (hconfined : Confined contractIds db (.reindexFromEventLog batchSize))
    (hr : reindexTx (batchSize.getD 1000) db = .ok (s, db')) : Reflects contractIds db' := by
  have hrows := hconfined (by rw [hr]; rfl)
  obtain ⟨evs, t, hd, hf, -, rfl⟩ := reindexTx_eq_ok hr
  have hunread := foldTables_unread hf unread_empty
  refine ⟨?_, ?_, fun ev hev => ?_⟩
  · simpa [savedReads_of_unread h.unread, restoreReads] using hf
  · simpa [savedReads_of_unread h.unread, restoreReads] using hunread
  · obtain ⟨r, hr, hdecode⟩ := hd.mem hev
    rw [toDecodedEvent_contractId hdecode]
    exact hrows r.1 r.2 (Table.mem_rows.mp (Keyset.mem_ordered.mp hr))

/-- A successful check of the contracts has found no stale cursor row, or wiped the derived tables. -/
theorem ensureCursorContract {w w' : World ρ} {config : Config} (h : Reflects contractIds w.db)
    (hconfined : Confined contractIds w.db (.ensureCursorContract config))
    (hrun : ensureCursorContract E config config.contractIds w = (.done (), w')) :
    Reflects config.contractIds w'.db := by
  have hensures : Ensures (fun v : World ρ => v.db = w.db) (OurDao.ensureCursorContract E config config.contractIds)
      (OnDone fun _ v => Reflects config.contractIds v.db) := by
    refine Ensures.bind (ensures_read _) (fun stale => ?_) (fun _ _ _ => trivial) fun _ _ => trivial
    split
    next hempty =>
      refine ensures_pure_done fun v ⟨hv, hstale⟩ => ?_
      have hnone := hstale stale rfl
      rw [List.isEmpty_iff.mp hempty] at hnone
      have hnow : Reflects config.contractIds w.db := ⟨h.included, h.unread, hconfined hnone.symm⟩
      rwa [hv]
    next =>
      split
      · refine Ensures.mono (P := fun v => v.db = w.db) ?_ (fun _ h => h.1) fun _ _ h => h
        have hsay : Keeps (fun v : World ρ => v.db = w.db) (say (.staleContracts stale)) := fun _ h => h
        refine Ensures.bind_done hsay.onDone fun _ => ?_
        refine resetForContractChange_done.post fun o v hdone => ?_
        exact onDone_imp (fun _ v hv => hv ▸ ⟨rfl, unread_empty, by simp [Db.truncate]⟩) o v hdone
      · exact ensures_throw_done
  have := hensures w rfl
  rwa [hrun] at this

end Reflects

/-- **Derived state reflects only configured contracts**, in every run in which no rebuild or replay
reads rows of other contracts and no other contract hides behind a missing cursor row. -/
theorem reflects_configured {E : Environment ρ} (hserves : ∀ c, Serves E c fun ev => ev.contractId = c)
    {w₀ w : World ρ} (hempty : w₀.db = Db.empty) {contractIds : List String}
    (h : Deployed E Confined w₀ contractIds w) : Reflects contractIds w.db := by
  induction h with
  | start contractIds => exact hempty ▸ reflects_empty contractIds
  | configure config _ hconfined hrun ih => exact ih.ensureCursorContract hconfined hrun
  | @poll contractIds w config c _ hc _ ih =>
    refine recover_keeps (I := fun w => Reflects contractIds w.db) (fun _ h => h) ?_
    have hserved : Serves E c fun ev => ev.contractId ∈ contractIds :=
      fun request r res hid hres raw hraw ev hd => by
        have hev : ev.contractId = c := hserves c request r res hid hres raw hraw ev hd
        change ev.contractId ∈ contractIds
        rwa [hev]
    exact (pollable_reflects contractIds).fetchOnce hserved config w ih
  | @reindex contractIds w batchSize _ hconfined ih =>
    refine recover_keeps (I := fun w => Reflects contractIds w.db) (fun _ h => h) ?_
    rcases reindexFromEventLog_db (E := E) batchSize w rfl with hsame | ⟨s, hr⟩
    · exact hsame ▸ ih
    · exact ih.reindexed hconfined hr
  | @replay contractIds w eventId resolution _ hconfined ih =>
    refine recover_keeps (I := fun w => Reflects contractIds w.db) (fun _ h => h) ?_
    exact ih.replayed hconfined (replayFailedEvent_replayed eventId resolution w rfl)
  | restart _ ih => exact ih

/-- Surroundings in which everything succeeds, with a log for every contract. -/
def Environment.chains (log : String → List EventResponse) : Environment Nat :=
  { Environment.healthy with
    getLatestLedger := fun n => (.done { sequence := 20000, hash := "" }, n)
    getLedgers := fun _ n => (.done none, n)
    getEvents := fun request n =>
      let events := ((log request.contractId).filter request.position.admits).take request.limit.toNat
      let cursor := (events.getLast?.map (·.id)) <|> request.position.token
      (.done { events, cursor, latestLedger := some 20000 }, n) }

def aJoinOfD : EventResponse :=
  { EventResponse.published "0003" 2740 "joined" [.str "GB", .bigint 7] with contractId := "D" }

def deployments (c : String) : List EventResponse :=
  if c = "C" then [anEarlyEvent, aLateEvent] else if c = "D" then [aJoinOfD] else []

def indexing (c : String) (resets : Bool) : Config :=
  { contractIds := [c], startLedger := 1, resetOnContractChange := resets }

/-- A poll of one contract. -/
def polled (c : String) (w : World Nat) : World Nat :=
  recover (fetchOnce (.chains deployments) (indexing c false) c w)

/-- The worker is started for another contract, with the flag that has it wiped. -/
def repointed (c : String) (w : World Nat) : World Nat :=
  (ensureCursorContract (.chains deployments) (indexing c true) (indexing c true).contractIds w).2

def rebuilt (w : World Nat) : World Nat := recover (reindexFromEventLog (.chains deployments) none w)

/-- The pages of the first deployment. -/
def pagesOfC : List (List EventResponse × Nat) := [([anEarlyEvent], 0), ([aLateEvent], 2725)]

theorem pagesOfC_events : pagesOfC.flatMap Prod.fst = [anEarlyEvent, aLateEvent] := rfl

/-- A contract that was never indexed is refetched whole. -/
theorem refetch_rebuilds_a_new_contract :
    foldTables (decoded (pagesOfC.flatMap Prod.fst)) Tables.empty =
      .ok (refetch (.chains deployments) pagesOfC (polled "D" (freshWorld 0))).2.db.tables := by
  have hdone : (refetch (.chains deployments) pagesOfC (polled "D" (freshWorld 0))).1 = .done () := by decide +kernel
  have hmarked : ((decoded (pagesOfC.flatMap Prod.fst)).all fun ev =>
      !(polled "D" (freshWorld 0)).db.marked ev.id) = true := by decide +kernel
  have hids : ((pagesOfC.flatMap Prod.fst).map (·.id)).Nodup := by
    rw [pagesOfC_events]
    decide
  rcases hrun : refetch (.chains deployments) pagesOfC (polled "D" (freshWorld 0)) with ⟨o, w'⟩
  rw [hrun] at hdone
  obtain rfl : o = .done () := hdone
  have hiff := (refetch_rebuilds_iff rfl hids hrun).1
  rw [List.filter_eq_self.mpr fun ev hev => List.all_eq_true.mp hmarked ev hev] at hiff
  exact hiff.mpr rfl

/-- Two deployments, both indexed. -/
def bothIndexed : World Nat := polled "D" (polled "C" (freshWorld 0))

theorem polls_polled {w w' : World Nat} (h : Polls (.chains deployments) (fun _ => True) w w') (c : String) :
    Polls (.chains deployments) (fun _ => True) w (polled c w') := .poll (indexing c false) c h trivial

/-- A deployment that had been indexed comes back empty. -/
theorem refetch_skips_an_old_contract :
    Polls (.chains deployments) (fun _ => True) (freshWorld 0) bothIndexed ∧
      (refetch (.chains deployments) pagesOfC bothIndexed).1 = .done () ∧
      ((foldTables (decoded (pagesOfC.flatMap Prod.fst)) Tables.empty).toOption.map fun t =>
        (t.members.lookup "GA").isSome) = some true ∧
      ((refetch (.chains deployments) pagesOfC bothIndexed).2.db.tables.members.lookup "GA").isSome = false :=
  ⟨polls_polled (polls_polled (.refl _) "C") "D", by decide +kernel, by decide +kernel, by decide +kernel⟩

section

variable {M : List String → Db → Operation → Prop} {w : World Nat} {c : String}

theorem deployed_polled (h : Deployed (.chains deployments) M (freshWorld 0) [c] w)
    (hmeets : M [c] w.db (.fetchOnce (indexing c false) c)) :
    Deployed (.chains deployments) M (freshWorld 0) [c] (polled c w) :=
  .poll (indexing c false) h (List.mem_singleton_self c) hmeets

theorem deployed_rebuilt (h : Deployed (.chains deployments) M (freshWorld 0) [c] w)
    (hmeets : M [c] w.db (.reindexFromEventLog none)) :
    Deployed (.chains deployments) M (freshWorld 0) [c] (rebuilt w) := .reindex none h hmeets

theorem deployed_repointed (h : Deployed (.chains deployments) M (freshWorld 0) [c] w) (c' : String)
    (hmeets : M [c] w.db (.ensureCursorContract (indexing c' true)))
    (hdone : (ensureCursorContract (.chains deployments) (indexing c' true) [c'] w).1 = .done ()) :
    Deployed (.chains deployments) M (freshWorld 0) [c'] (repointed c' w) :=
  .configure (indexing c' true) h hmeets (Prod.ext hdone rfl)

end

/-- The first deployment is indexed and rebuilt, and the second one after the first was wiped. -/
def confinedRun : World Nat := polled "D" (repointed "D" (rebuilt (polled "C" (freshWorld 0))))

theorem reflects_configured_after_a_redeployment : Reflects ["D"] confinedRun.db := by
  have hserves : ∀ c, Serves (.chains deployments) c fun ev => ev.contractId = c := by
    intro c request r res hid hres raw hraw ev hd
    cases hres
    rw [(decodeEvent_eq_ok hd).2.2.1]
    have hmem := (List.mem_filter.mp (List.mem_of_mem_take hraw)).1
    rw [hid] at hmem
    by_cases hC : c = "C"
    · subst hC
      have hall : ∀ e ∈ deployments "C", e.contractId = "C" := by decide
      exact hall raw hmem
    · by_cases hD : c = "D"
      · subst hD
        have hall : ∀ e ∈ deployments "D", e.contractId = "D" := by decide
        exact hall raw hmem
      · simp [deployments, hC, hD] at hmem
  have h₁ := deployed_polled (.start ["C"]) trivial (M := Confined)
  have hrows : ∀ r ∈ Table.rows (polled "C" (freshWorld 0)).db.events, r.2.contract_id ∈ ["C"] := by decide +kernel
  have h₂ := deployed_rebuilt h₁ fun _ id row hrow => hrows (id, row) (Table.mem_rows.mpr hrow)
  have hstale : staleContracts (rebuilt (polled "C" (freshWorld 0))).db ["D"] ≠ [] := by decide +kernel
  have h₃ := deployed_repointed h₂ "D" (fun hnone => absurd hnone hstale) (by decide +kernel)
  exact reflects_configured hserves rfl (deployed_polled h₃ trivial)

/-- A rebuild after the change brings the first deployment back. -/
theorem rebuild_brings_a_deployment_back :
    Deployed (.chains deployments) (fun _ _ _ => True) (freshWorld 0) ["D"]
      (rebuilt (repointed "D" (polled "C" (freshWorld 0)))) ∧
      ((rebuilt (repointed "D" (polled "C" (freshWorld 0)))).db.tables.members.lookup "GA").isSome = true ∧
      ¬ Reflects ["D"] (rebuilt (repointed "D" (polled "C" (freshWorld 0)))).db := by
  refine ⟨?_, by decide +kernel, fun h => ?_⟩
  · refine deployed_rebuilt (deployed_repointed (deployed_polled (.start ["C"]) trivial) "D" trivial ?_) trivial
    decide +kernel
  · have hforeign : ((rebuilt (repointed "D" (polled "C" (freshWorld 0)))).db.applied.all fun ev =>
        ["D"].contains ev.contractId) = false := by decide +kernel
    rw [← Bool.not_eq_true, List.all_eq_true] at hforeign
    exact hforeign fun ev hev => List.contains_iff_mem.mpr (h.configured ev hev)

end OurDao
