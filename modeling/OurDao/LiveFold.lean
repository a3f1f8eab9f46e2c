import OurDao.ExactlyOnce

/-!
# The log is authoritative

What a row of the raw log gives back reads like the event it was made of, so a
rebuild from the log does what the incremental fold did: page by page on one side, in
key order and in batches of any size on the other, the derived tables are the same.
-/

namespace OurDao

open Faults Op

theorem normalizeList_getElem? (vs : List Json) (i : Nat) :
    (Json.normalize.normalizeList vs)[i]? = (vs[i]?).map Json.normalize := by
  induction vs generalizing i with
  | nil => simp [Json.normalize.normalizeList]
  | cons v vs ih => cases i <;> simp [Json.normalize.normalizeList, ih]

theorem lookup_map_normalize (name : String) (fields : List (String × Json)) :
    (fields.map fun f => (f.1, f.2.normalize)).lookup name =
      (fields.lookup name).map Json.normalize := by
  induction fields with
  | nil => rfl
  | cons f fields ih =>
    obtain ⟨k, v⟩ := f
    simp only [List.map_cons, List.lookup_cons]
    cases name == k <;> simp [ih]

theorem namedFields_normalize {symbol : JsStr} {data : List Json} {fields : List (String × Json)}
    (h : namedFields symbol data = .ok fields) :
    namedFields symbol (Json.normalize.normalizeList data) =
      .ok (fields.map fun f => (f.1, f.2.normalize)) := by
  rw [namedFields] at h ⊢
  cases hs : EventSymbol.ofSymbol? symbol with
  | some s =>
    simp only [hs, Except.ok.injEq] at h ⊢
    rw [← h, List.map_map]
    refine List.map_congr_left fun n _ => ?_
    simp only [Function.comp_apply, normalizeList_getElem?]
    rcases data[n.2]? with _ | v <;> simp [Json.normalize]
  | none =>
    simp only [hs] at h ⊢
    split at h
    · cases h
    next hi =>
      cases h
      rw [if_neg hi]
      rfl

theorem storable_of_textFault {s : JsStr} (h : textFault s = none) : s.storable = true := by
  rw [textFault] at h
  split at h <;> simp_all

/-- A row that Postgres took gives back an event that reads like the one it was made of. -/
theorem toDecodedEvent_rawRow {raw : EventResponse} {ev : DecodedEvent} (hd : decodeEvent raw = .ok ev)
    (hf : rawFault ev = none) (folded : Bool) :
    ∃ ev', toDecodedEvent ev.id { rawRow ev with folded } = .ok ev' ∧ Alike ev ev' := by
  have hsym : JsStr.ofString ev.symbol.text = ev.symbol := by
    have hs : textFault ev.symbol = none := by
      rcases h : textFault ev.symbol with _ | m
      · rfl
      · simp [rawFault, h] at hf
    exact JsStr.ofString_text (JsStr.lone_of_storable (storable_of_textFault hs))
  have hfields := namedFields_normalize (decodeEvent_eq_ok hd).2.2.2.2
  refine ⟨_, by simp only [toDecodedEvent, rawRow, Json.normalize, hsym, hfields]; rfl, ?_⟩
  refine ⟨rfl, rfl, rfl, rfl, ?_, fun name => .inr ?_⟩
  · simp only [dayOf]
    omega
  · simp only [DecodedEvent.field, lookup_map_normalize]
    rcases ev.fields.lookup name with _ | v <;> simp [Json.normalize]

/-- The row of an event that was inserted and folded. -/
def loggedRow (ev : DecodedEvent) : String × EventRow := (ev.id, { rawRow ev with folded := true })

/-- The database holds the fold of `raws`, and their rows, and nothing else. -/
structure Live (raws : List EventResponse) (evs : List DecodedEvent) (db : Db) : Prop where
  decoded : List.Forall₂ (fun raw ev => decodeEvent raw = .ok ev) raws evs
  stored : ∀ ev ∈ evs, rawFault ev = none
  folded : foldTables evs Tables.empty = .ok db.tables
  rows : Table.rows db.events = (evs.map loggedRow).reverse

theorem live_empty : Live [] [] Db.empty := ⟨.nil, by simp, rfl, rfl⟩

theorem ids_of_decoded {raws : List EventResponse} {evs : List DecodedEvent}
    (h : List.Forall₂ (fun raw ev => decodeEvent raw = .ok ev) raws evs) :
    evs.map (·.id) = raws.map (·.id) := by
  induction h with
  | nil => rfl
  | cons hd _ ih => rw [List.map_cons, List.map_cons, (decodeEvent_eq_ok hd).1, ih]

/-- Inserting a row and marking it at once. -/
theorem setFolded_insert (id : String) (row : EventRow) (events : Table String EventRow) :
    setFolded id (events.insert id row) = events.insert id { row with folded := true } := by
  simp [setFolded, AList.lookup_insert, AList.insert_insert]

theorem Live.lookup_new {raws : List EventResponse} {evs : List DecodedEvent} {db : Db} (h : Live raws evs db)
    {id : String} (hnew : id ∉ raws.map (·.id)) : db.events.lookup id = none := by
  rw [Option.eq_none_iff_forall_ne_some]
  intro row hrow
  have hmem := Table.mem_rows.mpr hrow
  rw [h.rows, List.mem_reverse] at hmem
  obtain ⟨ev, hev, he⟩ := List.mem_map.mp hmem
  have hid : ev.id = id := congrArg Prod.fst he
  rw [← ids_of_decoded h.decoded, ← hid] at hnew
  exact hnew (List.mem_map_of_mem hev)

theorem Live.ingestEvent {raws : List EventResponse} {evs : List DecodedEvent} {db db' : Db}
    (h : Live raws evs db) {raw : EventResponse} (hnew : raw.id ∉ raws.map (·.id)) {lastLedger : Nat}
    {pending : List (StreamChannel × String)}
    (hi : ingestEvent lastLedger raw db = .ok (pending, db')) :
    ∃ ev, Live (raws ++ [raw]) (evs ++ [ev]) db' := by
  obtain ⟨ev, hd, -, hcase⟩ := ingestEvent_eq_ok.mp hi
  have hid := (decodeEvent_eq_ok hd).1
  have hnone : db.events.lookup ev.id = none := h.lookup_new (hid ▸ hnew)
  rcases hcase with ⟨db₁, channels, hraw, hf, -⟩ | ⟨hraw, -⟩
  · obtain ⟨hfault, ⟨row, hrow, -⟩ | ⟨-, -, rfl⟩⟩ := insertRawEvent_eq_ok.mp hraw
    · simp [hnone] at hrow
    obtain ⟨tables, ha, rfl⟩ := foldLogged_eq_ok.mp hf
    refine ⟨ev, ?_, ?_, foldTables_concat h.folded ha, ?_⟩
    · exact List.rel_append h.decoded (.cons hd .nil)
    · simpa [or_imp, forall_and, hfault] using h.stored
    · simp only [setFolded_insert, Table.rows_insert_new hnone, h.rows]
      simp [loggedRow]
  · obtain ⟨-, ⟨row, hrow, -⟩ | ⟨-, hfalse, -⟩⟩ := insertRawEvent_eq_ok.mp hraw
    · simp [hnone] at hrow
    · simp at hfalse

theorem Live.ingestEvents {raws page : List EventResponse} {evs : List DecodedEvent} {db db' : Db}
    (h : Live raws evs db) (hids : ((raws ++ page).map (·.id)).Nodup) {lastLedger : Nat}
    {pending : List (StreamChannel × String)}
    (hi : ingestEvents lastLedger page db = .ok (pending, db')) :
    ∃ evs', Live (raws ++ page) evs' db' := by
  induction page generalizing raws evs db pending with
  | nil => cases hi; exact ⟨evs, by simpa using h⟩
  | cons raw page ih =>
    obtain ⟨p, db₁, ps, h₁, h₂, -⟩ := ingestEvents_cons_ok.mp hi
    have hsplit : raws ++ raw :: page = raws ++ [raw] ++ page := by simp
    rw [hsplit] at hids ⊢
    have hnew : raw.id ∉ raws.map (·.id) := by
      have := (List.nodup_append.mp ((List.map_append ▸ hids))).1
      rw [List.map_append] at this
      exact fun hmem => (List.nodup_append.mp this).2.2 _ hmem _ (by simp) rfl
    obtain ⟨ev, hlive⟩ := h.ingestEvent hnew h₁
    exact ih hlive hids h₂

/-- The database holds the fold of `raws`, whatever events they decode to. -/
def FoldOf (raws : List EventResponse) (db : Db) : Prop := ∃ evs, Live raws evs db

theorem ingestPage_live {ρ : Type} (E : Environment ρ) {raws page : List EventResponse} (lastLedger : Nat)
    (hids : ((raws ++ page).map (·.id)).Nodup) :
    Ensures (fun w : World ρ => FoldOf raws w.db) (ingestPage E page lastLedger)
      (OnDone fun _ w => FoldOf (raws ++ page) w.db) := by
  have hdrift : ∀ raws, Drifts E fun w => FoldOf raws w.db := fun _ => drifts_db
  rw [ingestPage]
  split
  next hempty =>
    obtain rfl : page = [] := by simpa using hempty
    exact ensures_pure_done fun w h => by simpa using h
  · refine Ensures.bind_done (R := fun _ w => FoldOf (raws ++ page) w.db) ?_ fun pending =>
      (keeps_announce (hdrift _) pending).onDone
    refine ensures_withLock_done (hdrift raws) (ensures_transaction_done (hdrift raws) ?_) fun _ => hdrift _
    rintro w pending db ⟨evs, h⟩ hi
    exact h.ingestEvents hids hi

/-- The database after page ingests that all succeeded. -/
theorem ingestPages_live {ρ : Type} (E : Environment ρ) (pages : List (List EventResponse × Nat))
    (hids : ((pages.flatMap Prod.fst).map (·.id)).Nodup) :
    Ensures (fun w : World ρ => w.db = Db.empty) (forM pages fun p => ingestPage E p.1 p.2)
      (OnDone fun _ w => FoldOf (pages.flatMap Prod.fst) w.db) := by
  refine Ensures.mono (P := fun w => FoldOf [] w.db) ?_
    (fun w hw => ⟨[], by rw [hw]; exact live_empty⟩) fun _ _ h => h
  refine ensures_forM (P := fun before (w : World ρ) => FoldOf (before.flatMap Prod.fst) w.db) pages
    (fun before page after hpages => ?_) fun w h => h
  have hpage : ((before.flatMap Prod.fst ++ page.1).map (·.id)).Nodup := by
    rw [hpages, List.flatMap_append, List.flatMap_cons, ← List.append_assoc, List.map_append] at hids
    exact (List.nodup_append.mp hids).1
  refine (ingestPage_live E page.2 hpage).post fun o w h => ?_
  cases o with
  | done => simpa [OnDone] using h
  | raised e => trivial
  | crashed => trivial

theorem foldTables_alike {evs evs' : List DecodedEvent} (h : List.Forall₂ Alike evs evs') {t t' : Tables}
    (hf : foldTables evs t = .ok t') : foldTables evs' t = .ok t' := by
  induction h generalizing t with
  | nil => exact hf
  | cons hd _ ih =>
    obtain ⟨channels, t₁, h₁, h₂⟩ := foldTables_cons_ok.mp hf
    exact foldTables_cons_ok.mpr ⟨channels, t₁, applyEvent_alike hd h₁, ih h₂⟩

/-- The logged rows read back as events that read alike, one by one. -/
theorem decode_loggedRows {raws : List EventResponse} {evs : List DecodedEvent}
    (h : List.Forall₂ (fun raw ev => decodeEvent raw = .ok ev) raws evs) (hstored : ∀ ev ∈ evs, rawFault ev = none) :
    ∃ evs', Decode (evs.map loggedRow) evs' ∧ List.Forall₂ Alike evs evs' := by
  induction h with
  | nil => exact ⟨[], .nil, .nil⟩
  | cons hd _ ih =>
    obtain ⟨ev', hread, halike⟩ := toDecodedEvent_rawRow hd (hstored _ (by simp)) true
    obtain ⟨evs', hreads, halikes⟩ := ih fun ev hev => hstored ev (by simp [hev])
    exact ⟨ev' :: evs', .cons hread hreads, .cons halike halikes⟩

/-- Rows that are listed in key order stand in the order of a rebuild. -/
theorem orderedLog_of_rows {raws : List EventResponse} {evs : List DecodedEvent} {db : Db}
    (h : List.Forall₂ (fun raw ev => decodeEvent raw = .ok ev) raws evs)
    (hrows : (evs.map loggedRow).Perm (Table.rows db.events))
    (hord : raws.Pairwise fun a b => toLex (a.ledger, a.id) ≤ toLex (b.ledger, b.id)) :
    orderedLog db.events = evs.map loggedRow := by
  have hkeys : (evs.map loggedRow).map logKey = raws.map fun raw => toLex (raw.ledger, raw.id) := by
    clear hrows hord
    induction h with
    | nil => rfl
    | cons hd _ ih =>
      obtain ⟨hid, hledger, -⟩ := decodeEvent_eq_ok hd
      rw [List.map_cons, List.map_cons, List.map_cons, ih]
      simp [logKey, loggedRow, rawRow, hid, hledger]
  refine (Keyset.eq_ordered (logKey_nodup db.events) ?_ hrows).symm
  have hpair : ((evs.map loggedRow).map logKey).Pairwise (· ≤ ·) := by
    rw [hkeys, List.pairwise_map]
    exact hord
  rwa [List.pairwise_map] at hpair

/-- A rebuild commits the fold of what the log reads back as, or leaves the tables as they were. -/
theorem rebuild_of_decode {ρ : Type} (E : Environment ρ) {db : Db} {evs : List DecodedEvent} {t : Tables}
    (hd : Decode (orderedLog db.events) evs) (hf : foldTables evs Tables.empty = .ok t) (hunread : Unread db.tables)
    (batchSize : Option Int) :
    Ensures (fun v : World ρ => v.db = db) (reindexFromEventLog E batchSize) fun o v =>
      (v.db.tables = db.tables ∨ v.db.tables = t) ∧ (E.Healthy → o = .done (Table.rows db.events).length) := by
  obtain ⟨s, db', hr⟩ := reindexTx_of_fold (batchSize.getD 1000) hd hf
  obtain ⟨evs', t', hd', hf', hn, hdb'⟩ := reindexTx_eq_ok hr
  obtain rfl : evs = evs' := by
    refine List.right_unique_forall₂' (fun _ _ _ h₁ h₂ => ?_) hd hd'
    exact Except.ok.inj (h₁.symm.trans h₂)
  obtain rfl : t = t' := Except.ok.inj (hf.symm.trans hf')
  have htables : db'.tables = t := by
    simp [hdb', savedReads_of_unread hunread, restoreReads]
  intro v hv
  refine ⟨?_, fun hE => ?_⟩
  · rcases reindexFromEventLog_db (E := E) batchSize v hv with hsame | ⟨s', hr'⟩
    · exact .inl (by rw [hsame])
    · rw [hr] at hr'
      cases hr'
      exact .inr htables
  · obtain ⟨n, hdone, hn', -⟩ := reindexFromEventLog_returns hE hr v hv
    rw [hdone, hn', hn]

/-- A rebuild of rows that are listed in key order folds the events they were made of. -/
theorem rebuild_of_rows {ρ : Type} (E : Environment ρ) {raws : List EventResponse} {evs : List DecodedEvent}
    {db : Db} {t : Tables} (h : List.Forall₂ (fun raw ev => decodeEvent raw = .ok ev) raws evs)
    (hstored : ∀ ev ∈ evs, rawFault ev = none) (hrows : (evs.map loggedRow).Perm (Table.rows db.events))
    (hord : raws.Pairwise fun a b => toLex (a.ledger, a.id) ≤ toLex (b.ledger, b.id))
    (hf : foldTables evs Tables.empty = .ok t) (hunread : Unread db.tables) (batchSize : Option Int) :
    Ensures (fun v : World ρ => v.db = db) (reindexFromEventLog E batchSize) fun o v =>
      (v.db.tables = db.tables ∨ v.db.tables = t) ∧ (E.Healthy → o = .done raws.length) := by
  obtain ⟨evs', hd, halike⟩ := decode_loggedRows h hstored
  rw [← orderedLog_of_rows h hrows hord] at hd
  have hlength : raws.length = (Table.rows db.events).length := by
    rw [h.length_eq, ← hrows.length_eq, List.length_map]
  rw [hlength]
  exact rebuild_of_decode E hd (foldTables_alike halike hf) hunread batchSize

theorem Live.rows_perm {raws : List EventResponse} {evs : List DecodedEvent} {db : Db} (h : Live raws evs db) :
    (evs.map loggedRow).Perm (Table.rows db.events) := by
  rw [h.rows]
  exact (List.reverse_perm _).symm

theorem Live.unread {raws : List EventResponse} {evs : List DecodedEvent} {db : Db} (h : Live raws evs db) :
    Unread db.tables := foldTables_unread h.folded unread_empty

/-- Events in key order are logged in the order of a rebuild. -/
theorem Live.orderedLog {raws : List EventResponse} {evs : List DecodedEvent} {db : Db}
    (h : Live raws evs db)
    (hord : raws.Pairwise fun a b => toLex (a.ledger, a.id) ≤ toLex (b.ledger, b.id)) :
    orderedLog db.events = evs.map loggedRow := orderedLog_of_rows h.decoded h.rows_perm hord

/-- A rebuild of such a database leaves the derived tables as they were. -/
theorem Live.rebuild {ρ : Type} (E : Environment ρ) {raws : List EventResponse} {evs : List DecodedEvent} {db : Db}
    (h : Live raws evs db)
    (hord : raws.Pairwise fun a b => toLex (a.ledger, a.id) ≤ toLex (b.ledger, b.id)) (batchSize : Option Int) :
    Ensures (fun v : World ρ => v.db = db) (reindexFromEventLog E batchSize) fun o v =>
      v.db.tables = db.tables ∧ (E.Healthy → o = .done raws.length) :=
  (rebuild_of_rows E h.decoded h.stored h.rows_perm hord h.folded h.unread batchSize).post
    fun _ _ hv => ⟨hv.1.elim id id, hv.2⟩

/-- **Rebuild agrees with live fold**, however the list was cut into pages and whatever the batch
size; the loop of the rebuild is one pass over the log, row by row in the order of the list. -/
theorem reindex_equals_incremental {ρ ρ' : Type} (E : Environment ρ) (E' : Environment ρ')
    {pages : List (List EventResponse × Nat)} {w w' : World ρ}
    (hids : ((pages.flatMap Prod.fst).map (·.id)).Nodup)
    (hord : (pages.flatMap Prod.fst).Pairwise fun a b => toLex (a.ledger, a.id) ≤ toLex (b.ledger, b.id))
    (hw : w.db = Db.empty) (hpages : (forM pages fun p => ingestPage E p.1 p.2) w = (.done (), w'))
    (batchSize : Option Int) {v : World ρ'} (hv : v.db = w'.db) :
    (reindexFromEventLog E' batchSize v).2.db.tables = w'.db.tables ∧
      (E'.Healthy → (reindexFromEventLog E' batchSize v).1 = .done (pages.flatMap Prod.fst).length) ∧
      ∃ log : List (String × EventRow), log.Perm (Table.rows w'.db.events) ∧
        log.map Prod.fst = (pages.flatMap Prod.fst).map (·.id) ∧
        ∀ (n : Nat) (db : Db), 1 ≤ n → rebuildFrom w'.db.events n db = log.foldlM rebuildRow { db } := by
  obtain ⟨evs, hlive⟩ : FoldOf (pages.flatMap Prod.fst) w'.db := by
    have h := ingestPages_live E pages hids w hw
    rw [hpages] at h
    exact h
  obtain ⟨htables, hdone⟩ := hlive.rebuild E' hord batchSize v hv
  refine ⟨htables, hdone, orderedLog w'.db.events, Keyset.ordered_perm logKey _, ?_,
    fun n db hn => rebuildFrom_eq _ hn db⟩
  rw [hlive.orderedLog hord, ← ids_of_decoded hlive.decoded, List.map_map]
  rfl

theorem healthy_healthy : Environment.healthy.Healthy := ⟨fun _ => rfl, fun _ => rfl⟩

/-- Two pages of one event each, ingested by a process with an empty database. -/
def twoPages : Outcome Failure Unit × World Nat :=
  (forM [([aJoin], 0), ([aClaim], 1)] fun p => ingestPage .healthy p.1 p.2 : Proc Nat Unit) (freshWorld 0)

theorem reindex_equals_incremental_two_pages :
    (reindexFromEventLog .healthy (some 1) twoPages.2).2.db.tables = twoPages.2.db.tables ∧
      (reindexFromEventLog .healthy (some 1) twoPages.2).1 = .done 2 := by
  have hdone : twoPages.1 = .done () := by decide +kernel
  have hpages : twoPages = (.done (), twoPages.2) := by rw [← hdone]
  have h := reindex_equals_incremental .healthy .healthy (by decide) (by decide) rfl hpages
    (some 1) rfl
  exact ⟨h.1, h.2.1 healthy_healthy⟩

end OurDao
