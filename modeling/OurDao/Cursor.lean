import OurDao.Rpc

/-!
# Nothing is lost behind the cursor

A page that was ingested, in whichever way, has secured every event of it: a row of the
raw log, and a fold or a record of the failure. The cursor is written after that, and
every request reads on from where the last one ended, so that what the persisted token
stands behind is secured. A cold start asks again from a ledger: an event that an
earlier poll was given from below it is passed over.
-/

namespace OurDao

open Faults Op

variable {ρ : Type} {E : Environment ρ}

/-- The event has a row that is folded. -/
def Folded (id : String) (db : Db) : Prop := ∃ row, db.events.lookup id = some row ∧ row.folded = true

/-- The event has a row, which is folded or recorded as failed, unless the record failed as well. -/
def Secured (id : String) (w : World ρ) : Prop :=
  ∃ row, w.db.events.lookup id = some row ∧
    (row.folded = true ∨ (w.db.failed_events.lookup id).isSome ∨ Notice.notRecorded id ∈ w.console)

theorem secured_of_folded {id : String} {w : World ρ} (h : Folded id w.db) : Secured id w :=
  h.imp fun _ hrow => ⟨hrow.1, .inl hrow.2⟩

/-- An insert leaves the rows that were there. -/
theorem lookup_insertRawEvent {ev : DecodedEvent} {db db' : Db} {needsFold : Bool} {id : String}
    {row : EventRow} (h : insertRawEvent ev db = .ok (needsFold, db')) (hrow : db.events.lookup id = some row) :
    db'.events.lookup id = some row ∧ db'.failed_events = db.failed_events := by
  obtain ⟨-, ⟨_, -, -, rfl⟩ | ⟨hnone, -, rfl⟩⟩ := insertRawEvent_eq_ok.mp h
  · exact ⟨hrow, rfl⟩
  · have hid : id ≠ ev.id := by
      intro hid
      rw [hid, hnone] at hrow
      cases hrow
    exact ⟨by rw [AList.lookup_insert_ne hid, hrow], rfl⟩

/-- A fold marks one row and leaves the others. -/
theorem lookup_foldLogged {ev : DecodedEvent} {db db' : Db} {channels : List StreamChannel} {id : String}
    {row : EventRow} (h : foldLogged ev db = .ok (channels, db')) (hrow : db.events.lookup id = some row) :
    ∃ row', db'.events.lookup id = some row' ∧ (row.folded = true → row'.folded = true) ∧
      (id = ev.id → row'.folded = true) ∧ db'.failed_events = db.failed_events := by
  obtain ⟨tables, -, rfl⟩ := foldLogged_eq_ok.mp h
  have hset := lookup_setFolded ev.id id db.events
  rw [hrow] at hset
  by_cases hid : id = ev.id
  · exact ⟨_, hset, by simp [hid], by simp [hid], rfl⟩
  · exact ⟨_, hset, by simp [hid], by simp [hid], rfl⟩

/-- Recording a failure leaves the rows, and the records of other failures. -/
theorem isSome_upsertFailedEvent {ev : DecodedEvent} {message : String} {db db' : Db}
    (h : upsertFailedEvent ev message db = .ok ((), db')) (id : String)
    (hsome : (db.failed_events.lookup id).isSome) : (db'.failed_events.lookup id).isSome := by
  cases h
  rcases eq_or_ne id ev.id with rfl | hid
  · simp only [AList.lookup_insert, Option.isSome_some]
  · simpa only [AList.lookup_insert_ne hid] using hsome

theorem ingestible_secured (id : String) : Ingestible E (fun _ => True) (Secured id) where
  drifts := ⟨fun _ _ _ h => h, fun _ _ h => h⟩
  insertRawEvent w ev n db _ h hi := by
    obtain ⟨row, hrow, hsec⟩ := h
    obtain ⟨hrow', hfailed⟩ := lookup_insertRawEvent hi hrow
    exact ⟨row, hrow', by simpa [hfailed] using hsec⟩
  foldLogged w ev c db _ h hf := by
    obtain ⟨row, hrow, hsec⟩ := h
    obtain ⟨row', hrow', hfolded, -, hfailed⟩ := lookup_foldLogged hf hrow
    exact ⟨row', hrow', by rw [hfailed]; exact hsec.imp hfolded fun h => h⟩
  failed w ev m db _ h hf := by
    obtain ⟨row, hrow, hsec⟩ := h
    have hrecorded := isSome_upsertFailedEvent hf id
    cases hf
    exact ⟨row, hrow, hsec.imp (fun h => h) (Or.imp hrecorded fun h => h)⟩
  quarantineState w _ s e db h hq := by
    cases hq
    exact h
  console w n h := by
    obtain ⟨row, hrow, hsec⟩ := h
    exact ⟨row, hrow, hsec.imp (fun h => h) (Or.imp (fun h => h) fun hn => List.mem_append_left _ hn)⟩
  memory w m h := h

theorem ingestEvent_folded {lastLedger : Nat} {raw : EventResponse} {db db' : Db}
    {pending : List (StreamChannel × String)} (h : ingestEvent lastLedger raw db = .ok (pending, db')) :
    Folded raw.id db' ∧ ∀ id, Folded id db → Folded id db' := by
  obtain ⟨ev, hd, -, ⟨db₁, channels, hraw, hf, -⟩ | ⟨hraw, -⟩⟩ := ingestEvent_eq_ok.mp h
  · have hid := (decodeEvent_eq_ok hd).1
    obtain ⟨row, hrow⟩ : ∃ row, db₁.events.lookup ev.id = some row := by
      obtain ⟨-, ⟨row, hrow, -, rfl⟩ | ⟨-, -, rfl⟩⟩ := insertRawEvent_eq_ok.mp hraw
      · exact ⟨row, hrow⟩
      · exact ⟨_, AList.lookup_insert _⟩
    refine ⟨?_, fun id hid => ?_⟩
    · obtain ⟨row', hrow', -, hmarked, -⟩ := lookup_foldLogged hf hrow
      exact hid ▸ ⟨row', hrow', hmarked rfl⟩
    · obtain ⟨row, hrow, hfolded⟩ := hid
      obtain ⟨row', hrow', hkept, -⟩ := lookup_foldLogged hf (lookup_insertRawEvent hraw hrow).1
      exact ⟨row', hrow', hkept hfolded⟩
  · refine ⟨?_, fun id hid => ?_⟩
    · obtain ⟨-, ⟨row, hrow, hfalse, rfl⟩ | ⟨-, hfalse, -⟩⟩ := insertRawEvent_eq_ok.mp hraw
      · exact (decodeEvent_eq_ok hd).1 ▸ ⟨row, hrow, by simpa using hfalse⟩
      · cases hfalse
    · obtain ⟨row, hrow, hfolded⟩ := hid
      exact ⟨row, (lookup_insertRawEvent hraw hrow).1, hfolded⟩

/-- A page that commits leaves every event of it folded. -/
theorem ingestEvents_folded {lastLedger : Nat} {events : List EventResponse} {db db' : Db}
    {pending : List (StreamChannel × String)} (h : ingestEvents lastLedger events db = .ok (pending, db')) :
    ∀ raw ∈ events, Folded raw.id db' := by
  induction events generalizing db pending with
  | nil => intro raw hraw; cases hraw
  | cons first events ih =>
    obtain ⟨p, db₁, ps, h₁, h₂, -⟩ := ingestEvents_cons_ok.mp h
    intro raw hraw
    rcases List.mem_cons.mp hraw with rfl | hraw
    · exact ingestEvents_keeps (fun _ _ _ _ _ hI hi => (ingestEvent_folded hi).2 raw.id hI)
        (ingestEvent_folded h₁).1 h₂
    · exact ih h₂ raw hraw

/-- Every event of a page is secured. -/
def PageSecured (events : List EventResponse) (w : World ρ) : Prop := ∀ raw ∈ events, Secured raw.id w

theorem ingestible_pageSecured (events : List EventResponse) : Ingestible E (fun _ => True) (PageSecured events) :=
  Ingestible.forall_imp fun raw => ingestible_secured raw.id

theorem ingestPage_secures (events : List EventResponse) (lastLedger : Nat) :
    Ensures (fun _ => True) (ingestPage E events lastLedger) (OnDone fun _ => PageSecured events) := by
  have hdrift := (ingestible_pageSecured (E := E) events).drifts
  rw [ingestPage]
  split
  next hempty => exact ensures_pure_done fun w _ raw hraw => by simp_all
  · refine Ensures.bind_done (R := fun _ => PageSecured events) ?_ fun _ => (keeps_announce hdrift _).onDone
    refine ensures_withLock_done (drifts_const True) (ensures_transaction_done (drifts_const True) ?_) fun _ => hdrift
    intro w pending db _ h raw hraw
    exact secured_of_folded (ingestEvents_folded h raw hraw)

/-- The event has a row. -/
def Logged (id : String) (w : World ρ) : Prop := ∃ row, w.db.events.lookup id = some row

theorem drifts_logged (id : String) : Drifts E (Logged id) := ⟨fun _ _ _ h => h, fun _ _ h => h⟩

theorem quarantine_secures (ev : DecodedEvent) (err : Failure) :
    Ensures (Logged ev.id) (quarantine E ev err) (OnDone fun _ => Secured ev.id) := by
  have hrecord : Ensures (Logged ev.id)
      (tryCatch (recordQuarantinedEvent E ev err) fun _ => say (.notRecorded ev.id))
      (OnDone fun _ => Secured ev.id) := by
    refine Ensures.tryCatch (R := fun o w => OnDone (fun _ => Secured ev.id) o w ∧ Logged ev.id w) ?_
      (fun _ _ h => h.1) (fun _ => ?_) fun _ _ => trivial
    · refine Ensures.bind (R := fun o w => OnDone (fun _ => Secured ev.id) o w ∧ Logged ev.id w) ?_
        (fun _ => ?_) (fun _ _ h => ⟨trivial, h.2⟩) fun _ h => ⟨trivial, h.2⟩
      · refine Ensures.tryCatch (R := fun o w => OnDone (fun _ => Secured ev.id) o w ∧ Logged ev.id w) ?_
          (fun _ _ h => h) (fun _ => ensures_throw fun _ h => ⟨trivial, h.2⟩) fun _ h => h
        refine ensures_transaction (drifts_logged ev.id) ?_ (fun _ _ h => ⟨trivial, h⟩) fun _ h => ⟨trivial, h⟩
        intro w _ db h hu
        cases hu
        obtain ⟨row, hrow⟩ := h
        exact ⟨⟨row, hrow, .inr (.inl (by simp [AList.lookup_insert]))⟩, row, hrow⟩
      · intro w h
        exact ⟨(ingestible_secured (E := E) ev.id).console w _ h.1, h.2⟩
    · refine ensures_say fun w ⟨_, row, hrow⟩ => ?_
      exact ⟨row, hrow, .inr (.inr (List.mem_append_right _ (List.mem_singleton_self _)))⟩
  refine Ensures.bind_done (keeps_statement (drifts_logged ev.id)).onDone fun _ => ?_
  exact Ensures.bind_done hrecord fun _ => ensures_pure_done fun _ h => h

theorem foldOrQuarantine_secures (ev : DecodedEvent) :
    Ensures (fun _ => True) (foldOrQuarantine E ev) (OnDone fun _ => Secured ev.id) := by
  have hraw : Ensures (fun _ => True) (transaction E (insertRawEvent ev)) (OnDone fun needsFold w =>
      ∃ row, w.db.events.lookup ev.id = some row ∧ row.folded = !needsFold) := by
    refine ensures_transaction_done (drifts_const True) ?_
    intro w needsFold db _ h
    obtain ⟨-, ⟨row, hrow, hn, rfl⟩ | ⟨-, rfl, rfl⟩⟩ := insertRawEvent_eq_ok.mp h
    · exact ⟨row, hrow, by simp [hn]⟩
    · exact ⟨rawRow ev, AList.lookup_insert _, rfl⟩
  refine Ensures.bind_done hraw fun needsFold => ?_
  cases needsFold with
  | false => exact ensures_pure_done fun w ⟨row, hrow, hfolded⟩ => ⟨row, hrow, .inl hfolded⟩
  | true =>
    have hfold : Ensures (Logged ev.id) (transaction E (foldLogged ev)) fun o w =>
        OnDone (fun _ => Secured ev.id) o w ∧ ((∃ e, o = .raised e) → Logged ev.id w) := by
      refine ensures_transaction (drifts_logged ev.id) ?_ (fun _ _ h => ⟨trivial, fun _ => h⟩)
        fun _ h => ⟨trivial, fun _ => h⟩
      intro w channels db ⟨row, hrow⟩ hf
      obtain ⟨row', hrow', -, hmarked, -⟩ := lookup_foldLogged hf hrow
      exact ⟨⟨row', hrow', .inl (hmarked rfl)⟩, fun ⟨_, h⟩ => by cases h⟩
    refine Ensures.tryCatch (hfold.mono (fun w h => h.imp fun _ hrow => hrow.1) fun _ _ h => h)
      (fun _ _ h => h.1) (fun err => ?_) fun _ _ => trivial
    exact (quarantine_secures ev err).mono (fun _ h => h.2 ⟨_, rfl⟩) fun _ _ h => h

theorem ingestAlone_secures (raw : EventResponse) (lastLedger : Nat) :
    Ensures (fun _ => True) (ingestAlone E raw lastLedger) (OnDone fun _ => Secured raw.id) := by
  have hdrift := (ingestible_secured (E := E) raw.id).drifts
  rw [ingestAlone]
  split
  next ev hd =>
    rw [ingestEventQuarantined]
    split
    · exact ensures_throw_done
    · refine Ensures.bind_done (R := fun _ => Secured raw.id) ?_ fun _ => (keeps_announce hdrift _).onDone
      have h := foldOrQuarantine_secures (E := E) ev
      rw [(decodeEvent_eq_ok hd).1] at h
      exact ensures_withLock_done (drifts_const True) h fun _ => hdrift
  · exact ensures_throw_done

/-- A page that is ingested one by one has brought about what each of its events does, where the others keep it. -/
theorem ingestEach_done {lastLedger : Nat} {Q : EventResponse → World ρ → Prop}
    (hnew : ∀ raw, Ensures (fun _ => True) (ingestAlone E raw lastLedger) (OnDone fun _ => Q raw))
    (hkeep : ∀ (before : List EventResponse) raw, Keeps (fun w => ∀ x ∈ before, Q x w) (ingestAlone E raw lastLedger))
    (events : List EventResponse) :
    Ensures (fun _ => True) (ingestEach E events lastLedger) (OnDone fun _ w => ∀ raw ∈ events, Q raw w) := by
  refine Ensures.mono (P := fun w => ∀ raw ∈ [], Q raw w) ?_ (fun _ _ raw hraw => by cases hraw) fun _ _ h => h
  refine ensures_forM (P := fun before w => ∀ raw ∈ before, Q raw w) events (fun before raw _ _ => ?_) fun _ h => h
  intro w hw
  have hnew := hnew raw w trivial
  have hold := hkeep before raw w hw
  cases ho : (ingestAlone E raw lastLedger w).1 with
  | done a =>
    rw [ho] at hnew
    intro x hx
    rcases List.mem_append.mp hx with hx | hx
    · exact hold x hx
    · obtain rfl := List.mem_singleton.mp hx
      exact hnew
  | raised e => trivial
  | crashed => trivial

theorem ingestEach_secures (events : List EventResponse) (lastLedger : Nat) :
    Ensures (fun _ => True) (ingestEach E events lastLedger) (OnDone fun _ => PageSecured events) :=
  ingestEach_done (fun raw => ingestAlone_secures raw lastLedger)
    (fun before _ => (ingestible_pageSecured before).ingestAlone (fun _ _ => trivial) lastLedger) events

/-- A page is done when it is ingested as a whole, or event by event. -/
theorem ingestPageWithQuarantine_done {config : Config} {events : List EventResponse} {lastLedger : Nat}
    {contractId : String} {P : World ρ → Prop}
    (hpage : Ensures (fun _ => True) (ingestPage E events lastLedger) (OnDone fun _ => P))
    (heach : Ensures (fun _ => True) (ingestEach E events lastLedger) (OnDone fun _ => P))
    (hclear : Keeps P (clearQuarantineState E contractId)) :
    Ensures (fun _ => True) (ingestPageWithQuarantine E config events lastLedger contractId) (OnDone fun _ => P) := by
  refine Ensures.bind_done (R := fun _ _ => True) ensures_true fun state => ?_
  refine Ensures.tryCatch (R := OnDone fun _ => P) ?_ (fun _ _ h => h) (fun err => ?_) fun _ _ => trivial
  · exact Ensures.bind_done hpage fun _ => hclear.onDone
  · cases err with
    | reorgDetected m => exact ensures_throw_done
    | error m =>
      refine Ensures.bind_done (R := fun _ _ => True) ensures_true fun _ => ?_
      refine Ensures.bind_done (R := fun _ _ => True) ensures_true fun _ => ?_
      split
      · exact ensures_throw_done
      · refine Ensures.bind_done (R := fun _ _ => True) ensures_true fun _ => ?_
        refine Ensures.bind_done (R := fun _ _ => True) ensures_true fun _ => ?_
        exact Ensures.bind_done heach fun _ => hclear.onDone

/-- **A page that was ingested has secured all its events.** -/
theorem ingestPageWithQuarantine_secures (config : Config) (events : List EventResponse) (lastLedger : Nat)
    (contractId : String) :
    Ensures (fun _ => True) (ingestPageWithQuarantine E config events lastLedger contractId)
      (OnDone fun _ => PageSecured events) :=
  ingestPageWithQuarantine_done (ingestPage_secures events lastLedger) (ingestEach_secures events lastLedger)
    ((ingestible_pageSecured events).recordable.clearQuarantineState contractId)

/-- The token the next poll resumes from. -/
def savedToken (contractId : String) (w : World ρ) : Option String :=
  CursorRow.token (w.db.indexer_cursor.lookup contractId)

variable {contractId : String} {log : ρ → List EventResponse}

/-- Everything delivered up to the saved token is secured. -/
structure Resumable (log : ρ → List EventResponse) (contractId : String) (w : World ρ) : Prop where
  logged : ∀ e ∈ w.delivered, e ∈ log w.env
  secured : ∀ token, savedToken contractId w = some token → ∀ e ∈ w.delivered, e.id ≤ token → Secured e.id w

/-- Everything delivered that a request from `position` does not ask for is secured, and the
saved token does not stand before `position`. -/
structure Draining (log : ρ → List EventResponse) (contractId : String) (position : Position)
    (w : World ρ) : Prop where
  logged : ∀ e ∈ w.delivered, e ∈ log w.env
  behind : ∀ e ∈ w.delivered, position.admits e = false → Secured e.id w
  ahead : ∀ token, savedToken contractId w = some token → ∃ t, position = .cursor (some t) ∧ token ≤ t

variable {position : Position} {w w' : World ρ}

theorem Draining.resumable (h : Draining log contractId position w) : Resumable log contractId w where
  logged := h.logged
  secured token htoken e he hle := by
    obtain ⟨t, rfl, ht⟩ := h.ahead token htoken
    exact h.behind e he (not_admits_cursor.mpr (hle.trans ht))

theorem Draining.congr (h : Draining log contractId position w) (hd : w'.delivered = w.delivered)
    (hc : w'.db.indexer_cursor = w.db.indexer_cursor) (hlog : log w.env <+: log w'.env)
    (hsec : ∀ id, Secured id w → Secured id w') : Draining log contractId position w' where
  logged e he := hlog.mem (h.logged e (hd ▸ he))
  behind e he hadm := hsec _ (h.behind e (hd ▸ he) hadm)
  ahead token htoken := h.ahead token (by simpa only [savedToken, hc] using htoken)

theorem indexer_cursor_insertRawEvent {ev : DecodedEvent} {db db' : Db} {needsFold : Bool}
    (h : insertRawEvent ev db = .ok (needsFold, db')) : db'.indexer_cursor = db.indexer_cursor := by
  obtain ⟨-, ⟨_, -, -, rfl⟩ | ⟨-, -, rfl⟩⟩ := insertRawEvent_eq_ok.mp h <;> rfl

theorem indexer_cursor_foldLogged {ev : DecodedEvent} {db db' : Db} {channels : List StreamChannel}
    (h : foldLogged ev db = .ok (channels, db')) : db'.indexer_cursor = db.indexer_cursor := by
  obtain ⟨_, -, rfl⟩ := foldLogged_eq_ok.mp h
  rfl

theorem ingestible_draining (hlog : RpcLog E contractId log) (position : Position) :
    Ingestible E (fun _ => True) (Draining log contractId position) where
  drifts := ⟨fun w r hr h => h.congr rfl rfl (hlog.appends _ _ hr) fun _ h => h,
    fun w sent h => h.congr rfl rfl List.prefix_rfl fun _ h => h⟩
  insertRawEvent w ev n db _ h hi := h.congr rfl (indexer_cursor_insertRawEvent hi) List.prefix_rfl
    fun id hs => (ingestible_secured (E := E) id).insertRawEvent w ev n db trivial hs hi
  foldLogged w ev c db _ h hf := h.congr rfl (indexer_cursor_foldLogged hf) List.prefix_rfl
    fun id hs => (ingestible_secured (E := E) id).foldLogged w ev c db trivial hs hf
  failed w ev m db _ h hf := h.congr rfl (by cases hf; rfl) List.prefix_rfl
    fun id hs => (ingestible_secured (E := E) id).failed w ev m db trivial hs hf
  quarantineState w i s e db h hq := h.congr rfl (by cases hq; rfl) List.prefix_rfl
    fun id hs => (ingestible_secured (E := E) id).quarantineState w i s e db hs hq
  console w n h := h.congr rfl rfl List.prefix_rfl
    fun id hs => (ingestible_secured (E := E) id).console w n hs
  memory w m h := h.congr rfl rfl List.prefix_rfl fun _ h => h

theorem ingestible_answers (hlog : RpcLog E contractId log) (position : Position) (res : EventsPage) :
    Ingestible E (fun _ => True) fun w => Answers E log position res w.env :=
  Ingestible.of_env fun _ _ hr h => h.step hlog hr

/-- A secured page moves the position of the drain behind it. -/
theorem Draining.next (h : Draining log contractId position w) (hlog : RpcLog E contractId log)
    {res : EventsPage} (ha : Answers E log position res w.env) (hpage : PageSecured res.events w) :
    Draining log contractId (.cursor (res.nextToken position)) w where
  logged := h.logged
  behind e he hadm := by
    rcases ha.admits_next hlog (h.logged e he) hadm with hold | hnew
    · exact h.behind e he hold
    · exact hpage e hnew
  ahead token htoken := by
    obtain ⟨t, ht, hle⟩ := h.ahead token htoken
    obtain ⟨t', ht', hle'⟩ := ha.next_token ht
    exact ⟨t', by rw [ht'], hle.trans hle'⟩

theorem savedToken_insert {w : World ρ} {row : CursorRow} {token : String}
    (h : savedToken contractId { w with db := { w.db with
      indexer_cursor := w.db.indexer_cursor.insert contractId row } } = some token) :
    row.paging_token = some token := by
  simp only [savedToken, CursorRow.token, AList.lookup_insert, Option.bind_some] at h
  exact (Option.filter_eq_some_iff.mp h).1

/-- Saving the token of the next request. -/
theorem Draining.save {next : Option String} (h : Draining log contractId (.cursor next) w) {row : CursorRow}
    (hrow : row.paging_token = next) : Draining log contractId (.cursor next) { w with db := { w.db with
      indexer_cursor := w.db.indexer_cursor.insert contractId row } } where
  logged := h.logged
  behind := h.behind
  ahead token htoken := ⟨token, by rw [← hrow, savedToken_insert htoken], le_rfl⟩

theorem advanceCursor_draining (hlog : RpcLog E contractId log) (cursor : Option CursorRow)
    (res : EventsPage) (s : Drain) :
    Keeps (Draining log contractId (.cursor (res.nextToken s.position)))
      (advanceCursor E contractId cursor res s) := by
  have hdrift := (ingestible_draining hlog (.cursor (res.nextToken s.position))).drifts
  rw [advanceCursor]
  split
  · refine Keeps.bind (keeps_foldedLedgerHash hdrift s _) fun hash => Keeps.bind ?_ fun _ => Keeps.pure _
    refine Keeps.tryCatch ?_ fun _ => Keeps.throw _
    refine ensures_transaction hdrift ?_ (fun _ _ h => h) fun _ h => h
    intro w _ db h hu
    cases hu
    exact h.save rfl
  · exact Keeps.pure _

theorem drainPage_draining (hlog : RpcLog E contractId log) (config : Config) (cursor : Option CursorRow)
    (s : Drain) :
    Ensures (Draining log contractId s.position) (drainPage E config contractId cursor s) fun o w =>
      Resumable log contractId w ∧
        OnDone (fun p => Draining log contractId (.cursor (p.1.nextToken s.position))) o w := by
  have hdraining := ingestible_draining hlog s.position
  have hfail : ∀ w, Draining log contractId s.position w → Resumable log contractId w ∧ True :=
    fun w h => ⟨h.resumable, trivial⟩
  have hask : Ensures (Draining log contractId s.position)
      (ask (E.getEvents { contractId, limit := config.pageLimit, position := s.position })) fun o w =>
        Draining log contractId s.position w ∧
          OnDone (fun res w => Answers E log s.position res w.env) o w := by
    intro w hw
    refine ⟨hdraining.drifts.env w _ (.getEvents w.env _) hw, ?_⟩
    rcases hres : E.getEvents { contractId, limit := config.pageLimit, position := s.position } w.env with
      ⟨res | e | _, r⟩
    · have h : Answers E log s.position res _ := hlog.answers rfl (congrArg Prod.fst hres)
      simpa [ask, hres, OnDone] using h
    · simp [ask, hres, OnDone]
    · simp [ask, hres, OnDone]
  refine Ensures.bind hask (fun res => ?_) (fun _ w h => hfail w h.1) fun w h => hfail w h.1
  have hanswers := ingestible_answers hlog s.position res
  have hdeliver : Ensures (fun w => Draining log contractId s.position w ∧ Answers E log s.position res w.env)
      (deliver res.events) fun o w => (Draining log contractId s.position w ∧
        Answers E log s.position res w.env) := by
    refine ensures_update fun w ⟨h, ha⟩ => ⟨⟨?_, ?_, h.ahead⟩, ha⟩
    · intro e he
      rcases List.mem_append.mp he with he | he
      · exact h.logged e he
      · exact (List.mem_filter.mp (ha.gapless.mem he)).1
    · intro e he hadm
      rcases List.mem_append.mp he with he | he
      · exact h.behind e he hadm
      · have hnew := (List.mem_filter.mp (ha.gapless.mem he)).2
        simp [hadm] at hnew
  refine Ensures.bind hdeliver (fun _ => ?_) (fun _ w h => hfail w h.1) fun w h => hfail w h.1
  have hingest := ((hdraining.and hanswers).ingestPageWithQuarantine config (decodes_true res.events)
    s.lastLedger contractId).and (ingestPageWithQuarantine_secures (E := E) config res.events s.lastLedger contractId)
  refine Ensures.bind (hingest.mono (fun w h => ⟨h, trivial⟩) fun _ _ h => h) (fun _ => ?_)
    (fun _ w h => hfail w h.1.1) fun w h => hfail w h.1.1
  have hadvance := advanceCursor_draining hlog cursor res s
  refine Ensures.bind (hadvance.mono (fun w h => h.1.1.next hlog h.1.2 h.2) fun _ _ h => h) (fun s' => ?_)
    (fun _ w h => ⟨h.resumable, trivial⟩) fun w h => ⟨h.resumable, trivial⟩
  exact ensures_pure fun w h => ⟨h.resumable, h⟩

theorem drain_resumable (hlog : RpcLog E contractId log) (config : Config) (cursor : Option CursorRow)
    (drainStart fuel : Nat) (s : Drain) :
    Ensures (Draining log contractId s.position) (drain E config contractId cursor drainStart fuel s)
      fun _ => Resumable log contractId := by
  induction fuel generalizing s with
  | zero => exact ensures_pure fun w h => h.resumable
  | succ fuel ih =>
    refine Ensures.bind (keeps_look .aborted (ingestible_draining hlog s.position).drifts) (fun aborted => ?_)
      (fun _ w h => h.resumable) fun w h => h.resumable
    cases aborted with
    | true => exact ensures_pure fun w h => h.resumable
    | false =>
      refine Ensures.bind (drainPage_draining hlog config cursor s) (fun p => ?_) (fun _ w h => h.1)
        fun w h => h.1
      obtain ⟨res, next⟩ := p
      refine Ensures.bind (R := fun _ => Draining log contractId (.cursor (res.nextToken s.position))) ?_
        (fun now => ?_) (fun _ w h => h.resumable) fun w h => h.resumable
      · exact (keeps_look .now (ingestible_draining hlog _).drifts).mono (fun w h => h.2) fun _ _ h => h
      · dsimp only
        split
        · exact ensures_pure fun w h => h.resumable
        · exact ih { next with position := .cursor (res.nextToken s.position) }

/-- A poll without a saved token asks from a ledger; of what was delivered before from below that
ledger everything is secured. The ledger is `START_LEDGER`, or lies the lookback below the latest
ledger that the RPC reports to this poll. -/
def StartsInTime (E : Environment ρ) (contractId : String) (config : Config) (w : World ρ) : Prop :=
  savedToken contractId w = none → ∀ e ∈ w.delivered, ¬ Secured e.id w →
    (0 < config.startLedger → max 1 config.startLedger ≤ e.ledger) ∧
      ∀ p w₁ latest r, ¬ 0 < config.startLedger → checkChain E contractId w = (.done p, w₁) →
        E.getLatestLedger w₁.env = (.done latest, r) →
        max 1 ((latest.sequence : Int) - config.startLookbackLedgers) ≤ e.ledger

theorem drifts_resumable (hlog : RpcLog E contractId log) : Drifts E (Resumable log contractId) :=
  ⟨fun _ _ hr h => ⟨fun e he => (hlog.appends _ _ hr).mem (h.logged e he), h.secured⟩,
    fun _ _ h => ⟨h.logged, h.secured⟩⟩

theorem Asked.secured {w₁ : World ρ} (h : Asked w w₁) {id : String} : Secured id w₁ ↔ Secured id w := by
  rw [Secured, Secured, h.db, h.console]

/-- Where a poll starts to drain, it has passed over nothing that is not secured. -/
theorem startPosition_draining (hlog : RpcLog E contractId log) {config : Config}
    (hstart : StartsInTime E contractId config w) {tip : LedgerInfo} {w₁ : World ρ}
    (hcheck : checkChain E contractId w = (.done (w.db.indexer_cursor.lookup contractId, tip), w₁))
    (hasked : Asked w w₁) (h : Resumable log contractId w₁) :
    Ensures (· = w₁) (startPosition E config (w.db.indexer_cursor.lookup contractId)) fun o w' =>
      Resumable log contractId w' ∧ OnDone (fun position => Draining log contractId position) o w' := by
  have hfrom : ∀ {l : Nat} {w' : World ρ}, savedToken contractId w = none → Asked w w' →
      Resumable log contractId w' → (∀ e ∈ w.delivered, ¬ Secured e.id w → l ≤ e.ledger) →
      Draining log contractId (.startLedger l) w' := by
    intro l w' htoken hasked h hlow
    refine ⟨h.logged, fun e he hadm => ?_, fun token ht => ?_⟩
    · rw [hasked.delivered] at he
      by_contra hsec
      have hle := hlow e he (fun hs => hsec (hasked.secured.mpr hs))
      simp [Position.admits] at hadm
      omega
    · simp [savedToken, hasked.db] at ht
      simp [savedToken, ht] at htoken
  rw [startPosition]
  cases htoken : CursorRow.token (w.db.indexer_cursor.lookup contractId) with
  | some token =>
    have hsaved : savedToken contractId w₁ = some token := by rw [savedToken, hasked.db, htoken]
    refine ensures_pure fun w' hw => ?_
    subst hw
    refine ⟨h, h.logged, fun e he hadm => h.secured token hsaved e he (not_admits_cursor.mp hadm), ?_⟩
    intro t ht
    exact ⟨token, rfl, by rw [hsaved] at ht; cases ht; exact le_rfl⟩
  | none =>
    dsimp only
    rw [resolveStartLedger]
    split
    next hpos =>
      refine Ensures.bind (ensures_pure (Q := fun o w' => w' = w₁ ∧ o = .done (max 1 config.startLedger).toNat)
        fun w' hw => ⟨hw, rfl⟩) (fun ledger => ensures_pure ?_) (fun _ _ h => by cases h.2) fun _ h => by cases h.2
      rintro w' ⟨rfl, hledger⟩
      cases hledger
      refine ⟨h, hfrom htoken hasked h fun e he hsec => ?_⟩
      have hle := (hstart htoken e he hsec).1 hpos
      omega
    next hneg =>
      refine Ensures.bind (R := fun o w' => Resumable log contractId w' ∧ OnDone (fun ledger w' =>
        Draining log contractId (.startLedger ledger) w') o w') ?_ (fun ledger => ensures_pure fun w' h => h)
        (fun _ _ h => ⟨h.1, trivial⟩) fun _ h => ⟨h.1, trivial⟩
      intro w' hw
      subst hw
      have hstep : E.Step w'.env (E.getLatestLedger w'.env).2 := .getLatestLedger _
      have hr := (drifts_resumable hlog).env w' _ hstep h
      rcases hlatest : E.getLatestLedger w'.env with ⟨latest | e | _, r⟩ <;> rw [hlatest] at hstep hr
      · have hd := hfrom (l := (max 1 ((latest.sequence : Int) - config.startLookbackLedgers)).toNat)
          htoken ((drifts_asked w).env w' r hstep hasked) hr fun e he hsec => by
            have hle := (hstart htoken e he hsec).2 _ w' latest r hneg hcheck hlatest
            omega
        simpa [bind_run, ask, hlatest, OnDone] using And.intro hr hd
      · simpa [bind_run, ask, hlatest, OnDone] using hr
      · simpa [bind_run, ask, hlatest, OnDone] using hr

theorem fetchOnce_resumable (hlog : RpcLog E contractId log) (config : Config) :
    Ensures (fun w => Resumable log contractId w ∧ StartsInTime E contractId config w)
      (fetchOnce E config contractId) fun _ => Resumable log contractId := by
  rintro w ⟨h, hstart⟩
  obtain ⟨⟨hr, hasked⟩, hcursor⟩ :=
    ensures_checkChain ((drifts_resumable hlog).and (drifts_asked w)) contractId w ⟨h, .refl w⟩
  rw [fetchOnce, bind_run]
  rcases hcheck : checkChain E contractId w with ⟨⟨cursor, tip⟩ | e | _, w₁⟩ <;> rw [hcheck] at hr hasked hcursor
  · obtain rfl : cursor = w.db.indexer_cursor.lookup contractId := by
      rw [hcursor cursor tip rfl, hasked.db]
    have hposition := startPosition_draining hlog hstart hcheck hasked hr
    refine Ensures.bind (Q := fun _ => Resumable log contractId) hposition (fun position => ?_)
      (fun _ _ h => h.1) (fun _ h => h.1) w₁ rfl
    refine Ensures.bind (R := fun _ => Draining log contractId position) ?_ (fun now => ?_)
      (fun _ _ h => h.resumable) fun _ h => h.resumable
    · exact (keeps_look .now (ingestible_draining hlog _).drifts).mono (fun w h => h.2) fun _ _ h => h
    · generalize hs : ({ position, lastLedger := _, lastLedgerHash := _, observedTipLedger := _ } : Drain) = s
      have hposition : s.position = position := by rw [← hs]
      have hdrain := drain_resumable hlog config (w.db.indexer_cursor.lookup contractId) now config.drainFuel s
      rw [hposition] at hdrain
      refine Ensures.bind (Q := fun _ => Resumable log contractId) hdrain (fun s => ?_) (fun _ _ h => h) fun _ h => h
      split
      · refine ensures_transaction (drifts_resumable hlog) ?_ (fun _ _ h => h) fun _ h => h
        intro w _ db h hu
        cases hu
        exact h
      · exact Keeps.pure _
  · exact hr
  · exact hr

/-- **No event is lost behind the cursor**, in every run in which no cold start passes over an event
that an earlier poll was given and could not secure. -/
theorem nothing_lost_behind_cursor (hlog : RpcLog E contractId log)
    (h : PollRun E contractId (StartsInTime E contractId) w w') (hw : w.delivered = []) {token : String}
    (htoken : savedToken contractId w' = some token) :
    ∀ e ∈ w'.delivered, e.id ≤ token → Secured e.id w' := by
  have hinit : Resumable log contractId w := ⟨by simp [hw], by simp [hw]⟩
  exact (h.keeps (fetchOnce_resumable hlog) (fun _ h => ⟨h.logged, h.secured⟩) hinit).secured token htoken

def anEarlyEvent : EventResponse := .published "0001" 2725 "joined" [.str "GA", .bigint 100]

def aLateEvent : EventResponse := .published "0002" 2735 "claimed" [.str "GA", .bigint 5]

/-- The chain moves on by ten ledgers after the eleventh wait, and the wait `k` ends in a lost connection. -/
def resetAt (k : Nat) : Environment Nat :=
  .serving (fun _ => [anEarlyEvent, aLateEvent]) (fun n => if n < 11 then 20000 else 20010)
    fun n => if n = k then .raised (.error "Connection terminated unexpectedly") else .done ()

theorem rpcLog_resetAt (k : Nat) : RpcLog (resetAt k) "C" fun _ => [anEarlyEvent, aLateEvent] :=
  rpcLog_serving _ _ _ (fun _ => List.prefix_rfl) (fun _ => by decide) fun _ => by decide

def polledOnce (E : Environment Nat) (config : Config) : World Nat :=
  recover (fetchOnce E config "C" (freshWorld 0))

def polledTwice (E : Environment Nat) (config : Config) : World Nat :=
  recover (fetchOnce E config "C" (polledOnce E config))

def fromLedgerOne : Config := { contractIds := ["C"], startLedger := 1, pageLimit := 1 }

/-- A first page that is rolled back, and given again to the next poll. -/
theorem nothing_lost_behind_cursor_rolled_back :
    savedToken "C" (polledTwice (resetAt 7) fromLedgerOne) = some "0002" ∧
      ∀ e ∈ (polledTwice (resetAt 7) fromLedgerOne).delivered, e.id ≤ "0002" →
        Secured e.id (polledTwice (resetAt 7) fromLedgerOne) := by
  have hfirst : StartsInTime (resetAt 7) "C" fromLedgerOne (freshWorld 0) := fun _ e he => by cases he
  have hdelivered : ∀ e ∈ (polledOnce (resetAt 7) fromLedgerOne).delivered, 1 ≤ e.ledger := by decide +kernel
  have hsecond : StartsInTime (resetAt 7) "C" fromLedgerOne (polledOnce (resetAt 7) fromLedgerOne) :=
    fun _ e he _ => ⟨fun _ => by simpa [fromLedgerOne] using hdelivered e he, fun _ _ _ _ hneg => by
      simp [fromLedgerOne] at hneg⟩
  have hrun : PollRun (resetAt 7) "C" (StartsInTime (resetAt 7) "C") (freshWorld 0)
      (polledTwice (resetAt 7) fromLedgerOne) :=
    .poll fromLedgerOne (.poll fromLedgerOne (.refl _) hfirst) hsecond
  have htoken : savedToken "C" (polledTwice (resetAt 7) fromLedgerOne) = some "0002" := by decide +kernel
  exact ⟨htoken, nothing_lost_behind_cursor (rpcLog_resetAt 7) hrun rfl htoken⟩

def lookingBack : Config := { contractIds := ["C"], pageLimit := 1 }

/-- Without `START_LEDGER`, the poll after a rolled-back first page starts ten ledgers later, and its
cursor leaves an event behind that has no row. -/
theorem cold_start_passes_over_an_event :
    RpcLog (resetAt 8) "C" (fun _ => [anEarlyEvent, aLateEvent]) ∧
      PollRun (resetAt 8) "C" (fun _ _ => True) (freshWorld 0) (polledTwice (resetAt 8) lookingBack) ∧
      savedToken "C" (polledTwice (resetAt 8) lookingBack) = some "0002" ∧
      ∃ e ∈ (polledTwice (resetAt 8) lookingBack).delivered, e.id ≤ "0002" ∧
        ¬ Secured e.id (polledTwice (resetAt 8) lookingBack) := by
  refine ⟨rpcLog_resetAt 8, .poll _ (.poll _ (.refl _) trivial) trivial, by decide +kernel, ?_⟩
  have hdelivered : ((polledTwice (resetAt 8) lookingBack).delivered.map (·.id)).contains "0001" = true := by
    decide +kernel
  have hrow : (polledTwice (resetAt 8) lookingBack).db.events.lookup "0001" = none := by
    rw [← Option.not_isSome_iff_eq_none]
    decide +kernel
  obtain ⟨e, he, hid⟩ := List.mem_map.mp (List.contains_iff_mem.mp hdelivered)
  refine ⟨e, he, by rw [hid]; decide, ?_⟩
  rintro ⟨row, hlookup, -⟩
  rw [hid, hrow] at hlookup
  cases hlookup

end OurDao
