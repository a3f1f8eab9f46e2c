import OurDao.Cursor
import OurDao.Effects
import OurDao.LiveFold

/-!
# Isolating a failing event

A page that cannot be folded is counted by its key and its error, and folded event by
event when the count has reached the threshold. What a handler throws there is recorded
and the page gets done. What decoding an event or inserting its raw row throws is not
caught there either: with a healthy database, a page gets done exactly when all its
events decode and can be stored.
-/

namespace OurDao

open Faults Op

variable {ρ : Type} {E : Environment ρ}

/-- The topics of an event, as it is decoded. -/
def EventResponse.topics (raw : EventResponse) : List Json := raw.topic.map fun t => (safeNative t).1

/-- The data tuple of an event, as it is decoded. -/
def EventResponse.data (raw : EventResponse) : List Json :=
  match (safeNative raw.value).1 with
  | .arr vs => vs
  | v => [v]

def EventResponse.decodeError (raw : EventResponse) : Option JsStr :=
  firstError (raw.topic.map (fun t => (safeNative t).2) ++ [(safeNative raw.value).2])

/-- The first topic has a text, which is not the name of something every object inherits,
no text of the event holds what Postgres cannot store, and its row can be indexed. -/
structure Acceptable (raw : EventResponse) : Prop where
  symbol : ∃ s, symbolOf raw.topics = .ok s ∧ ¬ (s.lone = false ∧ s.text ∈ inherited) ∧ s.storable = true
  topics : Json.fault (.arr raw.topics) = none
  data : Json.fault (.arr raw.data) = none
  decodeError : raw.decodeError.bind textFault = none
  indexable : raw.indexable = true

theorem namedFields_isOk_iff {s : JsStr} {data : List Json} :
    (∃ fields, namedFields s data = .ok fields) ↔ ¬ (s.lone = false ∧ s.text ∈ inherited) := by
  cases hs : EventSymbol.ofSymbol? s with
  | some symbol =>
    have hno : ¬ (s.lone = false ∧ s.text ∈ inherited) := by
      rintro ⟨hlone, hmem⟩
      have hnone : ∀ t ∈ inherited, EventSymbol.ofString? t = none := by decide
      simp [EventSymbol.ofSymbol?, hlone, hnone s.text hmem] at hs
    simp [namedFields, hs, hno]
  | none =>
    by_cases hin : s.lone = false ∧ s.text ∈ inherited
    · simp [namedFields, hs, hin]
    · simp [namedFields, hs, hin]

/-- The event that a symbol and its fields make of a response entry. -/
def EventResponse.decoded (raw : EventResponse) (symbol : JsStr) (fields : List (String × Json)) :
    DecodedEvent where
  id := raw.id
  ledger := raw.ledger
  closedAt := raw.ledgerClosedAt
  contractId := raw.contractId
  txHash := raw.txHash
  symbol
  topics := raw.topics
  data := raw.data
  fields
  decodeError := raw.decodeError
  indexable := raw.indexable

/-- Decoding an event, step by step. -/
theorem decodeEvent_iff {raw : EventResponse} {ev : DecodedEvent} : decodeEvent raw = .ok ev ↔
    ∃ s fields, symbolOf raw.topics = .ok s ∧ namedFields s raw.data = .ok fields ∧
      ev = raw.decoded s fields := by
  have htopics : (raw.topic.map safeNative).map Prod.fst = raw.topics := by
    rw [List.map_map]
    rfl
  have herror : firstError ((raw.topic.map safeNative).map Prod.snd ++ [(safeNative raw.value).2]) =
      raw.decodeError := by
    rw [List.map_map]
    rfl
  have hsteps : decodeEvent raw = (do
      let s ← symbolOf raw.topics
      let fields ← namedFields s raw.data
      return raw.decoded s fields) := by
    simp only [EventResponse.decoded, ← htopics, ← herror]
    rfl
  rw [hsteps]
  cases hsym : symbolOf raw.topics with
  | error m => simp [bind, Except.bind]
  | ok s =>
    cases hfields : namedFields s raw.data with
    | error m => simp [bind, Except.bind, hfields]
    | ok fields => simp [bind, Except.bind, pure, Except.pure, hfields, eq_comm]

theorem rawFault_eq_none {ev : DecodedEvent} : rawFault ev = none ↔ ev.symbol.storable = true ∧
    Json.fault (.arr ev.topics) = none ∧ Json.fault (.arr ev.data) = none ∧
    ev.decodeError.bind textFault = none ∧ ev.indexable = true := by
  have hindex : indexFault ev.indexable = none ↔ ev.indexable = true := by cases ev.indexable <;> simp [indexFault]
  have htext : textFault ev.symbol = none ↔ ev.symbol.storable = true := by
    rw [textFault]
    split <;> simp_all
  simp only [rawFault, Option.orElse_eq_orElse, ← htext, ← hindex]
  cases textFault ev.symbol with
  | some m => simp
  | none =>
    cases Json.fault (.arr ev.topics) with
    | some m => simp
    | none =>
      cases Json.fault (.arr ev.data) with
      | some m => simp
      | none => cases ev.decodeError.bind textFault <;> simp

/-- An acceptable event decodes, and its raw row can be stored. -/
theorem acceptable_iff {raw : EventResponse} :
    Acceptable raw ↔ ∃ ev, decodeEvent raw = .ok ev ∧ rawFault ev = none := by
  constructor
  · rintro ⟨⟨s, hsym, hnot, hstore⟩, htopics, hdata, herror, hindexable⟩
    obtain ⟨fields, hfields⟩ : ∃ fields, namedFields s raw.data = .ok fields := namedFields_isOk_iff.mpr hnot
    exact ⟨_, decodeEvent_iff.mpr ⟨s, fields, hsym, hfields, rfl⟩,
      rawFault_eq_none.mpr ⟨hstore, htopics, hdata, herror, hindexable⟩⟩
  · rintro ⟨ev, hd, hfault⟩
    obtain ⟨s, fields, hsym, hfields, rfl⟩ := decodeEvent_iff.mp hd
    obtain ⟨hstore, htopics, hdata, herror, hindexable⟩ := rawFault_eq_none.mp hfault
    exact ⟨⟨s, hsym, namedFields_isOk_iff.mp ⟨fields, hfields⟩, hstore⟩, htopics, hdata, herror, hindexable⟩

theorem ingestEvent_acceptable {lastLedger : Nat} {raw : EventResponse} {db db' : Db}
    {pending : List (StreamChannel × String)} (h : ingestEvent lastLedger raw db = .ok (pending, db')) :
    Acceptable raw := by
  obtain ⟨ev, hd, -, ⟨_, _, hraw, -, -⟩ | ⟨hraw, -⟩⟩ := ingestEvent_eq_ok.mp h
  · exact acceptable_iff.mpr ⟨ev, hd, (insertRawEvent_eq_ok.mp hraw).1⟩
  · exact acceptable_iff.mpr ⟨ev, hd, (insertRawEvent_eq_ok.mp hraw).1⟩

theorem ingestEvents_acceptable {lastLedger : Nat} {events : List EventResponse} {db db' : Db}
    {pending : List (StreamChannel × String)} (h : ingestEvents lastLedger events db = .ok (pending, db')) :
    ∀ raw ∈ events, Acceptable raw := by
  induction events generalizing db pending with
  | nil => intro raw hraw; cases hraw
  | cons first events ih =>
    obtain ⟨p, db₁, ps, h₁, h₂, -⟩ := ingestEvents_cons_ok.mp h
    intro raw hraw
    rcases List.mem_cons.mp hraw with rfl | hraw
    · exact ingestEvent_acceptable h₁
    · exact ih h₂ raw hraw

theorem ingestPage_acceptable (events : List EventResponse) (lastLedger : Nat) :
    Ensures (fun _ => True) (ingestPage E events lastLedger) (OnDone fun _ _ => ∀ raw ∈ events, Acceptable raw) := by
  rw [ingestPage]
  split
  next hempty => exact ensures_pure_done fun w _ raw hraw => by simp_all
  · refine Ensures.bind_done (R := fun _ _ => ∀ raw ∈ events, Acceptable raw) ?_ fun _ =>
      (keeps_announce (drifts_const _) _).onDone
    refine ensures_withLock_done (drifts_const True) ?_ fun _ => drifts_const _
    exact ensures_transaction_done (drifts_const True) fun w pending db _ h => ingestEvents_acceptable h

theorem ingestAlone_acceptable (raw : EventResponse) (lastLedger : Nat) :
    Ensures (fun _ => True) (ingestAlone E raw lastLedger) (OnDone fun _ _ => Acceptable raw) := by
  rw [ingestAlone]
  split
  next ev hd =>
    rw [ingestEventQuarantined]
    split
    · exact ensures_throw_done
    · refine Ensures.bind_done (R := fun _ _ => Acceptable raw) ?_ fun _ =>
        (keeps_announce (drifts_const _) _).onDone
      refine ensures_withLock_done (drifts_const True) ?_ fun _ => drifts_const _
      refine Ensures.bind_done (R := fun _ _ => Acceptable raw) ?_ fun needsFold => ?_
      · exact ensures_transaction_done (drifts_const True) fun w n db _ h =>
          acceptable_iff.mpr ⟨ev, hd, (insertRawEvent_eq_ok.mp h).1⟩
      · exact fun w h => by cases (if needsFold then _ else _ : Proc ρ _) w |>.1 <;> trivial
  · exact ensures_throw_done

theorem ingestEach_acceptable (events : List EventResponse) (lastLedger : Nat) :
    Ensures (fun _ => True) (ingestEach E events lastLedger)
      (OnDone fun _ _ => ∀ raw ∈ events, Acceptable raw) :=
  ingestEach_done (Q := fun raw _ => Acceptable raw) (fun raw => ingestAlone_acceptable raw lastLedger)
    (fun _ _ _ h => h) events

/-- **Only acceptable events get a page done**, whatever the surroundings. -/
theorem ingestPageWithQuarantine_acceptable (config : Config) (events : List EventResponse)
    (lastLedger : Nat) (contractId : String) :
    Ensures (fun _ => True) (ingestPageWithQuarantine E config events lastLedger contractId)
      (OnDone fun _ _ => ∀ raw ∈ events, Acceptable raw) :=
  ingestPageWithQuarantine_done (ingestPage_acceptable events lastLedger) (ingestEach_acceptable events lastLedger)
    fun _ h => h

theorem decodeEvent_explained (raw : EventResponse) : Explained (decodeEvent raw) where
  message m h := by
    have hfields : ∀ s data, Explained (namedFields s data) := by
      intro s data
      rw [namedFields]
      split
      · infer_instance
      · split
        · exact Explained.throw (by decide)
        · infer_instance
    have hsymbol : ∀ topics, Explained (symbolOf topics) := by
      intro topics
      rw [symbolOf]
      split <;> infer_instance
    exact (Explained.bind (hsymbol _) fun s => Explained.bind (hfields s _) fun fields => inferInstance).message m h

theorem textFault_ne_empty {s : JsStr} {m : String} (h : textFault s = some m) : m ≠ "" := by
  rw [textFault] at h
  split at h <;> cases h
  decide

theorem stringFault_ne_empty {s : JsStr} {m : String} (h : Json.stringFault s = some m) : m ≠ "" := by
  rw [Json.stringFault] at h
  split at h
  · cases h
    decide
  · split at h <;> cases h
    decide

theorem orElse_ne_empty {a b : Option String} {m : String} (ha : a = some m → m ≠ "") (hb : b = some m → m ≠ "")
    (h : (a <|> b) = some m) : m ≠ "" := by
  cases a with
  | none => exact hb h
  | some x => exact ha h

mutual

theorem fault_ne_empty : ∀ (v : Json) {m : String}, v.fault = some m → m ≠ ""
  | .null, _, h | .bool _, _, h | .num _, _, h => by cases h
  | .str s, _, h => stringFault_ne_empty h
  | .arr vs, _, h => faultList_ne_empty vs h
  | .obj kvs, _, h => faultFields_ne_empty kvs h

theorem faultList_ne_empty : ∀ (vs : List Json) {m : String}, Json.fault.faultList vs = some m → m ≠ ""
  | [], _, h => by cases h
  | v :: vs, _, h => orElse_ne_empty (fault_ne_empty v) (faultList_ne_empty vs) h

theorem faultFields_ne_empty :
    ∀ (kvs : List (JsStr × Json)) {m : String}, Json.fault.faultFields kvs = some m → m ≠ ""
  | [], _, h => by cases h
  | (_, v) :: kvs, _, h =>
    orElse_ne_empty stringFault_ne_empty (orElse_ne_empty (fault_ne_empty v) (faultFields_ne_empty kvs)) h

end

theorem rawFault_ne_empty {ev : DecodedEvent} {m : String} (h : rawFault ev = some m) : m ≠ "" := by
  refine orElse_ne_empty textFault_ne_empty (orElse_ne_empty (fault_ne_empty _)
    (orElse_ne_empty (fault_ne_empty _) (orElse_ne_empty (fun h => ?_) fun h => ?_))) h
  · obtain ⟨s, -, h⟩ := Option.bind_eq_some_iff.mp h
    exact textFault_ne_empty h
  · unfold indexFault at h
    split at h
    · cases h
    · cases h
      decide

theorem ingestEvent_fails {lastLedger : Nat} {raw : EventResponse} {db : Db} {e : Failure}
    (h : ingestEvent lastLedger raw db = .error e) :
    Plain e ∨ rewound raw.ledger lastLedger = true ∧ ∃ m, e = .reorgDetected m := by
  rw [ingestEvent] at h
  cases hd : decodeEvent raw with
  | error m =>
    simp only [hd, Faults.bind_of_error (Tx.lift_error m db)] at h
    cases h
    exact .inl ⟨m, rfl, (decodeEvent_explained raw).message m hd⟩
  | ok ev =>
    rw [← (decodeEvent_eq_ok hd).2.1]
    rw [hd, bind_of_ok (Tx.lift_ok ev db)] at h
    cases hrewound : rewound ev.ledger lastLedger with
    | true =>
      simp only [hrewound, if_true, throw_bind_run] at h
      cases h
      exact .inr ⟨rfl, _, rfl⟩
    | false =>
      left
      simp only [hrewound, Bool.false_eq_true, if_false] at h
      cases hi : insertRawEvent ev db with
      | error e' =>
        rw [bind_of_error hi] at h
        cases h
        rw [insertRawEvent] at hi
        split at hi
        next m hfault =>
          cases hi
          exact ⟨m, rfl, rawFault_ne_empty hfault⟩
        · split at hi <;> cases hi
      | ok r =>
        obtain ⟨needsFold, db₁⟩ := r
        rw [bind_of_ok hi] at h
        cases needsFold with
        | false => cases h
        | true =>
          cases ha : applyEvent ev db₁.tables with
          | error e' =>
            have hf : foldEvent ev db₁ = .error e' := by rw [foldEvent, ha]
            have hl : foldLogged ev db₁ = .error e' := by rw [foldLogged, bind_of_error hf]
            simp only [if_true, bind_of_error hl] at h
            cases h
            exact applyEvent_failsPlainly ev _ _ ha
          | ok r =>
            have hl := foldLogged_eq_ok.mpr ⟨r.2, ha, rfl⟩
            simp only [if_true, bind_of_ok hl] at h
            cases h

/-- A page fails with an error that says something, or on an event from below the last folded ledger. -/
theorem ingestEvents_fails {lastLedger : Nat} {events : List EventResponse} {db : Db} {e : Failure}
    (h : ingestEvents lastLedger events db = .error e) :
    Plain e ∨ (∃ raw ∈ events, rewound raw.ledger lastLedger = true) ∧ ∃ m, e = .reorgDetected m := by
  induction events generalizing db with
  | nil => cases h
  | cons raw events ih =>
    rw [ingestEvents] at h
    cases hi : ingestEvent lastLedger raw db with
    | error e' =>
      rw [bind_of_error hi] at h
      cases h
      obtain hplain | ⟨hrewound, hm⟩ := ingestEvent_fails hi
      · exact .inl hplain
      · exact .inr ⟨⟨raw, by simp, hrewound⟩, hm⟩
    | ok r =>
      rw [bind_of_ok hi] at h
      cases hrest : ingestEvents lastLedger events r.2 with
      | error e' =>
        rw [bind_of_error hrest] at h
        cases h
        obtain hplain | ⟨⟨raw', hmem, hrewound⟩, hm⟩ := ih hrest
        · exact .inl hplain
        · exact .inr ⟨⟨raw', by simp [hmem], hrewound⟩, hm⟩
      | ok r' =>
        rw [bind_of_ok hrest] at h
        cases h

/-- The event has a row, which is folded or recorded as failed. -/
def Settled (id : String) (db : Db) : Prop :=
  ∃ row, db.events.lookup id = some row ∧ (row.folded = true ∨ (db.failed_events.lookup id).isSome)

theorem settled_of_folded {id : String} {db : Db} (h : Folded id db) : Settled id db :=
  h.imp fun _ hrow => ⟨hrow.1, .inl hrow.2⟩

theorem ingestible_settled (id : String) : Ingestible E (fun _ => True) fun w => Settled id w.db where
  drifts := drifts_db
  insertRawEvent w ev n db _ h hi := by
    obtain ⟨row, hrow, hsettled⟩ := h
    obtain ⟨hrow', hfailed⟩ := lookup_insertRawEvent hi hrow
    exact ⟨row, hrow', by simpa [hfailed] using hsettled⟩
  foldLogged w ev c db _ h hf := by
    obtain ⟨row, hrow, hsettled⟩ := h
    obtain ⟨row', hrow', hfolded, -, hfailed⟩ := lookup_foldLogged hf hrow
    exact ⟨row', hrow', by rw [hfailed]; exact hsettled.imp hfolded fun h => h⟩
  failed w ev m db _ h hf := by
    obtain ⟨row, hrow, hsettled⟩ := h
    have hrecorded := isSome_upsertFailedEvent hf id
    cases hf
    exact ⟨row, hrow, hsettled.imp (fun h => h) hrecorded⟩
  quarantineState w _ s e db h hq := by
    cases hq
    exact h
  console w n h := h
  memory w m h := h

/-- Both the record of a failure and the fold of an event settle it. -/
theorem quarantine_settles (hE : E.Healthy) (ev : DecodedEvent) (err : Failure) :
    Returns (Logged ev.id) (quarantine E ev err) fun _ w => Settled ev.id w.db := by
  have hdrift := drifts_logged (E := E) ev.id
  have hinsert : Returns (Logged ev.id) (transaction E (upsertFailedEvent ev err.message)) fun _ w =>
      Settled ev.id w.db := by
    refine hE.returns_transaction hdrift fun w ⟨row, hrow⟩ => ⟨(), _, rfl, row, hrow, .inr ?_⟩
    simp [AList.lookup_insert]
  have hrecord : Returns (Logged ev.id) (recordQuarantinedEvent E ev err) fun _ w => Settled ev.id w.db :=
    hinsert.tryCatch.bind fun _ => returns_update fun w h => h
  refine (hE.returns_statement hdrift).bind fun _ => ?_
  exact hrecord.tryCatch.bind fun _ => returns_pure fun _ h => h

theorem foldOrQuarantine_settles (hE : E.Healthy) {ev : DecodedEvent} (hfault : rawFault ev = none) :
    Returns (fun _ => True) (foldOrQuarantine E ev) fun _ w => Settled ev.id w.db := by
  have hinsert : Returns (fun _ => True) (transaction E (insertRawEvent ev)) fun needsFold w =>
      ∃ row, w.db.events.lookup ev.id = some row ∧ row.folded = !needsFold := by
    refine hE.returns_transaction (drifts_const True) fun w _ => ?_
    obtain ⟨⟨n, db⟩, hok⟩ : ∃ r, insertRawEvent ev w.db = .ok r := by
      simp only [insertRawEvent, hfault]
      split <;> exact ⟨_, rfl⟩
    refine ⟨n, db, hok, ?_⟩
    obtain ⟨-, ⟨row, hrow, hn, rfl⟩ | ⟨-, rfl, rfl⟩⟩ := insertRawEvent_eq_ok.mp hok
    · exact ⟨row, hrow, by simp [hn]⟩
    · exact ⟨rawRow ev, AList.lookup_insert _, rfl⟩
  refine hinsert.bind fun needsFold => ?_
  cases needsFold with
  | false =>
    refine returns_pure fun w h => ?_
    obtain ⟨row, hrow, hfolded⟩ := h
    exact ⟨row, hrow, .inl hfolded⟩
  | true =>
    have hfold : Ensures (Logged ev.id) (transaction E (foldLogged ev))
        (OrRaises (fun _ w => Settled ev.id w.db) fun _ => Logged ev.id) := by
      refine hE.transaction (drifts_logged ev.id) ?_ fun w e h _ => h
      rintro w channels db ⟨row, hrow⟩ hf
      obtain ⟨row', hrow', -, hmarked, -⟩ := lookup_foldLogged hf hrow
      exact ⟨row', hrow', .inl (hmarked rfl)⟩
    exact (returns_tryCatch hfold (quarantine_settles hE ev)).mono (fun _ h => h.imp fun _ hrow => hrow.1)
      fun _ _ h => h

theorem rewound_eq_false {ledger lastLedger : Nat} (h : lastLedger ≤ ledger) :
    rewound ledger lastLedger = false := by
  simp only [rewound, Bool.and_eq_false_imp, decide_eq_true_eq, decide_eq_false_iff_not]
  omega

theorem ingestAlone_settles (hE : E.Healthy) {raw : EventResponse} (hraw : Acceptable raw) {lastLedger : Nat}
    (hledger : lastLedger ≤ raw.ledger) :
    Returns (fun _ => True) (ingestAlone E raw lastLedger) fun _ w => Settled raw.id w.db := by
  obtain ⟨ev, hd, hfault⟩ := acceptable_iff.mp hraw
  obtain ⟨hid, hl, -⟩ := decodeEvent_eq_ok hd
  have hdrift : Drifts E fun w => Settled ev.id w.db := drifts_db
  have hfold := foldOrQuarantine_settles hE hfault
  simp only [ingestAlone, hd, ingestEventQuarantined, hl, rewound_eq_false hledger, Bool.false_eq_true,
    if_false, ← hid]
  exact (hE.returns_withLock (drifts_const True) hfold fun _ => hdrift).bind fun channels =>
    hE.returns_announce hdrift _

/-- Every event of a page is settled. -/
abbrev PageSettled (events : List EventResponse) (w : World ρ) : Prop := ∀ raw ∈ events, Settled raw.id w.db

theorem ingestible_pageSettled (events : List EventResponse) :
    Ingestible E (fun _ => True) (PageSettled events) :=
  Ingestible.forall_imp fun raw => ingestible_settled raw.id

/-- With a healthy database a page of acceptable events is settled one by one. -/
theorem ingestEach_settles (hE : E.Healthy) {events : List EventResponse} {lastLedger : Nat}
    (hledger : ∀ raw ∈ events, lastLedger ≤ raw.ledger) (hall : ∀ raw ∈ events, Acceptable raw) :
    Returns (fun _ => True) (ingestEach E events lastLedger) fun _ => PageSettled events := by
  refine Returns.mono (P := PageSettled []) ?_ (fun _ _ raw hraw => by cases hraw) fun _ _ h => h
  refine returns_forM (P := PageSettled) events fun before raw after hevents => ?_
  have hmem : raw ∈ events := by simp [hevents]
  have hbefore : Keeps (PageSettled before) (ingestAlone E raw lastLedger) :=
    (ingestible_pageSettled before).ingestAlone (fun _ _ => trivial) lastLedger
  intro w hw
  obtain ⟨_, ho, hnew⟩ := ingestAlone_settles hE (hall raw hmem) (hledger raw hmem) w trivial
  have hold := hbefore w hw
  refine ⟨(), ho, fun x hx => ?_⟩
  rcases List.mem_append.mp hx with hx | hx
  · exact hold x hx
  · obtain rfl := List.mem_singleton.mp hx
    exact hnew

/-- A page is folded, or fails and leaves the database as it was. -/
theorem ingestPage_healthy (hE : E.Healthy) (events : List EventResponse) (lastLedger : Nat) (v : World ρ) :
    Ensures (Asked v) (ingestPage E events lastLedger)
      (OrRaises (fun _ w => (∃ r, ingestEvents lastLedger events v.db = .ok r) ∧ PageSettled events w)
        fun e w => ingestEvents lastLedger events v.db = .error e ∧ Asked v w) := by
  have hsettled : Drifts E fun w => (∃ r, ingestEvents lastLedger events v.db = .ok r) ∧ PageSettled events w :=
    (drifts_const _).and (ingestible_pageSettled events).drifts
  rw [ingestPage]
  split
  next hempty =>
    obtain rfl : events = [] := by simpa using hempty
    exact ensures_pure fun w _ => ⟨⟨_, rfl⟩, fun raw hraw => by cases hraw⟩
  · have htx : Ensures (Asked v) (transaction E (ingestEvents lastLedger events))
        (OrRaises (fun _ w => (∃ r, ingestEvents lastLedger events v.db = .ok r) ∧ PageSettled events w)
          fun e w => ingestEvents lastLedger events v.db = .error e ∧ Asked v w) := by
      refine hE.transaction (drifts_asked v) ?_ fun w e hw h => ⟨hw.db ▸ h, hw⟩
      exact fun w pending db hw h =>
        ⟨⟨_, hw.db ▸ h⟩, fun raw hraw => settled_of_folded (ingestEvents_folded h raw hraw)⟩
    refine Ensures.bind (hE.withLock (drifts_asked v) htx ?_) (fun pending => ?_) (fun _ _ h => h) fun _ h => h
    · exact Drifts.orRaises (fun _ => hsettled) fun e => (drifts_const _).and (drifts_asked v)
    · exact (hE.returns_announce hsettled pending).orRaises

/-- The failures counted for a contract: by the process, or in the database if it has not looked there. -/
def counted (contractId : String) (w : World ρ) : Option QuarantineState :=
  if w.memory.quarantineStatesLoaded.contains contractId then
    (w.memory.quarantineStates.lookup contractId).join
  else (w.db.quarantine_state.lookup contractId).bind QuarantineStateRow.state

theorem quarantineStateOf_healthy (hE : E.Healthy) (contractId : String) (v : World ρ) :
    Returns (Asked v) (quarantineStateOf E contractId) fun state w =>
      state = counted contractId v ∧ w.db = v.db ∧ w.console = v.console ∧
        w.memory.quarantineStatesLoaded.contains contractId = true := by
  have hread : Returns (Asked v) (loadQuarantineState E contractId) fun state w =>
      state = (v.db.quarantine_state.lookup contractId).bind QuarantineStateRow.state ∧ Asked v w :=
    (hE.returns_transaction (drifts_asked v) fun w hw => ⟨_, _, rfl, by rw [hw.db], hw⟩).tryCatch
  intro w hw
  simp only [quarantineStateOf, ensureQuarantineState, counted]
  by_cases hloaded : v.memory.quarantineStatesLoaded.contains contractId = true
  · simp only [bind_run, world_run, hw.memory, hloaded, if_true, pure_run]
    exact ⟨_, rfl, rfl, hw.db, hw.console, trivial⟩
  · obtain ⟨state, ho, rfl, hasked⟩ := hread w hw
    simp only [bind_run, world_run, hw.memory, hloaded, if_false, Bool.false_eq_true]
    rcases hl : loadQuarantineState E contractId w with ⟨o, w₁⟩
    rw [hl] at ho hasked
    cases ho
    simp only [setQuarantineState, update_run, pure_run, AList.lookup_insert, Option.join_some]
    exact ⟨_, rfl, rfl, hasked.db, hasked.console, by simp⟩

theorem persistQuarantineState_returns (hE : E.Healthy) (contractId : String)
    (state : Option QuarantineState) (escalating : Bool) {P : World ρ → Prop}
    (hP : Ingestible E (fun _ => True) P) :
    Returns P (persistQuarantineState E contractId state escalating) fun _ => P := by
  refine Returns.tryCatch (hE.returns_transaction hP.drifts fun w hw => ⟨(), _, rfl, ?_⟩)
  exact hP.quarantineState w contractId state escalating _ hw rfl

/-- The error that the fold of a page fails with, if it does. -/
def pageError (lastLedger : Nat) (events : List EventResponse) (db : Db) : Option Failure :=
  match ingestEvents lastLedger events db with
  | .ok _ => none
  | .error e => some e

/-- One more failure of this page with this error reaches the threshold. -/
def Reached (config : Config) (events : List EventResponse) (lastLedger : Nat) (contractId : String)
    (w : World ρ) : Prop :=
  ∀ e ∈ pageError lastLedger events w.db, config.quarantineAfterFailures ≤
    (countFailure (counted contractId w) (pageKeyFor events) e.message).failures

instance (config : Config) (events : List EventResponse) (lastLedger : Nat) (contractId : String)
    (w : World ρ) : Decidable (Reached config events lastLedger contractId w) :=
  inferInstanceAs (Decidable (∀ e ∈ pageError lastLedger events w.db, _))

/-- **A page of acceptable events gets done** once its failures have reached the threshold. -/
theorem ingestPageWithQuarantine_settles (hE : E.Healthy) {config : Config} {events : List EventResponse}
    {lastLedger : Nat} {contractId : String} {v : World ρ} (hledger : ∀ raw ∈ events, lastLedger ≤ raw.ledger)
    (hreached : Reached config events lastLedger contractId v) (hall : ∀ raw ∈ events, Acceptable raw) :
    Returns (· = v) (ingestPageWithQuarantine E config events lastLedger contractId)
      fun _ => PageSettled events := by
  have hsettled := ingestible_pageSettled (E := E) events
  have hclear : Returns (PageSettled events) (clearQuarantineState E contractId) fun _ => PageSettled events :=
    Returns.bind (R := fun _ => PageSettled events) (returns_update fun _ h => h) fun _ =>
      persistQuarantineState_returns hE contractId none false hsettled
  have hstate := quarantineStateOf_healthy hE contractId v
  refine Returns.bind (hstate.mono (fun w hw => hw ▸ .refl v) fun _ _ h => h) fun state => ?_
  rintro w ⟨rfl, hdb, -⟩
  have hfold : Ensures (Asked w) (do ingestPage E events lastLedger; clearQuarantineState E contractId)
      (OrRaises (fun _ => PageSettled events)
        fun e _ => ingestEvents lastLedger events w.db = .error e) :=
    Ensures.bind (ingestPage_healthy hE events lastLedger w)
      (fun _ => (hclear.mono (fun _ h => h.2) fun _ _ h => h).orRaises) (fun _ _ h => h.1) fun _ h => h
  refine returns_tryCatch hfold (fun err => ?_) w (.refl w)
  rintro w' he
  obtain ⟨m, rfl, -⟩ | ⟨⟨raw, hraw, hrewound⟩, -⟩ := ingestEvents_fails he
  rotate_left
  · rw [rewound_eq_false (hledger raw hraw)] at hrewound
    cases hrewound
  have hcount := hreached (.error m) (by rw [pageError, ← hdb, he]; rfl)
  -- the count has reached the threshold: the page is taken event by event
  have heach : Returns (fun _ => True) (ingestEach E events lastLedger) fun _ => PageSettled events :=
    ingestEach_settles hE hledger hall
  have hpersist := fun state escalating => persistQuarantineState_returns hE contractId state escalating
    (Ingestible.of_env (E := E) (S := fun _ => True) (I := fun _ => True) fun _ _ _ h => h)
  have hwhole : Returns (fun _ => True) (onPageFailure E config events lastLedger contractId
      (counted contractId v) (.error m)) fun _ => PageSettled events := by
    refine Returns.bind (R := fun _ _ => True) (returns_update fun _ h => h) fun _ =>
      (hpersist _ _).bind fun _ => ?_
    rw [if_neg (not_lt.mpr hcount)]
    exact Returns.bind (R := fun _ _ => True) (returns_update fun _ h => h) fun _ =>
      (hpersist _ _).bind fun _ => heach.bind fun _ => hclear
  exact hwhole w' trivial

/-- **Exactly the pages of acceptable events get done**, with a healthy database, once their failures
have reached the threshold. -/
theorem page_gets_done_iff (hE : E.Healthy) {config : Config} {events : List EventResponse}
    {lastLedger : Nat} {contractId : String} {w : World ρ} (hledger : ∀ raw ∈ events, lastLedger ≤ raw.ledger)
    (hreached : Reached config events lastLedger contractId w) :
    ((ingestPageWithQuarantine E config events lastLedger contractId w).1 = .done () ∧
        PageSettled events (ingestPageWithQuarantine E config events lastLedger contractId w).2) ↔
      ∀ raw ∈ events, Acceptable raw := by
  constructor
  · rintro ⟨hdone, -⟩
    have h := ingestPageWithQuarantine_acceptable (E := E) config events lastLedger contractId w trivial
    rw [hdone] at h
    exact h
  · intro hall
    obtain ⟨_, hdone, hsettled⟩ := ingestPageWithQuarantine_settles hE hledger hreached hall w rfl
    exact ⟨hdone, hsettled⟩

def threeTries : Config := { contractIds := ["C"] }

/-- A process that has failed on a page twice. -/
def failedTwice (page : List EventResponse) : World Nat :=
  let ingest := ingestPageWithQuarantine .healthy threeTries page 0 "C"
  (ingest (ingest (freshWorld 0)).2).2

def aBadClaim : EventResponse := .published "0002" 2 "claimed" [.str "GA", .str "much"]

/-- At the third failure, an event whose handler throws is recorded, and the page gets done. -/
theorem page_gets_done_iff_third_failure :
    (ingestPageWithQuarantine .healthy threeTries [aJoin, aBadClaim] 0 "C" (failedTwice [aJoin, aBadClaim])).1 =
        .done () ∧
      PageSettled [aJoin, aBadClaim] (ingestPageWithQuarantine .healthy threeTries [aJoin, aBadClaim] 0 "C"
        (failedTwice [aJoin, aBadClaim])).2 := by
  have hreached : Reached threeTries [aJoin, aBadClaim] 0 "C" (failedTwice [aJoin, aBadClaim]) := by
    decide +kernel
  have hall : ∀ raw ∈ [aJoin, aBadClaim], Acceptable raw := by
    intro raw hraw
    rw [List.mem_cons, List.mem_singleton] at hraw
    rcases hraw with rfl | rfl
    · exact ⟨⟨"joined", rfl, by decide, by decide⟩, by decide, by decide, by decide, rfl⟩
    · exact ⟨⟨"claimed", rfl, by decide, by decide⟩, by decide, by decide, by decide, rfl⟩
  exact (page_gets_done_iff healthy_healthy (by decide) hreached).mpr hall

/-- An event with the symbol `constructor`: every object has that name, and it names no list of fields. -/
def anInheritedName : EventResponse := .published "0002" 2 "constructor" []

/-- Such an event stops its page for good, and has no row anywhere. -/
theorem inherited_name_stops_a_page :
    Environment.healthy.Healthy ∧ (∀ raw ∈ [aJoin, anInheritedName], 0 ≤ raw.ledger) ∧
      Reached threeTries [aJoin, anInheritedName] 0 "C" (failedTwice [aJoin, anInheritedName]) ∧
      (ingestPageWithQuarantine .healthy threeTries [aJoin, anInheritedName] 0 "C"
        (failedTwice [aJoin, anInheritedName])).1 = .raised (.error "names.forEach is not a function") ∧
      ¬ PageSettled [aJoin, anInheritedName] (ingestPageWithQuarantine .healthy threeTries
        [aJoin, anInheritedName] 0 "C" (failedTwice [aJoin, anInheritedName])).2 := by
  refine ⟨healthy_healthy, by decide, by decide +kernel, by decide +kernel, fun h => ?_⟩
  have hnone : (ingestPageWithQuarantine .healthy threeTries [aJoin, anInheritedName] 0 "C"
      (failedTwice [aJoin, anInheritedName])).2.db.events.lookup "0002" = none := by
    rw [← Option.not_isSome_iff_eq_none]
    decide +kernel
  obtain ⟨row, hrow, -⟩ := h anInheritedName (by simp)
  exact absurd (hnone.symm.trans hrow) (by simp)

end OurDao
