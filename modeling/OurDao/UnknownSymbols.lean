import OurDao.MemberCaches
import OurDao.Quarantine

/-!
# Unknown symbols

A symbol is looked up in three tables: its fields, its handler and its channels. Only
`isKnownSymbol` asks whether the table has the key itself. A name that every object inherits
is found among the fields, where it is no list of names, and two channels stand under names
that are no symbols of the catalog. Every other unknown event is stored and nothing more.
-/

namespace OurDao

open Faults Op

namespace Environment.Healthy

variable {ρ α : Type} {E : Environment ρ} (hE : E.Healthy)
include hE

theorem statement_run (w : World ρ) : ∃ r, ask E.statement w = (.done (), { w with env := r }) := by
  refine ⟨(E.statement w.env).2, ?_⟩
  rw [ask, hE.statement]

theorem transaction_ok {body : Tx α} {w : World ρ} {a : α} {db : Db} (h : body w.db = .ok (a, db)) :
    ∃ r, OurDao.transaction E body w = (.done a, { w with db, env := r }) := by
  obtain ⟨r, hr⟩ := hE.statement_run w
  refine ⟨r, (bind_done hr).trans ?_⟩
  simp only [commit, h]

theorem read_run (f : Db → α) (w : World ρ) :
    ∃ r, OurDao.transaction E (fun db => .ok (f db, db)) w = (.done (f w.db), { w with env := r }) :=
  hE.transaction_ok rfl

theorem transaction_error {body : Tx α} {w : World ρ} {e : Failure} (h : body w.db = .error e) :
    ∃ r, OurDao.transaction E body w = (.raised e, { w with env := r }) := by
  obtain ⟨r, hr⟩ := hE.statement_run w
  refine ⟨r, (bind_done hr).trans ?_⟩
  simp only [commit, h]

theorem unlock_run (w : World ρ) : ∃ r, swallow (ask E.statement) w = (.done (), { w with env := r }) := by
  obtain ⟨r, hr⟩ := hE.statement_run w
  refine ⟨r, ?_⟩
  rw [swallow, tryCatch_run, hr]

theorem withLock_run {busy : String} {body : Proc ρ α} {w v : World ρ} {o : Outcome Failure α} (ho : o ≠ .crashed)
    (h : ∀ r, ∃ r', body { w with env := r } = (o, { v with env := r' })) :
    ∃ r, OurDao.withLock E busy body w = (o, { v with env := r }) := by
  obtain ⟨r₁, hbody⟩ := h (E.pg_try_advisory_lock w.env).2
  obtain ⟨r₂, hunlock⟩ := hE.unlock_run { v with env := r₁ }
  have hlock : ask E.pg_try_advisory_lock w = (.done true, { w with env := (E.pg_try_advisory_lock w.env).2 }) := by
    rw [ask, hE.lock]
  cases o with
  | done a =>
    refine ⟨r₂, (bind_done hlock).trans ((bind_done ?_).trans (bind_done hunlock))⟩
    rw [tryCatch_run, hbody]
  | raised e =>
    refine ⟨r₂, (bind_done hlock).trans (bind_raised ?_)⟩
    rw [tryCatch_run, hbody]
    exact bind_done hunlock
  | crashed => contradiction

theorem announce_run (channels : List (StreamChannel × String)) (w : World ρ) :
    ∃ r, announce E channels w = (.done (), { w with env := r, sent := w.sent ++ channels }) := by
  induction channels generalizing w with
  | nil => exact ⟨w.env, by rw [List.append_nil]; rfl⟩
  | cons n channels ih =>
    obtain ⟨r₁, h₁⟩ := hE.statement_run w
    obtain ⟨r₂, h₂⟩ := ih { w with env := r₁, sent := w.sent ++ [n] }
    have hsent : swallow (do
        ask E.statement
        update fun w => { w with sent := w.sent ++ [n] }) w =
        (.done (), { w with env := r₁, sent := w.sent ++ [n] }) := by
      rw [swallow, tryCatch_run, bind_done h₁]
      rfl
    refine ⟨r₂, (bind_done hsent).trans ?_⟩
    rw [List.append_assoc] at h₂
    exact h₂

/-- A page whose transaction commits. -/
theorem ingestPage_done {raw : EventResponse} {events : List EventResponse} {lastLedger : Nat} {w : World ρ}
    {db' : Db} {pending : List (StreamChannel × String)}
    (h : ingestEvents lastLedger (raw :: events) w.db = .ok (pending, db')) :
    ∃ r, ingestPage E (raw :: events) lastLedger w =
      (.done (), { w with db := db', env := r, sent := w.sent ++ pending }) := by
  obtain ⟨r₁, h₁⟩ := hE.withLock_run (w := w) (v := { w with db := db' }) (by simp) fun r =>
    hE.transaction_ok (w := { w with env := r }) h
  obtain ⟨r₂, h₂⟩ := hE.announce_run pending { w with db := db', env := r₁ }
  exact ⟨r₂, (bind_done h₁).trans h₂⟩

/-- A page whose transaction does not. -/
theorem ingestPage_raised {raw : EventResponse} {events : List EventResponse} {lastLedger : Nat} {w : World ρ}
    {e : Failure} (h : ingestEvents lastLedger (raw :: events) w.db = .error e) :
    ∃ r, ingestPage E (raw :: events) lastLedger w = (.raised e, { w with env := r }) := by
  obtain ⟨r₁, h₁⟩ := hE.withLock_run (w := w) (v := w) (by simp) fun r =>
    hE.transaction_error (w := { w with env := r }) h
  exact ⟨r₁, bind_raised h₁⟩

/-- A replay that has nothing to announce. -/
theorem replayFailedEvent_run {eventId : String} {resolution : Resolution} {outcome : ReplayOutcome} {w : World ρ}
    {db' : Db} (h : ∀ r, ∃ r', replayLocked E eventId resolution { w with env := r } =
      (.done (outcome, []), { w with db := db', env := r' })) :
    ∃ r, replayFailedEvent E eventId resolution w = (.done outcome, { w with db := db', env := r }) := by
  have hlock (busy : String) : ∃ r, OurDao.withLock E busy (replayLocked E eventId resolution) w =
      (.done (outcome, []), { w with db := db', env := r }) := hE.withLock_run (v := { w with db := db' }) (by simp) h
  rw [replayFailedEvent]
  exact (hlock _).imp fun r hr => bind_done hr

end Environment.Healthy

/-- The first topic decodes to the string `s`. -/
def EventResponse.FirstTopic (raw : EventResponse) (s : JsStr) : Prop := raw.topics.head? = some (.str s)

/-- The raw row of an event that has no named fields. -/
def EventResponse.unnamedRow (raw : EventResponse) (s : JsStr) : EventRow := rawRow (raw.decoded s [])

/-- The row is there and marked; every other row and the derived tables are as they were. -/
structure EventResponse.StoredOnly (raw : EventResponse) (s : JsStr) (db db' : Db) : Prop where
  stored : db'.events.lookup raw.id = some { raw.unnamedRow s with folded := true }
  others : ∀ id, id ≠ raw.id → db'.events.lookup id = db.events.lookup id
  tables : db'.tables = db.tables

/-- Stored and nothing more, by a page and by whoever reads the row. -/
structure Inert (raw : EventResponse) (s : JsStr) (lastLedger : Nat) (db : Db) : Prop where
  ingested : ∀ {ρ : Type} (E : Environment ρ), E.Healthy → ∀ w : World ρ, w.db = db →
    ∃ w', ingestPage E [raw] lastLedger w = (.done (), w') ∧ raw.StoredOnly s db w'.db ∧ w'.sent = w.sent
  rebuilt : ∀ built : Rebuilt, ∃ built', rebuildRow built (raw.id, raw.unnamedRow s) = .ok built' ∧
    built'.db.tables = built.db.tables ∧ built'.touchedChannels = built.touchedChannels
  replayed : ∀ {ρ : Type} (E : Environment ρ), E.Healthy → ∀ (w : World ρ) (folded : Bool) (resolution : Resolution),
    w.db.events.lookup raw.id = some { raw.unnamedRow s with folded } →
    ∃ outcome w', replayFailedEvent E raw.id resolution w = (.done outcome, w') ∧
      (∀ m, outcome ≠ .still_failing m) ∧ w'.db.tables = w.db.tables ∧ w'.sent = w.sent

/-- What an event with an unknown symbol must spare the indexer. -/
structure Unremarkable (raw : EventResponse) (s : JsStr) (lastLedger : Nat) (db : Db) : Prop where
  /-- no name that every object has -/
  name : s.text ∉ inherited
  /-- no name of `channelMap` that the catalog lacks -/
  channel : s ≠ "loan_reject" ∧ s ≠ "loan_disburse"
  topics : Json.fault (.arr raw.topics) = none
  data : Json.fault (.arr raw.data) = none
  decodeError : raw.decodeError.bind textFault = none
  /-- the indexes of `events` take its row -/
  indexable : raw.indexable = true
  ledger : rewound raw.ledger lastLedger = false
  /-- a row under its id is its own -/
  row : ∀ row, db.events.lookup raw.id = some row →
    { row with folded := true } = { raw.unnamedRow s with folded := true }

section

variable {raw : EventResponse} {s : JsStr}

theorem symbolOf_firstTopic (hs : raw.FirstTopic s) : symbolOf raw.topics = .ok s := by
  rw [symbolOf, hs]
  rfl

/-- What can be stored in a topic can be stored as the symbol. -/
theorem storable_of_topics (hs : raw.FirstTopic s) (h : Json.fault (.arr raw.topics) = none) : s.storable = true := by
  rw [EventResponse.FirstTopic] at hs
  cases htopics : raw.topics with
  | nil => simp [htopics] at hs
  | cons first rest =>
    rw [htopics] at hs h
    obtain rfl : first = .str s := Option.some.inj hs
    have hfirst : Json.stringFault s = none := by
      simp only [Json.fault, Json.fault.faultList, Option.orElse_eq_orElse] at h
      cases hfault : Json.stringFault s with
      | none => rfl
      | some m => simp [hfault] at h
    rw [Json.stringFault] at hfirst
    split at hfirst
    · cases hfirst
    next hnul =>
      split at hfirst
      · cases hfirst
      next hlone => simp [JsStr.storable, hnul, hlone]

theorem applyEvent_unknown {ev : DecodedEvent} (h : EventSymbol.ofSymbol? ev.symbol = none) (t : Tables) :
    applyEvent ev t = .ok (channelsOf ev, t) := by
  rw [applyEvent, h]
  rfl

/-- Without the two names that are no symbols, a channel is found for known symbols only. -/
theorem channelMap_unknown (hlone : s.lone = false) (h : EventSymbol.ofSymbol? s = none) :
    channelMap s.text = [] ↔ s ≠ "loan_reject" ∧ s ≠ "loan_disburse" := by
  have hsymbol := (JsStr.ofString_text hlone).symm
  constructor
  · intro hempty
    constructor
    · rintro rfl
      exact absurd hempty (by decide)
    · rintro rfl
      exact absurd hempty (by decide)
  · rintro ⟨hreject, hdisburse⟩
    rw [hsymbol] at h hreject hdisburse
    unfold channelMap
    split
    case h_13 hname =>
      rw [hname] at hreject
      exact absurd rfl hreject
    case h_15 hname =>
      rw [hname] at hdisburse
      exact absurd rfl hdisburse
    case h_26 => rfl
    all_goals
      next hname =>
        rw [hname] at h
        exact absurd h (by decide)

theorem namedFields_unknown (h : EventSymbol.ofSymbol? s = none) (hname : s.text ∉ inherited) (data : List Json) :
    namedFields s data = .ok [] := by
  simp [namedFields, h, hname]

/-- The stored row is read back under its symbol. -/
theorem toDecodedEvent_unknown (raw : EventResponse) (hlone : s.lone = false) (h : EventSymbol.ofSymbol? s = none)
    (hname : s.text ∉ inherited) (folded : Bool) :
    ∃ ev, toDecodedEvent raw.id { raw.unnamedRow s with folded } = .ok ev ∧ ev.symbol = s ∧ ev.id = raw.id := by
  have hsymbol := JsStr.ofString_text hlone
  simp only [toDecodedEvent, EventResponse.unnamedRow, rawRow, EventResponse.decoded, hsymbol,
    namedFields_unknown h hname]
  exact ⟨_, rfl, rfl, rfl⟩

variable {lastLedger : Nat} {db : Db}

theorem lone_of_unremarkable (h : Unremarkable raw s lastLedger db) (hs : raw.FirstTopic s) : s.lone = false :=
  JsStr.lone_of_storable (storable_of_topics hs h.topics)

theorem channelsOf_unremarkable (h : Unremarkable raw s lastLedger db) (hs : raw.FirstTopic s)
    (hunknown : EventSymbol.ofSymbol? s = none) {ev : DecodedEvent} (hev : ev.symbol = s) : channelsOf ev = [] := by
  have hlone := lone_of_unremarkable h hs
  rw [channelsOf, hev, hlone, if_neg (by simp)]
  exact (channelMap_unknown hlone hunknown).mpr h.channel

/-- An unmarked row of an unremarkable event is marked, and no more. -/
theorem foldLogged_unremarkable {ev : DecodedEvent} (hunknown : EventSymbol.ofSymbol? ev.symbol = none)
    (hchannels : channelsOf ev = []) (db : Db) : foldLogged ev db = .ok ([],
      { db with applied := db.applied ++ [ev], events := setFolded ev.id db.events }) :=
  foldLogged_eq_ok.mpr ⟨db.tables, by rw [applyEvent_unknown hunknown, hchannels], rfl⟩

/-- An unmarked row of the event's own, once it is marked. -/
theorem storedOnly_setFolded (db : Db) {u : Db} {row : EventRow} (hrow : u.events.lookup raw.id = some row)
    (hown : { row with folded := true } = { raw.unnamedRow s with folded := true })
    (hothers : ∀ id, id ≠ raw.id → u.events.lookup id = db.events.lookup id) (htables : u.tables = db.tables)
    (applied : List DecodedEvent) :
    raw.StoredOnly s db { u with applied, events := setFolded raw.id u.events } where
  stored := by rw [lookup_setFolded, hrow, Option.map_some, if_pos rfl, hown]
  others id hid := by
    rw [lookup_setFolded, hothers id hid]
    simp [hid]
  tables := htables

theorem ingestEvents_inert (h : Unremarkable raw s lastLedger db) (hs : raw.FirstTopic s)
    (hunknown : EventSymbol.ofSymbol? s = none) :
    ∃ db', ingestEvents lastLedger [raw] db = .ok ([], db') ∧ raw.StoredOnly s db db' := by
  have hd : decodeEvent raw = .ok (raw.decoded s []) :=
    decodeEvent_iff.mpr ⟨s, [], symbolOf_firstTopic hs, namedFields_unknown hunknown h.name _, rfl⟩
  have hfault : rawFault (raw.decoded s []) = none :=
    rawFault_eq_none.mpr ⟨storable_of_topics hs h.topics, h.topics, h.data, h.decodeError, h.indexable⟩
  have hchannels : channelsOf (raw.decoded s []) = [] := channelsOf_unremarkable h hs hunknown rfl
  have hfold (db₁ : Db) (hinsert : insertRawEvent (raw.decoded s []) db = .ok (true, db₁)) :
      ingestEvents lastLedger [raw] db = .ok ([], { db₁ with
        applied := db₁.applied ++ [raw.decoded s []], events := setFolded raw.id db₁.events }) := by
    have hrun := foldLogged_unremarkable hunknown hchannels db₁
    have hone := ingestEvent_eq_ok.mpr ⟨_, hd, h.ledger, .inl ⟨db₁, [], hinsert, hrun, rfl⟩⟩
    exact ingestEvents_cons_ok.mpr ⟨[], _, [], hone, rfl, rfl⟩
  cases hlookup : db.events.lookup raw.id with
  | none =>
    refine ⟨_, hfold _ (insertRawEvent_eq_ok.mpr ⟨hfault, .inr ⟨hlookup, rfl, rfl⟩⟩), ?_⟩
    refine storedOnly_setFolded db (u := { db with events := db.events.insert raw.id (raw.unnamedRow s) })
      (AList.lookup_insert _) rfl (fun id hid => ?_) rfl _
    exact AList.lookup_insert_ne hid
  | some row =>
    cases hfolded : row.folded with
    | false =>
      refine ⟨_, hfold db (insertRawEvent_eq_ok.mpr ⟨hfault, .inl ⟨row, hlookup, by rw [hfolded]; rfl, rfl⟩⟩), ?_⟩
      exact storedOnly_setFolded db hlookup (h.row row hlookup) (fun _ _ => rfl) rfl _
    | true =>
      have hinsert : insertRawEvent (raw.decoded s []) db = .ok (false, db) :=
        insertRawEvent_eq_ok.mpr ⟨hfault, .inl ⟨row, hlookup, by rw [hfolded]; rfl, rfl⟩⟩
      have hone := ingestEvent_eq_ok.mpr ⟨_, hd, h.ledger, .inr ⟨hinsert, rfl⟩⟩
      refine ⟨db, ingestEvents_cons_ok.mpr ⟨[], db, [], hone, rfl, rfl⟩, ?_, fun _ _ => rfl, rfl⟩
      rw [hlookup, ← h.row row hlookup, ← hfolded]

theorem rebuildRow_inert (h : Unremarkable raw s lastLedger db) (hs : raw.FirstTopic s)
    (hunknown : EventSymbol.ofSymbol? s = none) (built : Rebuilt) :
    ∃ built', rebuildRow built (raw.id, raw.unnamedRow s) = .ok built' ∧
      built'.db.tables = built.db.tables ∧ built'.touchedChannels = built.touchedChannels := by
  obtain ⟨ev, hev, hsymbol, -⟩ := toDecodedEvent_unknown raw (lone_of_unremarkable h hs) hunknown h.name false
  have happly := applyEvent_unknown (hsymbol ▸ hunknown) built.db.tables
  rw [channelsOf_unremarkable h hs hunknown hsymbol] at happly
  exact ⟨_, rebuildRow_eq_ok.mpr ⟨ev, [], built.db.tables, hev, happly, rfl⟩, rfl, rfl⟩

/-- The row is marked or found marked; the derived tables are as they were. -/
theorem replayLocked_inert {ρ : Type} {E : Environment ρ} (hE : E.Healthy) (h : Unremarkable raw s lastLedger db)
    (hs : raw.FirstTopic s) (hunknown : EventSymbol.ofSymbol? s = none) {u : Db} {folded : Bool}
    (resolution : Resolution) (hrow : u.events.lookup raw.id = some { raw.unnamedRow s with folded }) :
    ∃ outcome db', (∀ w : World ρ, w.db = u → ∃ r,
      replayLocked E raw.id resolution w = (.done (outcome, []), { w with db := db', env := r })) ∧
      (∀ m, outcome ≠ .still_failing m) ∧ db'.tables = u.tables := by
  -- the two reads, whatever their answers
  have hreads (w : World ρ) (hw : w.db = u) : ∃ r, replayLocked E raw.id resolution w =
      if (u.failed_events.lookup raw.id).any fun r => !r.resolved then
        replayRow E raw.id resolution { raw.unnamedRow s with folded } { w with env := r }
      else (.done (.already_resolved, []), { w with env := r }) := by
    subst hw
    obtain ⟨r₁, h₁⟩ := hE.read_run (fun db => (db.failed_events.lookup raw.id).any fun r => !r.resolved) w
    cases hunresolved : (w.db.failed_events.lookup raw.id).any fun r => !r.resolved with
    | false =>
      rw [hunresolved] at h₁
      exact ⟨r₁, bind_done h₁⟩
    | true =>
      rw [hunresolved] at h₁
      obtain ⟨r₂, h₂⟩ := hE.read_run (fun db => db.events.lookup raw.id) { w with env := r₁ }
      refine ⟨r₂, (bind_done h₁).trans ((bind_done h₂).trans ?_)⟩
      simp only [hrow, if_true]
  by_cases hunresolved : ((u.failed_events.lookup raw.id).any fun r => !r.resolved) = true
  · simp only [hunresolved, if_true, replayRow] at hreads
    cases folded with
    | true =>
      refine ⟨.already_resolved, { u with
        failed_events := whereUnresolved raw.id (.resolve resolution) u.failed_events }, fun w hw => ?_, by simp, rfl⟩
      obtain ⟨r₂, h₂⟩ := hreads w hw
      subst hw
      obtain ⟨r₃, h₃⟩ : ∃ r, transaction E (updateUnresolved raw.id (.resolve resolution)) { w with env := r₂ } =
          (.done (), { w with env := r, db := { w.db with
            failed_events := whereUnresolved raw.id (.resolve resolution) w.db.failed_events } }) :=
        hE.transaction_ok rfl
      exact ⟨r₃, h₂.trans (bind_done h₃)⟩
    | false =>
      obtain ⟨ev, hev, hsymbol, -⟩ :=
        toDecodedEvent_unknown raw (lone_of_unremarkable h hs) hunknown h.name false
      have hfold := foldLogged_unremarkable (hsymbol ▸ hunknown) (channelsOf_unremarkable h hs hunknown hsymbol) u
      obtain ⟨db', htx, htables⟩ : ∃ db', replayTx raw.id resolution ev u = .ok ([], db') ∧
          db'.tables = u.tables := ⟨_, replayTx_eq_ok.mpr ⟨_, hfold, rfl⟩, rfl⟩
      refine ⟨.replayed, db', fun w hw => ?_, by simp, htables⟩
      obtain ⟨r₂, h₂⟩ := hreads w hw
      subst hw
      obtain ⟨r₃, h₃⟩ := hE.transaction_ok (w := { w with env := r₂ }) htx
      refine ⟨r₃, h₂.trans ?_⟩
      simp only [Bool.false_eq_true, if_false, hev]
      rw [tryCatch_run, bind_done h₃]
      rfl
  · simp only [hunresolved] at hreads
    refine ⟨.already_resolved, u, fun w hw => ?_, by simp, rfl⟩
    obtain ⟨r, hr⟩ := hreads w hw
    subst hw
    exact ⟨r, hr⟩

theorem unremarkable_of_stored (hs : raw.FirstTopic s) (hunknown : EventSymbol.ofSymbol? s = none)
    {pending : List (StreamChannel × String)} {db' : Db}
    (hpage : ingestEvents lastLedger [raw] db = .ok (pending, db'))
    (hstored : db'.events.lookup raw.id = some { raw.unnamedRow s with folded := true })
    (hrebuilt : ∃ built', rebuildRow { db := Db.empty } (raw.id, raw.unnamedRow s) = .ok built' ∧
      built'.db.tables = Tables.empty ∧ built'.touchedChannels = []) : Unremarkable raw s lastLedger db := by
  obtain ⟨p, db₁, ps, hone, ⟨⟩, -⟩ := ingestEvents_cons_ok.mp hpage
  obtain ⟨⟨s', hsymbol, hname, hstorable⟩, htopics, hdata, herror, hindexable⟩ := ingestEvent_acceptable hone
  obtain rfl : s = s' := Except.ok.inj ((symbolOf_firstTopic hs).symm.trans hsymbol)
  have hlone := JsStr.lone_of_storable hstorable
  have hname : s.text ∉ inherited := fun hmem => hname ⟨hlone, hmem⟩
  obtain ⟨ev, hd, hledger, hrun⟩ := ingestEvent_eq_ok.mp hone
  obtain ⟨hid, hevledger, -⟩ := decodeEvent_eq_ok hd
  refine ⟨hname, ?_, htopics, hdata, herror, hindexable, hevledger ▸ hledger, fun row hrow => ?_⟩
  · obtain ⟨built', hbuilt, -, htouched⟩ := hrebuilt
    obtain ⟨ev', channels, tables, hread, happly, rfl⟩ := rebuildRow_eq_ok.mp hbuilt
    obtain ⟨ev'', hread', hsymbol', -⟩ := toDecodedEvent_unknown raw hlone hunknown hname false
    obtain rfl : ev' = ev'' := Except.ok.inj (hread.symm.trans hread')
    rw [applyEvent_unknown (hsymbol' ▸ hunknown)] at happly
    cases happly
    change addChannels [] (channelsOf ev') = [] at htouched
    rw [channelsOf, hsymbol', hlone, if_neg (by simp)] at htouched
    constructor
    · rintro rfl
      exact absurd htouched (by decide)
    · rintro rfl
      exact absurd htouched (by decide)
  · have hmarked : db'.events.lookup raw.id = some { row with folded := true } := by
      rw [← hid] at hrow ⊢
      rcases hrun with ⟨u, channels, hinsert, hfold, -⟩ | ⟨hinsert, -⟩
      · obtain ⟨-, ⟨row', hrow', -, rfl⟩ | ⟨hnone, -⟩⟩ := insertRawEvent_eq_ok.mp hinsert
        · obtain ⟨tables, -, rfl⟩ := foldLogged_eq_ok.mp hfold
          rw [lookup_setFolded, hrow]
          simp
        · rw [hnone] at hrow
          cases hrow
      · obtain ⟨-, ⟨row', hrow', hneeds, rfl⟩ | ⟨-, hneeds, -⟩⟩ := insertRawEvent_eq_ok.mp hinsert
        · obtain rfl : row = row' := Option.some.inj (hrow.symm.trans hrow')
          have hfolded : row.folded = true := by simpa using hneeds.symm
          rw [hrow, ← hfolded]
        · cases hneeds
    exact Option.some.inj (hmarked.symm.trans hstored)

/-- What is neither found among the inherited names nor among the channels is stored, and nothing more. -/
theorem inert_iff (hs : raw.FirstTopic s) (hunknown : EventSymbol.ofSymbol? s = none) (lastLedger : Nat) (db : Db) :
    Inert raw s lastLedger db ↔ Unremarkable raw s lastLedger db := by
  constructor
  · intro h
    obtain ⟨w', hrun, hstored, -⟩ := h.ingested Environment.healthy healthy_healthy { freshWorld 0 with db } rfl
    cases hpage : ingestEvents lastLedger [raw] db with
    | error e =>
      obtain ⟨r, hraised⟩ := healthy_healthy.ingestPage_raised (w := { freshWorld 0 with db }) hpage
      rw [hraised] at hrun
      cases hrun
    | ok x =>
      obtain ⟨r, hdone⟩ := healthy_healthy.ingestPage_done (w := { freshWorld 0 with db }) hpage
      rw [hdone] at hrun
      cases hrun
      exact unremarkable_of_stored hs hunknown hpage hstored.stored (h.rebuilt { db := Db.empty })
  · intro h
    refine ⟨fun E hE w hw => ?_, rebuildRow_inert h hs hunknown, fun E hE w folded resolution hrow => ?_⟩
    · subst hw
      obtain ⟨db', hpage, hstored⟩ := ingestEvents_inert h hs hunknown
      obtain ⟨r, hrun⟩ := hE.ingestPage_done hpage
      exact ⟨_, hrun, hstored, List.append_nil _⟩
    · obtain ⟨outcome, db', hlocked, houtcome, htables⟩ := replayLocked_inert hE h hs hunknown resolution hrow
      obtain ⟨r, hrun⟩ := hE.replayFailedEvent_run fun r => hlocked { w with env := r } rfl
      exact ⟨outcome, _, hrun, houtcome, htables, rfl⟩

end

/-- A contract's own symbol, of which the indexer knows nothing. -/
def ofTheContract (symbol : String) : EventResponse := .published "0001" 1 symbol [.num 1]

theorem inert_brand_new_symbol : Inert (ofTheContract "brand_new_symbol") "brand_new_symbol" 0 Db.empty :=
  (inert_iff (show (ofTheContract "brand_new_symbol").FirstTopic "brand_new_symbol" from rfl) (by decide) 0
    Db.empty).mpr ⟨by decide, by decide, by decide, by decide, by decide, rfl, by decide, fun _ h => by cases h⟩

/-- Of two unknown symbols `constructor` stops its page, and `loan_reject` wakes a channel. -/
theorem unknown_symbols_remarked :
    ((ofTheContract "constructor").FirstTopic "constructor" ∧ EventSymbol.ofSymbol? "constructor" = none) ∧
      ((ofTheContract "loan_reject").FirstTopic "loan_reject" ∧ EventSymbol.ofSymbol? "loan_reject" = none) ∧
      (ingestPage .healthy [ofTheContract "constructor"] 0 (freshWorld 0)).1 =
        .raised (.error "names.forEach is not a function") ∧
      ¬Inert (ofTheContract "constructor") "constructor" 0 Db.empty ∧
      (ingestPage .healthy [ofTheContract "loan_reject"] 0 (freshWorld 0)).2.sent =
        [(.loan_proposals, "loan_reject")] ∧
      ¬Inert (ofTheContract "loan_reject") "loan_reject" 0 Db.empty := by
  have hraised : (ingestPage .healthy [ofTheContract "constructor"] 0 (freshWorld 0)).1 =
      .raised (.error "names.forEach is not a function") := by decide +kernel
  have hwoken : (ingestPage .healthy [ofTheContract "loan_reject"] 0 (freshWorld 0)).2.sent =
      [(.loan_proposals, "loan_reject")] := by decide +kernel
  refine ⟨⟨rfl, by decide⟩, ⟨rfl, by decide⟩, hraised, fun h => ?_, hwoken, fun h => ?_⟩
  · obtain ⟨w', hrun, -⟩ := h.ingested .healthy healthy_healthy (freshWorld 0) rfl
    rw [hrun] at hraised
    cases hraised
  · obtain ⟨w', hrun, -, hsent⟩ := h.ingested .healthy healthy_healthy (freshWorld 0) rfl
    rw [hrun, hsent] at hwoken
    cases hwoken

end OurDao
