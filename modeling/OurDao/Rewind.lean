import OurDao.Quarantine

/-!
# A page from below the last folded ledger

Once a page shows an event from below the last folded ledger, it is never done. In one
transaction nothing of it is committed, and event by event only what comes before that
event is: on a page in ascending ledger order there is no such event.
-/

namespace OurDao

open Faults Op

variable {ρ : Type} {E : Environment ρ} {config : Config} {page : List EventResponse} {lastLedger : Nat}
  {contractId : String}

/-- The events of a page that come before the first one from below the last folded ledger. -/
def beforeRewind (lastLedger : Nat) (page : List EventResponse) : List EventResponse :=
  page.takeWhile fun raw => !rewound raw.ledger lastLedger

/-- The page has an event from below the last folded ledger. -/
def Rewinds (lastLedger : Nat) (page : List EventResponse) : Prop :=
  ∃ raw ∈ page, rewound raw.ledger lastLedger = true

instance : Decidable (Rewinds lastLedger page) := inferInstanceAs (Decidable (∃ raw ∈ page, _))

/-- In ascending ledger order such an event is the first of its page. -/
theorem beforeRewind_of_ascending (hrewinds : Rewinds lastLedger page)
    (hascending : page.Pairwise fun a b => a.ledger ≤ b.ledger) : beforeRewind lastLedger page = [] := by
  cases page with
  | nil => rfl
  | cons first page =>
    have hfirst : rewound first.ledger lastLedger = true := by
      obtain ⟨raw, hraw, hrewound⟩ := hrewinds
      have hle : first.ledger ≤ raw.ledger := by
        rcases List.mem_cons.mp hraw with rfl | hraw
        · exact le_rfl
        · exact (List.pairwise_cons.mp hascending).1 raw hraw
      simp only [rewound, Bool.and_eq_true, decide_eq_true_eq] at hrewound ⊢
      omega
    simp [beforeRewind, hfirst]

/-- The log, the derived tables and the failed events are as they were. -/
structure SameRecords (v w : World ρ) : Prop where
  events : w.db.events = v.db.events
  tables : w.db.tables = v.db.tables
  failed_events : w.db.failed_events = v.db.failed_events

theorem recordable_sameRecords (v : World ρ) : Recordable E (SameRecords v) where
  drifts :=
    ⟨fun _ _ _ h => ⟨h.events, h.tables, h.failed_events⟩, fun _ _ h => ⟨h.events, h.tables, h.failed_events⟩⟩
  quarantineState w id state escalating db h hq := by
    cases hq
    exact ⟨h.events, h.tables, h.failed_events⟩
  console _ _ h := ⟨h.events, h.tables, h.failed_events⟩
  memory _ _ h := ⟨h.events, h.tables, h.failed_events⟩

/-- Only rows of these events are new or changed, and only these events were folded in between. -/
structure RecordsOnly (ids : List String) (v w : World ρ) : Prop where
  events : ∀ id ∉ ids, w.db.events.lookup id = v.db.events.lookup id
  failed_events : ∀ id ∉ ids, w.db.failed_events.lookup id = v.db.failed_events.lookup id
  tables : ∃ evs : List DecodedEvent, (∀ ev ∈ evs, ev.id ∈ ids) ∧
    foldTables evs v.db.tables = .ok w.db.tables

theorem RecordsOnly.refl (ids : List String) (v : World ρ) : RecordsOnly ids v v :=
  ⟨fun _ _ => rfl, fun _ _ => rfl, [], by simp, rfl⟩

theorem ingestible_recordsOnly (ids : List String) (v : World ρ) :
    Ingestible E (fun ev => ev.id ∈ ids) (RecordsOnly ids v) where
  drifts :=
    ⟨fun _ _ _ h => ⟨h.events, h.failed_events, h.tables⟩, fun _ _ h => ⟨h.events, h.failed_events, h.tables⟩⟩
  insertRawEvent w ev needsFold db hev h hi := by
    obtain ⟨-, ⟨-, -, -, rfl⟩ | ⟨-, -, rfl⟩⟩ := insertRawEvent_eq_ok.mp hi
    · exact ⟨h.events, h.failed_events, h.tables⟩
    · refine ⟨fun id hid => ?_, h.failed_events, h.tables⟩
      have hne : id ≠ ev.id := fun he => hid (he ▸ hev)
      rw [← h.events id hid]
      exact AList.lookup_insert_ne hne
  foldLogged w ev channels db hev h hf := by
    obtain ⟨tables, ha, rfl⟩ := foldLogged_eq_ok.mp hf
    obtain ⟨evs, hevs, hfold⟩ := h.tables
    refine ⟨fun id hid => ?_, h.failed_events, evs ++ [ev], ?_, foldTables_concat hfold ha⟩
    · have hne : id ≠ ev.id := fun he => hid (he ▸ hev)
      rw [← h.events id hid]
      simp [lookup_setFolded, hne]
    · intro x hx
      rcases List.mem_append.mp hx with hx | hx
      · exact hevs x hx
      · rwa [List.mem_singleton.mp hx]
  failed w ev message db hev h hf := by
    cases hf
    refine ⟨h.events, fun id hid => ?_, h.tables⟩
    have hne : id ≠ ev.id := fun he => hid (he ▸ hev)
    rw [← h.failed_events id hid]
    exact AList.lookup_insert_ne hne
  quarantineState w id state escalating db h hq := by
    cases hq
    exact ⟨h.events, h.failed_events, h.tables⟩
  console _ _ h := ⟨h.events, h.failed_events, h.tables⟩
  memory _ _ h := ⟨h.events, h.failed_events, h.tables⟩

/-- An event that is folded already is passed over. -/
theorem keeps_ingestAlone_of_folded {raw : EventResponse} {v : World ρ} (hfolded : Folded raw.id v.db) :
    Keeps (SameRecords v) (ingestAlone E raw lastLedger) := by
  have hP := recordable_sameRecords (E := E) v
  rw [ingestAlone]
  split
  next ev hd =>
    obtain ⟨row, hrow, hmarked⟩ := (decodeEvent_eq_ok hd).1 ▸ hfolded
    rw [ingestEventQuarantined]
    split
    · exact Keeps.throw _
    · refine Keeps.bind (keeps_withLock hP.drifts ?_) fun _ => keeps_announce hP.drifts _
      have hinsert : Ensures (SameRecords v) (transaction E (insertRawEvent ev))
          fun o w => SameRecords v w ∧ ∀ needsFold, o = .done needsFold → needsFold = false := by
        refine ensures_transaction hP.drifts (fun w needsFold db hw hi => ?_) (fun _ _ h => ⟨h, by simp⟩)
          fun _ h => ⟨h, by simp⟩
        obtain ⟨-, ⟨row', hrow', hn, rfl⟩ | ⟨hnone, -⟩⟩ := insertRawEvent_eq_ok.mp hi
        · rw [hw.events, hrow] at hrow'
          cases hrow'
          exact ⟨hw, by simp [hn, hmarked]⟩
        · simp [hw.events, hrow] at hnone
      refine Ensures.bind hinsert (fun needsFold => ?_) (fun _ _ h => h.1) fun _ h => h.1
      rintro w ⟨hw, hn⟩
      rw [hn needsFold rfl]
      exact hw
  · exact Keeps.throw _

/-- The outcome is not a normal return, and `P` holds. -/
def NotDone {α : Type} (P : World ρ → Prop) (o : Outcome Failure α) (w : World ρ) : Prop :=
  (∀ a, o ≠ .done a) ∧ P w

theorem notDone_raised {α : Type} {P : World ρ → Prop} {e : Failure} {w : World ρ} (h : P w) :
    NotDone P (.raised e : Outcome Failure α) w := ⟨by simp, h⟩

theorem notDone_crashed {α : Type} {P : World ρ → Prop} {w : World ρ} (h : P w) :
    NotDone P (.crashed : Outcome Failure α) w := ⟨by simp, h⟩

theorem Keeps.bind_notDone {α β : Type} {P : World ρ → Prop} {m : Proc ρ α} {f : α → Proc ρ β}
    (hm : Keeps P m) (hf : ∀ a, Ensures P (f a) (NotDone P)) : Ensures P (m >>= f) (NotDone P) :=
  Ensures.bind hm hf (fun _ _ h => notDone_raised h) fun _ h => notDone_crashed h

theorem notDone_bind {α β : Type} {P : World ρ → Prop} {m : Proc ρ α} {f : α → Proc ρ β}
    (hm : Ensures P m (NotDone P)) : Ensures P (m >>= f) (NotDone P) :=
  Ensures.bind hm (fun a _ h => absurd rfl (h.1 a)) (fun _ _ h => notDone_raised h.2) fun _ h => notDone_crashed h.2

theorem ingestEvent_of_rewound {raw : EventResponse} (h : rewound raw.ledger lastLedger = true) (db : Db)
    (r : List (StreamChannel × String) × Db) : ingestEvent lastLedger raw db ≠ .ok r := by
  intro hi
  obtain ⟨ev, hd, hrewound, -⟩ := ingestEvent_eq_ok.mp hi
  rw [(decodeEvent_eq_ok hd).2.1, h] at hrewound
  cases hrewound

theorem ingestEvents_of_rewinds (h : Rewinds lastLedger page) (db : Db)
    (r : List (StreamChannel × String) × Db) : ingestEvents lastLedger page db ≠ .ok r := by
  intro hi
  induction page generalizing db r with
  | nil =>
    obtain ⟨raw, hraw, -⟩ := h
    cases hraw
  | cons first page ih =>
    obtain ⟨p, db₁, ps, hfirst, hrest, -⟩ := ingestEvents_cons_ok.mp hi
    obtain ⟨raw, hraw, hrewound⟩ := h
    rcases List.mem_cons.mp hraw with rfl | hraw
    · exact ingestEvent_of_rewound hrewound db _ hfirst
    · exact ih ⟨raw, hraw, hrewound⟩ db₁ _ hrest

/-- In one transaction, nothing of the page is committed. -/
theorem ingestPage_of_rewinds (h : Rewinds lastLedger page) {P : World ρ → Prop} (hP : Drifts E P) :
    Ensures P (ingestPage E page lastLedger) (NotDone P) := by
  have hpage : page ≠ [] := by
    rintro rfl
    obtain ⟨raw, hraw, -⟩ := h
    cases hraw
  have htx : Ensures P (transaction E (ingestEvents lastLedger page)) (NotDone P) :=
    ensures_transaction hP (fun w a db _ hi => absurd hi (ingestEvents_of_rewinds h w.db (a, db)))
      (fun _ _ h => notDone_raised h) fun _ h => notDone_crashed h
  have hnot : ∀ o : Outcome Failure (List (StreamChannel × String)), Drifts E (NotDone P o) :=
    fun o => (drifts_const _).and hP
  rw [ingestPage, if_neg (by simpa using hpage)]
  refine notDone_bind (ensures_withLock hP htx hnot (fun _ _ h => notDone_raised h) (fun _ h => notDone_crashed h) ?_)
  exact fun _ _ h => notDone_crashed h.2

/-- An event from below the last folded ledger ends its round before anything is written. -/
theorem ingestAlone_of_rewound {raw : EventResponse} (h : rewound raw.ledger lastLedger = true)
    {P : World ρ → Prop} : Ensures P (ingestAlone E raw lastLedger) (NotDone P) := by
  rw [ingestAlone]
  split
  next ev hd =>
    rw [ingestEventQuarantined, (decodeEvent_eq_ok hd).2.1, if_pos h]
    exact ensures_throw fun _ h => notDone_raised h
  · exact ensures_throw fun _ h => notDone_raised h

/-- Event by event, only the events before it are ingested. -/
theorem ingestEach_of_rewinds (h : Rewinds lastLedger page) {P : World ρ → Prop}
    (hbefore : ∀ raw ∈ beforeRewind lastLedger page, Keeps P (ingestAlone E raw lastLedger)) :
    Ensures P (ingestEach E page lastLedger) (NotDone P) := by
  induction page with
  | nil =>
    obtain ⟨raw, hraw, -⟩ := h
    cases hraw
  | cons first page ih =>
    rw [ingestEach, List.forM_cons]
    by_cases hfirst : rewound first.ledger lastLedger = true
    · exact notDone_bind (ingestAlone_of_rewound hfirst)
    · simp only [beforeRewind, List.takeWhile_cons, hfirst, Bool.not_false, if_true, List.forall_mem_cons] at hbefore
      refine Keeps.bind_notDone hbefore.1 fun _ => ih ?_ hbefore.2
      obtain ⟨raw, hraw, hrewound⟩ := h
      rcases List.mem_cons.mp hraw with rfl | hraw
      · exact absurd hrewound hfirst
      · exact ⟨raw, hraw, hrewound⟩

/-- Whatever the failures counted so far, a page that rewinds is not done. -/
theorem ingestPageWithQuarantine_of_rewinds (h : Rewinds lastLedger page) {P : World ρ → Prop}
    (hP : Recordable E P)
    (hbefore : ∀ raw ∈ beforeRewind lastLedger page, Keeps P (ingestAlone E raw lastLedger)) :
    Ensures P (ingestPageWithQuarantine E config page lastLedger contractId) (NotDone P) := by
  refine Keeps.bind_notDone (hP.quarantineStateOf contractId) fun state => ?_
  refine Ensures.tryCatch (R := NotDone P) (notDone_bind (ingestPage_of_rewinds h hP.drifts))
    (fun _ _ h => h) (fun err => ?_) fun _ h => h
  cases err with
  | reorgDetected m => exact ensures_throw fun _ h => notDone_raised h.2
  | error m =>
    refine Ensures.mono (P := P) ?_ (fun _ h => h.2) fun _ _ h => h
    refine Keeps.bind_notDone (hP.setQuarantineState _ _) fun _ =>
      Keeps.bind_notDone (hP.persistQuarantineState _ _ _) fun _ => ?_
    split
    · exact ensures_throw fun _ h => notDone_raised h
    · exact Keeps.bind_notDone (hP.say _) fun _ => Keeps.bind_notDone (hP.persistQuarantineState _ _ _) fun _ =>
        notDone_bind (ingestEach_of_rewinds h hbefore)

/-- An error other than a reorg that the transaction of the page may fail with: with a healthy database, the
one that the fold of the page fails with. -/
def MayFailWith (E : Environment ρ) (lastLedger : Nat) (page : List EventResponse) (w : World ρ) (m : String) :
    Prop :=
  E.Healthy → pageError lastLedger page w.db = some (.error m)

/-- One more failure of the page with such an error stays below the threshold. -/
def BelowThreshold (E : Environment ρ) (config : Config) (page : List EventResponse) (lastLedger : Nat)
    (contractId : String) (w : World ρ) : Prop :=
  ∀ m, MayFailWith E lastLedger page w m →
    ((countFailure (counted contractId w) (pageKeyFor page) m).failures : Int) < config.quarantineAfterFailures

theorem countFailure_none_le (state : Option QuarantineState) (key m : String) :
    (countFailure none key m).failures ≤ (countFailure state key m).failures := by
  cases state with
  | none => exact le_rfl
  | some s =>
    simp only [countFailure]
    split
    · exact Nat.le_add_left 1 s.failures
    · exact le_rfl

/-- The count is the one kept for the contract, or none where it cannot be read. -/
theorem quarantineStateOf_counted (contractId : String) (v : World ρ) :
    Ensures (Asked v) (quarantineStateOf E contractId) fun o w =>
      w.db = v.db ∧ ∀ state, o = .done state → state = counted contractId v ∨ state = none := by
  have hread : Ensures (Asked v) (loadQuarantineState E contractId) fun o w => w.db = v.db ∧ ∀ state,
      o = .done state → state = (v.db.quarantine_state.lookup contractId).bind QuarantineStateRow.state ∨
        state = none := by
    refine Ensures.tryCatch (R := fun o w => w.db = v.db ∧ ∀ state, o = .done state →
      state = (v.db.quarantine_state.lookup contractId).bind QuarantineStateRow.state) ?_ ?_ ?_ ?_
    · exact (ensures_read _).mono (fun w hw => hw.db) fun _ _ h => h
    · exact fun state w h => ⟨h.1, fun state' hs => .inl (h.2 state' hs)⟩
    · exact fun e => ensures_pure fun w h => ⟨h.1, fun state hs => by cases hs; exact .inr rfl⟩
    · exact fun w h => ⟨h.1, by simp⟩
  intro w hw
  simp only [quarantineStateOf, ensureQuarantineState, counted]
  by_cases hloaded : v.memory.quarantineStatesLoaded.contains contractId = true
  · simp only [bind_run, world_run, hw.memory, hloaded, if_true, pure_run]
    exact ⟨hw.db, fun state hs => by cases hs; exact .inl rfl⟩
  · have hafter := hread w hw
    simp only [bind_run, world_run, hw.memory, hloaded, if_false, Bool.false_eq_true]
    rcases hl : loadQuarantineState E contractId w with ⟨state | e | _, w₁⟩
    · rw [hl] at hafter
      simp only [setQuarantineState, update_run, pure_run, AList.lookup_insert, Option.join_some]
      exact ⟨hafter.1, fun s hs => by cases hs; exact hafter.2 state rfl⟩
    · rw [hl] at hafter
      exact ⟨hafter.1, by simp⟩
    · rw [hl] at hafter
      exact ⟨hafter.1, by simp⟩

/-- What the transaction of a page that rewinds fails with. -/
theorem ingestPage_mayFailWith (h : Rewinds lastLedger page) (w : World ρ) :
    Ensures (Asked w) (ingestPage E page lastLedger) fun o w' =>
      NotDone (Asked w) o w' ∧ ∀ m, o = .raised (.error m) → MayFailWith E lastLedger page w m := by
  intro w' hw
  refine ⟨ingestPage_of_rewinds h (drifts_asked w) w' hw, fun m ho hE => ?_⟩
  have hfails := ingestPage_healthy hE page lastLedger w w' hw
  rw [ho] at hfails
  rw [pageError, hfails.1]

/-- Below the threshold the page is not taken apart. -/
theorem rewinds_below_threshold (h : Rewinds lastLedger page) {v : World ρ}
    (hbelow : BelowThreshold E config page lastLedger contractId v) :
    Ensures (Asked v) (ingestPageWithQuarantine E config page lastLedger contractId) (NotDone (SameRecords v)) := by
  have hP := recordable_sameRecords (E := E) v
  have hsame : ∀ {w : World ρ}, w.db = v.db → SameRecords v w := fun h => ⟨by rw [h], by rw [h], by rw [h]⟩
  refine Ensures.bind (quarantineStateOf_counted contractId v) (fun state => ?_)
    (fun _ _ h => notDone_raised (hsame h.1)) fun _ h => notDone_crashed (hsame h.1)
  rintro w ⟨hdb, hstate⟩
  have hpage : Ensures (Asked w) (do ingestPage E page lastLedger; clearQuarantineState E contractId) fun o w' =>
      NotDone (SameRecords v) o w' ∧ ∀ m, o = .raised (.error m) → MayFailWith E lastLedger page w m :=
    Ensures.bind (ingestPage_mayFailWith h w) (fun a _ h => absurd rfl (h.1.1 a))
      (fun _ _ h => ⟨notDone_raised (hsame (h.1.2.db.trans hdb)), fun m hm => h.2 m (by cases hm; rfl)⟩)
      fun _ h => ⟨notDone_crashed (hsame (h.1.2.db.trans hdb)), by simp⟩
  refine Ensures.tryCatch hpage (fun _ _ h => h.1) (fun err => ?_) (fun _ h => h.1) w (.refl w)
  cases err with
  | reorgDetected m => exact ensures_throw fun _ h => notDone_raised h.1.2
  | error m =>
    rintro w' ⟨⟨-, hw'⟩, hmay⟩
    have hlow : ((countFailure state (pageKeyFor page) (Failure.error m).message).failures : Int) <
        config.quarantineAfterFailures := by
      have hm : MayFailWith E lastLedger page v m := fun hE => hdb ▸ hmay m rfl hE
      rcases hstate state rfl with rfl | rfl
      · exact hbelow m hm
      · have hone := countFailure_none_le (counted contractId v) (pageKeyFor page) m
        exact lt_of_le_of_lt (Int.ofNat_le.mpr hone) (hbelow m hm)
    refine Keeps.bind_notDone (hP.setQuarantineState _ _) (fun _ =>
      Keeps.bind_notDone (hP.persistQuarantineState _ _ _) fun _ => ?_) w' hw'
    rw [if_pos hlow]
    exact ensures_throw fun _ h => notDone_raised h

/-- **A page with an event from below the last folded ledger is never done.** Nothing of that event and of
those after it is recorded, and nothing of the page at all when the page is in ascending ledger order, as long
as the failures stay below the threshold, or when the events before it are folded already. -/
theorem rewound_page_commits_nothing (E : Environment ρ) (config : Config) (page : List EventResponse)
    (lastLedger : Nat) (contractId : String) (w : World ρ) (h : Rewinds lastLedger page) :
    (∀ a, (ingestPageWithQuarantine E config page lastLedger contractId w).1 ≠ .done a) ∧
      RecordsOnly ((beforeRewind lastLedger page).map (·.id)) w
        (ingestPageWithQuarantine E config page lastLedger contractId w).2 ∧
      (page.Pairwise (fun a b => a.ledger ≤ b.ledger) ∨ BelowThreshold E config page lastLedger contractId w ∨
          (∀ raw ∈ beforeRewind lastLedger page, Folded raw.id w.db) →
        SameRecords w (ingestPageWithQuarantine E config page lastLedger contractId w).2) := by
  have hingestible := ingestible_recordsOnly (E := E) ((beforeRewind lastLedger page).map (·.id)) w
  have honly : NotDone (RecordsOnly ((beforeRewind lastLedger page).map (·.id)) w)
      (ingestPageWithQuarantine E config page lastLedger contractId w).1
      (ingestPageWithQuarantine E config page lastLedger contractId w).2 := by
    refine ingestPageWithQuarantine_of_rewinds h hingestible.recordable (fun raw hraw => ?_) w (.refl _ w)
    exact hingestible.ingestAlone (fun ev hd => (decodeEvent_eq_ok hd).1 ▸ List.mem_map_of_mem hraw) lastLedger
  have hsame (hkeeps : ∀ raw ∈ beforeRewind lastLedger page,
      Keeps (SameRecords w) (ingestAlone E raw lastLedger)) :
      SameRecords w (ingestPageWithQuarantine E config page lastLedger contractId w).2 :=
    (ingestPageWithQuarantine_of_rewinds h (recordable_sameRecords w) hkeeps w ⟨rfl, rfl, rfl⟩).2
  refine ⟨honly.1, honly.2, ?_⟩
  rintro (hascending | hbelow | hfolded)
  · exact hsame fun raw hraw => by simp [beforeRewind_of_ascending h hascending] at hraw
  · exact (rewinds_below_threshold h hbelow w (.refl w)).2
  · exact hsame fun raw hraw => keeps_ingestAlone_of_folded (hfolded raw hraw)

def cursorAt (ledger : Nat) : CursorRow where
  paging_token := some "tok"
  last_ledger := some ledger
  last_ledger_hash := none
  observed_tip_ledger := none

/-- A database folded up to a ledger. -/
def foldedTo (ledger : Nat) : World Nat :=
  { freshWorld 0 with db := { Db.empty with indexer_cursor := Db.empty.indexer_cursor.insert "C" (cursorAt ledger) } }

/-- A claim that its handler rejects and a join, both above ledger 5, and a join below it. -/
def aRewind : List EventResponse :=
  [.published "0006" 6 "claimed" [.str "GA", .str "much"], .published "0007" 6 "joined" [.str "GA", .bigint 100],
    .published "0002" 2 "joined" [.str "GB", .bigint 100]]

def tryRewind (w : World Nat) : Outcome Failure Unit × World Nat :=
  ingestPageWithQuarantine .healthy threeTries aRewind 5 "C" w

/-- The first attempt at it. -/
theorem rewound_page_commits_nothing_first_attempt :
    (∀ a, (tryRewind (foldedTo 5)).1 ≠ .done a) ∧ SameRecords (foldedTo 5) (tryRewind (foldedTo 5)).2 := by
  have hrewinds : Rewinds 5 aRewind := by decide
  have hbelow : BelowThreshold .healthy threeTries aRewind 5 "C" (foldedTo 5) := fun m _ =>
    show ((1 : Nat) : Int) < 3 by decide
  obtain ⟨hnot, -, hsame⟩ := rewound_page_commits_nothing .healthy threeTries aRewind 5 "C" (foldedTo 5) hrewinds
  exact ⟨hnot, hsame (.inr (.inl hbelow))⟩

/-- The third attempt: the claim fails first, and event by event it is recorded and the join after it folded,
before the page is found to rewind. -/
theorem rewound_page_is_taken_apart :
    ((foldedTo 5).db.indexer_cursor.lookup "C").bind (·.last_ledger) = some 5 ∧ Rewinds 5 aRewind ∧
      ¬ SameRecords (tryRewind (tryRewind (foldedTo 5)).2).2
        (tryRewind (tryRewind (tryRewind (foldedTo 5)).2).2).2 := by
  refine ⟨by decide +kernel, by decide, fun h => ?_⟩
  have hbefore : (((tryRewind (tryRewind (foldedTo 5)).2).2).db.tables.members.lookup "GA").isSome = false := by
    decide +kernel
  have hafter : (((tryRewind (tryRewind (tryRewind (foldedTo 5)).2).2).2).db.tables.members.lookup "GA").isSome =
      true := by
    decide +kernel
  rw [h.tables, hbefore] at hafter
  cases hafter

end OurDao
