import OurDao.Forks
import OurDao.Rewind

/-!
# The persisted fold point

A poll moves `last_ledger` only past a page it has ingested, to the ledger of the page's last
event, and stores the hash it was given for that very ledger. It never moves back: a page with
an event from below `last_ledger` is not done. An event whose failure could not be recorded
does not hold it up.
-/

namespace OurDao

open Faults Op

variable {ρ : Type} {E : Environment ρ} {contractId : String}

/-- The stored hash. -/
def savedHash (contractId : String) (w : World ρ) : Option String :=
  (w.db.indexer_cursor.lookup contractId).bind (·.last_ledger_hash)

/-- The event has a row, which is folded, or a record of its failure. -/
def FoldedOrRecorded (id : String) (w : World ρ) : Prop :=
  ∃ row, w.db.events.lookup id = some row ∧ (row.folded = true ∨ (w.db.failed_events.lookup id).isSome)

/-- A page that the RPC answers. -/
def Answered (E : Environment ρ) (contractId : String) (page : List EventResponse) : Prop :=
  ∃ request r res, request.contractId = contractId ∧ (E.getEvents request r).1 = .done res ∧ res.events = page

/-- What `getLedgerHash` returns for a ledger. -/
def HashReturned (E : Environment ρ) (ledger : Nat) (hash : String) : Prop :=
  ∃ w, (getLedgerHash E ledger w).1 = .done (some hash)

/-- What may have become of the fold point between two worlds; a missing `last_ledger` counts as 0. -/
structure FoldPoint (Handled : String → World ρ → Prop) (E : Environment ρ) (contractId : String)
    (w₀ w : World ρ) : Prop where
  never_decreases : lastFolded contractId w₀ ≤ lastFolded contractId w
  moved : lastFolded contractId w ≠ lastFolded contractId w₀ → ∃ page before after, Answered E contractId page ∧
    w.delivered = w₀.delivered ++ before ++ page ++ after ∧
    page.getLast?.map (·.ledger) = some (lastFolded contractId w) ∧ ∀ raw ∈ page, Handled raw.id w
  hash : ∀ hash, savedHash contractId w = some hash → HashReturned E (lastFolded contractId w) hash ∨
    lastFolded contractId w = lastFolded contractId w₀ ∧ savedHash contractId w₀ = some hash

/-- What a run keeps of the world it started in. -/
structure Since (E : Environment ρ) (contractId : String) (w₀ w : World ρ) : Prop
    extends FoldPoint Secured E contractId w₀ w where
  delivered : w₀.delivered <+: w.delivered
  secured : ∀ id, Secured id w₀ → Secured id w

/-- The variables of the drain loop are those of the cursor row. -/
def AtCursor (contractId : String) (s : Drain) (w : World ρ) : Prop :=
  lastFolded contractId w = s.lastLedger ∧ savedHash contractId w = s.lastLedgerHash

section

variable {w₀ w w' : World ρ}

theorem lastFolded_congr (h : w'.db.indexer_cursor = w.db.indexer_cursor) :
    lastFolded contractId w' = lastFolded contractId w := by rw [lastFolded, lastFolded, h]

theorem savedHash_congr (h : w'.db.indexer_cursor = w.db.indexer_cursor) :
    savedHash contractId w' = savedHash contractId w := by rw [savedHash, savedHash, h]

theorem Since.refl (w : World ρ) : Since E contractId w w where
  never_decreases := le_rfl
  moved h := absurd rfl h
  hash _ hh := .inr ⟨rfl, hh⟩
  delivered := List.prefix_rfl
  secured _ h := h

theorem Since.congr (h : Since E contractId w₀ w) (hd : w.delivered <+: w'.delivered)
    (hc : w'.db.indexer_cursor = w.db.indexer_cursor) (hsec : ∀ id, Secured id w → Secured id w') :
    Since E contractId w₀ w' where
  never_decreases := lastFolded_congr hc ▸ h.never_decreases
  moved hne := by
    rw [lastFolded_congr hc] at hne ⊢
    obtain ⟨page, before, after, hanswered, hdelivered, hlast, hpage⟩ := h.moved hne
    obtain ⟨more, hmore⟩ := hd
    exact ⟨page, before, after ++ more, hanswered, by rw [← hmore, hdelivered, List.append_assoc _ after], hlast,
      fun raw hraw => hsec raw.id (hpage raw hraw)⟩
  hash hash hh := by
    rw [savedHash_congr hc] at hh
    rw [lastFolded_congr hc]
    exact h.hash hash hh
  delivered := h.delivered.trans hd
  secured id hs := hsec id (h.secured id hs)

theorem Since.trans {w₁ : World ρ} (h : Since E contractId w₀ w₁) (h' : Since E contractId w₁ w) :
    Since E contractId w₀ w where
  never_decreases := h.never_decreases.trans h'.never_decreases
  moved hne := by
    by_cases hlater : lastFolded contractId w = lastFolded contractId w₁
    · rw [hlater] at hne ⊢
      obtain ⟨page, before, after, hanswered, hdelivered, hlast, hpage⟩ := h.moved hne
      obtain ⟨more, hmore⟩ := h'.delivered
      exact ⟨page, before, after ++ more, hanswered, by rw [← hmore, hdelivered, List.append_assoc _ after], hlast,
        fun raw hraw => h'.secured raw.id (hpage raw hraw)⟩
    · obtain ⟨page, before, after, hanswered, hdelivered, hlast, hpage⟩ := h'.moved hlater
      obtain ⟨earlier, hearlier⟩ := h.delivered
      exact ⟨page, earlier ++ before, after, hanswered, by rw [hdelivered, ← hearlier]; simp, hlast, hpage⟩
  hash hash hh := by
    obtain hreturned | ⟨hsame, hh₁⟩ := h'.hash hash hh
    · exact .inl hreturned
    · rw [hsame]
      obtain hreturned | ⟨hsame₀, hh₀⟩ := h.hash hash hh₁
      · exact .inl hreturned
      · exact .inr ⟨hsame₀, hh₀⟩
  delivered := h.delivered.trans h'.delivered
  secured id hs := h'.secured id (h.secured id hs)

theorem ingestible_since (w₀ : World ρ) (s : Drain) :
    Ingestible E (fun _ => True) fun w => Since E contractId w₀ w ∧ AtCursor contractId s w where
  drifts := ⟨fun _ _ _ h => ⟨h.1.congr List.prefix_rfl rfl fun _ hs => hs, h.2⟩,
    fun _ _ h => ⟨h.1.congr List.prefix_rfl rfl fun _ hs => hs, h.2⟩⟩
  insertRawEvent w ev n db _ h hi := by
    have hc := indexer_cursor_insertRawEvent hi
    exact ⟨h.1.congr List.prefix_rfl hc fun id hs =>
      (ingestible_secured (E := E) id).insertRawEvent w ev n db trivial hs hi,
      (lastFolded_congr hc).trans h.2.1, (savedHash_congr hc).trans h.2.2⟩
  foldLogged w ev c db _ h hf := by
    have hc := indexer_cursor_foldLogged hf
    exact ⟨h.1.congr List.prefix_rfl hc fun id hs =>
      (ingestible_secured (E := E) id).foldLogged w ev c db trivial hs hf,
      (lastFolded_congr hc).trans h.2.1, (savedHash_congr hc).trans h.2.2⟩
  failed w ev m db _ h hf := by
    have hsec : ∀ id, Secured id w → Secured id { w with db } := fun id hs =>
      (ingestible_secured (E := E) id).failed w ev m db trivial hs hf
    cases hf
    exact ⟨h.1.congr List.prefix_rfl rfl hsec, h.2⟩
  quarantineState w i st e db h hq := by
    have hsec : ∀ id, Secured id w → Secured id { w with db } := fun id hs =>
      (ingestible_secured (E := E) id).quarantineState w i st e db hs hq
    cases hq
    exact ⟨h.1.congr List.prefix_rfl rfl hsec, h.2⟩
  console w n h := ⟨h.1.congr List.prefix_rfl rfl fun id hs =>
    (ingestible_secured (E := E) id).console w n hs, h.2⟩
  memory w m h := ⟨h.1.congr List.prefix_rfl rfl fun _ hs => hs, h.2⟩

/-- A page that is done has no event from below the last folded ledger. -/
theorem ingestPageWithQuarantine_not_rewinds (config : Config) (page : List EventResponse) (lastLedger : Nat)
    (contractId : String) :
    Ensures (fun _ => True) (ingestPageWithQuarantine E config page lastLedger contractId)
      (OnDone fun _ _ => ¬ Rewinds lastLedger page) := by
  by_cases h : Rewinds lastLedger page
  · have htrue : Ingestible E (fun _ => True) fun _ : World ρ => True :=
      Ingestible.of_env (I := fun _ => True) fun _ _ _ _ => trivial
    refine (ingestPageWithQuarantine_of_rewinds h htrue.recordable fun raw _ =>
      htrue.ingestAlone (fun _ _ => trivial) lastLedger).post fun o w hnot => ?_
    cases o with
    | done a => exact absurd rfl (hnot.1 a)
    | raised e => trivial
    | crashed => trivial
  · exact ensures_true.post fun o w => onDone_imp (fun _ _ _ => h) o w

theorem foldedLedger_le (s : Drain) {res : EventsPage} (h : ¬ Rewinds s.lastLedger res.events) :
    s.lastLedger ≤ res.foldedLedger s.lastLedger := by
  rw [EventsPage.foldedLedger]
  cases hlast : res.events.getLast? with
  | none => exact le_rfl
  | some last =>
    have hnot : ¬ rewound last.ledger s.lastLedger = true := fun hr => h ⟨last, List.mem_of_getLast? hlast, hr⟩
    simp only [rewound, Bool.and_eq_true, decide_eq_true_eq, not_and, not_lt] at hnot
    simp only [Option.map_some, Option.getD_some]
    omega

/-- The page that was delivered last is ingested. -/
structure PageIngested (E : Environment ρ) (contractId : String) (w₀ : World ρ) (s : Drain) (res : EventsPage)
    (w : World ρ) : Prop where
  since : Since E contractId w₀ w
  cursor : AtCursor contractId s w
  answered : Answered E contractId res.events
  delivered : ∃ before, w.delivered = w₀.delivered ++ before ++ res.events
  secured : PageSecured res.events w
  ascends : ¬ Rewinds s.lastLedger res.events

theorem drifts_pageIngested (w₀ : World ρ) (s : Drain) (res : EventsPage) :
    Drifts E (PageIngested E contractId w₀ s res) :=
  ⟨fun _ _ _ h => ⟨h.since.congr List.prefix_rfl rfl fun _ hs => hs, h.cursor, h.answered, h.delivered, h.secured,
      h.ascends⟩,
    fun _ _ h => ⟨h.since.congr List.prefix_rfl rfl fun _ hs => hs, h.cursor, h.answered, h.delivered, h.secured,
      h.ascends⟩⟩

/-- The hash that goes with a folded ledger. -/
def Matches (E : Environment ρ) (s : Drain) (ledger : Nat) (hash : Option String) : Prop :=
  ∀ h, hash = some h → HashReturned E ledger h ∨ ledger = s.lastLedger ∧ s.lastLedgerHash = some h

theorem foldedLedgerHash_matches (s : Drain) (ledger : Nat) {P : World ρ → Prop} (hP : Drifts E P) :
    Ensures P (foldedLedgerHash E s ledger) fun o w => P w ∧ OnDone (fun hash _ => Matches E s ledger hash) o w := by
  intro w hw
  refine ⟨keeps_foldedLedgerHash hP s ledger w hw, ?_⟩
  rw [foldedLedgerHash]
  split
  · cases ho : (getLedgerHash E ledger w).1 with
    | done hash => exact fun h hh => .inl ⟨w, by rw [ho, hh]⟩
    | raised e => trivial
    | crashed => trivial
  next hsame => exact fun h hh => .inr ⟨not_not.mp hsame, hh⟩

/-- The cursor row that is saved behind an ingested page. -/
theorem PageIngested.save {s : Drain} {res : EventsPage} (h : PageIngested E contractId w₀ s res w) {row : CursorRow}
    (hledger : row.last_ledger = some (res.foldedLedger s.lastLedger))
    (hhash : Matches E s (res.foldedLedger s.lastLedger) row.last_ledger_hash) :
    Since E contractId w₀ { w with db := { w.db with
      indexer_cursor := w.db.indexer_cursor.insert contractId row } } := by
  have hfolded : lastFolded contractId { w with db := { w.db with
      indexer_cursor := w.db.indexer_cursor.insert contractId row } } = res.foldedLedger s.lastLedger := by
    simp [lastFolded, CursorRow.priorLedger, AList.lookup_insert, hledger]
  have hsaved : savedHash contractId { w with db := { w.db with
      indexer_cursor := w.db.indexer_cursor.insert contractId row } } = row.last_ledger_hash := by
    simp [savedHash, AList.lookup_insert]
  obtain ⟨hlast, hstored⟩ := h.cursor
  refine ⟨⟨?_, fun hne => ?_, fun hash hh => ?_⟩, h.since.delivered, h.since.secured⟩
  · rw [hfolded]
    exact (h.since.never_decreases.trans hlast.le).trans (foldedLedger_le s h.ascends)
  · rw [hfolded] at hne ⊢
    by_cases hsame : res.foldedLedger s.lastLedger = s.lastLedger
    · rw [hsame, ← hlast] at hne ⊢
      exact h.since.moved hne
    · obtain ⟨before, hdelivered⟩ := h.delivered
      refine ⟨res.events, before, [], h.answered, by simpa using hdelivered, ?_, h.secured⟩
      rw [EventsPage.foldedLedger] at hsame ⊢
      cases hres : res.events.getLast?.map (·.ledger) with
      | none => simp [hres] at hsame
      | some ledger => rfl
  · rw [hfolded]
    rw [hsaved] at hh
    obtain hreturned | ⟨hsame, hh⟩ := hhash hash hh
    · exact .inl hreturned
    · rw [hsame, ← hlast]
      exact h.since.hash hash (hstored.trans hh)

theorem advanceCursor_since (cursor : Option CursorRow) (res : EventsPage) (s : Drain) :
    Ensures (PageIngested E contractId w₀ s res) (advanceCursor E contractId cursor res s) fun o w =>
      Since E contractId w₀ w ∧ OnDone (fun s' w => AtCursor contractId s' w) o w := by
  have hdrift : Drifts E (PageIngested E contractId w₀ s res) := drifts_pageIngested w₀ s res
  rw [advanceCursor]
  split
  · refine Ensures.bind_keeping (foldedLedgerHash_matches s _ hdrift) (fun _ _ h => h.1.since) fun hash => ?_
    have hboth : Drifts E fun w => PageIngested E contractId w₀ s res w ∧
        Matches E s (res.foldedLedger s.lastLedger) hash := hdrift.and (drifts_const _)
    refine Ensures.bind_keeping (R := fun o w => Since E contractId w₀ w ∧ OnDone (fun _ w =>
      lastFolded contractId w = res.foldedLedger s.lastLedger ∧ savedHash contractId w = hash) o w) ?_
      (fun _ _ h => h.1) fun _ => ensures_pure fun w h => h
    refine Ensures.tryCatch (R := fun o w => Since E contractId w₀ w ∧ OnDone (fun _ w =>
      lastFolded contractId w = res.foldedLedger s.lastLedger ∧ savedHash contractId w = hash) o w) ?_
      (fun _ _ h => h) (fun _ => ensures_throw fun _ h => h) fun _ h => h
    refine ensures_transaction hboth ?_ (fun _ _ h => ⟨h.1.since, trivial⟩) fun _ h => ⟨h.1.since, trivial⟩
    rintro w _ db ⟨h, hmatches⟩ hu
    cases hu
    refine ⟨h.save rfl hmatches, ?_, ?_⟩
    · simp [lastFolded, CursorRow.priorLedger, AList.lookup_insert]
    · simp [savedHash, AList.lookup_insert]
  · exact ensures_pure fun w h => ⟨h.since, h.cursor⟩

theorem drainPage_since (config : Config) (cursor : Option CursorRow) (s : Drain) :
    Ensures (fun w => Since E contractId w₀ w ∧ AtCursor contractId s w)
      (drainPage E config contractId cursor s) fun o w =>
        Since E contractId w₀ w ∧ OnDone (fun p w => AtCursor contractId p.2 w) o w := by
  have hingestible : Ingestible E (fun _ => True) fun w => Since E contractId w₀ w ∧ AtCursor contractId s w :=
    ingestible_since w₀ s
  have hask : Ensures (fun w => Since E contractId w₀ w ∧ AtCursor contractId s w)
      (ask (E.getEvents { contractId, limit := config.pageLimit, position := s.position })) fun o w =>
        (Since E contractId w₀ w ∧ AtCursor contractId s w) ∧
          OnDone (fun res _ => Answered E contractId res.events) o w := by
    intro w hw
    refine ⟨hingestible.drifts.env w _ (.getEvents w.env _) hw, ?_⟩
    rcases hres : E.getEvents { contractId, limit := config.pageLimit, position := s.position } w.env with
      ⟨res | e | _, r⟩
    · have h : Answered E contractId res.events := ⟨_, w.env, res, rfl, congrArg Prod.fst hres, rfl⟩
      simpa [ask, hres, OnDone] using h
    · simp [ask, hres, OnDone]
    · simp [ask, hres, OnDone]
  refine Ensures.bind_keeping hask (fun _ _ h => h.1.1) fun res => ?_
  have hdeliver : Ensures (fun w => (Since E contractId w₀ w ∧ AtCursor contractId s w) ∧
      Answered E contractId res.events) (deliver res.events) fun o w =>
        ((Since E contractId w₀ w ∧ AtCursor contractId s w) ∧ Answered E contractId res.events) ∧
          ∃ before, w.delivered = w₀.delivered ++ before ++ res.events := by
    refine ensures_update fun w h => ?_
    obtain ⟨⟨hsince, hcursor⟩, hanswered⟩ := h
    obtain ⟨before, hbefore⟩ := hsince.delivered
    exact ⟨⟨⟨hsince.congr (List.prefix_append _ _) rfl fun _ hs => hs, hcursor⟩, hanswered⟩, before, by rw [hbefore]⟩
  refine Ensures.bind_keeping hdeliver (fun _ _ h => h.1.1.1) fun _ => ?_
  have hdelivered : Ingestible E (fun _ => True) fun w : World ρ =>
      ∃ before, w.delivered = w₀.delivered ++ before ++ res.events :=
    ⟨⟨fun _ _ _ h => h, fun _ _ h => h⟩, fun _ _ _ _ _ h _ => h, fun _ _ _ _ _ h _ => h, fun _ _ _ _ _ h _ => h,
      fun _ _ _ _ _ h _ => h, fun _ _ h => h, fun _ _ h => h⟩
  have hingest := (((hingestible.and hdelivered).ingestPageWithQuarantine config (decodes_true res.events)
    s.lastLedger contractId).and (ingestPageWithQuarantine_secures (E := E) config res.events s.lastLedger
      contractId)).and (ingestPageWithQuarantine_not_rewinds (E := E) config res.events s.lastLedger
        contractId)
  by_cases hanswered : Answered E contractId res.events
  · refine Ensures.bind_keeping (hingest.mono (fun w h => ⟨⟨⟨h.1.1, h.2⟩, trivial⟩, trivial⟩) fun _ _ h => h)
      (fun _ _ h => h.1.1.1.1) fun _ => ?_
    have hadvance : Ensures (PageIngested E contractId w₀ s res) (advanceCursor E contractId cursor res s)
        fun o w => Since E contractId w₀ w ∧ OnDone (fun s' w => AtCursor contractId s' w) o w :=
      advanceCursor_since cursor res s
    refine Ensures.bind_keeping (hadvance.mono (fun w h => ?_) fun _ _ h => h) (fun _ _ h => h.1) fun s' =>
      ensures_pure fun w h => h
    obtain ⟨⟨⟨⟨hsince, hcursor⟩, hbefore⟩, hsecured⟩, hascends⟩ := h
    exact ⟨hsince, hcursor, hanswered, hbefore, hsecured, hascends⟩
  · exact fun w h => absurd h.1.2 hanswered

theorem drain_since (config : Config) (cursor : Option CursorRow) (drainStart fuel : Nat) (s : Drain) :
    Ensures (fun w => Since E contractId w₀ w ∧ AtCursor contractId s w)
      (drain E config contractId cursor drainStart fuel s) fun _ => Since E contractId w₀ := by
  induction fuel generalizing s with
  | zero => exact ensures_pure fun w h => h.1
  | succ fuel ih =>
    have hdrift : ∀ s, Drifts E fun w => Since E contractId w₀ w ∧ AtCursor contractId s w :=
      fun s => (ingestible_since w₀ s).drifts
    refine Ensures.bind (keeps_look .aborted (hdrift s)) (fun aborted => ?_) (fun _ w h => h.1) fun w h => h.1
    cases aborted with
    | true => exact ensures_pure fun w h => h.1
    | false =>
      refine Ensures.bind (drainPage_since config cursor s) (fun p => ?_) (fun _ w h => h.1) fun w h => h.1
      obtain ⟨res, next⟩ := p
      refine Ensures.bind (keeps_look .now (hdrift next)) (fun now => ?_) (fun _ w h => h.1) fun w h => h.1
      dsimp only
      split
      · exact ensures_pure fun w h => h.1
      · exact ih { next with position := .cursor (res.nextToken s.position) }

theorem fetchOnce_since (config : Config) (w₀ : World ρ) :
    Ensures (fun w => Since E contractId w₀ w) (fetchOnce E config contractId) fun _ => Since E contractId w₀ := by
  have hdrift : Drifts E fun w => Since E contractId w₀ w :=
    ⟨fun _ _ _ h => h.congr List.prefix_rfl rfl fun _ hs => hs,
      fun _ _ h => h.congr List.prefix_rfl rfl fun _ hs => hs⟩
  refine Ensures.bind (ensures_checkChain hdrift contractId) (fun c => ?_) (fun _ _ h => h.1) fun _ h => h.1
  obtain ⟨cursor, tip⟩ := c
  have hkept : Drifts E fun w : World ρ => Since E contractId w₀ w ∧
      cursor = w.db.indexer_cursor.lookup contractId :=
    ⟨fun w r hr h => ⟨hdrift.env w r hr h.1, h.2⟩, fun w sent h => ⟨hdrift.sent w sent h.1, h.2⟩⟩
  refine Ensures.bind (R := fun _ w => Since E contractId w₀ w ∧ cursor = w.db.indexer_cursor.lookup contractId)
    ((keeps_startPosition hkept config cursor).mono (fun w h => ⟨h.1, h.2 cursor tip rfl⟩) fun _ _ h => h)
    (fun position => ?_) (fun _ _ h => h.1) fun _ h => h.1
  refine Ensures.bind (keeps_look .now hkept) (fun now => ?_) (fun _ _ h => h.1) fun _ h => h.1
  refine Ensures.bind ((drain_since config cursor now _ _).mono (fun w h => ⟨h.1, ?_⟩) fun _ _ h => h)
    (fun s => ?_) (fun _ _ h => h) fun _ h => h
  · obtain ⟨-, rfl⟩ := h
    exact ⟨rfl, rfl⟩
  · split
    · refine ensures_transaction hdrift ?_ (fun _ _ h => h) fun _ h => h
      intro w _ db h hu
      cases hu
      exact h
    · exact Keeps.pure _

/-- **The persisted fold point only moves to folded ledgers**: between any two worlds of a run of polls and
restarts it does not decrease, it changes only to the ledger of the last event of a page all of whose events are
secured, and the stored hash goes with it. -/
theorem fold_point_of_run {w w' : World ρ} (h : PollRun E contractId (fun _ _ => True) w w') :
    FoldPoint Secured E contractId w w' :=
  (h.keeps (I := Since E contractId w) (fun config => (fetchOnce_since config w).mono (fun _ h => h.1) fun _ _ h => h)
    (fun _ h => h.congr List.prefix_rfl rfl fun _ hs => hs) (.refl w)).toFoldPoint

end

/-- A poll that moves `last_ledger` from 10 to 12. -/
theorem fold_point_of_run_one_poll :
    lastFolded "C" (recover (pollAt 16 atLedgerTen)) = 12 ∧
      FoldPoint Secured (forkAt 16) "C" atLedgerTen (recover (pollAt 16 atLedgerTen)) :=
  ⟨by decide +kernel, fold_point_of_run (.poll onePage (.refl _) trivial)⟩

/-- The statement that would record the event is the sixteenth wait. -/
def unrecorded : Environment Nat :=
  .serving (fun _ => [aBadClaim]) (fun _ => 100) fun n =>
    if n = 15 then .raised (.error "could not write to relation failed_events") else .done ()

def atTheFirstFailure : Config := { contractIds := ["C"], startLedger := 1, quarantineAfterFailures := 1 }

/-- The fold point moves past an event that is neither folded nor recorded. -/
theorem fold_point_passes_unrecorded_event :
    ∃ w, PollRun unrecorded "C" (fun _ _ => True) (freshWorld 0) w ∧
      ¬ FoldPoint FoldedOrRecorded unrecorded "C" (freshWorld 0) w := by
  refine ⟨recover (fetchOnce unrecorded atTheFirstFailure "C" (freshWorld 0)), .poll _ (.refl _) trivial, fun h => ?_⟩
  have hmoved : lastFolded "C" (recover (fetchOnce unrecorded atTheFirstFailure "C" (freshWorld 0))) ≠
      lastFolded "C" (freshWorld 0) := by decide +kernel
  have hdelivered : (recover (fetchOnce unrecorded atTheFirstFailure "C" (freshWorld 0))).delivered.map (·.id) =
      ["0002"] := by decide +kernel
  have hrow : ((recover (fetchOnce unrecorded atTheFirstFailure "C" (freshWorld 0))).db.events.lookup "0002").map
      (·.folded) = some false := by decide +kernel
  have hnone : (recover (fetchOnce unrecorded atTheFirstFailure "C" (freshWorld 0))).db.failed_events.lookup "0002" =
      none := by decide +kernel
  obtain ⟨page, before, after, -, hpage, hlast, hhandled⟩ := h.moved hmoved
  obtain ⟨last, hmem, -⟩ := Option.map_eq_some_iff.mp hlast
  have hid : last.id ∈ ["0002"] := by
    rw [← hdelivered, hpage]
    exact List.mem_map_of_mem (List.mem_append_left _ (List.mem_append_right _ (List.mem_of_getLast? hmem)))
  rw [List.mem_singleton] at hid
  obtain ⟨row, hlookup, hcase⟩ := hhandled _ (List.mem_of_getLast? hmem)
  obtain ⟨row', hrow', hunfolded⟩ := Option.map_eq_some_iff.mp hrow
  rw [hid] at hlookup hcase
  rw [hlookup, Option.some.injEq] at hrow'
  subst hrow'
  rw [hunfolded, hnone] at hcase
  simp at hcase

end OurDao
