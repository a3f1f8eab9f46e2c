import OurDao.Poller

/-!
# What the parts of a poll leave alone

An assertion that every statement of an ingest keeps is kept by the ingest, through
its failures, its retries one by one and its crashes. The rest of a poll only asks
questions and writes the cursor row of its contract.
-/

namespace OurDao

open Faults Op

variable {ρ : Type} {E : Environment ρ} {P Q : World ρ → Prop} {S : DecodedEvent → Prop}

/-- Every event of a page that decodes is in `S`. -/
def Decodes (S : DecodedEvent → Prop) (events : List EventResponse) : Prop :=
  ∀ raw ∈ events, ∀ ev, decodeEvent raw = .ok ev → S ev

theorem decodes_true (events : List EventResponse) : Decodes (fun _ => True) events :=
  fun _ _ _ _ => trivial

/-- Kept by what an ingest notes about itself: the state of a quarantine, and what it prints. -/
structure Recordable (E : Environment ρ) (P : World ρ → Prop) : Prop where
  drifts : Drifts E P
  quarantineState : ∀ w id state escalating db, P w →
    upsertQuarantineState id state escalating w.db = .ok ((), db) → P { w with db }
  console : ∀ w n, P w → P { w with console := w.console ++ [n] }
  memory : ∀ w memory, P w → P { w with memory }

namespace Recordable

theorem and (hP : Recordable E P) (hQ : Recordable E Q) : Recordable E fun w => P w ∧ Q w where
  drifts := hP.drifts.and hQ.drifts
  quarantineState w id s e db h hq := ⟨hP.quarantineState w id s e db h.1 hq, hQ.quarantineState w id s e db h.2 hq⟩
  console w n h := ⟨hP.console w n h.1, hQ.console w n h.2⟩
  memory w m h := ⟨hP.memory w m h.1, hQ.memory w m h.2⟩

variable (hP : Recordable E P)
include hP

theorem say (n : Notice) : Keeps P (say n) := fun w hw => hP.console w n hw

theorem setQuarantineState (id : String) (state : Option QuarantineState) :
    Keeps P (setQuarantineState id state) := fun w hw => hP.memory w _ hw

theorem persistQuarantineState (id : String) (state : Option QuarantineState) (escalating : Bool) :
    Keeps P (persistQuarantineState E id state escalating) :=
  keeps_swallow <| ensures_transaction hP.drifts
    (fun w _ db hw h => hP.quarantineState w id state escalating db hw h) (fun _ _ h => h) fun _ h => h

theorem clearQuarantineState (id : String) : Keeps P (clearQuarantineState E id) :=
  Keeps.bind (hP.setQuarantineState id none) fun _ => hP.persistQuarantineState id none false

/-- A read changes nothing. -/
theorem read {α : Type} (f : Db → α) : Keeps P (transaction E fun db => .ok (f db, db)) := by
  refine ensures_transaction hP.drifts ?_ (fun _ _ h => h) fun _ h => h
  intro w a db hw h
  cases h
  exact hw

theorem quarantineStateOf (id : String) : Keeps P (quarantineStateOf E id) := by
  refine Keeps.bind (Keeps.bind Keeps.world fun w => ?_) fun _ => Keeps.bind Keeps.world fun _ => Keeps.pure _
  split
  · exact Keeps.pure ()
  · exact Keeps.bind (Keeps.tryCatch (hP.read _) fun _ => Keeps.pure _) fun _ =>
      Keeps.bind (hP.setQuarantineState id _) fun _ => fun w hw => hP.memory w _ hw

end Recordable

/-- Kept by everything an ingest of events in `S` does to a world. -/
structure Ingestible (E : Environment ρ) (S : DecodedEvent → Prop) (P : World ρ → Prop) : Prop where
  drifts : Drifts E P
  insertRawEvent : ∀ w ev needsFold db, S ev → P w → insertRawEvent ev w.db = .ok (needsFold, db) →
    P { w with db }
  foldLogged : ∀ w ev channels db, S ev → P w → foldLogged ev w.db = .ok (channels, db) →
    P { w with db }
  failed : ∀ w ev message db, S ev → P w → upsertFailedEvent ev message w.db = .ok ((), db) →
    P { w with db }
  quarantineState : ∀ w id state escalating db, P w →
    upsertQuarantineState id state escalating w.db = .ok ((), db) → P { w with db }
  console : ∀ w n, P w → P { w with console := w.console ++ [n] }
  memory : ∀ w memory, P w → P { w with memory }

namespace Ingestible

theorem and (hP : Ingestible E S P) (hQ : Ingestible E S Q) : Ingestible E S fun w => P w ∧ Q w where
  drifts := hP.drifts.and hQ.drifts
  insertRawEvent w ev n db hS h hi :=
    ⟨hP.insertRawEvent w ev n db hS h.1 hi, hQ.insertRawEvent w ev n db hS h.2 hi⟩
  foldLogged w ev c db hS h hf := ⟨hP.foldLogged w ev c db hS h.1 hf, hQ.foldLogged w ev c db hS h.2 hf⟩
  failed w ev m db hS h hf := ⟨hP.failed w ev m db hS h.1 hf, hQ.failed w ev m db hS h.2 hf⟩
  quarantineState w id s e db h hq :=
    ⟨hP.quarantineState w id s e db h.1 hq, hQ.quarantineState w id s e db h.2 hq⟩
  console w n h := ⟨hP.console w n h.1, hQ.console w n h.2⟩
  memory w m h := ⟨hP.memory w m h.1, hQ.memory w m h.2⟩

theorem forall_imp {ι : Type} {T : ι → Prop} {F : ι → World ρ → Prop} (h : ∀ i, Ingestible E S (F i)) :
    Ingestible E S fun w => ∀ i, T i → F i w where
  drifts := ⟨fun w r hr hw i hi => (h i).drifts.env w r hr (hw i hi),
    fun w sent hw i hi => (h i).drifts.sent w sent (hw i hi)⟩
  insertRawEvent w ev n db hS hw hi i hT := (h i).insertRawEvent w ev n db hS (hw i hT) hi
  foldLogged w ev c db hS hw hf i hT := (h i).foldLogged w ev c db hS (hw i hT) hf
  failed w ev m db hS hw hf i hT := (h i).failed w ev m db hS (hw i hT) hf
  quarantineState w id s e db hw hq i hT := (h i).quarantineState w id s e db (hw i hT) hq
  console w n hw i hT := (h i).console w n (hw i hT)
  memory w m hw i hT := (h i).memory w m (hw i hT)

/-- What only the surroundings decide. -/
theorem of_env {I : ρ → Prop} (h : ∀ r r', E.Step r r' → I r → I r') : Ingestible E S fun w => I w.env where
  drifts := ⟨fun w r hr hw => h w.env r hr hw, fun _ _ hw => hw⟩
  insertRawEvent _ _ _ _ _ hw _ := hw
  foldLogged _ _ _ _ _ hw _ := hw
  failed _ _ _ _ _ hw _ := hw
  quarantineState _ _ _ _ _ hw _ := hw
  console _ _ hw := hw
  memory _ _ hw := hw

variable (hP : Ingestible E S P)
include hP

theorem ingestEvents {w : World ρ} {lastLedger : Nat} {events : List EventResponse} {db : Db}
    {pending : List (StreamChannel × String)} (hS : Decodes S events) (hw : P w)
    (h : ingestEvents lastLedger events w.db = .ok (pending, db)) : P { w with db } := by
  refine ingestEvents_keeps (I := fun db => P { w with db }) ?_ hw h
  intro raw hraw d p d' hd hi
  obtain ⟨ev, hdecode, -, ⟨d₁, channels, hinsert, hf, -⟩ | ⟨hinsert, -⟩⟩ := ingestEvent_eq_ok.mp hi
  · have hev := hS raw hraw ev hdecode
    have h₁ := hP.insertRawEvent { w with db := d } ev true d₁ hev hd hinsert
    exact hP.foldLogged { w with db := d₁ } ev channels d' hev h₁ hf
  · exact hP.insertRawEvent { w with db := d } ev false d' (hS raw hraw ev hdecode) hd hinsert

theorem ingestPage {events : List EventResponse} (hS : Decodes S events) (lastLedger : Nat) :
    Keeps P (ingestPage E events lastLedger) := by
  rw [OurDao.ingestPage]
  split
  · exact Keeps.pure ()
  · refine Keeps.bind (keeps_withLock hP.drifts ?_) fun _ => keeps_announce hP.drifts _
    exact ensures_transaction hP.drifts (fun w _ _ hw h => hP.ingestEvents hS hw h) (fun _ _ h => h)
      fun _ h => h

theorem recordable : Recordable E P := ⟨hP.drifts, hP.quarantineState, hP.console, hP.memory⟩

theorem quarantine {ev : DecodedEvent} (hS : S ev) (err : Failure) : Keeps P (quarantine E ev err) := by
  refine Keeps.bind (keeps_statement hP.drifts) fun _ => ?_
  refine Keeps.bind (Keeps.tryCatch ?_ fun _ => hP.recordable.say _) fun _ => Keeps.pure _
  refine Keeps.bind (Keeps.tryCatch ?_ fun _ => Keeps.throw _) fun _ => hP.recordable.say _
  exact ensures_transaction hP.drifts (fun w _ db hw h => hP.failed w ev _ db hS hw h) (fun _ _ h => h)
    fun _ h => h

theorem foldOrQuarantine {ev : DecodedEvent} (hS : S ev) : Keeps P (foldOrQuarantine E ev) := by
  refine Keeps.bind ?_ fun needsFold => ?_
  · exact ensures_transaction hP.drifts (fun w n db hw h => hP.insertRawEvent w ev n db hS hw h)
      (fun _ _ h => h) fun _ h => h
  · cases needsFold with
    | false => exact Keeps.pure _
    | true =>
      refine Keeps.tryCatch ?_ fun err => hP.quarantine hS err
      exact ensures_transaction hP.drifts (fun w c db hw h => hP.foldLogged w ev c db hS hw h)
        (fun _ _ h => h) fun _ h => h

theorem ingestEventQuarantined {ev : DecodedEvent} (hS : S ev) (lastLedger : Nat) :
    Keeps P (ingestEventQuarantined E ev lastLedger) := by
  rw [OurDao.ingestEventQuarantined]
  split
  · exact Keeps.throw _
  · exact Keeps.bind (keeps_withLock hP.drifts (hP.foldOrQuarantine hS)) fun _ =>
      keeps_announce hP.drifts _

theorem ingestAlone {raw : EventResponse} (hS : ∀ ev, decodeEvent raw = .ok ev → S ev) (lastLedger : Nat) :
    Keeps P (ingestAlone E raw lastLedger) := by
  rw [OurDao.ingestAlone]
  split
  next ev hdecode => exact hP.ingestEventQuarantined (hS ev hdecode) lastLedger
  · exact Keeps.throw _

theorem ingestEach {events : List EventResponse} (hS : Decodes S events) (lastLedger : Nat) :
    Keeps P (ingestEach E events lastLedger) :=
  Keeps.forM events fun raw hraw => hP.ingestAlone (hS raw hraw) lastLedger

theorem onPageFailure (config : Config) {events : List EventResponse} (hS : Decodes S events)
    (lastLedger : Nat) (id : String) (state : Option QuarantineState) (err : Failure) :
    Keeps P (onPageFailure E config events lastLedger id state err) := by
  refine Keeps.bind (hP.recordable.setQuarantineState id _) fun _ =>
    Keeps.bind (hP.recordable.persistQuarantineState _ _ _) fun _ => ?_
  split
  · exact Keeps.throw _
  · exact Keeps.bind (hP.recordable.say _) fun _ => Keeps.bind (hP.recordable.persistQuarantineState _ _ _) fun _ =>
      Keeps.bind (hP.ingestEach hS _) fun _ => hP.recordable.clearQuarantineState id

theorem ingestPageWithQuarantine (config : Config) {events : List EventResponse} (hS : Decodes S events)
    (lastLedger : Nat) (id : String) :
    Keeps P (ingestPageWithQuarantine E config events lastLedger id) := by
  refine Keeps.bind (hP.recordable.quarantineStateOf id) fun state => Keeps.tryCatch ?_ fun err => ?_
  · exact Keeps.bind (hP.ingestPage hS _) fun _ => hP.recordable.clearQuarantineState id
  · cases err with
    | reorgDetected m => exact Keeps.throw _
    | error m => exact hP.onPageFailure config hS lastLedger id state _

end Ingestible

/-- Two worlds that only waits for answers lie between. -/
structure Asked (w w₁ : World ρ) : Prop where
  db : w₁.db = w.db
  memory : w₁.memory = w.memory
  delivered : w₁.delivered = w.delivered
  console : w₁.console = w.console

theorem Asked.refl (w : World ρ) : Asked w w := ⟨rfl, rfl, rfl, rfl⟩

theorem drifts_asked (w : World ρ) : Drifts E (Asked w) :=
  ⟨fun _ _ _ h => ⟨h.db, h.memory, h.delivered, h.console⟩,
    fun _ _ h => ⟨h.db, h.memory, h.delivered, h.console⟩⟩

theorem keeps_getLedgerHash (hP : Drifts E P) (n : Nat) : Keeps P (getLedgerHash E n) := by
  refine Keeps.tryCatch (Keeps.bind (keeps_ask (fun r => .getLedgers r n) hP) fun _ => Keeps.pure _)
    fun _ => Keeps.pure _

theorem keeps_foldedLedgerHash (hP : Drifts E P) (s : Drain) (n : Nat) : Keeps P (foldedLedgerHash E s n) := by
  rw [foldedLedgerHash]
  split
  · exact keeps_getLedgerHash hP n
  · exact Keeps.pure _

theorem keeps_checkTip (cursor : Option CursorRow) (tip : Nat) : Keeps P (checkTip cursor tip : Proc ρ Unit) := by
  rw [checkTip]
  split
  · dsimp only
    split
    · exact Keeps.throw _
    · exact Keeps.pure _
  · exact Keeps.pure _

theorem keeps_checkHash (hP : Drifts E P) (cursor : Option CursorRow) : Keeps P (checkHash E cursor) := by
  rw [checkHash]
  split
  · exact Keeps.pure _
  · split
    · refine Keeps.bind (keeps_getLedgerHash hP _) fun hash => ?_
      split
      · exact Keeps.pure _
      · split
        · exact Keeps.throw _
        · exact Keeps.pure _
    · exact Keeps.pure _

/-- The checks of a poll only ask; the cursor it works with is the stored one. -/
theorem ensures_checkChain (hP : Drifts E P) (contractId : String) :
    Ensures P (checkChain E contractId) fun o w => P w ∧
      ∀ cursor tip, o = .done (cursor, tip) → cursor = w.db.indexer_cursor.lookup contractId := by
  have hloaded : ∀ cursor, Drifts E fun w : World ρ =>
      P w ∧ cursor = w.db.indexer_cursor.lookup contractId := fun cursor =>
    ⟨fun w r hr h => ⟨hP.env w r hr h.1, h.2⟩, fun w sent h => ⟨hP.sent w sent h.1, h.2⟩⟩
  have hload : Ensures P (loadCursor E contractId) fun o w => P w ∧
      ∀ cursor, o = .done cursor → cursor = w.db.indexer_cursor.lookup contractId := by
    refine ensures_transaction hP ?_ (fun _ _ h => ⟨h, by simp⟩) fun _ h => ⟨h, by simp⟩
    intro w cursor db hw h
    cases h
    exact ⟨hw, fun c hc => by cases hc; rfl⟩
  refine Ensures.bind hload (fun cursor => ?_) (fun _ _ h => ⟨h.1, by simp⟩) fun _ h => ⟨h.1, by simp⟩
  have hask : Keeps (fun w => P w ∧ cursor = w.db.indexer_cursor.lookup contractId)
      (do
        let tip ← ask E.getLatestLedger
        checkTip cursor tip.sequence
        checkHash E cursor
        return (cursor, tip)) :=
    Keeps.bind (keeps_ask .getLatestLedger (hloaded cursor)) fun tip =>
      Keeps.bind (keeps_checkTip cursor tip.sequence) fun _ =>
        Keeps.bind (keeps_checkHash (hloaded cursor) cursor) fun _ => Keeps.pure _
  intro w hw
  have hkept := hask w ⟨hw.1, hw.2 cursor rfl⟩
  refine ⟨hkept.1, fun c tip hc => ?_⟩
  obtain rfl : cursor = c := by
    obtain ⟨tip', w₁, -, h₁⟩ := bind_eq_done.mp (Prod.ext hc rfl :
      (ask E.getLatestLedger >>= fun tip => checkTip cursor tip.sequence >>= fun _ =>
        checkHash E cursor >>= fun _ => (pure (cursor, tip) : Proc ρ _)) w = (.done (c, tip), _))
    obtain ⟨_, w₂, -, h₂⟩ := bind_eq_done.mp h₁
    obtain ⟨_, w₃, -, h₃⟩ := bind_eq_done.mp h₂
    cases h₃
    rfl
  exact hkept.2

theorem keeps_startPosition (hP : Drifts E P) (config : Config) (cursor : Option CursorRow) :
    Keeps P (startPosition E config cursor) := by
  rw [startPosition]
  split
  · exact Keeps.pure _
  · refine Keeps.bind ?_ fun _ => Keeps.pure _
    rw [resolveStartLedger]
    split
    · exact Keeps.pure _
    · exact Keeps.bind (keeps_ask .getLatestLedger hP) fun _ => Keeps.pure _

/-- Kept by everything a poll that is served events in `S` does to a world. -/
structure Pollable (E : Environment ρ) (S : DecodedEvent → Prop) (P : World ρ → Prop) : Prop
    extends Ingestible E S P where
  cursor : ∀ w id row, P w →
    P { w with db := { w.db with indexer_cursor := w.db.indexer_cursor.insert id row } }
  deliver : ∀ w events, P w → P { w with delivered := w.delivered ++ events }

/-- Every event that the RPC answers for a contract is in `S`, if it decodes. -/
def Serves (E : Environment ρ) (contractId : String) (S : DecodedEvent → Prop) : Prop :=
  ∀ request r res, request.contractId = contractId → (E.getEvents request r).1 = .done res →
    Decodes S res.events

theorem serves_true (contractId : String) : Serves E contractId fun _ => True :=
  fun _ _ res _ _ => decodes_true res.events

namespace Pollable

variable {contractId : String} (hP : Pollable E S P)
include hP

theorem saveCursor (row : CursorRow) : Keeps P (saveCursor E contractId row) := by
  refine Keeps.tryCatch ?_ fun _ => Keeps.throw _
  refine ensures_transaction hP.drifts ?_ (fun _ _ h => h) fun _ h => h
  intro w _ db h hu
  cases hu
  exact hP.cursor w contractId row h

theorem advanceCursor (cursor : Option CursorRow) (res : EventsPage) (s : Drain) :
    Keeps P (advanceCursor E contractId cursor res s) := by
  rw [OurDao.advanceCursor]
  split
  · exact Keeps.bind (keeps_foldedLedgerHash hP.drifts s _) fun hash =>
      Keeps.bind (hP.saveCursor _) fun _ => Keeps.pure _
  · exact Keeps.pure _

theorem drainPage (hserves : Serves E contractId S) (config : Config) (cursor : Option CursorRow) (s : Drain) :
    Keeps P (drainPage E config contractId cursor s) := by
  have hask : Ensures P (ask (E.getEvents { contractId, limit := config.pageLimit, position := s.position }))
      fun o w => P w ∧ ∀ res, o = .done res → Decodes S res.events :=
    fun w hw => ⟨hP.drifts.env w _ (.getEvents _ _) hw, fun res hres => hserves _ w.env res rfl hres⟩
  refine Ensures.bind hask (fun res => ?_) (fun _ _ h => h.1) fun _ h => h.1
  rintro w ⟨hw, hdecodes⟩
  have hrest : Keeps P (do
      OurDao.deliver res.events
      OurDao.ingestPageWithQuarantine E config res.events s.lastLedger contractId
      let s' ← OurDao.advanceCursor E contractId cursor res s
      return (res, { s' with totalPages := s'.totalPages + 1,
                             totalEvents := s'.totalEvents + res.events.length })) :=
    Keeps.bind (fun w hw => hP.deliver w res.events hw) fun _ =>
      Keeps.bind (hP.ingestPageWithQuarantine config (hdecodes res rfl) s.lastLedger contractId) fun _ =>
        Keeps.bind (hP.advanceCursor cursor res s) fun _ => Keeps.pure _
  exact hrest w hw

theorem drain (hserves : Serves E contractId S) (config : Config) (cursor : Option CursorRow)
    (drainStart fuel : Nat) (s : Drain) : Keeps P (drain E config contractId cursor drainStart fuel s) := by
  induction fuel generalizing s with
  | zero => exact Keeps.pure _
  | succ fuel ih =>
    refine Keeps.bind (keeps_look .aborted hP.drifts) fun aborted => ?_
    cases aborted with
    | true => exact Keeps.pure _
    | false =>
      refine Keeps.bind (hP.drainPage hserves config cursor s) fun p => ?_
      refine Keeps.bind (keeps_look .now hP.drifts) fun now => ?_
      dsimp only
      split
      · exact Keeps.pure _
      · exact ih _

/-- What comes after the questions of a poll: the drain, and a last touch of the cursor. -/
theorem fetchOnce (hserves : Serves E contractId S) (config : Config) :
    Keeps P (fetchOnce E config contractId) := by
  have hcheck : Keeps P (checkChain E contractId) :=
    (ensures_checkChain hP.drifts contractId).post fun _ _ h => h.1
  refine Keeps.bind hcheck fun c => Keeps.bind (keeps_startPosition hP.drifts config c.1) fun position => ?_
  refine Keeps.bind (keeps_look .now hP.drifts) fun now => ?_
  refine Keeps.bind (hP.drain hserves config c.1 now _ _) fun s => ?_
  split
  · refine ensures_transaction hP.drifts ?_ (fun _ _ h => h) fun _ h => h
    intro w _ db h hu
    cases hu
    exact h
  · exact Keeps.pure _

end Pollable

end OurDao
