import OurDao.Forks
import OurDao.Worker

/-!
# Recovering from a halt

A rebuild clears the recorded halt and leaves the cursor as it was, with the hash that
the chain no longer has. So the poll after it compares the same two hashes again.
-/

namespace OurDao

open Faults Op

variable {ρ α β : Type} {E : Environment ρ}

/-- The surroundings raise no `ReorgDetectedError`. -/
structure Environment.NoReorg (E : Environment ρ) : Prop where
  statement : ∀ r e, (E.statement r).1 = .raised e → ∃ m, e = .error m
  pg_try_advisory_lock : ∀ r e, (E.pg_try_advisory_lock r).1 = .raised e → ∃ m, e = .error m
  getLatestLedger : ∀ r e, (E.getLatestLedger r).1 = .raised e → ∃ m, e = .error m
  getLedgers : ∀ n r e, (E.getLedgers n r).1 = .raised e → ∃ m, e = .error m
  getEvents : ∀ request r e, (E.getEvents request r).1 = .raised e → ∃ m, e = .error m

/-- An error other than that of the comparison of hashes. -/
def NoFork (e : Failure) : Prop := ∀ ledger stored actual, e ≠ forkedHash ledger stored actual

theorem noFork_error (m : String) : NoFork (.error m) := fun _ _ _ h => by cases h

theorem head?_message {s t : String} {c : Char} (h : s.toList.head? = some c) :
    (s ++ t).toList.head? = some c := by
  rw [String.toList_append, List.head?_append, h]
  rfl

theorem head?_forkedHash (ledger : Nat) (stored actual : String) :
    (forkedHash ledger stored actual).message.toList.head? = some 'l' := by
  simp only [forkedHash, Failure.message, toString]
  repeat apply head?_message
  rfl

theorem noFork_of_head? {m : String} {c : Char} (h : m.toList.head? = some c) (hc : c ≠ 'l') :
    NoFork (.reorgDetected m) := by
  rintro ledger stored actual heq
  have hhead := head?_forkedHash ledger stored actual
  rw [← heq, Failure.message, h] at hhead
  cases hhead
  exact hc rfl

theorem noFork_rewound (ev : DecodedEvent) (lastLedger : Nat) : NoFork (rewoundError ev lastLedger) := by
  refine noFork_of_head? (c := 'e') ?_ (by decide)
  simp only [toString]
  repeat apply head?_message
  rfl

/-- `m` raises only errors in `Φ`. -/
def Raises (Φ : Failure → Prop) (m : Proc ρ α) : Prop := ∀ w e, (m w).1 = .raised e → Φ e

namespace Raises

variable {Φ : Failure → Prop}

theorem pure (a : α) : Raises Φ (pure a : Proc ρ α) := fun _ _ h => by cases h

theorem throw {e : Failure} (h : Φ e) : Raises Φ (throw e : Proc ρ α) := fun _ _ he => by cases he; exact h

theorem bind {m : Proc ρ α} {f : α → Proc ρ β} (hm : Raises Φ m) (hf : ∀ a, Raises Φ (f a)) :
    Raises Φ (m >>= f) := by
  intro w e h
  rw [bind_run] at h
  rcases hw : m w with ⟨a | e' | _, w'⟩ <;> rw [hw] at h
  · exact hf a w' e h
  · cases h
    exact hm w e (by rw [hw])
  · cases h

theorem tryCatch {m : Proc ρ α} {handler : Failure → Proc ρ α} (hh : ∀ e, Raises Φ (handler e)) :
    Raises Φ (tryCatch m handler) := by
  intro w e h
  rw [tryCatch_run] at h
  rcases hw : m w with ⟨a | e' | _, w'⟩ <;> rw [hw] at h
  · cases h
  · exact hh e' w' e h
  · cases h

/-- A handler that may raise the error it was given again. -/
theorem rethrow {m : Proc ρ α} {handler : Failure → Proc ρ α} (hm : Raises Φ m)
    (hh : ∀ e, Φ e → Raises Φ (handler e)) : Raises Φ (MonadExcept.tryCatch m handler) := by
  intro w e h
  rw [tryCatch_run] at h
  rcases hw : m w with ⟨a | e' | _, w'⟩ <;> rw [hw] at h
  · cases h
  · exact hh e' (hm w e' (by rw [hw])) w' e h
  · cases h

theorem swallow (m : Proc ρ Unit) : Raises Φ (swallow m) := .tryCatch fun _ => .pure ()

theorem ask {m : Op ρ Failure α} (h : ∀ r e, (m r).1 = .raised e → Φ e) : Raises Φ (ask m) :=
  fun w e he => h w.env e he

theorem look (m : ρ → α × ρ) : Raises Φ (look m : Proc ρ α) := fun _ _ h => by cases h

theorem update (f : World ρ → World ρ) : Raises Φ (update f : Proc ρ Unit) := fun _ _ h => by cases h

theorem world : Raises Φ (world : Proc ρ (World ρ)) := fun _ _ h => by cases h

theorem commit {body : Tx α} (h : ∀ db e, body db = .error e → Φ e) : Raises Φ (commit body : Proc ρ α) := by
  intro w e he
  rcases hb : body w.db with e' | r <;> simp only [OurDao.commit, hb] at he <;> cases he
  exact h w.db e hb

theorem forM {body : α → Proc ρ Unit} (xs : List α) (h : ∀ x, Raises Φ (body x)) :
    Raises Φ (forM xs body) := by
  induction xs with
  | nil => exact pure ()
  | cons x xs ih =>
    rw [List.forM_cons]
    exact (h x).bind fun _ => ih

end Raises

theorem tx_bind_error {body : Tx α} {f : α → Tx β} {Φ : Failure → Prop} (hb : ∀ db e, body db = .error e → Φ e)
    (hf : ∀ a db e, f a db = .error e → Φ e) : ∀ db e, (body >>= f) db = .error e → Φ e := by
  intro db e h
  rcases hr : body db with e' | ⟨a, db'⟩
  · rw [bind_of_error hr] at h
    cases h
    exact hb db e hr
  · rw [bind_of_ok hr] at h
    exact hf a db' e h

section

variable (hE : E.NoReorg)
include hE

theorem raises_statement : Raises NoFork (ask E.statement) := .ask fun r e h => by
  obtain ⟨m, rfl⟩ := hE.statement r e h
  exact noFork_error m

theorem raises_transaction {body : Tx α} (h : ∀ db e, body db = .error e → NoFork e) :
    Raises NoFork (transaction E body) := (raises_statement hE).bind fun _ => .commit h

theorem raises_withLock {busy : String} {body : Proc ρ α} (h : Raises NoFork body) :
    Raises NoFork (withLock E busy body) := by
  have hlock : Raises NoFork (ask E.pg_try_advisory_lock) := .ask fun r e h => by
    obtain ⟨m, rfl⟩ := hE.pg_try_advisory_lock r e h
    exact noFork_error m
  refine hlock.bind fun locked => ?_
  cases locked with
  | false => exact .throw (noFork_error _)
  | true =>
    refine Raises.bind (.rethrow h fun e he => ?_) fun a => ?_
    · exact (Raises.swallow _).bind fun _ => .throw he
    · exact (Raises.swallow _).bind fun _ => .pure a

omit hE in
theorem raises_announce (channels : List (StreamChannel × String)) : Raises NoFork (announce E channels) :=
  .forM channels fun _ => .tryCatch fun _ => .pure ()

end

theorem foldLogged_noFork (ev : DecodedEvent) (db : Db) (e : Failure) (h : foldLogged ev db = .error e) :
    NoFork e := by
  refine tx_bind_error (fun db e h => ?_) (fun channels => tx_bind_error (fun db e h => by cases h)
    fun _ db e h => by cases h) db e h
  rcases ha : applyEvent ev db.tables with e' | r <;> simp only [foldEvent, ha] at h <;> cases h
  obtain ⟨m, rfl, -⟩ := applyEvent_failsPlainly ev _ _ ha
  exact noFork_error m

theorem insertRawEvent_noFork (ev : DecodedEvent) (db : Db) (e : Failure)
    (h : insertRawEvent ev db = .error e) : NoFork e := by
  rw [insertRawEvent] at h
  split at h
  · cases h
    exact noFork_error _
  · split at h <;> cases h

theorem ingestEvent_noFork (lastLedger : Nat) (raw : EventResponse) :
    ∀ db e, ingestEvent lastLedger raw db = .error e → NoFork e := by
  refine tx_bind_error (fun db e h => ?_) fun ev => ?_
  · rcases hd : decodeEvent raw with m | ev <;> rw [hd] at h <;> cases h
    exact noFork_error m
  split
  · intro db e h
    cases h
    exact noFork_rewound ev lastLedger
  · refine tx_bind_error (insertRawEvent_noFork ev) fun needsFold => ?_
    split
    · exact tx_bind_error (foldLogged_noFork ev) fun _ _ _ h => by cases h
    · intro db e h
      cases h

theorem ingestEvents_noFork (lastLedger : Nat) (events : List EventResponse) :
    ∀ db e, ingestEvents lastLedger events db = .error e → NoFork e := by
  induction events with
  | nil =>
    intro db e h
    cases h
  | cons raw events ih =>
    exact tx_bind_error (ingestEvent_noFork lastLedger raw) fun _ =>
      tx_bind_error ih fun _ _ _ h => by cases h

section

variable (hE : E.NoReorg)
include hE

theorem raises_ingestPage (events : List EventResponse) (lastLedger : Nat) :
    Raises NoFork (ingestPage E events lastLedger) := by
  rw [ingestPage]
  split
  · exact .pure ()
  · exact (raises_withLock hE (raises_transaction hE (ingestEvents_noFork lastLedger events))).bind
      fun _ => raises_announce _

theorem raises_ingestEventQuarantined (ev : DecodedEvent) (lastLedger : Nat) :
    Raises NoFork (ingestEventQuarantined E ev lastLedger) := by
  rw [ingestEventQuarantined]
  split
  · exact .throw (noFork_rewound ev lastLedger)
  refine (raises_withLock hE ?_).bind fun _ => raises_announce _
  refine (raises_transaction hE (insertRawEvent_noFork ev)).bind fun needsFold => ?_
  split
  · refine .tryCatch fun err => (raises_statement hE).bind fun _ => ?_
    exact (Raises.tryCatch fun _ => .update _).bind fun _ => .pure _
  · exact .pure _

theorem raises_ingestEach (events : List EventResponse) (lastLedger : Nat) :
    Raises NoFork (ingestEach E events lastLedger) := by
  refine .forM events fun raw => ?_
  rw [ingestAlone]
  split
  · exact raises_ingestEventQuarantined hE _ lastLedger
  · exact .throw (noFork_error _)

theorem raises_ingestPageWithQuarantine (config : Config) (events : List EventResponse) (lastLedger : Nat)
    (contractId : String) :
    Raises NoFork (ingestPageWithQuarantine E config events lastLedger contractId) := by
  have hclear : Raises NoFork (clearQuarantineState E contractId) := (Raises.update _).bind fun _ => .swallow _
  have hstate : Raises NoFork (quarantineStateOf E contractId) := by
    refine Raises.bind (Raises.bind .world fun w => ?_) fun _ => Raises.world.bind fun _ => .pure _
    split
    · exact .pure ()
    · exact (Raises.tryCatch fun _ => .pure _).bind fun _ => (Raises.update _).bind fun _ => .update _
  refine hstate.bind fun state => .rethrow ?_ fun err herr => ?_
  · exact (raises_ingestPage hE events lastLedger).bind fun _ => hclear
  · cases err with
    | reorgDetected m => exact .throw herr
    | error m =>
      refine (Raises.update _).bind fun _ => (Raises.swallow _).bind fun _ => ?_
      split
      · exact .throw herr
      · exact (Raises.update _).bind fun _ => (Raises.swallow _).bind fun _ =>
          (raises_ingestEach hE events lastLedger).bind fun _ => hclear

omit hE in
theorem raises_advanceCursor (contractId : String) (cursor : Option CursorRow) (res : EventsPage) (s : Drain) :
    Raises NoFork (advanceCursor E contractId cursor res s) := by
  rw [advanceCursor]
  split
  · refine Raises.bind ?_ fun hash => Raises.bind (.tryCatch fun err => .throw (noFork_error _)) fun _ => .pure _
    rw [foldedLedgerHash]
    split
    · exact .tryCatch fun _ => .pure _
    · exact .pure _
  · exact .pure _

theorem raises_drain (config : Config) (contractId : String) (cursor : Option CursorRow) (drainStart fuel : Nat)
    (s : Drain) : Raises NoFork (drain E config contractId cursor drainStart fuel s) := by
  induction fuel generalizing s with
  | zero => exact .pure s
  | succ fuel ih =>
    refine (Raises.look _).bind fun aborted => ?_
    split
    · exact .pure s
    refine Raises.bind ?_ fun p => (Raises.look _).bind fun now => ?_
    · have hask : Raises NoFork
          (ask (E.getEvents { contractId, limit := config.pageLimit, position := s.position })) :=
        .ask fun r e h => by
          obtain ⟨m, rfl⟩ := hE.getEvents _ r e h
          exact noFork_error m
      refine hask.bind fun res => (Raises.update _).bind fun _ => ?_
      exact (raises_ingestPageWithQuarantine hE config _ _ contractId).bind fun _ =>
        (raises_advanceCursor contractId cursor res s).bind fun _ => .pure _
    · dsimp only
      split
      · exact .pure _
      · exact ih _

/-- What comes after the checks of a poll. -/
theorem raises_drained (config : Config) (contractId : String) (p : Option CursorRow × LedgerInfo) :
    Raises NoFork (do
      let position ← startPosition E config p.1
      let drainStart ← look E.now
      let s ← drain E config contractId p.1 drainStart config.drainFuel
        { position, lastLedger := CursorRow.priorLedger p.1,
          lastLedgerHash := p.1.bind (·.last_ledger_hash),
          observedTipLedger := (p.1.bind (·.observed_tip_ledger)).getD p.2.sequence }
      if s.totalEvents = 0 ∧ s.cursorWritten = false then touchCursor E) := by
  have hposition : Raises NoFork (startPosition E config p.1) := by
    rw [startPosition]
    split
    · exact .pure _
    · refine Raises.bind ?_ fun _ => .pure _
      rw [resolveStartLedger]
      split
      · exact .pure _
      · refine Raises.bind (.ask fun r e h => ?_) fun _ => .pure _
        obtain ⟨m, rfl⟩ := hE.getLatestLedger r e h
        exact noFork_error m
  refine hposition.bind fun position => (Raises.look _).bind fun drainStart => ?_
  refine (raises_drain hE config contractId p.1 drainStart _ _).bind fun s => ?_
  split
  · exact raises_transaction hE fun db e h => by cases h
  · exact .pure ()

end

/-- A halt is recorded because the hash of the last folded ledger is not the stored one. -/
structure HashHalt (db : Db) (contractId : String) (ledger : Nat) (stored : String) : Prop where
  cursor : ∃ row, db.indexer_cursor.lookup contractId = some row ∧ row.last_ledger = some ledger ∧
    row.last_ledger_hash = some stored
  ledger_pos : 0 < ledger
  stored_ne : stored ≠ ""
  halt : ∃ halt ∈ db.openHalts, halt.contract_id = contractId ∧
    ∃ actual ≠ stored, halt.detail = (forkedHash ledger stored actual).message

/-- The RPC serves one chain with its tip at `ledger` or above; `hash` is what it answers for a
ledger, which is nothing for a ledger it has pruned. -/
structure StableChain (E : Environment ρ) (ledger : Nat) (hash : Nat → Option String) : Prop where
  tip : ∀ r, ∃ info, (E.getLatestLedger r).1 = .done info ∧ ledger ≤ info.sequence
  answers : ∀ n r, (∃ l, (E.getLedgers n r).1 = .done l ∧
      hash n = l.bind fun l => if l.sequence = n then some l.hash else none) ∨
    hash n = none ∧ ∃ e, (E.getLedgers n r).1 = .raised e

theorem StableChain.getLedgerHash_run {ledger : Nat} {hash : Nat → Option String} (hchain : StableChain E ledger hash)
    (n : Nat) (w : World ρ) :
    getLedgerHash E n w = (.done (hash n), { w with env := (E.getLedgers n w.env).2 }) := by
  rcases hchain.answers n w.env with ⟨l, hdone, hl⟩ | ⟨hnone, e, hraised⟩
  · simp [getLedgerHash, tryCatch_run, bind_run, ask, hdone, hl]
  · simp [getLedgerHash, tryCatch_run, bind_run, ask, hraised, hnone]

section

variable {contractId stored : String} {ledger : Nat} {hash : Nat → Option String} {row : CursorRow}
  (hchain : StableChain E ledger hash) (hledger : row.last_ledger = some ledger)
  (hhash : row.last_ledger_hash = some stored) (hpos : 0 < ledger) (hne : stored ≠ "")
include hledger

/-- The tip is no rewind. -/
theorem checkTip_stable (w : World ρ) {tip : LedgerInfo} (htip : ledger ≤ tip.sequence) :
    checkTip (some row) tip.sequence w = (.done (), w) := by
  have hprior : CursorRow.priorLedger (some row) = ledger := by simp [CursorRow.priorLedger, hledger]
  rw [checkTip, hprior, if_neg (by omega)]
  rfl

include hchain hhash hpos hne

theorem checkHash_stable (w : World ρ) : (checkHash E (some row) w).1 = match hash ledger with
    | none => .done ()
    | some actual => if actual ≠ stored then .raised (forkedHash ledger stored actual) else .done () := by
  have hprior : CursorRow.priorLedger (some row) = ledger := by simp [CursorRow.priorLedger, hledger]
  simp only [checkHash, Option.bind_some, hhash, hprior, if_pos (And.intro hpos hne),
    bind_done (hchain.getLedgerHash_run ledger w)]
  rcases hash ledger with _ | actual
  · rfl
  · dsimp only
    split <;> rfl

/-- A poll that has read its cursor raises the error of the comparison exactly when the chain answers
another hash than the stored one. -/
theorem checkChain_forked_iff {w : World ρ} (hstatement : (E.statement w.env).1 = .done ())
    (hrow : w.db.indexer_cursor.lookup contractId = some row) :
    (∃ actual, (checkChain E contractId w).1 = .raised (forkedHash ledger stored actual)) ↔
      ¬ (hash ledger = none ∨ hash ledger = some stored) := by
  obtain ⟨tip, htip, hle⟩ := hchain.tip (E.statement w.env).2
  have hload : loadCursor E contractId w = (.done (some row), { w with env := (E.statement w.env).2 }) := by
    rw [loadCursor_run, hstatement, hrow]
  have hask : ask E.getLatestLedger { w with env := (E.statement w.env).2 } =
      (.done tip, { w with env := (E.getLatestLedger (E.statement w.env).2).2 }) := by simp [ask, htip]
  simp only [checkChain, bind_done hload, bind_done hask, bind_done (checkTip_stable hledger _ hle)]
  have hcheck := checkHash_stable hchain hledger hhash hpos hne
    { w with env := (E.getLatestLedger (E.statement w.env).2).2 }
  rw [bind_run]
  rcases hrun : checkHash E (some row) { w with env := (E.getLatestLedger (E.statement w.env).2).2 } with ⟨o, w'⟩
  rw [hrun] at hcheck
  dsimp only at hcheck
  subst hcheck
  rcases hash ledger with _ | actual
  · simp
  · by_cases hactual : actual = stored
    · simp [hactual]
    · simp [hactual]

end

/-- **Recovery ends a halt** exactly when the stable chain has the stored hash again, or the RPC has
none to compare it with, or the poll cannot read its cursor. -/
theorem recovery_ends_halt_iff {db db' : Db} {contractId stored : String} {ledger : Nat}
    (hhalt : HashHalt db contractId ledger stored) {batchSize : Int} {s : Rebuilt}
    (hcommit : reindexTx batchSize db = .ok (s, db')) (hE : E.NoReorg) {hash : Nat → Option String}
    (hchain : StableChain E ledger hash) (config : Config) {w : World ρ} (hw : w.db = db') :
    (∀ actual, (fetchOnce E config contractId w).1 ≠ .raised (forkedHash ledger stored actual)) ↔
      (E.statement w.env).1 ≠ .done () ∨ hash ledger = none ∨ hash ledger = some stored := by
  obtain ⟨row, hrow, hledger, hhash⟩ := hhalt.cursor
  obtain ⟨evs, t, -, -, -, hdb'⟩ := reindexTx_eq_ok hcommit
  -- the rebuild leaves the cursor as it was
  have hrow' : w.db.indexer_cursor.lookup contractId = some row := by rw [hw, hdb']; exact hrow
  have hchecked := fun hstatement => checkChain_forked_iff hchain hledger hhash hhalt.ledger_pos hhalt.stored_ne
    (w := w) hstatement hrow'
  constructor
  · intro hquiet
    by_contra hcond
    push Not at hcond
    obtain ⟨hstatement, hcond⟩ := hcond
    obtain ⟨actual, hraised⟩ := (hchecked hstatement).mpr (by simpa using hcond)
    exact hquiet actual (congrArg Prod.fst (bind_raised (Prod.ext hraised rfl)))
  · rintro hcond actual hraised
    rw [fetchOnce, bind_run] at hraised
    rcases hcheck : checkChain E contractId w with ⟨p | e | _, w'⟩ <;> rw [hcheck] at hraised
    · exact raises_drained hE config contractId p w' _ hraised ledger stored actual rfl
    · cases hraised
      rcases hstatement : (E.statement w.env).1 with _ | e | _
      · refine (hchecked hstatement).mp ⟨actual, by rw [hcheck]⟩ ?_
        simpa [hstatement] using hcond
      · obtain ⟨m, rfl⟩ := hE.statement w.env e hstatement
        have hload : loadCursor E contractId w =
            (.raised (.error m), { w with env := (E.statement w.env).2 }) := by rw [loadCursor_run, hstatement]
        rw [checkChain, bind_raised hload] at hcheck
        cases hcheck
      · have hload : loadCursor E contractId w = (.crashed, { w with env := (E.statement w.env).2 }) := by
          rw [loadCursor_run, hstatement]
        rw [checkChain, bind_crashed hload] at hcheck
        cases hcheck
    · cases hraised

theorem noReorg_forkAt (k : Nat) : (forkAt k).NoReorg where
  statement _ _ h := by cases h
  pg_try_advisory_lock _ _ h := by cases h
  getLatestLedger _ _ h := by cases h
  getLedgers _ _ _ h := by cases h
  getEvents _ _ _ h := by cases h

/-- The fork that has replaced the chain for good. -/
theorem stableChain_forkAt : StableChain (forkAt 0) 10 fun n => some (secondChain.hash n) where
  tip n := ⟨_, rfl, show 10 ≤ 20 by decide⟩
  answers ledger n := .inl ⟨_, rfl, by simp [servedAt]⟩

/-- The worker that folded up to ledger 10 of the first chain, halted on the fork. -/
def haltedAtTen : World Nat :=
  (recordReorgHalt (forkAt 0) "C" (forkedHash 10 "A10" "B10").message (pollAt 0 atLedgerTen).2).2

/-- The same after a rebuild. -/
def rebuiltAtTen : World Nat := (reindexFromEventLog (forkAt 0) none haltedAtTen).2

theorem hashHalt_haltedAtTen : HashHalt haltedAtTen.db "C" 10 "A10" where
  cursor := ⟨⟨some "0001", some 10, some "A10", none⟩, by decide +kernel, rfl, rfl⟩
  ledger_pos := by decide
  stored_ne := by decide
  halt := ⟨⟨1, "C", some 10, some "A10", (forkedHash 10 "A10" "B10").message, 0, none⟩, by decide +kernel,
    rfl, "B10", by decide, rfl⟩

theorem recovery_ends_halt_iff_after_a_fork :
    haltedAtTen.db.openHalts.length = 1 ∧
      ¬ ∀ actual, (pollAt 0 (restart rebuiltAtTen)).1 ≠ .raised (forkedHash 10 "A10" actual) := by
  have hcommit : reindexTx 1000 haltedAtTen.db = .ok ({ db := haltedAtTen.db.truncate }, rebuiltAtTen.db) := rfl
  refine ⟨by decide +kernel, fun hquiet => ?_⟩
  have hcond := (recovery_ends_halt_iff hashHalt_haltedAtTen hcommit (noReorg_forkAt 0) stableChain_forkAt
    onePage (w := restart rebuiltAtTen) rfl).mp hquiet
  revert hcond
  decide +kernel

/-- The rebuild clears the halt, and the next poll halts again over the same two hashes. -/
theorem rebuild_does_not_end_a_halt :
    (pollAt 0 atLedgerTen).1 = .raised (forkedHash 10 "A10" "B10") ∧
      HashHalt haltedAtTen.db "C" 10 "A10" ∧ (forkAt 0).NoReorg ∧
      StableChain (forkAt 0) 10 (fun n => some (secondChain.hash n)) ∧
      (reindexFromEventLog (forkAt 0) none haltedAtTen).1 = .done 0 ∧ rebuiltAtTen.db.openHalts = [] ∧
      (pollAt 0 (restart rebuiltAtTen)).1 = .raised (forkedHash 10 "A10" "B10") :=
  ⟨by decide +kernel, hashHalt_haltedAtTen, noReorg_forkAt 0, stableChain_forkAt, by decide +kernel,
    by decide +kernel, by decide +kernel⟩

end OurDao
