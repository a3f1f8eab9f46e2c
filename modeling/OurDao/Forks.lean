import OurDao.Rpc

/-!
# One history

The RPC may answer each call from another chain than the call before. A poll compares
the hash of the last folded ledger once, before it drains, and stores the hash it is
told after a fold. So a poll that one chain serves from the comparison on folds from the
chain whose ledger the cursor names, and a poll that meets a fork at the comparison
folds nothing.
-/

namespace OurDao

open Faults Op

structure Chain where
  events : List EventResponse
  hash : Nat → String
  hash_ne : ∀ n, hash n ≠ ""
  ledger_pos : ∀ e ∈ events, 0 < e.ledger

variable {ρ : Type}

/-- Each call is answered from the chain `served` once it is answered; `switches` counts the calls
that were answered from another chain than the call before. -/
structure ServesChains (E : Environment ρ) (served : ρ → Chain) (switches : ρ → Nat) : Prop where
  getLedgers : ∀ n r, (E.getLedgers n r).1 = .crashed ∨
    (E.getLedgers n r).1 = .done (some ⟨n, (served (E.getLedgers n r).2).hash n⟩)
  getEvents : ∀ request r res, (E.getEvents request r).1 = .done res →
    ∀ e ∈ res.events, e ∈ (served (E.getEvents request r).2).events
  same : ∀ r r', E.Step r r' → switches r ≤ switches r' ∧ (switches r' = switches r → served r' = served r)

/-- Everything folded lies on `c`, and the stored pair names a ledger of `c`. -/
structure OneHistory (c : Chain) (contractId : String) (db : Db) : Prop where
  folded : ∀ ev ∈ db.applied, ∃ raw ∈ c.events, decodeEvent raw = .ok ev
  named : ∃ row ledger, db.indexer_cursor.lookup contractId = some row ∧ row.last_ledger = some ledger ∧
    0 < ledger ∧ row.last_ledger_hash = some (c.hash ledger)

/-- The last folded ledger. -/
def lastFolded (contractId : String) (w : World ρ) : Nat :=
  CursorRow.priorLedger (w.db.indexer_cursor.lookup contractId)

/-- The surroundings when a poll has its answer to the question for a ledger's hash. -/
def hashAnswered (E : Environment ρ) (ledger : Nat) (r : ρ) : ρ :=
  (E.getLedgers ledger (E.getLatestLedger (E.statement r).2).2).2

/-- The conditions on a poll: a chain other than `c` that is served when it compares hashes differs
from `c` in the last folded ledger, and when the comparison is passed no call of the rest of the
poll is answered from another chain. -/
structure Steady (E : Environment ρ) (served : ρ → Chain) (switches : ρ → Nat) (c : Chain)
    (contractId : String) (config : Config) (w : World ρ) : Prop where
  fork : served (hashAnswered E (lastFolded contractId w) w.env) = c ∨
    (served (hashAnswered E (lastFolded contractId w) w.env)).hash (lastFolded contractId w) ≠
      c.hash (lastFolded contractId w)
  steady : ∀ p w₁, checkChain E contractId w = (.done p, w₁) →
    switches (fetchOnce E config contractId w).2.env = switches w₁.env

variable {E : Environment ρ} {served : ρ → Chain} {switches : ρ → Nat} {c : Chain} {contractId : String}

/-- `P` holds as long as no call has been answered from another chain since the count was `k`. -/
def Still (switches : ρ → Nat) (k : Nat) (P : World ρ → Prop) (w : World ρ) : Prop :=
  k ≤ switches w.env ∧ (switches w.env = k → P w)

/-- What holds during a poll that is served by `c`, beside a fact `Q` about values. -/
structure OnChain (served : ρ → Chain) (c : Chain) (contractId : String) (Q : Prop) (w : World ρ) : Prop where
  served : served w.env = c
  history : OneHistory c contractId w.db
  also : Q

abbrev Following (served : ρ → Chain) (switches : ρ → Nat) (c : Chain) (contractId : String) (k : Nat)
    (Q : Prop) : World ρ → Prop := Still switches k (OnChain served c contractId Q)

def FromChain (c : Chain) (ev : DecodedEvent) : Prop := ∃ raw ∈ c.events, decodeEvent raw = .ok ev

theorem OneHistory.congr {db db' : Db} (h : OneHistory c contractId db) (ha : db'.applied = db.applied)
    (hc : db'.indexer_cursor = db.indexer_cursor) : OneHistory c contractId db' :=
  ⟨by rw [ha]; exact h.folded, by rw [hc]; exact h.named⟩

theorem OneHistory.insertRawEvent {db db' : Db} (h : OneHistory c contractId db) {ev : DecodedEvent}
    {needsFold : Bool} (hi : insertRawEvent ev db = .ok (needsFold, db')) : OneHistory c contractId db' := by
  obtain ⟨-, ⟨_, -, -, rfl⟩ | ⟨-, -, rfl⟩⟩ := insertRawEvent_eq_ok.mp hi
  · exact h
  · exact h.congr rfl rfl

theorem OneHistory.foldLogged {db db' : Db} (h : OneHistory c contractId db) {ev : DecodedEvent}
    (hev : FromChain c ev) {channels : List StreamChannel} (hf : foldLogged ev db = .ok (channels, db')) :
    OneHistory c contractId db' := by
  obtain ⟨tables, -, rfl⟩ := foldLogged_eq_ok.mp hf
  refine ⟨fun ev' hev' => ?_, h.named⟩
  rcases List.mem_append.mp hev' with hold | hnew
  · exact h.folded ev' hold
  · rw [List.mem_singleton.mp hnew]
    exact hev

theorem Still.imp {k : Nat} {P P' : World ρ → Prop} {w w' : World ρ} (h : Still switches k P w)
    (he : w'.env = w.env) (hP : P w → P' w') : Still switches k P' w' := by
  rw [Still, he]
  exact ⟨h.1, fun hk => hP (h.2 hk)⟩

section

variable (hE : ServesChains E served switches)
include hE

/-- Waiting keeps the chain or the count moves on. -/
theorem Still.step {k : Nat} {P : World ρ → Prop} {w : World ρ} {r : ρ} (h : Still switches k P w)
    (hr : E.Step w.env r) (hP : served r = served w.env → P w → P { w with env := r }) :
    Still switches k P { w with env := r } := by
  obtain ⟨hle, hsame⟩ := hE.same _ _ hr
  have hk := h.1
  refine ⟨by dsimp only; omega, fun hr' => ?_⟩
  have hw : switches w.env = k := by dsimp only at hr'; omega
  exact hP (hsame (by dsimp only at hr'; omega)) (h.2 hw)

theorem ingestible_following (k : Nat) (Q : Prop) :
    Ingestible E (FromChain c) (Following served switches c contractId k Q) where
  drifts := ⟨fun w r hr h => Still.step hE h hr fun hs hon => ⟨hs.trans hon.served, hon.history, hon.also⟩,
    fun w sent h => h.imp rfl fun hon => ⟨hon.served, hon.history, hon.also⟩⟩
  insertRawEvent w ev n db _ h hi := h.imp rfl fun hon => ⟨hon.served, hon.history.insertRawEvent hi, hon.also⟩
  foldLogged w ev ch db hev h hf := h.imp rfl fun hon => ⟨hon.served, hon.history.foldLogged hev hf, hon.also⟩
  failed w ev m db _ h hf := h.imp rfl fun hon => by
    cases hf
    exact ⟨hon.served, hon.history.congr rfl rfl, hon.also⟩
  quarantineState w id s e db h hq := h.imp rfl fun hon => by
    cases hq
    exact ⟨hon.served, hon.history.congr rfl rfl, hon.also⟩
  console w n h := h.imp rfl fun hon => ⟨hon.served, hon.history, hon.also⟩
  memory w m h := h.imp rfl fun hon => ⟨hon.served, hon.history, hon.also⟩

/-- A page served by `c` is ingested from `c`; a page after a switch is no matter. -/
theorem ingestPageWithQuarantine_following (config : Config) (res : EventsPage) (lastLedger k : Nat)
    (Q : Prop) :
    Keeps (Following served switches c contractId k (Q ∧ ∀ e ∈ res.events, e ∈ c.events))
      (ingestPageWithQuarantine E config res.events lastLedger contractId) := by
  intro w hw
  by_cases hk : switches w.env = k
  · have hpage := (hw.2 hk).also.2
    have hS : Decodes (FromChain c) res.events := fun raw hraw ev hd => ⟨raw, hpage raw hraw, hd⟩
    exact (ingestible_following hE k _).ingestPageWithQuarantine config hS lastLedger contractId w hw
  · have hlt : k < switches w.env := by have := hw.1; omega
    have hmoved : Ingestible E (fun _ => True) fun w : World ρ => k < switches w.env :=
      Ingestible.of_env fun r r' hr h => lt_of_lt_of_le h (hE.same r r' hr).1
    have h := hmoved.ingestPageWithQuarantine config (decodes_true res.events) lastLedger contractId w hlt
    exact ⟨by omega, fun hk' => by omega⟩

/-- The hash the poller is told is the hash on `c`. -/
theorem getLedgerHash_following (k n : Nat) (Q : Prop) :
    Ensures (Following served switches c contractId k Q) (getLedgerHash E n) fun o w =>
      Following served switches c contractId k Q w ∧
        OnDone (fun hash w => switches w.env = k → hash = some (c.hash n)) o w := by
  intro w hw
  have hstep : E.Step w.env (E.getLedgers n w.env).2 := .getLedgers w.env n
  have hafter := (ingestible_following hE k Q).drifts.env w _ hstep hw
  rcases hE.getLedgers n w.env with hcrash | hdone
  · have hrun : getLedgerHash E n w = (.crashed, { w with env := (E.getLedgers n w.env).2 }) := by
      simp [getLedgerHash, tryCatch_run, bind_run, ask, hcrash]
    rw [hrun]
    exact ⟨hafter, trivial⟩
  · have hrun : getLedgerHash E n w = (.done (some ((served (E.getLedgers n w.env).2).hash n)),
        { w with env := (E.getLedgers n w.env).2 }) := by
      simp [getLedgerHash, tryCatch_run, bind_run, ask, hdone]
    rw [hrun]
    refine ⟨hafter, fun hk => ?_⟩
    have hserved : served (E.getLedgers n w.env).2 = c := (hafter.2 hk).served
    rw [hserved]

/-- The ledger and the hash that a drain carries name a ledger of `c`. -/
def Names (c : Chain) (ledger : Nat) (hash : Option String) : Prop := 0 < ledger ∧ hash = some (c.hash ledger)

theorem foldedLedgerHash_following (k : Nat) (s : Drain) {n : Nat} (hn : 0 < n) :
    Ensures (Following served switches c contractId k (Names c s.lastLedger s.lastLedgerHash))
      (foldedLedgerHash E s n) fun o w => Following served switches c contractId k True w ∧
        OnDone (fun hash w => switches w.env = k → Names c n hash) o w := by
  rw [foldedLedgerHash]
  split
  · refine (getLedgerHash_following hE k n _).post fun o w h => ?_
    refine ⟨h.1.imp rfl fun hon => ⟨hon.served, hon.history, trivial⟩, ?_⟩
    exact onDone_imp (fun hash w hash_eq hk => ⟨hn, hash_eq hk⟩) o w h.2
  next heq =>
    obtain rfl : n = s.lastLedger := by simpa using heq
    refine ensures_pure fun w h => ⟨h.imp rfl fun hon => ⟨hon.served, hon.history, trivial⟩, ?_⟩
    exact fun hk => (h.2 hk).also

/-- Saving a pair that names a ledger of `c`. -/
theorem saveCursor_following (k : Nat) {n : Nat} {hash token : Option String} {tip : Option Nat} :
    Keeps (Following served switches c contractId k (Names c n hash))
      (saveCursor E contractId ⟨token, some n, hash, tip⟩) := by
  have hdrift : Drifts E (Following served switches c contractId k (Names c n hash)) :=
    (ingestible_following hE k _).drifts
  refine Keeps.tryCatch (ensures_transaction hdrift ?_ (fun _ _ h => h) fun _ h => h) fun _ => Keeps.throw _
  intro w _ db h hu
  cases hu
  exact h.imp rfl fun hon => ⟨hon.served, ⟨hon.history.folded,
    ⟨_, n, AList.lookup_insert _, rfl, hon.also.1, hon.also.2⟩⟩, hon.also⟩

omit hE in
theorem following_true {k : Nat} {Q : Prop} {w : World ρ} (h : Following served switches c contractId k Q w) :
    Following served switches c contractId k True w :=
  h.imp rfl fun hon => ⟨hon.served, hon.history, trivial⟩

theorem advanceCursor_following (k : Nat) (cursor : Option CursorRow) (res : EventsPage) (s : Drain)
    (hledger : 0 < res.foldedLedger s.lastLedger) :
    Ensures (Following served switches c contractId k (Names c s.lastLedger s.lastLedgerHash))
      (advanceCursor E contractId cursor res s) fun o w => Following served switches c contractId k True w ∧
        OnDone (fun s' w => s'.lastLedger = res.foldedLedger s.lastLedger ∧
          Following served switches c contractId k (Names c s'.lastLedger s'.lastLedgerHash) w) o w := by
  rw [advanceCursor]
  split
  · refine Ensures.bind_keeping (foldedLedgerHash_following hE k s hledger) (fun _ _ h => h.1) fun hash => ?_
    refine Ensures.mono (P := Following served switches c contractId k
      (Names c (res.foldedLedger s.lastLedger) hash)) ?_ (fun w h => ?_) fun _ _ h => h
    · refine Ensures.bind (saveCursor_following hE k) (fun _ => ?_) (fun _ _ h => ⟨?_, trivial⟩)
        fun _ h => ⟨?_, trivial⟩
      · exact ensures_pure fun w h => ⟨following_true h, rfl, h⟩
      · exact following_true h
      · exact following_true h
    · exact ⟨h.1.1, fun hk => ⟨(h.1.2 hk).served, (h.1.2 hk).history, h.2 hk⟩⟩
  next hsame =>
    have hfolded : res.foldedLedger s.lastLedger = s.lastLedger := by
      by_contra hne
      exact hsame (.inr (.inl hne))
    exact ensures_pure fun w h => ⟨following_true h, hfolded.symm, h⟩

/-- A page of the drain. -/
theorem drainPage_following (k : Nat) (config : Config) (cursor : Option CursorRow) (s : Drain)
    (hledger : 0 < s.lastLedger) :
    Ensures (Following served switches c contractId k (Names c s.lastLedger s.lastLedgerHash))
      (drainPage E config contractId cursor s) fun o w => Following served switches c contractId k True w ∧
        OnDone (fun p w => 0 < p.2.lastLedger ∧
          Following served switches c contractId k (Names c p.2.lastLedger p.2.lastLedgerHash) w) o w := by
  have hask : Ensures (Following served switches c contractId k (Names c s.lastLedger s.lastLedgerHash))
      (ask (E.getEvents { contractId, limit := config.pageLimit, position := s.position })) fun o w =>
        Following served switches c contractId k True w ∧ OnDone (fun res w =>
          (∀ e ∈ res.events, 0 < e.ledger) ∧ Following served switches c contractId k
            (Names c s.lastLedger s.lastLedgerHash ∧ ∀ e ∈ res.events, e ∈ c.events) w) o w := by
    intro w hw
    have hstep : E.Step w.env (E.getEvents { contractId, limit := config.pageLimit, position := s.position }
      w.env).2 := .getEvents _ _
    have hafter := (ingestible_following hE k _).drifts.env w _ hstep hw
    refine ⟨following_true hafter, ?_⟩
    rcases hres : E.getEvents { contractId, limit := config.pageLimit, position := s.position } w.env with
      ⟨res | e | _, r⟩
    · have hevents := hE.getEvents _ _ res (congrArg Prod.fst hres)
      rw [hres] at hevents hafter
      simp only [ask, hres, OnDone]
      refine ⟨fun e he => (served r).ledger_pos e (hevents e he), hafter.1, fun hk => ?_⟩
      have hon := hafter.2 hk
      exact ⟨hon.served, hon.history, hon.also, fun e he => hon.served ▸ hevents e he⟩
    · simp [ask, hres, OnDone]
    · simp [ask, hres, OnDone]
  refine Ensures.bind_keeping hask (fun _ _ h => h.1) fun res => ?_
  by_cases hpos : ∀ e ∈ res.events, 0 < e.ledger
  · have hfolded : 0 < res.foldedLedger s.lastLedger := by
      rw [EventsPage.foldedLedger]
      cases hlast : res.events.getLast? with
      | none => simpa using hledger
      | some last => simpa using hpos last (List.mem_of_getLast? hlast)
    have hdeliver : Ensures (fun w => Following served switches c contractId k
        (Names c s.lastLedger s.lastLedgerHash ∧ ∀ e ∈ res.events, e ∈ c.events) w) (deliver res.events)
        fun _ => Following served switches c contractId k
          (Names c s.lastLedger s.lastLedgerHash ∧ ∀ e ∈ res.events, e ∈ c.events) :=
      ensures_update fun w h => h.imp rfl fun hon => ⟨hon.served, hon.history, hon.also⟩
    refine Ensures.bind (hdeliver.mono (fun _ h => h.2.2) fun _ _ h => h) (fun _ => ?_)
      (fun _ _ h => ⟨following_true h, trivial⟩) fun _ h => ⟨following_true h, trivial⟩
    refine Ensures.bind (ingestPageWithQuarantine_following hE config res s.lastLedger k _) (fun _ => ?_)
      (fun _ _ h => ⟨following_true h, trivial⟩) fun _ h => ⟨following_true h, trivial⟩
    refine Ensures.bind (Ensures.mono (advanceCursor_following hE k cursor res s hfolded) (fun w h => ?_)
      fun _ _ h => h) (fun s' => ?_) (fun _ _ h => h) fun _ h => h
    · exact h.imp rfl fun hon => ⟨hon.served, hon.history, hon.also.1⟩
    · refine ensures_pure fun w h => ⟨h.1, ?_, h.2.2⟩
      dsimp only
      rw [h.2.1]
      exact hfolded
  · exact fun w h => absurd h.2.1 hpos

theorem drain_following (k : Nat) (config : Config) (cursor : Option CursorRow) (drainStart fuel : Nat)
    (s : Drain) (hledger : 0 < s.lastLedger) :
    Ensures (Following served switches c contractId k (Names c s.lastLedger s.lastLedgerHash))
      (drain E config contractId cursor drainStart fuel s) fun _ =>
        Following served switches c contractId k True := by
  induction fuel generalizing s with
  | zero => exact ensures_pure fun w h => following_true h
  | succ fuel ih =>
    have hdrifts : ∀ Q, Drifts E (Following served switches c contractId k Q) := fun Q =>
      (ingestible_following hE k Q).drifts
    refine Ensures.bind (keeps_look .aborted (hdrifts _)) (fun aborted => ?_)
      (fun _ _ h => following_true h) fun _ h => following_true h
    cases aborted with
    | true => exact ensures_pure fun w h => following_true h
    | false =>
      refine Ensures.bind (drainPage_following hE k config cursor s hledger) (fun p => ?_) (fun _ _ h => h.1)
        fun _ h => h.1
      obtain ⟨res, next⟩ := p
      by_cases hnext : 0 < next.lastLedger
      · refine Ensures.bind (R := fun _ => Following served switches c contractId k
          (Names c next.lastLedger next.lastLedgerHash)) ?_ (fun now => ?_) (fun _ _ h => following_true h)
          fun _ h => following_true h
        · exact (keeps_look .now (hdrifts _)).mono (fun w h => h.2.2) fun _ _ h => h
        · dsimp only
          split
          · exact ensures_pure fun w h => following_true h
          · exact ih { next with position := .cursor (res.nextToken s.position) } hnext
      · exact fun w h => absurd h.2.1 hnext

omit hE in
theorem loadCursor_run (w : World ρ) : loadCursor E contractId w = match (E.statement w.env).1 with
    | .done _ => (.done (w.db.indexer_cursor.lookup contractId), { w with env := (E.statement w.env).2 })
    | .raised e => (.raised e, { w with env := (E.statement w.env).2 })
    | .crashed => (.crashed, { w with env := (E.statement w.env).2 }) := by
  rcases hs : (E.statement w.env).1 with _ | _ | _ <;>
    simp [loadCursor, transaction, bind_run, ask, commit, hs]

omit hE in
theorem checkTip_run (cursor : Option CursorRow) (tip : Nat) (w : World ρ) :
    checkTip cursor tip w = (.done (), w) ∨ ∃ m, checkTip cursor tip w = (.raised (.reorgDetected m), w) := by
  rw [checkTip]
  split
  · dsimp only
    split
    · exact .inr ⟨_, rfl⟩
    · exact .inl rfl
  · exact .inl rfl

/-- The comparison is made against the chain then served. -/
theorem checkHash_run {row : CursorRow} {ledger : Nat} (hl : row.last_ledger = some ledger) (hpos : 0 < ledger)
    (hh : row.last_ledger_hash = some (c.hash ledger)) (w : World ρ) :
    (E.getLedgers ledger w.env).1 = .crashed ∨
      checkHash E (some row) w =
        (if (served (E.getLedgers ledger w.env).2).hash ledger = c.hash ledger then .done ()
          else .raised (forkedHash ledger (c.hash ledger) ((served (E.getLedgers ledger w.env).2).hash ledger)),
        { w with env := (E.getLedgers ledger w.env).2 }) := by
  rcases hE.getLedgers ledger w.env with hcrash | hdone
  · exact .inl hcrash
  · right
    have hask : getLedgerHash E ledger w = (.done (some ((served (E.getLedgers ledger w.env).2).hash ledger)),
        { w with env := (E.getLedgers ledger w.env).2 }) := by
      simp [getLedgerHash, tryCatch_run, bind_run, ask, hdone]
    have hprior : CursorRow.priorLedger (some row) = ledger := by simp [CursorRow.priorLedger, hl]
    simp only [checkHash, Option.bind_some, hh, hprior, if_pos (And.intro hpos (c.hash_ne ledger)),
      bind_done hask]
    split <;> simp_all

/-- A comparison that is passed was passed on a chain with the stored hash. -/
theorem checkChain_done {w w₁ : World ρ} (h : OneHistory c contractId w.db) {cursor : Option CursorRow}
    {tip : LedgerInfo} (hcheck : checkChain E contractId w = (.done (cursor, tip), w₁)) :
    cursor = w.db.indexer_cursor.lookup contractId ∧ w₁.db = w.db ∧
      w₁.env = hashAnswered E (lastFolded contractId w) w.env ∧
      (served w₁.env).hash (lastFolded contractId w) = c.hash (lastFolded contractId w) := by
  obtain ⟨row, ledger, hrow, hl, hpos, hh⟩ := h.named
  have hlast : lastFolded contractId w = ledger := by simp [lastFolded, CursorRow.priorLedger, hrow, hl]
  obtain ⟨cursor', w₂, hload, hcheck⟩ := bind_eq_done.mp hcheck
  rw [loadCursor_run, hrow] at hload
  have hload : cursor' = some row ∧ w₂ = { w with env := (E.statement w.env).2 } := by
    split at hload <;> cases hload
    exact ⟨rfl, rfl⟩
  obtain ⟨rfl, rfl⟩ := hload
  obtain ⟨tip', w₃, htip, hcheck⟩ := bind_eq_done.mp hcheck
  obtain rfl : w₃ = { w with env := (E.getLatestLedger (E.statement w.env).2).2 } := (congrArg Prod.snd htip).symm
  obtain ⟨_, w₄, hchecktip, hcheck⟩ := bind_eq_done.mp hcheck
  obtain rfl : w₄ = { w with env := (E.getLatestLedger (E.statement w.env).2).2 } := by
    rcases checkTip_run (some row) tip'.sequence { w with env := (E.getLatestLedger (E.statement w.env).2).2 }
      with hrun | ⟨m, hrun⟩ <;> rw [hrun] at hchecktip <;> cases hchecktip
    rfl
  obtain ⟨_, w₅, hhash, hcheck⟩ := bind_eq_done.mp hcheck
  cases hcheck
  rcases checkHash_run hE hl hpos hh { w with env := (E.getLatestLedger (E.statement w.env).2).2 } with
    hcrash | hrun
  · have hno : checkHash E (some row) { w with env := (E.getLatestLedger (E.statement w.env).2).2 } =
        (.crashed, { w with env := hashAnswered E ledger w.env }) := by
      have hask : getLedgerHash E ledger { w with env := (E.getLatestLedger (E.statement w.env).2).2 } =
          (.crashed, { w with env := hashAnswered E ledger w.env }) := by
        simp [getLedgerHash, tryCatch_run, bind_run, ask, hcrash, hashAnswered]
      have hprior : CursorRow.priorLedger (some row) = ledger := by simp [CursorRow.priorLedger, hl]
      simp only [checkHash, Option.bind_some, hh, hprior, if_pos (And.intro hpos (c.hash_ne ledger)),
        bind_crashed hask]
    rw [hno] at hhash
    cases hhash
  · rw [hrun] at hhash
    split at hhash
    next heq =>
      cases hhash
      exact ⟨hrow.symm, rfl, by rw [hlast]; rfl, by rw [hlast]; exact heq⟩
    · cases hhash

/-- **A fork that is served at the comparison stops the poll before anything is folded.** -/
theorem fork_detected {w : World ρ} (h : OneHistory c contractId w.db)
    (hstatement : (E.statement w.env).1 = .done ()) {tip : LedgerInfo}
    (htip : (E.getLatestLedger (E.statement w.env).2).1 = .done tip)
    (hanswer : (E.getLedgers (lastFolded contractId w) (E.getLatestLedger (E.statement w.env).2).2).1 ≠ .crashed)
    (hfork : (served (hashAnswered E (lastFolded contractId w) w.env)).hash (lastFolded contractId w) ≠
      c.hash (lastFolded contractId w)) (config : Config) :
    ∃ m w', fetchOnce E config contractId w = (.raised (.reorgDetected m), w') ∧ w'.db = w.db := by
  obtain ⟨row, ledger, hrow, hl, hpos, hh⟩ := h.named
  have hlast : lastFolded contractId w = ledger := by simp [lastFolded, CursorRow.priorLedger, hrow, hl]
  rw [hlast] at hanswer hfork
  have hload : loadCursor E contractId w = (.done (some row), { w with env := (E.statement w.env).2 }) := by
    rw [loadCursor_run, hstatement, hrow]
  have hask : ask E.getLatestLedger { w with env := (E.statement w.env).2 } =
      (.done tip, { w with env := (E.getLatestLedger (E.statement w.env).2).2 }) := by
    simp [ask, htip]
  have hcheck : ∃ m w', checkChain E contractId w = (.raised (.reorgDetected m), w') ∧ w'.db = w.db := by
    simp only [checkChain, bind_done hload, bind_done hask]
    rcases checkTip_run (some row) tip.sequence { w with env := (E.getLatestLedger (E.statement w.env).2).2 }
      with hrun | ⟨m, hrun⟩
    · rw [bind_done hrun]
      rcases checkHash_run hE hl hpos hh { w with env := (E.getLatestLedger (E.statement w.env).2).2 } with
        hcrash | hhash
      · exact absurd hcrash hanswer
      · rw [if_neg (by exact hfork)] at hhash
        exact ⟨_, _, bind_raised hhash, rfl⟩
    · exact ⟨_, _, bind_raised hrun, rfl⟩
  obtain ⟨m, w', hrun, hdb⟩ := hcheck
  exact ⟨m, w', bind_raised hrun, hdb⟩

/-- The rest of a poll, once the comparison is passed. -/
theorem drained_following (k : Nat) (config : Config) (cursor : Option CursorRow) (tip : LedgerInfo)
    (hledger : 0 < CursorRow.priorLedger cursor) :
    Ensures (Following served switches c contractId k
        (Names c (CursorRow.priorLedger cursor) (cursor.bind (·.last_ledger_hash))))
      (do
        let position ← startPosition E config cursor
        let drainStart ← look E.now
        let s ← drain E config contractId cursor drainStart config.drainFuel
          { position, lastLedger := CursorRow.priorLedger cursor,
            lastLedgerHash := cursor.bind (·.last_ledger_hash),
            observedTipLedger := (cursor.bind (·.observed_tip_ledger)).getD tip.sequence }
        if s.totalEvents = 0 ∧ s.cursorWritten = false then touchCursor E)
      fun _ => Following served switches c contractId k True := by
  have hdrifts : ∀ Q, Drifts E (Following served switches c contractId k Q) := fun Q =>
    (ingestible_following hE k Q).drifts
  refine Ensures.bind (keeps_startPosition (hdrifts _) config cursor) (fun position => ?_)
    (fun _ _ h => following_true h) fun _ h => following_true h
  refine Ensures.bind (keeps_look .now (hdrifts _)) (fun drainStart => ?_) (fun _ _ h => following_true h)
    fun _ h => following_true h
  refine Ensures.bind (R := fun _ => Following served switches c contractId k True) ?_ (fun s => ?_)
    (fun _ _ h => h) fun _ h => h
  · generalize hs : ({ position, lastLedger := _, lastLedgerHash := _, observedTipLedger := _ } : Drain) = s
    have hl : s.lastLedger = CursorRow.priorLedger cursor := by rw [← hs]
    have hh : s.lastLedgerHash = cursor.bind (·.last_ledger_hash) := by rw [← hs]
    rw [← hl, ← hh]
    exact drain_following hE k config cursor drainStart config.drainFuel s (hl ▸ hledger)
  split
  · refine ensures_transaction (hdrifts True) ?_ (fun _ _ h => h) fun _ h => h
    intro w _ db h hu
    cases hu
    exact h
  · exact Keeps.pure _

theorem fetchOnce_oneHistory (config : Config) :
    Ensures (fun w => OneHistory c contractId w.db ∧ Steady E served switches c contractId config w)
      (fetchOnce E config contractId) fun _ w => OneHistory c contractId w.db := by
  rintro w ⟨h, hsteady⟩
  have hdrift : Drifts E fun w' : World ρ => w'.db = w.db := drifts_db (I := fun db => db = w.db)
  have hdb := (ensures_checkChain hdrift contractId w rfl).1
  have hend := hsteady.steady
  rw [fetchOnce, bind_run] at hend ⊢
  rcases hcheck : checkChain E contractId w with ⟨⟨cursor, tip⟩ | e | _, w₁⟩ <;> rw [hcheck] at hdb
  · obtain ⟨rfl, -, henv, hhash⟩ := checkChain_done hE h hcheck
    have hserved : served w₁.env = c := by
      rcases hsteady.fork with hsame | hne
      · rw [henv, hsame]
      · rw [← henv] at hne
        exact absurd hhash hne
    have hend := hend _ w₁ hcheck
    rw [hcheck] at hend
    obtain ⟨row, ledger, hrow, hl, hpos, hh⟩ := h.named
    have hnames : Names c (CursorRow.priorLedger (w.db.indexer_cursor.lookup contractId))
        ((w.db.indexer_cursor.lookup contractId).bind (·.last_ledger_hash)) := by
      simpa [Names, CursorRow.priorLedger, hrow, hl] using And.intro hpos hh
    have hstart : Following served switches c contractId (switches w₁.env) _ w₁ :=
      ⟨le_rfl, fun _ => ⟨hserved, hdb ▸ h, hnames⟩⟩
    have hrest := drained_following hE (switches w₁.env) config _ tip hnames.1 w₁ hstart
    exact (hrest.2 hend).history
  · dsimp only at hdb ⊢
    exact hdb ▸ h
  · dsimp only at hdb ⊢
    exact hdb ▸ h

end

/-- **One history.** In every run whose polls are each served by one chain from the comparison of
hashes on, everything folded lies on the chain `c` and the stored pair names a ledger of `c`; and
from every state reached, a poll that is served a fork at the comparison raises a
`ReorgDetectedError` before anything of it is folded. -/
theorem one_history_of_run (hE : ServesChains E served switches) {w w' : World ρ}
    (h : PollRun E contractId (Steady E served switches c contractId) w w')
    (hw : OneHistory c contractId w.db) :
    OneHistory c contractId w'.db ∧ ∀ (config : Config) (tip : LedgerInfo),
      (E.statement w'.env).1 = .done () →
      (E.getLatestLedger (E.statement w'.env).2).1 = .done tip →
      (E.getLedgers (lastFolded contractId w') (E.getLatestLedger (E.statement w'.env).2).2).1 ≠ .crashed →
      (served (hashAnswered E (lastFolded contractId w') w'.env)).hash (lastFolded contractId w') ≠
        c.hash (lastFolded contractId w') →
      ∃ m w'', fetchOnce E config contractId w' = (.raised (.reorgDetected m), w'') ∧ w''.db = w'.db := by
  have hreached : OneHistory c contractId w'.db :=
    h.keeps (I := fun w => OneHistory c contractId w.db) (fetchOnce_oneHistory hE) (fun _ h => h) hw
  exact ⟨hreached, fun config _ hs ht ha hf => fork_detected hE hreached hs ht ha hf config⟩

theorem named_ne (name : String) (h : name ≠ "") (n : Nat) : name ++ toString n ≠ "" := by
  intro he
  exact h (String.append_eq_empty_iff.mp he).1

/-- The chain that is served first. -/
def firstChain : Chain where
  events := [.published "0002" 12 "joined" [.str "GA", .bigint 100]]
  hash n := "A" ++ toString n
  hash_ne := named_ne "A" (by decide)
  ledger_pos := by decide

/-- A fork of it that has no ledger in common with it. -/
def secondChain : Chain where
  events := [.published "0003" 13 "joined" [.str "GB", .bigint 100]]
  hash n := "B" ++ toString n
  hash_ne := named_ne "B" (by decide)
  ledger_pos := by decide

/-- The first `k - 1` waits are answered from the first chain. -/
def servedAt (k n : Nat) : Chain := if n < k then firstChain else secondChain

def switchesAt (k n : Nat) : Nat := if n < k then 0 else 1

def forkAt (k : Nat) : Environment Nat where
  statement n := (.done (), n + 1)
  pg_try_advisory_lock n := (.done true, n + 1)
  getLatestLedger n := (.done { sequence := 20, hash := (servedAt k (n + 1)).hash 20 }, n + 1)
  getLedgers ledger n := (.done (some ⟨ledger, (servedAt k (n + 1)).hash ledger⟩), n + 1)
  getEvents request n :=
    let events := ((servedAt k (n + 1)).events.filter request.position.admits).take request.limit.toNat
    (.done { events, cursor := events.getLast?.map (·.id), latestLedger := some 20 }, n + 1)
  now n := (0, n + 1)
  aborted n := (false, n + 1)

theorem servesChains_forkAt (k : Nat) : ServesChains (forkAt k) (servedAt k) (switchesAt k) where
  getLedgers ledger n := .inr rfl
  getEvents request n res hres e he := by
    cases hres
    exact List.mem_of_mem_filter (List.mem_of_mem_take he)
  same n n' hstep := by
    have hn : n' = n + 1 := by cases hstep <;> rfl
    subst hn
    by_cases h₁ : n + 1 < k
    · have h₀ : n < k := by omega
      simp [switchesAt, servedAt, h₀, h₁]
    · by_cases h₀ : n < k <;> simp [switchesAt, servedAt, h₀, h₁]

/-- A poller that has folded up to ledger 10 of the first chain. -/
def atLedgerTen : World Nat :=
  let row : CursorRow := ⟨some "0001", some 10, some "A10", none⟩
  { db := { indexer_cursor := (∅ : Table String CursorRow).insert "C" row }, memory := {}, env := 0 }

theorem oneHistory_atLedgerTen : OneHistory firstChain "C" atLedgerTen.db where
  folded ev hev := by cases hev
  named := ⟨_, 10, AList.lookup_insert _, rfl, by decide, by decide⟩

def onePage : Config := { contractIds := ["C"] }

def pollAt (k : Nat) (w : World Nat) : Outcome Failure Unit × World Nat := fetchOnce (forkAt k) onePage "C" w

/-- The first chain is served for one poll, the fork from the next one on: one history is folded, and
the next poll stops. -/
theorem one_history_of_run_fork_between_polls :
    OneHistory firstChain "C" (recover (pollAt 16 atLedgerTen)).db ∧
      ∃ m w'', pollAt 16 (recover (pollAt 16 atLedgerTen)) = (.raised (.reorgDetected m), w'') := by
  have hsteady : Steady (forkAt 16) (servedAt 16) (switchesAt 16) firstChain "C" onePage atLedgerTen := by
    refine ⟨.inl rfl, fun p w₁ hcheck => ?_⟩
    have hcheckEnv : switchesAt 16 (checkChain (forkAt 16) "C" atLedgerTen).2.env = 0 := by decide +kernel
    have hendEnv : switchesAt 16 (fetchOnce (forkAt 16) onePage "C" atLedgerTen).2.env = 0 := by
      decide +kernel
    rw [hcheck] at hcheckEnv
    rw [hendEnv, hcheckEnv]
  have hrun : PollRun (forkAt 16) "C" (Steady (forkAt 16) (servedAt 16) (switchesAt 16) firstChain "C")
      atLedgerTen (recover (pollAt 16 atLedgerTen)) := .poll onePage (.refl _) hsteady
  obtain ⟨h, hdetect⟩ := one_history_of_run (servesChains_forkAt 16) hrun oneHistory_atLedgerTen
  refine ⟨h, ?_⟩
  have hlast : lastFolded "C" (recover (pollAt 16 atLedgerTen)) = 12 := by decide +kernel
  have henv : (recover (pollAt 16 atLedgerTen)).env = 15 := by decide +kernel
  rw [hlast, henv] at hdetect
  obtain ⟨m, w'', hpoll, -⟩ := hdetect onePage ⟨20, secondChain.hash 20⟩ rfl rfl (by simp [forkAt]) (by decide)
  exact ⟨m, w'', hpoll⟩

/-- The fork is served after the comparison of the second poll: no poll fails, and events of both
chains are folded. -/
theorem fork_after_comparison_is_folded :
    ServesChains (forkAt 19) (servedAt 19) (switchesAt 19) ∧ firstChain.hash 12 ≠ secondChain.hash 12 ∧
      (pollAt 19 atLedgerTen).1 = .done () ∧ (pollAt 19 (pollAt 19 atLedgerTen).2).1 = .done () ∧
      ∀ n, ¬ OneHistory (servedAt 19 n) "C" (pollAt 19 (pollAt 19 atLedgerTen).2).2.db := by
  refine ⟨servesChains_forkAt 19, by decide, by decide +kernel, by decide +kernel, fun n h => ?_⟩
  have hids : (pollAt 19 (pollAt 19 atLedgerTen).2).2.db.applied.map (·.id) = ["0002", "0003"] := by
    decide +kernel
  have hboth : ∀ id ∈ ["0002", "0003"], ∃ raw ∈ (servedAt 19 n).events, raw.id = id := by
    intro id hid
    rw [← hids] at hid
    obtain ⟨ev, hev, rfl⟩ := List.mem_map.mp hid
    obtain ⟨raw, hraw, hdecode⟩ := h.folded ev hev
    exact ⟨raw, hraw, (decodeEvent_eq_ok hdecode).1.symm⟩
  by_cases hn : n < 19
  · have hmissing : ∀ raw ∈ firstChain.events, raw.id ≠ "0003" := by decide
    obtain ⟨raw, hraw, hid⟩ := hboth "0003" (by decide)
    rw [servedAt, if_pos hn] at hraw
    exact hmissing raw hraw hid
  · have hmissing : ∀ raw ∈ secondChain.events, raw.id ≠ "0002" := by decide
    obtain ⟨raw, hraw, hid⟩ := hboth "0002" (by decide)
    rw [servedAt, if_neg hn] at hraw
    exact hmissing raw hraw hid

end OurDao
