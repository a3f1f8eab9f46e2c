import OurDao.Database
import OurDao.Faults
import OurDao.Utf16

/-!
# The process and its surroundings

A worker process keeps a little state of its own, shares the database, and waits for
answers from outside: from Postgres, from the RPC server, from the clock. Every answer
is drawn from an `Environment`, whose state evolves as it likes; at every wait the
process may also die. A transaction is one wait: until its commit nothing it did is
there, and after it everything is.
-/

namespace OurDao

open Faults Op

/-- The settings of the indexer, as the environment variables give them. -/
structure Config where
  contractIds : List String
  startLedger : Int := 0
  startLookbackLedgers : Int := 17280
  pageLimit : Int := 100
  maxDrainPages : Int := 20
  maxDrainMs : Int := 30000
  quarantineAfterFailures : Int := 3
  resetOnContractChange : Bool := false

structure QuarantineState where
  pageKey : String
  errorMessage : JsText
  failures : Nat
  deriving DecidableEq, Repr

/-- The module state of the poller, lost with the process. -/
structure Memory where
  quarantineStates : Table String (Option QuarantineState) := ∅
  quarantineStatesLoaded : List String := []

/-- A line the process prints. -/
inductive Notice where
  | quarantined (eventId error : String)
  /-- the insert into `failed_events` failed -/
  | notRecorded (eventId : String)
  /-- the switch to per-event quarantine mode -/
  | switching (contractId : String) (failures : Nat) (error : String)
  | staleContracts (stale : List String)
  deriving DecidableEq, Repr

structure World (ρ : Type) where
  db : Db
  memory : Memory
  env : ρ
  /-- every event an RPC page has delivered, in order -/
  delivered : List EventResponse := []
  console : List Notice := []
  /-- the stream notifications that went out, with the symbol they name -/
  sent : List (StreamChannel × String) := []

/-- Where a `getEvents` request starts reading. -/
inductive Position where
  | cursor (token : Option String)
  | startLedger (ledger : Nat)
  deriving DecidableEq, Repr

structure Request where
  contractId : String
  limit : Int
  position : Position
  deriving DecidableEq, Repr

structure EventsPage where
  events : List EventResponse
  cursor : Option String
  latestLedger : Option Nat

structure LedgerInfo where
  sequence : Nat
  hash : String
  deriving DecidableEq, Repr

/-- Everything a process waits for. An answer may be an error, and the process may die
waiting for it. -/
structure Environment (ρ : Type) where
  /-- the fate of a statement, or of a whole transaction, up to its commit -/
  statement : Op ρ Failure Unit
  pg_try_advisory_lock : Op ρ Failure Bool
  getLatestLedger : Op ρ Failure LedgerInfo
  getLedgers : Nat → Op ρ Failure (Option LedgerInfo)
  getEvents : Request → Op ρ Failure EventsPage
  now : ρ → Nat × ρ
  aborted : ρ → Bool × ρ

/-- Surroundings in which statement number `n` meets the fate `fate n`, the lock is free, and
the RPC is down. -/
def Environment.scripted (fate : Nat → Outcome Failure Unit) : Environment Nat where
  statement n := (fate n, n + 1)
  pg_try_advisory_lock n := (.done true, n)
  getLatestLedger n := (.raised (.error "RPC down"), n)
  getLedgers _ n := (.raised (.error "RPC down"), n)
  getEvents _ n := (.raised (.error "RPC down"), n)
  now n := (0, n)
  aborted n := (false, n)

/-- Every statement succeeds. -/
def Environment.healthy : Environment Nat := .scripted fun _ => .done ()

abbrev Proc (ρ : Type) : Type → Type := Op (World ρ) Failure

variable {ρ α β : Type} (E : Environment ρ)

/-- Wait for an answer from outside. -/
def ask (m : Op ρ Failure α) : Proc ρ α := fun w =>
  ((m w.env).1, { w with env := (m w.env).2 })

/-- Look at something that is always there. -/
def look (m : ρ → α × ρ) : Proc ρ α := fun w => (.done (m w.env).1, { w with env := (m w.env).2 })

/-- Run a transaction's statements on the database. -/
def commit (body : Tx α) : Proc ρ α := fun w =>
  match body w.db with
  | .ok (a, db) => (.done a, { w with db })
  | .error e => (.raised e, w)

/-- `BEGIN`, the statements, `COMMIT`; or a single statement on its own. -/
def transaction (body : Tx α) : Proc ρ α := do
  ask E.statement
  commit body

/-- Go on whatever error this raises. -/
def swallow (m : Proc ρ Unit) : Proc ρ Unit := tryCatch m fun _ => pure ()

def say (n : Notice) : Proc ρ Unit := update fun w => { w with console := w.console ++ [n] }

/-- Run `body` under the advisory lock, which is released however it ends. -/
def withLock (busy : String) (body : Proc ρ α) : Proc ρ α := do
  let locked ← ask E.pg_try_advisory_lock
  if !locked then throw (.error busy)
  else do
    let a ← tryCatch body fun err => do
      swallow (ask E.statement)
      throw err
    swallow (ask E.statement)
    return a

/-- The stream notifications after a commit: a failed one is only logged. -/
def announce (channels : List (StreamChannel × String)) : Proc ρ Unit :=
  forM channels fun n => swallow do
    ask E.statement
    update fun w => { w with sent := w.sent ++ [n] }

/-- A process with an empty database. -/
def freshWorld (r : ρ) : World ρ := { db := Db.empty, memory := {}, env := r }

/-- A new process on the same database. -/
def restart (w : World ρ) : World ρ := { w with memory := {} }

/-- A process that died is started again. -/
def recover (o : Outcome Failure α × World ρ) : World ρ :=
  match o.1 with
  | .crashed => restart o.2
  | _ => o.2

-- An assertion about a world drifts when it survives whatever the surroundings do while
-- the process waits.

/-- One wait for an answer. -/
inductive Environment.Step : ρ → ρ → Prop
  | statement (r : ρ) : Step r (E.statement r).2
  | pg_try_advisory_lock (r : ρ) : Step r (E.pg_try_advisory_lock r).2
  | getLatestLedger (r : ρ) : Step r (E.getLatestLedger r).2
  | getLedgers (r : ρ) (n : Nat) : Step r (E.getLedgers n r).2
  | getEvents (r : ρ) (request : Request) : Step r (E.getEvents request r).2
  | now (r : ρ) : Step r (E.now r).2
  | aborted (r : ρ) : Step r (E.aborted r).2

structure Drifts (P : World ρ → Prop) : Prop where
  env : ∀ w r, E.Step w.env r → P w → P { w with env := r }
  sent : ∀ w sent, P w → P { w with sent := sent }

variable {E} {P : World ρ → Prop}

theorem drifts_db {I : Db → Prop} : Drifts E fun w => I w.db := ⟨fun _ _ _ h => h, fun _ _ h => h⟩

/-- Facts that no wait can change. -/
theorem drifts_const (p : Prop) : Drifts E fun _ => p := ⟨fun _ _ _ h => h, fun _ _ h => h⟩

theorem Drifts.and {Q : World ρ → Prop} (hP : Drifts E P) (hQ : Drifts E Q) :
    Drifts E fun w => P w ∧ Q w :=
  ⟨fun w r hr h => ⟨hP.env w r hr h.1, hQ.env w r hr h.2⟩,
    fun w sent h => ⟨hP.sent w sent h.1, hQ.sent w sent h.2⟩⟩

theorem Drifts.orRaises {Q : α → World ρ → Prop} {R : Failure → World ρ → Prop} (hQ : ∀ a, Drifts E (Q a))
    (hR : ∀ e, Drifts E (R e)) (o : Outcome Failure α) : Drifts E (OrRaises Q R o) := by
  cases o with
  | done a => exact hQ a
  | raised e => exact hR e
  | crashed => exact drifts_const False

theorem drifts_onDone {Q : α → World ρ → Prop} (hQ : ∀ a, Drifts E (Q a)) (o : Outcome Failure α) :
    Drifts E (OnDone Q o) := by
  cases o with
  | done a => exact hQ a
  | raised e => exact drifts_const True
  | crashed => exact drifts_const True

theorem keeps_ask {m : Op ρ Failure α} (hm : ∀ r, E.Step r (m r).2) (hP : Drifts E P) :
    Keeps P (ask m) := fun w h => hP.env w _ (hm w.env) h

theorem keeps_look {m : ρ → α × ρ} (hm : ∀ r, E.Step r (m r).2) (hP : Drifts E P) :
    Keeps P (look m) := fun w h => hP.env w _ (hm w.env) h

theorem keeps_statement (hP : Drifts E P) : Keeps P (ask E.statement) := keeps_ask .statement hP

theorem keeps_swallow {m : Proc ρ Unit} (h : Keeps P m) : Keeps P (swallow m) :=
  h.tryCatch fun _ => Keeps.pure ()

theorem ensures_say {n : Notice} {Q : Outcome Failure Unit → World ρ → Prop}
    (h : ∀ w, P w → Q (.done ()) { w with console := w.console ++ [n] }) : Ensures P (say n) Q := h

theorem keeps_announce (hP : Drifts E P) (channels : List (StreamChannel × String)) :
    Keeps P (announce E channels) :=
  Keeps.forM channels fun _ _ => keeps_swallow <|
    (keeps_statement hP).bind fun _ => fun w h => hP.sent w _ h

theorem ensures_commit {body : Tx α} {Q : Outcome Failure α → World ρ → Prop}
    (hdone : ∀ w a db, P w → body w.db = .ok (a, db) → Q (.done a) { w with db := db })
    (hraised : ∀ w e, P w → body w.db = .error e → Q (.raised e) w) : Ensures P (commit body) Q := by
  intro w hw
  rcases hb : body w.db with e | ⟨a, db⟩
  · simpa [commit, hb] using hraised w e hw hb
  · simpa [commit, hb] using hdone w a db hw hb

/-- A transaction ends committed, or with the database as it was. -/
theorem ensures_transaction (hP : Drifts E P) {body : Tx α} {Q : Outcome Failure α → World ρ → Prop}
    (hdone : ∀ w a db, P w → body w.db = .ok (a, db) → Q (.done a) { w with db := db })
    (hraised : ∀ w e, P w → Q (.raised e) w) (hcrashed : ∀ w, P w → Q .crashed w) :
    Ensures P (transaction E body) Q :=
  Ensures.bind (keeps_statement hP) (fun _ => ensures_commit hdone fun w e hw _ => hraised w e hw)
    (fun e w => hraised w e) hcrashed

theorem ensures_transaction_done (hP : Drifts E P) {body : Tx α} {Q : α → World ρ → Prop}
    (hdone : ∀ w a db, P w → body w.db = .ok (a, db) → Q a { w with db := db }) :
    Ensures P (transaction E body) (OnDone Q) :=
  ensures_transaction hP hdone (fun _ _ _ => trivial) fun _ _ => trivial

theorem keeps_transaction {I : Db → Prop} {body : Tx α}
    (h : ∀ db a db', I db → body db = .ok (a, db') → I db') :
    Keeps (fun w => I w.db) (transaction E body) :=
  ensures_transaction drifts_db (fun w _ _ hw hb => h w.db _ _ hw hb) (fun _ _ h => h) fun _ h => h

theorem drifts_same {db : Db} : Drifts E fun w : World ρ => w.db = db := drifts_db (I := (· = db))

/-- A read changes nothing. -/
theorem ensures_read {db : Db} (f : Db → α) :
    Ensures (fun w : World ρ => w.db = db) (transaction E fun db => .ok (f db, db))
      fun o w => w.db = db ∧ ∀ a, o = .done a → a = f db := by
  refine ensures_transaction drifts_same ?_ (fun _ _ h => ⟨h, by simp⟩) fun _ h => ⟨h, by simp⟩
  intro w a db' hw h
  cases h
  exact ⟨hw, fun a' ha => by cases ha; rw [hw]⟩

theorem keeps_db_read {db : Db} (f : Db → α) :
    Keeps (fun w : World ρ => w.db = db) (transaction E fun db => .ok (f db, db)) :=
  (ensures_read f).post fun _ _ h => h.1

/-- Giving the lock back raises nothing; the process may die there. -/
theorem ensures_unlock (hP : Drifts E P) {next : Proc ρ α} {Q : Outcome Failure α → World ρ → Prop}
    (hnext : Ensures P next Q) (hcrashed : ∀ w, P w → Q .crashed w) :
    Ensures P (do swallow (ask E.statement); next) Q := by
  have hunlock : Ensures P (swallow (ask E.statement)) fun o w => P w ∧ ∀ e, o ≠ .raised e :=
    Ensures.tryCatch (keeps_statement hP) (fun _ _ h => ⟨h, by simp⟩)
      (fun _ => ensures_pure fun _ h => ⟨h, by simp⟩) fun _ h => ⟨h, by simp⟩
  exact Ensures.bind hunlock (fun _ => hnext.mono (fun _ h => h.1) fun _ _ h => h)
    (fun e _ h => absurd rfl (h.2 e)) fun w h => hcrashed w h.1

/-- The lock does nothing to an assertion but let it drift. -/
theorem ensures_withLock (hP : Drifts E P) {busy : String} {body : Proc ρ α}
    {Q : Outcome Failure α → World ρ → Prop} (hbody : Ensures P body Q) (hQ : ∀ o, Drifts E (Q o))
    (hearly : ∀ e w, P w → Q (.raised e) w) (hcrash : ∀ w, P w → Q .crashed w)
    (hlate : ∀ o w, Q o w → Q .crashed w) : Ensures P (withLock E busy body) Q := by
  refine Ensures.bind (keeps_ask .pg_try_advisory_lock hP) (fun locked => ?_) hearly hcrash
  cases locked with
  | false => exact ensures_throw (hearly _)
  | true =>
    refine Ensures.bind (R := Q) ?_ (fun a => ?_) (fun _ _ h => h) fun _ h => h
    · refine Ensures.tryCatch hbody (fun _ _ h => h) (fun err => ?_) fun _ h => h
      exact ensures_unlock (hQ _) (ensures_throw fun _ h => h) (hlate _)
    · exact ensures_unlock (hQ _) (ensures_pure fun _ h => h) (hlate _)

theorem ensures_withLock_done (hP : Drifts E P) {busy : String} {body : Proc ρ α}
    {Q : α → World ρ → Prop} (hbody : Ensures P body (OnDone Q)) (hQ : ∀ a, Drifts E (Q a)) :
    Ensures P (withLock E busy body) (OnDone Q) := by
  exact ensures_withLock hP hbody (drifts_onDone hQ) (fun _ _ _ => trivial) (fun _ _ => trivial) fun _ _ _ => trivial

theorem keeps_withLock (hP : Drifts E P) {busy : String} {body : Proc ρ α} (h : Keeps P body) :
    Keeps P (withLock E busy body) :=
  ensures_withLock hP h (fun _ => hP) (fun _ _ h => h) (fun _ h => h) fun _ _ h => h

-- The database answers and the lock is free; the RPC may still do as it likes.

structure Environment.Healthy (E : Environment ρ) : Prop where
  statement : ∀ r, (E.statement r).1 = .done ()
  lock : ∀ r, (E.pg_try_advisory_lock r).1 = .done true

namespace Environment.Healthy

variable (hE : E.Healthy)
include hE

theorem returns_statement (hP : Drifts E P) : Returns P (ask E.statement) fun _ => P :=
  fun w hw => ⟨(), hE.statement w.env, hP.env w _ (.statement w.env) hw⟩

theorem transaction (hP : Drifts E P) {body : Tx α} {Q : Outcome Failure α → World ρ → Prop}
    (hdone : ∀ w a db, P w → body w.db = .ok (a, db) → Q (.done a) { w with db := db })
    (hraised : ∀ w e, P w → body w.db = .error e → Q (.raised e) w) :
    Ensures P (transaction E body) Q :=
  (hE.returns_statement hP).bind_ensures fun _ => ensures_commit hdone hraised

theorem returns_transaction (hP : Drifts E P) {body : Tx α} {Q : α → World ρ → Prop}
    (h : ∀ w, P w → ∃ a db, body w.db = .ok (a, db) ∧ Q a { w with db }) :
    Returns P (OurDao.transaction E body) Q := by
  refine hE.transaction hP (fun w a db hw hb => ?_) fun w e hw hb => ?_
  · obtain ⟨a', db', hok, hQ⟩ := h w hw
    rw [hok] at hb
    cases hb
    exact ⟨_, rfl, hQ⟩
  · obtain ⟨a', db', hok, -⟩ := h w hw
    rw [hok] at hb
    cases hb

theorem returns_swallow_statement (hP : Drifts E P) : Returns P (swallow (ask E.statement)) fun _ => P :=
  (hE.returns_statement hP).tryCatch

theorem withLock (hP : Drifts E P) {busy : String} {body : Proc ρ α}
    {Q : Outcome Failure α → World ρ → Prop} (hbody : Ensures P body Q) (hQ : ∀ o, Drifts E (Q o)) :
    Ensures P (withLock E busy body) Q := by
  have hlock : Returns P (ask E.pg_try_advisory_lock) fun locked w => locked = true ∧ P w :=
    fun w hw => ⟨true, hE.lock w.env, rfl, hP.env w _ (.pg_try_advisory_lock w.env) hw⟩
  refine hlock.bind_ensures fun locked => ?_
  cases locked with
  | false => exact fun w h => by cases h.1
  | true =>
    refine Ensures.bind (R := Q) ?_ (fun a => ?_) (fun _ _ h => h) fun _ h => h
    · refine Ensures.tryCatch (hbody.mono (fun _ h => h.2) fun _ _ h => h) (fun _ _ h => h)
        (fun err => ?_) fun _ h => h
      exact (hE.returns_swallow_statement (hQ _)).bind_ensures fun _ => ensures_throw fun _ h => h
    · exact (hE.returns_swallow_statement (hQ _)).bind_ensures fun _ => ensures_pure fun _ h => h

theorem returns_withLock (hP : Drifts E P) {busy : String} {body : Proc ρ α} {Q : α → World ρ → Prop}
    (hbody : Returns P body Q) (hQ : ∀ a, Drifts E (Q a)) : Returns P (OurDao.withLock E busy body) Q := by
  refine hE.withLock hP hbody fun o => ⟨?_, ?_⟩
  · rintro w r hr ⟨a, ho, h⟩
    exact ⟨a, ho, (hQ a).env w r hr h⟩
  · rintro w sent ⟨a, ho, h⟩
    exact ⟨a, ho, (hQ a).sent w sent h⟩

theorem returns_announce (hP : Drifts E P) (channels : List (StreamChannel × String)) :
    Returns P (announce E channels) fun _ => P := by
  refine returns_forM (P := fun _ => P) channels fun before n after _ => ?_
  refine Returns.tryCatch ((hE.returns_statement hP).bind fun _ => ?_)
  exact returns_update fun w h => hP.sent w _ h

end Environment.Healthy

end OurDao
