import Mathlib.Logic.Relation
import OurDao.Poller
import OurDao.Rebuild

/-!
# The worker

`runIndexer` polls every configured contract in turn until it is stopped or detects a
reorganisation, which it records before it gives up; a later run refuses to start over
a recorded one. The run is a machine whose every step is a piece of the loop, so that
other processes may work on the database between any two of them.
-/

namespace OurDao

open Faults Op

/-- The settings of a worker process. -/
structure WorkerConfig extends Config where
  contractId : String := ""
  pollIntervalMs : Int := 5000
  maxBackoffMs : Int := 60000

/-- The ids that come up again, each once. -/
def duplicates (ids : List String) : List String :=
  (ids.foldl (fun (s : List String × List String) id =>
    (id :: s.1, if id ∈ s.1 ∧ id ∉ s.2 then s.2 ++ [id] else s.2)) ([], [])).2

def assertContractConfigured (config : WorkerConfig) : Except String String :=
  if config.contractId = "" then
    .error ("CONTRACT_ID is not set. The indexer needs the deployed OurDAO contract id to poll " ++
      "events.")
  else .ok config.contractId

def assertContractsConfigured (config : WorkerConfig) : Except String (List String) :=
  if config.contractIds.isEmpty then (assertContractConfigured config).map ([·])
  else if (duplicates config.contractIds).isEmpty then .ok config.contractIds
  else .error ("CONTRACT_IDS lists the same contract id more than once: " ++
    ", ".intercalate (duplicates config.contractIds))

/-- The discontinuities no operator has cleared. -/
def Db.openHalts (db : Db) : List ReorgHalt := db.reorg_halts.filter (·.cleared_by.isNone)

/-- The `INSERT`, with the `now()` of its transaction; the table only grows. -/
def insertReorgHalt (contractId : String) (lastLedger : Option Nat) (lastLedgerHash : Option String)
    (detail : String) (now : Int) : Tx Unit := modify fun db =>
  { db with reorg_halts := db.reorg_halts ++
      [{ id := db.reorg_halts.length + 1, contract_id := contractId, last_ledger := lastLedger,
         last_ledger_hash := lastLedgerHash, detail, detected_at := now }] }

/-- `UPDATE reorg_halts SET cleared_at = now(), cleared_by = … WHERE cleared_at IS NULL`: how many
rows were cleared. -/
def clearReorgHalts (clearedBy : String) : Tx Nat := fun db =>
  .ok (db.openHalts.length, { db with reorg_halts := db.reorg_halts.map (ReorgHalt.clear clearedBy) })

variable {ρ : Type} (E : Environment ρ)

/-- The most recent discontinuity that is not cleared. -/
def loadUnclearedReorgHalt : Proc ρ (Option ReorgHalt) :=
  transaction E fun db => .ok (db.openHalts.getLast?, db)

/-- A failure to record the halt must not mask it. -/
def recordReorgHalt (contractId detail : String) : Proc ρ Unit := swallow do
  let cursor ← loadCursor E contractId
  transaction E (insertReorgHalt contractId (cursor.bind (·.last_ledger))
    (cursor.bind (·.last_ledger_hash)) detail (← look E.now))

/-- The proleptic Gregorian date of a day counted from the epoch: year, month and day of the month. -/
def civilDate (day : Int) : Int × Int × Int :=
  -- counted from a first of March, four hundred years are 146097 days and a leap day ends a year
  let z := day + 719468
  let doe := z % 146097
  let yoe := (doe - doe / 1460 + doe / 36524 - doe / 146096) / 365
  let doy := doe - (365 * yoe + yoe / 4 - yoe / 100)
  let mp := (5 * doy + 2) / 153
  let month := if mp < 10 then mp + 3 else mp - 9
  (yoe + z / 146097 * 400 + (if month ≤ 2 then 1 else 0), month, doy - (153 * mp + 2) / 5 + 1)

def padded (width : Nat) (n : Int) : String :=
  String.ofList (List.leftpad width '0' (Nat.toDigits 10 n.natAbs))

/-- `Date.prototype.toISOString` of the milliseconds since the epoch. -/
def toISOString (ms : Int) : String :=
  let (year, month, day) := civilDate (ms / 86400000)
  let time := ms % 86400000
  (if year < 0 then "-" ++ padded 6 year else if year > 9999 then "+" ++ padded 6 year else padded 4 year) ++
    "-" ++ padded 2 month ++ "-" ++ padded 2 day ++ "T" ++ padded 2 (time / 3600000) ++ ":" ++
    padded 2 (time / 60000 % 60) ++ ":" ++ padded 2 (time / 1000 % 60) ++ "." ++ padded 3 (time % 1000) ++ "Z"

example : [951827696789, -1, 253402300800000].map toISOString =
    ["2000-02-29T12:34:56.789Z", "1969-12-31T23:59:59.999Z", "+010000-01-01T00:00:00.000Z"] := by
  decide +kernel

def reorgHalted (halt : ReorgHalt) : Failure :=
  .error (s!"a ledger discontinuity recorded at {toISOString halt.detected_at} on {halt.contract_id} " ++
    "(last folded ledger " ++ (halt.last_ledger.map toString).getD "unknown" ++
    s!") has not been cleared: {halt.detail}. " ++
    "Confirm the chain state, then run `npm run reindex` (rebuilds and clears) or " ++
    "`npm run reorg:clear` for a false alarm. See docs/REORG_RECOVERY.md.")

def broadcastResyncToAllChannels : Proc ρ Unit :=
  announce E ([.members, .loan_proposals, .loans, .treasury_proposals, .interest].map (·, "reorg_detected"))

/-- The failures and the next poll of each contract. -/
structure Schedule where
  consecutiveFailures : Table String Nat := ∅
  nextPollAt : Table String Int := ∅

/-- Where a worker is in `runIndexer`. -/
inductive Phase where
  /-- no process is running -/
  | stopped
  | starting
  /-- no halt was found at the start -/
  | resuming
  /-- at the head of the loop -/
  | ticking (contractIds : List String) (s : Schedule)
  /-- `due` is what is left of a round over the contracts that began at `now` -/
  | polling (contractIds : List String) (s : Schedule) (now : Nat) (due : List String)
  /-- a `ReorgDetectedError` was caught -/
  | halting (contractId detail : String)
  /-- the attempt to record it is over -/
  | halted (contractId detail : String)

namespace Schedule

/-- The delay after so many failures in a row. -/
def delay (config : WorkerConfig) (failures : Nat) : Int :=
  if failures = 0 then config.pollIntervalMs
  else min (config.pollIntervalMs * 2 ^ failures) config.maxBackoffMs

/-- A contract was polled. -/
def polled (s : Schedule) (config : WorkerConfig) (contractId : String) (failures now : Nat) : Schedule where
  consecutiveFailures := s.consecutiveFailures.insert contractId failures
  nextPollAt := s.nextPollAt.insert contractId (now + delay config failures)

def failures (s : Schedule) (contractId : String) : Nat := (s.consecutiveFailures.lookup contractId).getD 0

def isDue (s : Schedule) (contractId : String) (now : Nat) : Bool :=
  (s.nextPollAt.lookup contractId).getD 0 ≤ now

end Schedule

/-- Poll one contract: the failures in a row after it, or the detail of a reorganisation. -/
def pollContract (config : WorkerConfig) (s : Schedule) (contractId : String) : Proc ρ (Except String Nat) :=
  tryCatch
    (do
      fetchOnce E config.toConfig contractId
      return .ok 0)
    fun
      | .reorgDetected detail => return .error detail
      | .error _ => return .ok (s.failures contractId + 1)

/-- What `runIndexer` does next. -/
def Phase.next (config : WorkerConfig) : Phase → Proc ρ Phase
  | stopped => return stopped
  | starting => do
    match ← loadUnclearedReorgHalt E with
    | some halt => throw (reorgHalted halt)
    | none => return resuming
  | resuming =>
    match assertContractsConfigured config with
    | .error m => throw (.error m)
    | .ok contractIds => do
      ensureCursorContract E config.toConfig contractIds
      return ticking contractIds {}
  | ticking contractIds s => do
    if ← look E.aborted then return stopped
    else return polling contractIds s (← look E.now) contractIds
  | polling contractIds s _ [] => return ticking contractIds s
  | polling contractIds s now (contractId :: due) => do
    if ← look E.aborted then return ticking contractIds s
    else if !s.isDue contractId now then return polling contractIds s now due
    else
      match ← pollContract E config s contractId with
      | .error detail => return halting contractId detail
      | .ok failures =>
        return polling contractIds (s.polled config contractId failures (← look E.now)) now due
  | halting contractId detail => do
    recordReorgHalt E contractId detail
    return halted contractId detail
  | halted contractId detail => do
    let _ ← loadCursor E contractId
    broadcastResyncToAllChannels E
    throw (.reorgDetected detail)

/-- The database with at most one worker process. -/
structure Worker (ρ : Type) where
  config : WorkerConfig
  phase : Phase
  world : World ρ

/-- The worker process takes its next step, or ends with it. -/
inductive Worker.Next : Worker ρ → Worker ρ → Prop
  | start (config : WorkerConfig) {w : Worker ρ} (hstopped : w.phase = .stopped) :
      Next w ⟨config, .starting, restart w.world⟩
  | step {w : Worker ρ} {phase : Phase} {world : World ρ}
      (h : w.phase.next E w.config w.world = (.done phase, world)) : Next w ⟨w.config, phase, world⟩
  | fail {w : Worker ρ} {e : Failure} {world : World ρ}
      (h : w.phase.next E w.config w.world = (.raised e, world)) : Next w ⟨w.config, .stopped, world⟩
  | die {w : Worker ρ} {world : World ρ} (h : w.phase.next E w.config w.world = (.crashed, world)) :
      Next w ⟨w.config, .stopped, world⟩

/-- The worker takes a step, or another process changes the database. -/
inductive Worker.Step (w : Worker ρ) : Worker ρ → Prop
  | worker {w' : Worker ρ} (h : w.Next E w') : Step w w'
  | others (db : Db) : Step w ⟨w.config, w.phase, { w.world with db }⟩

variable {E}

theorem openHalts_clear (db : Db) (clearedBy : String) :
    { db with reorg_halts := db.reorg_halts.map (ReorgHalt.clear clearedBy) }.openHalts = [] :=
  ReorgHalt.filter_clear clearedBy db.reorg_halts

section

variable {db : Db}

/-- A start over an open halt is refused. -/
theorem starting_refused (config : WorkerConfig) (hopen : db.openHalts ≠ []) :
    Ensures (fun w : World ρ => w.db = db) (Phase.next E config .starting)
      fun o w => w.db = db ∧ ∀ phase, o ≠ .done phase := by
  refine Ensures.bind (ensures_read fun db => db.openHalts.getLast?) (fun halt => ?_)
    (fun _ _ h => ⟨h.1, by simp⟩) fun _ h => ⟨h.1, by simp⟩
  cases halt with
  | some halt => exact ensures_throw fun w h => ⟨h.1, by simp⟩
  | none =>
    rintro w ⟨-, hnone⟩
    have hlast := hnone none rfl
    exact absurd (List.getLast?_eq_none_iff.mp hlast.symm) hopen

/-- After the attempt to record a halt, the run only reports it. -/
theorem halted_gives_up (config : WorkerConfig) (contractId detail : String) :
    Ensures (fun w : World ρ => w.db = db) (Phase.next E config (.halted contractId detail))
      fun o w => w.db = db ∧ ∀ phase, o ≠ .done phase := by
  refine Ensures.bind (keeps_db_read fun db => db.indexer_cursor.lookup contractId) (fun _ => ?_)
    (fun _ _ h => ⟨h, by simp⟩) fun _ h => ⟨h, by simp⟩
  refine Ensures.bind (keeps_announce drifts_same _) (fun _ => ?_) (fun _ _ h => ⟨h, by simp⟩)
    fun _ h => ⟨h, by simp⟩
  exact ensures_throw fun w h => ⟨h, by simp⟩

/-- What recording a halt can do. -/
theorem recordReorgHalt_db (contractId detail : String) :
    Ensures (fun w : World ρ => w.db = db) (recordReorgHalt E contractId detail) fun _ w => w.db = db ∨
      ∃ halt : ReorgHalt, halt.cleared_by = none ∧
        w.db = { db with reorg_halts := db.reorg_halts ++ [halt] } := by
  have hinsert : ∀ lastLedger lastLedgerHash now,
      Ensures (fun w : World ρ => w.db = db)
        (transaction E (insertReorgHalt contractId lastLedger lastLedgerHash detail now)) fun _ w => w.db = db ∨
          ∃ halt : ReorgHalt, halt.cleared_by = none ∧
            w.db = { db with reorg_halts := db.reorg_halts ++ [halt] } := by
    intro lastLedger lastLedgerHash now
    refine ensures_transaction drifts_same ?_ (fun _ _ h => .inl h) fun _ h => .inl h
    intro w _ db' hw h
    cases h
    exact .inr ⟨_, rfl, by rw [hw]⟩
  refine Ensures.tryCatch (Ensures.bind (keeps_db_read fun db => db.indexer_cursor.lookup contractId)
    (fun cursor => Ensures.bind (keeps_look .now drifts_same) (hinsert _ _ ·) (fun _ _ h => ?_) fun _ h => ?_)
    (fun _ _ h => ?_) fun _ h => ?_) (fun _ _ h => h) (fun _ => ensures_pure fun _ h => h) fun _ h => h
  all_goals exact .inl h

end

/-- A worker that has given up, or is about to find a recorded halt. -/
def Worker.Idle (w : Worker ρ) : Prop :=
  w.phase = .stopped ∨ w.phase = .starting ∨ ∃ contractId detail, w.phase = .halted contractId detail

theorem Worker.Idle.next_ends {w : Worker ρ} (h : w.Idle) (hopen : w.world.db.openHalts ≠ []) :
    (w.phase.next E w.config w.world).2.db = w.world.db ∧
      ∀ phase, (w.phase.next E w.config w.world).1 = .done phase → phase = .stopped := by
  rcases h with hphase | hphase | ⟨contractId, detail, hphase⟩ <;> rw [hphase]
  · exact ⟨rfl, fun _ h => by cases h; rfl⟩
  · have h := starting_refused (E := E) w.config hopen w.world rfl
    exact ⟨h.1, fun phase hd => absurd hd (h.2 phase)⟩
  · have h := halted_gives_up (E := E) w.config contractId detail w.world rfl
    exact ⟨h.1, fun phase hd => absurd hd (h.2 phase)⟩

theorem Worker.Idle.next {w w' : Worker ρ} (h : w.Idle) (hopen : w.world.db.openHalts ≠ [])
    (hnext : w.Next E w') : w'.Idle ∧ w'.world.db = w.world.db := by
  have hends := h.next_ends (E := E) hopen
  cases hnext with
  | start config hstopped => exact ⟨.inr (.inl rfl), rfl⟩
  | step hrun =>
    rw [hrun] at hends
    exact ⟨.inl (hends.2 _ rfl), hends.1⟩
  | fail hrun =>
    rw [hrun] at hends
    exact ⟨.inl rfl, hends.1⟩
  | die hrun =>
    rw [hrun] at hends
    exact ⟨.inl rfl, hends.1⟩

/-- The step that records a halt leaves an idle worker and, if it recorded it, an open halt. -/
theorem Worker.recorded {w w' : Worker ρ} {contractId detail : String}
    (hphase : w.phase = .halting contractId detail) (hnext : w.Next E w')
    (hcommitted : w'.world.db ≠ w.world.db) : w'.Idle ∧ w'.world.db.openHalts ≠ [] := by
  have hends : Ensures (fun v : World ρ => v.db = w.world.db) (w.phase.next E w.config) fun o v =>
      (v.db = w.world.db ∨ ∃ halt : ReorgHalt, halt.cleared_by = none ∧
        v.db = { w.world.db with reorg_halts := w.world.db.reorg_halts ++ [halt] }) ∧
      ∀ phase, o = .done phase → phase = .halted contractId detail := by
    rw [hphase]
    refine Ensures.bind (recordReorgHalt_db contractId detail) (fun _ => ensures_pure fun _ h => ⟨h, ?_⟩)
      (fun _ _ h => ⟨h, by simp⟩) fun _ h => ⟨h, by simp⟩
    intro phase h
    cases h
    rfl
  have hopen : ∀ v : World ρ, (v.db = w.world.db ∨ ∃ halt : ReorgHalt, halt.cleared_by = none ∧
      v.db = { w.world.db with reorg_halts := w.world.db.reorg_halts ++ [halt] }) → v.db ≠ w.world.db →
      v.db.openHalts ≠ [] := by
    rintro v (h | ⟨halt, hhalt, h⟩) hne
    · exact absurd h hne
    · rw [h, Db.openHalts, List.filter_append]
      simp [hhalt]
  have hend := hends w.world rfl
  cases hnext with
  | start config hstopped => exact absurd rfl hcommitted
  | step hrun =>
    rw [hrun] at hend
    exact ⟨.inr (.inr ⟨contractId, detail, hend.2 _ rfl⟩), hopen _ hend.1 hcommitted⟩
  | fail hrun =>
    rw [hrun] at hend
    exact ⟨.inl rfl, hopen _ hend.1 hcommitted⟩
  | die hrun =>
    rw [hrun] at hend
    exact ⟨.inl rfl, hopen _ hend.1 hcommitted⟩

/-- A step of any process that leaves a halt open. -/
def Worker.Open (E : Environment ρ) (w w' : Worker ρ) : Prop :=
  w.Step E w' ∧ w'.world.db.openHalts ≠ []

/-- **A recorded halt is sticky**: once it is committed, and as long as a halt is open, no worker
process changes anything in the database, whatever is restarted and whatever others do. -/
theorem halt_is_sticky {s₀ s₁ s s' : Worker ρ} {contractId detail : String}
    (hcaught : s₀.phase = .halting contractId detail) (hrecord : s₀.Next E s₁)
    (hcommitted : s₁.world.db ≠ s₀.world.db) (hrun : Relation.ReflTransGen (Worker.Open E) s₁ s)
    (hnext : s.Next E s') : s'.world.db = s.world.db := by
  have hidle : s.Idle ∧ s.world.db.openHalts ≠ [] := by
    clear hnext
    induction hrun with
    | refl => exact Worker.recorded hcaught hrecord hcommitted
    | tail _ hstep ih =>
      refine ⟨?_, hstep.2⟩
      cases hstep.1 with
      | worker h => exact (ih.1.next ih.2 h).1
      | others db => exact ih.1
  exact (hidle.1.next hidle.2 hnext).2

/-- A worker that has caught a `ReorgDetectedError`, the halt it records, and the run after that. -/
def caughtWorker : Worker Nat := ⟨{ contractIds := ["C"] }, .halting "C" "rewound", freshWorld 0⟩

def recordedWorld : World Nat := (recordReorgHalt .healthy "C" "rewound" (freshWorld 0)).2

def restartedWorker : Worker Nat :=
  ⟨{ contractIds := ["C"] }, .starting,
    restart (Phase.next .healthy { contractIds := ["C"] } (.halted "C" "rewound") recordedWorld).2⟩

/-- The run that starts over the recorded halt is refused and changes nothing. -/
theorem halt_is_sticky_over_a_restart :
    recordedWorld.db.openHalts.map (·.detail) = ["rewound"] ∧
      ∃ s', restartedWorker.Next .healthy s' ∧ s'.world.db = restartedWorker.world.db := by
  have hrecord : caughtWorker.Next .healthy ⟨{ contractIds := ["C"] }, .halted "C" "rewound", recordedWorld⟩ :=
    .step rfl
  have hcommitted : recordedWorld.db.reorg_halts ≠ caughtWorker.world.db.reorg_halts := by decide +kernel
  have hstop : Worker.Next .healthy ⟨{ contractIds := ["C"] }, .halted "C" "rewound", recordedWorld⟩
      ⟨{ contractIds := ["C"] }, .stopped, restartedWorker.world⟩ := .fail (e := .reorgDetected "rewound") rfl
  have hstart : Worker.Next .healthy ⟨{ contractIds := ["C"] }, .stopped, restartedWorker.world⟩
      restartedWorker := .start _ rfl
  have hopen : restartedWorker.world.db.openHalts ≠ [] := by decide +kernel
  have hrun : Relation.ReflTransGen (Worker.Open .healthy)
      ⟨{ contractIds := ["C"] }, .halted "C" "rewound", recordedWorld⟩ restartedWorker :=
    .tail (.tail .refl ⟨.worker hstop, hopen⟩) ⟨.worker hstart, hopen⟩
  refine ⟨by decide +kernel, _, .fail (e := reorgHalted ⟨1, "C", none, none, "rewound", 0, none⟩) rfl, ?_⟩
  exact halt_is_sticky rfl hrecord (fun h => hcommitted (congrArg (·.reorg_halts) h)) hrun
    (.fail (e := reorgHalted ⟨1, "C", none, none, "rewound", 0, none⟩) rfl)

end OurDao
