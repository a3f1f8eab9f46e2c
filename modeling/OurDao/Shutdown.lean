import Mathlib.Logic.Relation

/-!
# Stopping the worker

The worker runs two loops, the indexer's and the maintenance's. A signal stops both: it waits for
the indexer's, ten seconds at most, then for the maintenance's, then it closes the pool, which waits
for every client that is checked out, and the process exits. What the pool may still be used for when
it is closed, and whether the process gets there, is a matter of the order in which all this comes about.
-/

namespace OurDao

/-- `runIndexer`, as far as stopping it goes. -/
inductive IndexerLoop where
  /-- the checks before `running` is set -/
  | starting
  /-- in the loop, between two polls -/
  | idle
  | polling
  | returned
  deriving DecidableEq, Repr

/-- The `n`-th maintenance run, or the timer set after it. -/
inductive MaintenanceLoop where
  | run (n : Nat)
  | timer (n : Nat)
  | ended
  deriving DecidableEq, Repr

/-- How far `shutdown` has got. -/
inductive ShutdownPhase where
  | none
  /-- `Promise.race([stopPromise, timeout])`; `waits` tells whether `stopIndexer` found a loop to wait for -/
  | racing (waits : Bool)
  | awaitingMaintenance
  | closingRedis
  | endingPool
  | flushing
  | exited (code : Nat)
  deriving DecidableEq, Repr

/-- `pool.end()` has been called, and the process is still there. -/
def ShutdownPhase.poolEnded : ShutdownPhase → Bool
  | endingPool | flushing => true
  | _ => false

/-- The worker process from the point on where it listens to signals. -/
structure WorkerProcess where
  indexer : IndexerLoop := .starting
  /-- the indexer's `abortController` was aborted -/
  aborted : Bool := false
  maintenance : MaintenanceLoop := .run 1
  maintenanceAborted : Bool := false
  /-- a timer was set once, and its `abort` listener is still there -/
  listening : Bool := false
  /-- `maintenance.stopped` is resolved -/
  stopped : Bool := false
  timedOut : Bool := false
  /-- the clients of the pool that the indexer has checked out, one that is being opened included -/
  clients : Nat := 0
  /-- the maintenance run has a client of the pool, for the query of `cleanupExpiredFailedEvents` -/
  cleaning : Bool := false
  shutdown : ShutdownPhase := .none
  deriving DecidableEq, Repr

inductive WorkerEvent where
  /-- the checks at the start succeed, or `runIndexer` throws -/
  | latch
  | startFails
  /-- `pool.connect()` or `pool.query` of the indexer gets a client, and it is released -/
  | connect
  | release
  | poll
  | pollDone
  /-- `fetchOnce` detects a reorganisation, and `runIndexer` throws -/
  | reorg
  | leave
  /-- the `pool.query` of `cleanupExpiredFailedEvents` gets a client, and gives it back -/
  | cleanup
  | cleanedUp
  | runDone
  | timerFires
  | signal
  | stopResolves
  | budgetOver
  | maintenanceStopped
  /-- what `shutdown` awaits succeeds or fails -/
  | settled
  | rejected
  deriving DecidableEq, Repr

namespace WorkerProcess

def isExited (p : WorkerProcess) : Bool :=
  match p.shutdown with
  | .exited _ => true
  | _ => false

/-- `!abortController || !running` is false. -/
def isRunning (p : WorkerProcess) : Bool := p.indexer = .idle ∨ p.indexer = .polling

/-- `process.exit(1)`: `main` has failed, or a rejection is not handled. -/
def crash (p : WorkerProcess) : WorkerProcess := { p with shutdown := .exited 1 }

/-- `maintenanceAbort.abort()`: every listener clears its own timer and resolves `stopped`. -/
def abortMaintenance (p : WorkerProcess) : WorkerProcess :=
  { p with
    maintenanceAborted := true
    stopped := p.stopped || p.listening
    maintenance := match p.maintenance with
      | .timer _ => .ended
      | m => m }

def shutdownOn (p : WorkerProcess) : WorkerProcess :=
  if p.shutdown ≠ .none then p
  else
    { p.abortMaintenance with
      -- `stopIndexer` resolves at once where the loop is not running
      aborted := p.aborted || p.isRunning
      shutdown := .racing p.isRunning }

/-- One event of the process, if it can happen. `connect()` is refused once `pool.end()` was called; that resolves
when no client is checked out. -/
def step (p : WorkerProcess) (e : WorkerEvent) : Option WorkerProcess :=
  if p.isExited then none
  else match e with
  | .latch => if p.indexer = .starting ∧ p.clients = 0 then some { p with indexer := .idle } else none
  | .startFails => if p.indexer = .starting then some p.crash else none
  | .connect =>
    if (p.indexer = .starting ∨ p.indexer = .polling) ∧ p.shutdown.poolEnded = false then
      some { p with clients := p.clients + 1 }
    else none
  | .release => if 0 < p.clients then some { p with clients := p.clients - 1 } else none
  | .poll => if p.indexer = .idle ∧ p.aborted = false then some { p with indexer := .polling } else none
  | .pollDone => if p.indexer = .polling ∧ p.clients = 0 then some { p with indexer := .idle } else none
  | .reorg => if p.indexer = .polling then some p.crash else none
  | .leave => if p.indexer = .idle ∧ p.aborted = true then some { p with indexer := .returned } else none
  | .cleanup =>
    match p.maintenance with
    | .run _ =>
      if p.cleaning = false ∧ p.shutdown.poolEnded = false then some { p with cleaning := true } else none
    | _ => none
  | .cleanedUp => if p.cleaning then some { p with cleaning := false } else none
  | .runDone =>
    match p.maintenance, p.cleaning with
    | .run n, false =>
      if p.maintenanceAborted then some { p with maintenance := .ended, stopped := true }
      else some { p with maintenance := .timer n, listening := true }
    | _, _ => none
  | .timerFires =>
    match p.maintenance with
    | .timer n =>
      if p.maintenanceAborted then some { p with maintenance := .ended, stopped := true }
      else some { p with maintenance := .run (n + 1) }
    | _ => none
  | .signal => some p.shutdownOn
  | .stopResolves =>
    match p.shutdown with
    | .racing waits =>
      if waits = false ∨ p.isRunning = false then some { p with shutdown := .awaitingMaintenance } else none
    | _ => none
  | .budgetOver =>
    match p.shutdown with
    | .racing _ => some { p with shutdown := .awaitingMaintenance, timedOut := true }
    | _ => none
  | .maintenanceStopped =>
    if p.shutdown = .awaitingMaintenance ∧ p.stopped = true then some { p with shutdown := .closingRedis } else none
  | .settled =>
    match p.shutdown with
    | .closingRedis => some { p with shutdown := .endingPool }
    | .endingPool => if p.clients = 0 ∧ p.cleaning = false then some { p with shutdown := .flushing } else none
    | .flushing => some { p with shutdown := .exited 0 }
    | _ => none
  | .rejected =>
    match p.shutdown with
    | .closingRedis | .endingPool | .flushing => some p.crash
    | _ => none

/-- A run of events from among `es`. -/
def Goes (es : WorkerEvent → Prop) : WorkerProcess → WorkerProcess → Prop :=
  Relation.ReflTransGen fun p p' => ∃ e, es e ∧ p.step e = some p'

/-- A state some run gets to. -/
def Reachable (p : WorkerProcess) : Prop := Goes (fun _ => True) {} p

variable {p p' : WorkerProcess} {e : WorkerEvent}

/-- Everything an event can do to a process that has not exited. -/
inductive Moves (p : WorkerProcess) : WorkerProcess → Prop
  | latch : p.indexer = .starting → p.clients = 0 → Moves p { p with indexer := .idle }
  | connect : p.indexer = .starting ∨ p.indexer = .polling → p.shutdown.poolEnded = false →
      Moves p { p with clients := p.clients + 1 }
  | release : Moves p { p with clients := p.clients - 1 }
  | poll : p.indexer = .idle → p.aborted = false → Moves p { p with indexer := .polling }
  | pollDone : p.indexer = .polling → p.clients = 0 → Moves p { p with indexer := .idle }
  | leave : p.indexer = .idle → p.aborted = true → Moves p { p with indexer := .returned }
  | cleaning (busy : Bool) : Moves p { p with cleaning := busy }
  | crash : Moves p p.crash
  | ended : p.maintenanceAborted = true → Moves p { p with maintenance := .ended, stopped := true }
  | rest {n : Nat} : p.maintenance = .run n → p.maintenanceAborted = false →
      Moves p { p with maintenance := .timer n, listening := true }
  | again {n : Nat} : p.maintenance = .timer n → p.maintenanceAborted = false →
      Moves p { p with maintenance := .run (n + 1) }
  | signal : p.shutdown = .none →
      Moves p { p.abortMaintenance with aborted := p.aborted || p.isRunning, shutdown := .racing p.isRunning }
  | ignored : p.shutdown ≠ .none → Moves p p
  | stopResolves {waits : Bool} : p.shutdown = .racing waits → waits = false ∨ p.isRunning = false →
      Moves p { p with shutdown := .awaitingMaintenance }
  | budgetOver {waits : Bool} : p.shutdown = .racing waits →
      Moves p { p with shutdown := .awaitingMaintenance, timedOut := true }
  | maintenanceStopped : p.shutdown = .awaitingMaintenance → p.stopped = true →
      Moves p { p with shutdown := .closingRedis }
  | endPool : p.shutdown = .closingRedis → Moves p { p with shutdown := .endingPool }
  | flush : p.shutdown = .endingPool → p.clients = 0 → Moves p { p with shutdown := .flushing }
  | exit : p.shutdown = .flushing → Moves p { p with shutdown := .exited 0 }

theorem of_guarded {c : Prop} [Decidable c] {α : Type} {a b : α} (h : (if c then some a else none) = some b) :
    c ∧ b = a := by
  obtain ⟨hc, hab⟩ := Option.ite_none_right_eq_some.mp h
  exact ⟨hc, (Option.some.inj hab).symm⟩

theorem moves_of_step (h : p.step e = some p') : p.isExited = false ∧ p.Moves p' := by
  rw [step.eq_def] at h
  split at h
  next => cases h
  next hexited =>
    refine ⟨by simpa using hexited, ?_⟩
    cases e with
    | latch =>
      obtain ⟨⟨hi, hc⟩, rfl⟩ := of_guarded h
      exact .latch hi hc
    | startFails =>
      obtain ⟨-, rfl⟩ := of_guarded h
      exact .crash
    | connect =>
      obtain ⟨⟨hi, hpool⟩, rfl⟩ := of_guarded h
      exact .connect hi hpool
    | release =>
      obtain ⟨-, rfl⟩ := of_guarded h
      exact .release
    | poll =>
      obtain ⟨⟨hi, ha⟩, rfl⟩ := of_guarded h
      exact .poll hi ha
    | pollDone =>
      obtain ⟨⟨hi, hc⟩, rfl⟩ := of_guarded h
      exact .pollDone hi hc
    | reorg =>
      obtain ⟨-, rfl⟩ := of_guarded h
      exact .crash
    | leave =>
      obtain ⟨⟨hi, ha⟩, rfl⟩ := of_guarded h
      exact .leave hi ha
    | cleanup =>
      dsimp only at h
      split at h
      next =>
        obtain ⟨-, rfl⟩ := of_guarded h
        exact .cleaning true
      next => cases h
    | cleanedUp =>
      obtain ⟨-, rfl⟩ := of_guarded h
      exact .cleaning false
    | runDone =>
      dsimp only at h
      split at h
      next n hm _ =>
        split at h <;> cases h
        next ha => exact .ended ha
        next ha => exact .rest hm (by simpa using ha)
      next => cases h
    | timerFires =>
      dsimp only at h
      split at h
      next n hm =>
        split at h <;> cases h
        next ha => exact .ended ha
        next ha => exact .again hm (by simpa using ha)
      next => cases h
    | signal =>
      cases h
      rw [shutdownOn]
      split
      next hs => exact .ignored hs
      next hs => exact .signal (Decidable.not_not.mp hs)
    | stopResolves =>
      dsimp only at h
      split at h
      next waits hs =>
        obtain ⟨hr, rfl⟩ := of_guarded h
        exact .stopResolves hs hr
      next => cases h
    | budgetOver =>
      dsimp only at h
      split at h <;> cases h
      next waits hs => exact .budgetOver hs
    | maintenanceStopped =>
      obtain ⟨⟨hs, hst⟩, rfl⟩ := of_guarded h
      exact .maintenanceStopped hs hst
    | settled =>
      dsimp only at h
      split at h
      next hs =>
        cases h
        exact .endPool hs
      next hs =>
        obtain ⟨hc, rfl⟩ := of_guarded h
        exact .flush hs hc.1
      next hs =>
        cases h
        exact .exit hs
      next => cases h
    | rejected =>
      dsimp only at h
      split at h <;> cases h <;> exact .crash

/-- The indexer's loop and `shutdown`. -/
structure StopsIndexer (p : WorkerProcess) : Prop where
  calm : p.shutdown = .none → p.aborted = false ∧ p.timedOut = false
  waits : ∀ waits, p.shutdown = .racing waits → p.aborted = waits
  started : p.aborted = true → p.indexer ≠ .starting
  returned : p.indexer = .returned → p.aborted = true
  passed : p.shutdown = .awaitingMaintenance ∨ p.shutdown = .closingRedis ∨ p.shutdown.poolEnded = true →
    p.timedOut = true ∨ p.aborted = false ∨ p.indexer = .returned

theorem isRunning_eq_false (hs : p.indexer ≠ .starting) : p.isRunning = false ↔ p.indexer = .returned := by
  cases hi : p.indexer <;> simp_all [isRunning]

theorem StopsIndexer.moves (hp : p.StopsIndexer) (h : p.Moves p') : p'.StopsIndexer := by
  obtain ⟨hcalm, hwaits, hstarted, hreturned, hpassed⟩ := hp
  cases h with
  | latch hi =>
    refine ⟨hcalm, hwaits, fun _ => by simp, by simp, fun h => ?_⟩
    cases ha : p.aborted with
    | false => exact .inr (.inl rfl)
    | true => exact absurd hi (hstarted ha)
  | poll hi ha => exact ⟨hcalm, hwaits, fun _ => by simp, by simp, fun h => .inr (.inl ha)⟩
  | pollDone hi =>
    refine ⟨hcalm, hwaits, fun _ => by simp, by simp, fun h => ?_⟩
    rcases hpassed h with h | h | h
    · exact .inl h
    · exact .inr (.inl h)
    · rw [hi] at h
      cases h
  | leave hi ha => exact ⟨hcalm, hwaits, fun _ => by simp, fun _ => ha, fun _ => .inr (.inr rfl)⟩
  | crash => exact ⟨by simp [crash], by simp [crash], hstarted, hreturned, by simp [crash, ShutdownPhase.poolEnded]⟩
  | connect | release | cleaning | ended | rest | again | ignored =>
    exact ⟨hcalm, hwaits, hstarted, hreturned, hpassed⟩
  | signal hs =>
    have ha := (hcalm hs).1
    refine ⟨by simp, ?_, ?_, fun hr => ?_, by simp [ShutdownPhase.poolEnded]⟩
    · simp [ha]
    · intro hrun hi
      have hi' : p.indexer = .starting := hi
      simp [ha, isRunning, hi'] at hrun
    · have hr' := hreturned hr
      rw [ha] at hr'
      cases hr'
  | @stopResolves waits hs hr =>
    refine ⟨by simp, by simp, hstarted, hreturned, fun _ => ?_⟩
    have hw := hwaits waits hs
    rcases hr with rfl | hr
    · exact .inr (.inl hw)
    · cases hab : p.aborted with
      | false => exact .inr (.inl rfl)
      | true => exact .inr (.inr ((isRunning_eq_false (hstarted hab)).mp hr))
  | budgetOver => exact ⟨by simp, by simp, hstarted, hreturned, fun _ => .inl rfl⟩
  | maintenanceStopped hs => exact ⟨by simp, by simp, hstarted, hreturned, fun _ => hpassed (.inl hs)⟩
  | endPool hs => exact ⟨by simp, by simp, hstarted, hreturned, fun _ => hpassed (.inr (.inl hs))⟩
  | flush hs => exact ⟨by simp, by simp, hstarted, hreturned, fun _ => hpassed (.inr (.inr (by rw [hs]; rfl)))⟩
  | exit => exact ⟨by simp, by simp, hstarted, hreturned, by simp [ShutdownPhase.poolEnded]⟩

/-- The maintenance loop and `shutdown`. -/
structure StopsMaintenance (p : WorkerProcess) : Prop where
  calm : p.shutdown = .none → p.maintenanceAborted = false
  active : p.shutdown ≠ .none → p.isExited = false → p.maintenanceAborted = true
  run : ∀ n, p.maintenance = .run n → 1 ≤ n ∧ (p.listening = true → 2 ≤ n)
  timer : ∀ n, p.maintenance = .timer n → 1 ≤ n ∧ p.listening = true ∧ p.maintenanceAborted = false
  ended : p.maintenance = .ended → p.maintenanceAborted = true
  resolved : p.stopped = true → p.maintenanceAborted = true ∧ (p.listening = true ∨ p.maintenance = .ended)
  awaited : p.maintenanceAborted = true → p.stopped = true ∨ ∃ n, p.maintenance = .run n
  passed : p.shutdown = .closingRedis ∨ p.shutdown.poolEnded = true → p.stopped = true

/-- Aborting the maintenance loop, which is aborted once. -/
theorem StopsMaintenance.abort (hp : p.StopsMaintenance) (hs : p.shutdown = .none) {aborted waits : Bool} :
    { p.abortMaintenance with aborted, shutdown := .racing waits }.StopsMaintenance := by
  obtain ⟨hcalm, -, hrun, htimer, hended, hresolved, -, -⟩ := hp
  have ha : p.maintenanceAborted = false := hcalm hs
  have hstopped : p.stopped = false := by
    cases hst : p.stopped with
    | false => rfl
    | true => simp [(hresolved hst).1] at ha
  have hloop : (∃ n, p.maintenance = .run n) ∨ ∃ n, p.maintenance = .timer n ∧ p.listening = true := by
    cases hm : p.maintenance with
    | run n => exact .inl ⟨n, rfl⟩
    | timer n => exact .inr ⟨n, rfl, (htimer n hm).2.1⟩
    | ended => simp [hended hm] at ha
  obtain ⟨n, hm⟩ | ⟨n, hm, hlistening⟩ := hloop
  · have hrun' := hrun n hm
    constructor <;> simp_all [abortMaintenance, isExited, ShutdownPhase.poolEnded]
  · constructor <;> simp_all [abortMaintenance, isExited, ShutdownPhase.poolEnded]

theorem StopsMaintenance.moves (hp : p.StopsMaintenance) (hexited : p.isExited = false) (h : p.Moves p') :
    p'.StopsMaintenance := by
  obtain ⟨hcalm, hactive, hrun, htimer, hended, hresolved, hawaited, hpassed⟩ := id hp
  cases h with
  | latch | connect | release | poll | pollDone | leave | cleaning | ignored =>
    exact ⟨hcalm, hactive, hrun, htimer, hended, hresolved, hawaited, hpassed⟩
  | crash =>
    exact ⟨by simp [crash], by simp [crash, isExited], hrun, htimer, hended, hresolved, hawaited,
      by simp [crash, ShutdownPhase.poolEnded]⟩
  | ended ha =>
    exact ⟨hcalm, hactive, by simp, by simp, fun _ => ha, fun _ => ⟨ha, .inr rfl⟩, fun _ => .inl rfl, fun _ => rfl⟩
  | @rest n hm ha =>
    refine ⟨hcalm, hactive, by simp, ?_, by simp, fun hs => ⟨(hresolved hs).1, .inl rfl⟩, by simp [ha], hpassed⟩
    rintro m ⟨⟩
    exact ⟨(hrun n hm).1, rfl, ha⟩
  | @again n hm ha =>
    have hn := htimer n hm
    refine ⟨hcalm, hactive, ?_, by simp, by simp, fun hs => ⟨(hresolved hs).1, .inl hn.2.1⟩, by simp [ha], hpassed⟩
    rintro m ⟨⟩
    exact ⟨by omega, fun _ => by omega⟩
  | signal hs => exact hp.abort hs
  | stopResolves hs | budgetOver hs | maintenanceStopped hs | endPool hs | flush hs | exit hs =>
    have ha := hactive (by simp [hs]) hexited
    constructor <;> simp_all [ShutdownPhase.poolEnded]

/-- The clients of the pool. -/
structure GivesBack (p : WorkerProcess) : Prop where
  between : p.indexer = .idle ∨ p.indexer = .returned → p.clients = 0
  closed : p.shutdown = .flushing ∨ p.shutdown = .exited 0 → p.clients = 0

theorem GivesBack.moves (hp : p.GivesBack) (hexited : p.isExited = false) (h : p.Moves p') : p'.GivesBack := by
  obtain ⟨hbetween, hclosed⟩ := hp
  cases h with
  | latch _ hc | pollDone _ hc => exact ⟨fun _ => hc, fun _ => hc⟩
  | poll => exact ⟨by simp, hclosed⟩
  | leave hi => exact ⟨fun _ => hbetween (.inl hi), hclosed⟩
  | connect hi hpool =>
    refine ⟨fun h => ?_, fun h => ?_⟩
    · rcases hi with hi | hi <;> simp [hi] at h
    · rcases h with h | h
      · have hs : p.shutdown = .flushing := h
        simp [hs, ShutdownPhase.poolEnded] at hpool
      · have hs : p.shutdown = .exited 0 := h
        simp [isExited, hs] at hexited
  | release =>
    refine ⟨fun h => ?_, fun h => ?_⟩
    · have hc := hbetween h
      simp [hc]
    · have hc := hclosed h
      simp [hc]
  | crash => exact ⟨hbetween, by simp [crash]⟩
  | cleaning | ended | rest | again | ignored => exact ⟨hbetween, hclosed⟩
  | signal | stopResolves | budgetOver | maintenanceStopped | endPool => exact ⟨hbetween, by simp⟩
  | flush _ hc => exact ⟨hbetween, fun _ => hc⟩
  | exit hs => exact ⟨hbetween, fun _ => hclosed (.inl hs)⟩

theorem stops_of_reachable (h : p.Reachable) : p.StopsIndexer ∧ p.StopsMaintenance ∧ p.GivesBack := by
  induction h with
  | refl => refine ⟨?_, ?_, ?_⟩ <;> constructor <;> simp [ShutdownPhase.poolEnded]
  | tail _ hstep ih =>
    obtain ⟨e, -, he⟩ := hstep
    obtain ⟨hexited, hmoves⟩ := moves_of_step he
    exact ⟨ih.1.moves hmoves, ih.2.1.moves hexited hmoves, ih.2.2.moves hexited hmoves⟩

/-- The events that `shutdown` waits for: the timer of ten seconds, the end of a maintenance run and of its query,
its own calls. -/
def Awaited (e : WorkerEvent) : Prop :=
  e = .budgetOver ∨ e = .cleanedUp ∨ e = .runDone ∨ e = .maintenanceStopped ∨ e = .settled

theorem goes_awaited {e : WorkerEvent} (h : p.step e = some p')
    (he : e = .budgetOver ∨ e = .cleanedUp ∨ e = .runDone ∨ e = .maintenanceStopped ∨ e = .settled := by simp) :
    Goes Awaited p p' :=
  .single ⟨e, he, h⟩

/-- The query of a maintenance run ends. -/
theorem goes_cleanedUp (hexited : p.isExited = false) : Goes Awaited p { p with cleaning := false } := by
  cases hcleaning : p.cleaning with
  | false =>
    rw [← hcleaning]
    exact .refl
  | true =>
    have hcleaned : p.step .cleanedUp = some { p with cleaning := false } := by
      simp [step.eq_def, hexited, hcleaning]
    exact goes_awaited hcleaned

theorem Goes.reachable {es : WorkerEvent → Prop} (hp : p.Reachable) (h : Goes es p p') : p'.Reachable := by
  refine Relation.ReflTransGen.trans hp (Relation.ReflTransGen.mono ?_ _ _ h)
  rintro q q' ⟨e, -, he⟩
  exact ⟨e, trivial, he⟩

/-- The indexer gives back what it has checked out. -/
theorem goes_release (hexited : p.isExited = false) : Goes (· = .release) p { p with clients := 0 } := by
  suffices hsuff : ∀ n, ∀ q : WorkerProcess, q.isExited = false → q.clients = n →
      Goes (· = .release) q { q with clients := 0 } from hsuff p.clients p hexited rfl
  intro n
  induction n with
  | zero =>
    intro q _ hn
    rw [← hn]
    exact .refl
  | succ n ih =>
    intro q hq hn
    have hrelease : q.step .release = some { q with clients := n } := by simp [step.eq_def, hq, hn]
    exact .head ⟨_, rfl, hrelease⟩ (ih { q with clients := n } hq rfl)

/-- The maintenance loop is waited for, and then the pool is closed. -/
theorem ends_pool (hp : p.Reachable) (hs : p.shutdown = .awaitingMaintenance) : ∃ p', Goes Awaited p p' ∧
    p'.shutdown = .endingPool ∧ p'.indexer = p.indexer ∧ p'.aborted = p.aborted ∧ p'.timedOut = p.timedOut ∧
      p'.clients = p.clients := by
  have hstops := (stops_of_reachable hp).2.1
  have hexited : p.isExited = false := by simp [isExited, hs]
  have ha := hstops.active (by simp [hs]) hexited
  have hclose : ∀ q : WorkerProcess, q.shutdown = .awaitingMaintenance → q.stopped = true →
      Goes Awaited q { q with shutdown := .endingPool } := by
    intro q hq hst
    have hstopped : q.step .maintenanceStopped = some { q with shutdown := .closingRedis } := by
      simp [step.eq_def, isExited, hq, hst]
    have hredis : step { q with shutdown := .closingRedis } .settled = some { q with shutdown := .endingPool } := by
      simp [step.eq_def, isExited]
    exact (goes_awaited hstopped).trans (goes_awaited hredis)
  rcases hstops.awaited ha with hst | ⟨n, hm⟩
  · exact ⟨_, hclose p hs hst, rfl, rfl, rfl, rfl, rfl⟩
  · have hdone : step { p with cleaning := false } .runDone =
        some { p with cleaning := false, maintenance := .ended, stopped := true } := by
      simp [step.eq_def, isExited, hs, hm, ha]
    have hgoes := (goes_cleanedUp hexited).trans (goes_awaited hdone)
    exact ⟨_, hgoes.trans (hclose _ hs rfl), rfl, rfl, rfl, rfl, rfl⟩

/-- With every client of the pool given back, `shutdown` gets to its end by itself. -/
theorem exits (hp : p.Reachable) (hs : p.shutdown ≠ .none) (hexited : p.isExited = false) (hc : p.clients = 0) :
    ∃ p', Goes Awaited p p' ∧ p'.shutdown = .exited 0 := by
  have hflush : ∀ q : WorkerProcess, q.shutdown = .flushing →
      ∃ p', Goes Awaited q p' ∧ p'.shutdown = .exited 0 := by
    intro q hq
    have hsettled : q.step .settled = some { q with shutdown := .exited 0 } := by simp [step.eq_def, isExited, hq]
    exact ⟨_, goes_awaited hsettled, rfl⟩
  have hend : ∀ q : WorkerProcess, q.shutdown = .endingPool → q.clients = 0 →
      ∃ p', Goes Awaited q p' ∧ p'.shutdown = .exited 0 := by
    intro q hq hqc
    have hsettled : step { q with cleaning := false } .settled =
        some { q with cleaning := false, shutdown := .flushing } := by
      simp [step.eq_def, isExited, hq, hqc]
    obtain ⟨p', hgoes, hp'⟩ := hflush { q with cleaning := false, shutdown := .flushing } rfl
    have hcleaned : Goes Awaited q { q with cleaning := false } := goes_cleanedUp (by simp [isExited, hq])
    exact ⟨p', hcleaned.trans ((goes_awaited hsettled).trans hgoes), hp'⟩
  have hawaiting : ∀ q : WorkerProcess, q.Reachable → q.shutdown = .awaitingMaintenance → q.clients = 0 →
      ∃ p', Goes Awaited q p' ∧ p'.shutdown = .exited 0 := by
    intro q hq hqs hqc
    obtain ⟨q', hgoes, hq', -, -, -, hclients⟩ := ends_pool hq hqs
    obtain ⟨p', hgoes', hp'⟩ := hend q' hq' (hclients.trans hqc)
    exact ⟨p', hgoes.trans hgoes', hp'⟩
  cases hphase : p.shutdown with
  | none => exact absurd hphase hs
  | racing waits =>
    have hpassed : p.step .budgetOver = some { p with shutdown := .awaitingMaintenance, timedOut := true } := by
      simp [step.eq_def, hexited, hphase]
    have hgoes := goes_awaited hpassed
    obtain ⟨p', hgoes', hp'⟩ := hawaiting _ (hgoes.reachable hp) rfl hc
    exact ⟨p', hgoes.trans hgoes', hp'⟩
  | awaitingMaintenance => exact hawaiting p hp hphase hc
  | closingRedis =>
    have hsettled : p.step .settled = some { p with shutdown := .endingPool } := by
      simp [step.eq_def, hexited, hphase]
    obtain ⟨p', hgoes, hp'⟩ := hend { p with shutdown := .endingPool } rfl hc
    exact ⟨p', (goes_awaited hsettled).trans hgoes, hp'⟩
  | endingPool => exact hend p hphase hc
  | flushing => exact hflush p hphase
  | exited code => simp [isExited, hphase] at hexited

/-- Nothing that `shutdown` waits for gives a client back. -/
theorem clients_of_awaited (he : Awaited e) (h : p.step e = some p') : p'.clients = p.clients := by
  rw [step.eq_def] at h
  split at h
  next => cases h
  next =>
    rcases he with rfl | rfl | rfl | rfl | rfl
    · dsimp only at h
      split at h <;> cases h
      rfl
    · obtain ⟨-, rfl⟩ := of_guarded h
      rfl
    · dsimp only at h
      split at h
      next => split at h <;> cases h <;> rfl
      next => cases h
    · obtain ⟨-, rfl⟩ := of_guarded h
      rfl
    · dsimp only at h
      split at h
      next =>
        cases h
        rfl
      next =>
        obtain ⟨-, rfl⟩ := of_guarded h
        rfl
      next =>
        cases h
        rfl
      next => cases h

theorem clients_awaited (h : Goes Awaited p p') : p'.clients = p.clients := by
  induction h with
  | refl => rfl
  | tail _ hstep ih =>
    obtain ⟨e, he, hrun⟩ := hstep
    exact (clients_of_awaited he hrun).trans ih

/-- **Stopping comes to an end** in every state after a signal: the timer of ten seconds, the end of the maintenance
run under way, with its query on the pool, and the calls of `shutdown` are enough for the process to exit with success
exactly if the indexer has no client of the pool checked out, for which `pool.end()` waits beyond the ten seconds. It
has none between two polls and when its loop has returned; otherwise, once the clients are given back, they are
enough. -/
theorem shutdown_completes (hp : p.Reachable) (hs : p.shutdown ≠ .none) (hexited : p.isExited = false) :
    ((∃ p', Goes Awaited p p' ∧ p'.shutdown = .exited 0) ↔ p.clients = 0) ∧
      (p.indexer = .idle ∨ p.indexer = .returned → p.clients = 0) ∧
      ∃ p', Goes (fun e => Awaited e ∨ e = .release) p p' ∧ p'.shutdown = .exited 0 := by
  refine ⟨⟨?_, exits hp hs hexited⟩, (stops_of_reachable hp).2.2.between, ?_⟩
  · rintro ⟨p', hgoes, hp'⟩
    rw [← clients_awaited hgoes]
    exact (stops_of_reachable (hgoes.reachable hp)).2.2.closed (.inr hp')
  · have hrelease := goes_release hexited
    obtain ⟨p', hgoes, hp'⟩ := exits (hrelease.reachable hp) hs hexited rfl
    refine ⟨p', .trans (Relation.ReflTransGen.mono ?_ _ _ hrelease) (Relation.ReflTransGen.mono ?_ _ _ hgoes), hp'⟩
    · rintro q q' ⟨e, rfl, he⟩
      exact ⟨_, .inr rfl, he⟩
    · rintro q q' ⟨e, hawaited, he⟩
      exact ⟨e, .inl hawaited, he⟩

/-- A signal while the worker is starting and has a client in use. -/
def signalledInUse : WorkerProcess := { maintenanceAborted := true, clients := 1, shutdown := .racing false }

theorem shutdown_completes_inUse : (¬ ∃ p', Goes Awaited signalledInUse p' ∧ p'.shutdown = .exited 0) ∧
    ∃ p', Goes (fun e => Awaited e ∨ e = .release) signalledInUse p' ∧ p'.shutdown = .exited 0 := by
  have hconnect : step {} .connect = some { clients := 1 } := by decide
  have hsignal : step { clients := 1 } .signal = some signalledInUse := by decide
  have hreachable : signalledInUse.Reachable := .tail (.tail .refl ⟨_, trivial, hconnect⟩) ⟨_, trivial, hsignal⟩
  obtain ⟨hiff, -, hreleased⟩ := shutdown_completes hreachable (by decide) rfl
  exact ⟨fun h => absurd (hiff.mp h) (by decide), hreleased⟩

/-- Once a signal has come, nothing aborts the indexer's loop any more. -/
theorem aborted_moves (h : p.Moves p') (hs : p.shutdown ≠ .none) : p'.aborted = p.aborted ∧ p'.shutdown ≠ .none := by
  cases h with
  | signal hnone => exact absurd hnone hs
  | latch | connect | release | poll | pollDone | leave | cleaning | ended | rest | again | ignored => exact ⟨rfl, hs⟩
  | crash | stopResolves | budgetOver | maintenanceStopped | endPool | flush | exit => exact ⟨rfl, by simp [crash]⟩

theorem aborted_goes {es : WorkerEvent → Prop} (h : Goes es p p') (hs : p.shutdown ≠ .none) :
    p'.aborted = p.aborted ∧ p'.shutdown ≠ .none := by
  induction h with
  | refl => exact ⟨rfl, hs⟩
  | tail _ hstep ih =>
    obtain ⟨e, -, he⟩ := hstep
    obtain ⟨hsame, hnext⟩ := aborted_moves (moves_of_step he).2 ih.2
    exact ⟨hsame.trans ih.1, hnext⟩

theorem step_signal (hs : p.shutdown = .none) : p.step .signal =
    some { p.abortMaintenance with aborted := p.aborted || p.isRunning, shutdown := .racing p.isRunning } := by
  simp [step.eq_def, isExited, shutdownOn, hs]

/-- **A poll that the pool is closed on.** After a signal, a poll can be under way when the pool is closed although
the ten seconds were not over, exactly if the signal came before `runIndexer` had set `running`. -/
theorem poll_cut_off_iff {q : WorkerProcess} (hp : p.Reachable) (hs : p.shutdown = .none)
    (hsignal : p.step .signal = some q) :
    (∃ p', Goes (fun _ => True) q p' ∧ p'.shutdown.poolEnded = true ∧ p'.indexer = .polling ∧ p'.timedOut = false) ↔
      p.indexer = .starting := by
  obtain ⟨hcalm, htime⟩ := (stops_of_reachable hp).1.calm hs
  rw [step_signal hs] at hsignal
  obtain rfl := Option.some.inj hsignal
  have hq : Reachable
      { p.abortMaintenance with aborted := p.aborted || p.isRunning, shutdown := .racing p.isRunning } :=
    hp.tail ⟨.signal, trivial, step_signal hs⟩
  constructor
  · rintro ⟨p', hgoes, hpool, hpoll, htime⟩
    obtain ⟨habort, -⟩ := aborted_goes hgoes (by simp)
    have hstops := (stops_of_reachable (hgoes.reachable hq)).1
    have hidle : p'.aborted = false := by
      rcases hstops.passed (.inr (.inr hpool)) with h | h | h
      · rw [h] at htime
        cases htime
      · exact h
      · rw [hpoll] at h
        cases h
    rw [hidle] at habort
    have hrun : p.isRunning = false := by simpa [hcalm] using habort.symm
    cases hi : p.indexer with
    | starting => rfl
    | idle | polling => simp [isRunning, hi] at hrun
    | returned =>
      have habort' := (stops_of_reachable hp).1.returned hi
      rw [hcalm] at habort'
      cases habort'
  · intro hi
    have hrun : p.isRunning = false := by simp [isRunning, hi]
    rw [hrun] at hq ⊢
    have hresolves : step { p.abortMaintenance with aborted := p.aborted || false, shutdown := .racing false }
        .stopResolves =
        some { p.abortMaintenance with aborted := p.aborted || false, shutdown := .awaitingMaintenance } := by
      simp [step.eq_def, isExited]
    obtain ⟨r, hr, hpool, hindexer, habort, htimed, -⟩ :=
      ends_pool (hq.tail ⟨_, trivial, hresolves⟩) rfl
    have hexited : r.isExited = false := by simp [isExited, hpool]
    have hlatch : step { r with clients := 0 } .latch = some { r with clients := 0, indexer := .idle } := by
      simp [step.eq_def, isExited, hpool, hindexer, abortMaintenance, hi]
    have hpoll : step { r with clients := 0, indexer := .idle } .poll =
        some { r with clients := 0, indexer := .polling } := by
      simp [step.eq_def, isExited, hpool, habort, hcalm]
    have hmono : ∀ {es : WorkerEvent → Prop} {q q' : WorkerProcess}, Goes es q q' → Goes (fun _ => True) q q' :=
      fun h => Relation.ReflTransGen.mono (fun _ _ h => h.imp fun _ h => ⟨trivial, h.2⟩) _ _ h
    have hfree : Goes (fun _ => True) _ { r with clients := 0 } := (hmono hr).trans (hmono (goes_release hexited))
    refine ⟨{ r with clients := 0, indexer := .polling }, ?_, by simp [hpool, ShutdownPhase.poolEnded], rfl, ?_⟩
    · exact .head ⟨_, trivial, hresolves⟩ ((hfree.tail ⟨_, trivial, hlatch⟩).tail ⟨_, trivial, hpoll⟩)
    · exact htimed.trans (by simp [abortMaintenance, htime])

/-- A signal while the worker is starting. -/
theorem poll_cut_off_iff_starting :
    ∃ p', Goes (fun _ => True) { maintenanceAborted := true, shutdown := .racing false } p' ∧
      p'.shutdown.poolEnded = true ∧ p'.indexer = .polling ∧ p'.timedOut = false :=
  (poll_cut_off_iff (p := {}) .refl rfl (step_signal rfl)).mpr rfl

/-- A run of the maintenance loop, with the timers of the runs before it. -/
theorem reachable_run (n : Nat) : Reachable { maintenance := .run (n + 1), listening := decide (1 ≤ n) } := by
  induction n with
  | zero => exact .refl
  | succ n ih =>
    have hdone : step { maintenance := .run (n + 1), listening := decide (1 ≤ n) } .runDone =
        some { maintenance := .timer (n + 1), listening := true } := by simp [step.eq_def, isExited]
    have hfires : step { maintenance := .timer (n + 1), listening := true } .timerFires =
        some { maintenance := .run (n + 2), listening := true } := by simp [step.eq_def, isExited]
    exact (ih.tail ⟨_, trivial, hdone⟩).tail ⟨_, trivial, hfires⟩

/-- The `n`-th run is under way, and a signal has come after an earlier one had set a timer. -/
def duringRun (n : Nat) (shutdown : ShutdownPhase) : WorkerProcess where
  maintenance := .run n
  maintenanceAborted := true
  listening := true
  stopped := true
  shutdown

/-- **A maintenance run that the pool is closed on.** The first run is waited for; a later one is not, for the
`abort` listener of an earlier timer resolves `stopped` at once. -/
theorem maintenance_cut_off_iff (n : Nat) :
    (∃ p : WorkerProcess, p.Reachable ∧ p.shutdown.poolEnded = true ∧ p.maintenance = .run n) ↔ 2 ≤ n := by
  constructor
  · rintro ⟨p, hp, hpool, hm⟩
    have hstops := (stops_of_reachable hp).2.1
    rcases (hstops.resolved (hstops.passed (.inr hpool))).2 with hlistening | hended
    · exact (hstops.run n hm).2 hlistening
    · rw [hm] at hended
      cases hended
  · intro hn
    obtain ⟨n, rfl⟩ : ∃ m, n = m + 2 := ⟨n - 2, by omega⟩
    have hsignal : step { maintenance := .run (n + 2), listening := true } .signal =
        some (duringRun (n + 2) (.racing false)) := step_signal rfl
    have hresolves : (duringRun (n + 2) (.racing false)).step .stopResolves =
        some (duringRun (n + 2) .awaitingMaintenance) := by simp [step.eq_def, isExited, duringRun]
    have hstopped : (duringRun (n + 2) .awaitingMaintenance).step .maintenanceStopped =
        some (duringRun (n + 2) .closingRedis) := by simp [step.eq_def, isExited, duringRun]
    have hredis : (duringRun (n + 2) .closingRedis).step .settled = some (duringRun (n + 2) .endingPool) := by
      simp [step.eq_def, isExited, duringRun]
    have hracing : Reachable (duringRun (n + 2) (.racing false)) :=
      (reachable_run (n + 1)).tail ⟨_, trivial, hsignal⟩
    exact ⟨duringRun (n + 2) .endingPool, ((hracing.tail ⟨_, trivial, hresolves⟩).tail ⟨_, trivial, hstopped⟩).tail
      ⟨_, trivial, hredis⟩, rfl, rfl⟩

end WorkerProcess

end OurDao
