import OurDao.Runs
import OurDao.Threshold

/-!
# Quarantine decisions and restarts

The failures of a page are counted in memory and in a row of `quarantine_state`, which is
read back once by every process. What is read back is what was counted, unless the page
key or the error message is one that a row cannot hold or that an empty column stands for,
or the message has a surrogate that stands alone and comes back as U+FFFD.
-/

namespace OurDao

open Faults Op

/-- How a page fares: it folds, or it fails, and the per-event pass that may follow gets through or not. -/
inductive PageOutcome where
  | folds
  | fails (errorMessage : JsText) (eachFolds : Bool)
  deriving DecidableEq

/-- One call of `ingestPageWithQuarantine`. -/
structure PageAttempt where
  contractId : String
  page : List EventResponse
  outcome : PageOutcome

/-- The module state of the poller, and the database with `quarantine_state`. -/
structure Quarantines where
  memory : Memory := {}
  db : Db := {}

/-- What a row of `quarantine_state` can hold: no NUL character, and an INT. -/
def QuarantineState.writable (s : QuarantineState) : Bool :=
  !s.pageKey.toList.contains '\x00' && !s.errorMessage.text.toList.contains '\x00' && s.failures ≤ 2147483647

namespace Quarantines

def setQuarantineState (q : Quarantines) (contractId : String) (state : Option QuarantineState) : Quarantines :=
  { q with memory := { q.memory with quarantineStates := q.memory.quarantineStates.insert contractId state } }

/-- A write that fails is reported and dropped. -/
def persistQuarantineState (q : Quarantines) (contractId : String) (state : Option QuarantineState)
    (escalating : Bool) : Quarantines :=
  if state.all (·.writable) then
    match upsertQuarantineState contractId state escalating q.db with
    | .ok (_, db) => { q with db }
    | .error _ => q
  else q

/-- Load the persisted state on the first use for a contract. -/
def ensureQuarantineState (q : Quarantines) (contractId : String) : Quarantines :=
  if q.memory.quarantineStatesLoaded.contains contractId then q
  else
    let q := q.setQuarantineState contractId ((q.db.quarantine_state.lookup contractId).bind QuarantineStateRow.state)
    { q with memory := { q.memory with quarantineStatesLoaded := contractId :: q.memory.quarantineStatesLoaded } }

def clearQuarantineState (q : Quarantines) (contractId : String) : Quarantines :=
  (q.setQuarantineState contractId none).persistQuarantineState contractId none false

/-- `ingestPageWithQuarantine`: whether the page is taken event by event, and what is left behind. -/
def attempt (config : Config) (q : Quarantines) (a : PageAttempt) : Bool × Quarantines :=
  let q := q.ensureQuarantineState a.contractId
  let state := (q.memory.quarantineStates.lookup a.contractId).join
  match a.outcome with
  | .folds => (false, q.clearQuarantineState a.contractId)
  | .fails errorMessage eachFolds =>
    let state := countFailure state (pageKeyFor a.page) errorMessage
    let q := (q.setQuarantineState a.contractId (some state)).persistQuarantineState a.contractId (some state) false
    if (state.failures : Int) < config.quarantineAfterFailures then (false, q)
    else
      let q := q.persistQuarantineState a.contractId (some state) true
      (true, if eachFolds then q.clearQuarantineState a.contractId else q)

/-- `resetQuarantineStateInMemory`. -/
def restart (q : Quarantines) : Quarantines := { q with memory := {} }

inductive Step where
  | attempt (a : PageAttempt)
  | restart

/-- An attempt, and whether it switched to per-event mode. -/
structure Decision where
  attempt : PageAttempt
  switched : Bool

/-- The state after one more step, and the decisions so far, the latest first. -/
def act (config : Config) (r : Quarantines × List Decision) : Step → Quarantines × List Decision
  | .attempt a => ((r.1.attempt config a).2, ⟨a, (r.1.attempt config a).1⟩ :: r.2)
  | .restart => (r.1.restart, r.2)

def run (config : Config) (steps : List Step) : Quarantines × List Decision := steps.foldl (act config) ({}, [])

def decisions (config : Config) (steps : List Step) : List Decision := (run config steps).2

/-- Nothing of the failures before it counts any more. -/
def Decision.settles (d : Decision) : Bool :=
  match d.attempt.outcome with
  | .folds => true
  | .fails _ eachFolds => d.switched && eachFolds

def Decision.failedWith (d : Decision) (pageKey : String) (errorMessage : JsText) : Bool :=
  match d.attempt.outcome with
  | .folds => false
  | .fails m _ => pageKeyFor d.attempt.page = pageKey && m = errorMessage

/-- The latest failures of a contract, all on the same page and with the same message, since it last settled. -/
def streak (contractId pageKey : String) (errorMessage : JsText) (past : List Decision) : Nat :=
  ((past.filter (·.attempt.contractId = contractId)).takeWhile fun d =>
    d.failedWith pageKey errorMessage && !d.settles).length

/-- The attempts that switch are the failing ones that complete a streak of the configured length. -/
def Right (config : Config) (trace : List Decision) : Prop :=
  ∀ d past, d :: past <:+ trace →
    (d.switched = true ↔ ∃ errorMessage eachFolds, d.attempt.outcome = .fails errorMessage eachFolds ∧
      config.quarantineAfterFailures ≤
        streak d.attempt.contractId (pageKeyFor d.attempt.page) errorMessage past + 1)

/-- The failures counted for a contract: by the process, or in the database if it has not looked there. -/
def counted (q : Quarantines) (contractId : String) : Option QuarantineState :=
  if q.memory.quarantineStatesLoaded.contains contractId then (q.memory.quarantineStates.lookup contractId).join
  else (q.db.quarantine_state.lookup contractId).bind QuarantineStateRow.state

/-- A count that a row holds and that is read back. -/
def Recoverable (s : Option QuarantineState) : Prop :=
  ∀ c ∈ s, c.pageKey ≠ "" ∧ c.errorMessage.text ≠ "" ∧ c.errorMessage.isWellFormed = true ∧ c.writable = true

instance (s : Option QuarantineState) : Decidable (Recoverable s) :=
  inferInstanceAs (Decidable (∀ c ∈ s, _))

/-- A process ends only when every count it holds is one that the next process reads back. -/
def InTime (q : Quarantines) : Step → Prop
  | .attempt _ => True
  | .restart => ∀ contractId, Recoverable (q.counted contractId)

/-- The count of a contract after these decisions. -/
def countOf (contractId : String) : List Decision → Option QuarantineState
  | [] => none
  | d :: past =>
    if d.attempt.contractId = contractId then
      match d.attempt.outcome with
      | .folds => none
      | .fails errorMessage _ =>
        if d.settles then none
        else some (countFailure (countOf contractId past) (pageKeyFor d.attempt.page) errorMessage)
    else countOf contractId past

theorem countFailure_names (s : Option QuarantineState) (pageKey : String) (errorMessage : JsText) :
    (countFailure s pageKey errorMessage).pageKey = pageKey ∧
      (countFailure s pageKey errorMessage).errorMessage = errorMessage := by
  cases s with
  | none => exact ⟨rfl, rfl⟩
  | some c => by_cases h : c.pageKey = pageKey ∧ c.errorMessage = errorMessage <;> simp [countFailure, h]

/-- The count goes on exactly as far as the streak does. -/
theorem countFailure_countOf (contractId pageKey : String) (errorMessage : JsText) (past : List Decision) :
    (countFailure (countOf contractId past) pageKey errorMessage).failures =
      streak contractId pageKey errorMessage past + 1 := by
  induction past generalizing pageKey errorMessage with
  | nil => rfl
  | cons d past ih =>
    by_cases hcontract : d.attempt.contractId = contractId
    · cases houtcome : d.attempt.outcome with
      | folds => simp [countOf, streak, hcontract, houtcome, countFailure, Decision.failedWith]
      | fails m eachFolds =>
        by_cases hsettles : d.settles = true
        · simp [countOf, streak, hcontract, houtcome, countFailure, hsettles]
        · have hih := ih (pageKeyFor d.attempt.page) m
          obtain ⟨hkey, hmessage⟩ := countFailure_names (countOf contractId past) (pageKeyFor d.attempt.page) m
          by_cases hsame : pageKeyFor d.attempt.page = pageKey ∧ m = errorMessage
          · obtain ⟨rfl, rfl⟩ := hsame
            simp [countOf, streak, hcontract, houtcome, hsettles,
              Decision.failedWith, countFailure.eq_1, hkey, hmessage]
            rw [hih]
            rfl
          · have hfailed : d.failedWith pageKey errorMessage = false := by
              simpa [Decision.failedWith, houtcome] using hsame
            simp [countOf, streak, hcontract, houtcome, hsettles, hfailed, countFailure.eq_1, hkey, hmessage, hsame]
    · simp [countOf, streak, hcontract]
      exact ih pageKey errorMessage

variable {config : Config} {q q' : Quarantines} {contractId : String} {state : Option QuarantineState}

/-- The process has looked at the row of a contract. -/
def Loaded (q : Quarantines) (contractId : String) : Prop :=
  q.memory.quarantineStatesLoaded.contains contractId = true

/-- What the row of a contract stands for. -/
def stored (q : Quarantines) (contractId : String) : Option QuarantineState :=
  (q.db.quarantine_state.lookup contractId).bind QuarantineStateRow.state

theorem Loaded.counted (h : q.Loaded contractId) :
    q.counted contractId = (q.memory.quarantineStates.lookup contractId).join := if_pos h

/-- The count of one contract is now `state`, in the process and, if its row can say so, in the database; those
of the others are as they were. -/
structure Wrote (q q' : Quarantines) (contractId : String) (state : Option QuarantineState) : Prop where
  loaded : q'.Loaded contractId
  counted : ∀ other, q'.counted other = if other = contractId then state else q.counted other
  stored : Recoverable state → q'.stored contractId = state
  others : ∀ other, other ≠ contractId → q'.stored other = q.stored other
  rows : Recoverable (q.stored contractId) → Recoverable (q'.stored contractId)

/-- What a count becomes when its row is read back. -/
def readBack (state : Option QuarantineState) : Option QuarantineState :=
  (state.filter fun c => !(c.pageKey = "" || c.errorMessage.text = "")).map fun c =>
    { c with errorMessage := .ofString c.errorMessage.text }

theorem upsertQuarantineState_run (contractId : String) (state : Option QuarantineState) (escalating : Bool)
    (db : Db) :
    ∃ row, upsertQuarantineState contractId state escalating db =
        .ok ((), { db with quarantine_state := db.quarantine_state.insert contractId row }) ∧
      row.state = readBack state := by
  refine ⟨_, rfl, ?_⟩
  cases state with
  | none => rfl
  | some c =>
    by_cases hempty : c.pageKey = "" || c.errorMessage.text = "" <;>
      simp [QuarantineStateRow.state, readBack, Option.filter, hempty]

theorem persistQuarantineState_memory (q : Quarantines) (contractId : String) (state : Option QuarantineState)
    (escalating : Bool) : (q.persistQuarantineState contractId state escalating).memory = q.memory := by
  obtain ⟨row, hrun, -⟩ := upsertQuarantineState_run contractId state escalating q.db
  rw [persistQuarantineState, hrun]
  by_cases hwritable : state.all (·.writable) = true <;> simp [hwritable]

/-- What a row stands for once it is written, or not. -/
theorem stored_persistQuarantineState (q : Quarantines) (contractId other : String) (state : Option QuarantineState)
    (escalating : Bool) : (q.persistQuarantineState contractId state escalating).stored other =
      if other = contractId ∧ state.all (·.writable) = true then readBack state else q.stored other := by
  obtain ⟨row, hrun, hrow⟩ := upsertQuarantineState_run contractId state escalating q.db
  rw [persistQuarantineState, hrun]
  by_cases hwritable : state.all (·.writable) = true
  · by_cases hother : other = contractId
    · subst hother
      simp [stored, hwritable, hrow]
    · simp [stored, hwritable, hother, AList.lookup_insert_ne hother]
  · simp [hwritable]

theorem readBack_of_recoverable (h : Recoverable state) : state.all (·.writable) = true ∧ readBack state = state := by
  cases state with
  | none => exact ⟨rfl, rfl⟩
  | some c =>
    obtain ⟨hkey, hmessage, hwell, hwritable⟩ := h c rfl
    simp [readBack, Option.filter, hkey, hmessage, hwritable, JsText.ofString_text_iff.mpr hwell]

/-- What is read back from a row could be written. -/
theorem recoverable_persistQuarantineState {other : String} (h : Recoverable (q.stored other))
    (state : Option QuarantineState) (escalating : Bool) :
    Recoverable ((q.persistQuarantineState contractId state escalating).stored other) := by
  rw [stored_persistQuarantineState]
  split
  next hwritten =>
    intro c hc
    obtain ⟨c', hc', rfl⟩ := Option.map_eq_some_iff.mp hc
    obtain ⟨hstate, hnamed⟩ := Option.filter_eq_some_iff.mp hc'
    subst hstate
    simpa [QuarantineState.writable, and_assoc] using And.intro hnamed hwritten.2
  next => exact h

theorem counted_persistQuarantineState (h : q.Loaded contractId) (state : Option QuarantineState)
    (escalating : Bool) :
    (q.persistQuarantineState contractId state escalating).counted = q.counted := by
  funext other
  have hstored := stored_persistQuarantineState q contractId other state escalating
  simp only [stored] at hstored
  simp only [counted, persistQuarantineState_memory, hstored]
  by_cases hother : other = contractId
  · subst hother
    have hloaded : q.memory.quarantineStatesLoaded.contains other = true := h
    rw [if_pos hloaded, if_pos hloaded]
  · simp [hother]

theorem counted_setQuarantineState (h : q.Loaded contractId) (other : String) :
    (q.setQuarantineState contractId state).counted other =
      if other = contractId then state else q.counted other := by
  by_cases hother : other = contractId
  · subst hother
    have hloaded : (q.setQuarantineState other state).Loaded other := h
    rw [hloaded.counted]
    simp [setQuarantineState]
  · simp [counted, setQuarantineState, AList.lookup_insert_ne hother, hother]

theorem Loaded.persist (h : q.Loaded contractId) (state : Option QuarantineState) (escalating : Bool) :
    (q.persistQuarantineState contractId state escalating).Loaded contractId := by
  rw [Loaded, persistQuarantineState_memory]
  exact h

/-- A count that stands in memory, written to its row. -/
theorem wrote_persist (hloaded : q'.Loaded contractId)
    (hcounted : ∀ other, q'.counted other = if other = contractId then state else q.counted other)
    (hothers : ∀ other, other ≠ contractId → q'.stored other = q.stored other)
    (hrows : Recoverable (q.stored contractId) → Recoverable (q'.stored contractId)) (escalating : Bool) :
    Wrote q (q'.persistQuarantineState contractId state escalating) contractId state := by
  constructor
  case loaded => exact hloaded.persist state escalating
  case counted =>
    intro other
    rw [counted_persistQuarantineState hloaded]
    exact hcounted other
  case stored =>
    intro hrecoverable
    obtain ⟨hwritable, hback⟩ := readBack_of_recoverable hrecoverable
    rw [stored_persistQuarantineState, if_pos ⟨rfl, hwritable⟩, hback]
  case others =>
    intro other hother
    rw [stored_persistQuarantineState, if_neg (by simp [hother])]
    exact hothers other hother
  case rows => exact fun h => recoverable_persistQuarantineState (hrows h) state escalating

theorem wrote_set (h : q.Loaded contractId) (state : Option QuarantineState) (escalating : Bool) :
    Wrote q ((q.setQuarantineState contractId state).persistQuarantineState contractId state escalating)
      contractId state := by
  have hloaded : (q.setQuarantineState contractId state).Loaded contractId := h
  exact wrote_persist hloaded (counted_setQuarantineState h) (fun _ _ => rfl) id escalating

theorem Wrote.persist (h : Wrote q q' contractId state) (escalating : Bool) :
    Wrote q (q'.persistQuarantineState contractId state escalating) contractId state :=
  wrote_persist h.loaded h.counted h.others h.rows escalating

theorem Wrote.clear (h : Wrote q q' contractId state) :
    Wrote q (q'.clearQuarantineState contractId) contractId none := by
  have hclear : Wrote q' (q'.clearQuarantineState contractId) contractId none := wrote_set h.loaded none false
  constructor
  case loaded => exact hclear.loaded
  case counted =>
    intro other
    rw [hclear.counted, h.counted]
    by_cases hother : other = contractId <;> simp [hother]
  case stored => exact hclear.stored
  case others =>
    intro other hother
    rw [hclear.others other hother, h.others other hother]
  case rows => exact fun hrows => hclear.rows (h.rows hrows)

theorem ensureQuarantineState_spec (q : Quarantines) (contractId : String) :
    (q.ensureQuarantineState contractId).Loaded contractId ∧
      (q.ensureQuarantineState contractId).counted = q.counted ∧
      (q.ensureQuarantineState contractId).stored = q.stored := by
  by_cases hloaded : q.memory.quarantineStatesLoaded.contains contractId = true
  · rw [ensureQuarantineState, if_pos hloaded]
    exact ⟨hloaded, rfl, rfl⟩
  · rw [ensureQuarantineState, if_neg hloaded]
    refine ⟨by simp [Loaded], funext fun other => ?_, rfl⟩
    by_cases hother : other = contractId
    · subst hother
      have hnew : other ∉ q.memory.quarantineStatesLoaded := fun h => hloaded (List.contains_iff_mem.mpr h)
      simp [counted, setQuarantineState, hnew]
    · simp [counted, setQuarantineState, AList.lookup_insert_ne hother, hother]

/-- The failure count after an attempt, and whether it switched, from the count before it. -/
theorem attempt_spec (config : Config) (q : Quarantines) (a : PageAttempt) (past : List Decision)
    (hpast : q.counted a.contractId = countOf a.contractId past) :
    ((q.attempt config a).1 = true ↔ ∃ errorMessage eachFolds, a.outcome = .fails errorMessage eachFolds ∧
        config.quarantineAfterFailures ≤ streak a.contractId (pageKeyFor a.page) errorMessage past + 1) ∧
      Wrote q (q.attempt config a).2 a.contractId (countOf a.contractId (⟨a, (q.attempt config a).1⟩ :: past)) := by
  obtain ⟨hloaded, hcounted, hstored⟩ := ensureQuarantineState_spec q a.contractId
  have hstate : ((q.ensureQuarantineState a.contractId).memory.quarantineStates.lookup a.contractId).join =
      countOf a.contractId past := by rw [← hloaded.counted, hcounted, hpast]
  have hensured : ∀ {q' state}, Wrote (q.ensureQuarantineState a.contractId) q' a.contractId state →
      Wrote q q' a.contractId state := by
    intro q' state h
    exact ⟨h.loaded, fun other => by rw [h.counted, hcounted], h.stored,
      fun other hother => by rw [h.others other hother, hstored], fun hrows => h.rows (hstored ▸ hrows)⟩
  cases houtcome : a.outcome with
  | folds =>
    have hclear := hensured (wrote_set hloaded none false)
    simp only [attempt, houtcome]
    exact ⟨by simp, by simpa [countOf, houtcome, clearQuarantineState] using hclear⟩
  | fails errorMessage eachFolds =>
    have hlength := countFailure_countOf a.contractId (pageKeyFor a.page) errorMessage past
    have hwrite := wrote_set hloaded
      (some (countFailure (countOf a.contractId past) (pageKeyFor a.page) errorMessage)) false
    simp only [attempt, houtcome, hstate]
    by_cases hlow : ((countFailure (countOf a.contractId past) (pageKeyFor a.page) errorMessage).failures : Int) <
        config.quarantineAfterFailures
    · rw [if_pos hlow]
      constructor
      · simp
        omega
      · simpa [countOf, houtcome, Decision.settles] using hensured hwrite
    · rw [if_neg hlow]
      constructor
      · simp
        omega
      · cases eachFolds with
        | true => simpa [countOf, houtcome, Decision.settles] using hensured (hwrite.persist true).clear
        | false => simpa [countOf, houtcome, Decision.settles] using hensured (hwrite.persist true)

/-- The counts are those of the decisions, and so are the rows, as far as a row can say so. -/
structure Kept (q : Quarantines) (past : List Decision) : Prop where
  counted : ∀ contractId, q.counted contractId = countOf contractId past
  stored : ∀ contractId, Recoverable (countOf contractId past) → q.stored contractId = countOf contractId past
  rows : ∀ contractId, Recoverable (q.stored contractId)

theorem kept_start : Kept {} [] := by
  constructor <;> intro contractId
  · simp [Quarantines.counted, countOf]
  · simp [Quarantines.stored, countOf]
  · simp [Quarantines.stored, Recoverable]

theorem countOf_other {d : Decision} {past : List Decision} (h : contractId ≠ d.attempt.contractId) :
    countOf contractId (d :: past) = countOf contractId past := if_neg (Ne.symm h)

theorem Kept.attempt {past : List Decision} (h : Kept q past) (a : PageAttempt) :
    Kept (q.attempt config a).2 (⟨a, (q.attempt config a).1⟩ :: past) := by
  obtain ⟨-, hwrote⟩ := attempt_spec config q a past (h.counted a.contractId)
  constructor <;> intro contractId <;> by_cases hcontract : contractId = a.contractId
  · subst hcontract
    rw [hwrote.counted, if_pos rfl]
  · rw [hwrote.counted, if_neg hcontract, countOf_other hcontract]
    exact h.counted contractId
  · subst hcontract
    exact hwrote.stored
  · rw [hwrote.others contractId hcontract, countOf_other hcontract]
    exact h.stored contractId
  · subst hcontract
    exact hwrote.rows (h.rows a.contractId)
  · rw [hwrote.others contractId hcontract]
    exact h.rows contractId

/-- After a restart the counts are what the rows stand for. -/
theorem counted_restart (q : Quarantines) (contractId : String) :
    q.restart.counted contractId = q.stored contractId := rfl

/-- A restart leaves the counts as they are if and only if they can all be read back. -/
theorem counted_restart_iff {past : List Decision} (h : Kept q past) :
    (∀ contractId, q.restart.counted contractId = q.counted contractId) ↔ q.InTime .restart := by
  constructor
  · intro hsame contractId
    rw [← hsame contractId, counted_restart]
    exact h.rows contractId
  · intro hintime contractId
    rw [counted_restart, h.counted contractId]
    exact h.stored contractId (h.counted contractId ▸ hintime contractId)

theorem Kept.restart {past : List Decision} (h : Kept q past) (hintime : q.InTime .restart) :
    Kept q.restart past where
  counted contractId := ((counted_restart_iff h).mpr hintime contractId).trans (h.counted contractId)
  stored := h.stored
  rows := h.rows

theorem right_cons {d : Decision} {past : List Decision} : Right config (d :: past) ↔
    (d.switched = true ↔ ∃ errorMessage eachFolds, d.attempt.outcome = .fails errorMessage eachFolds ∧
      config.quarantineAfterFailures ≤
        streak d.attempt.contractId (pageKeyFor d.attempt.page) errorMessage past + 1) ∧ Right config past := by
  constructor
  · exact fun h => ⟨h d past List.suffix_rfl,
      fun d' past' hsuffix => h d' past' (hsuffix.trans (List.suffix_cons d past))⟩
  · rintro ⟨hd, hpast⟩ d' past' hsuffix
    obtain heq | hsuffix := List.suffix_cons_iff.mp hsuffix
    · cases heq
      exact hd
    · exact hpast d' past' hsuffix

theorem run_right {steps : List Step}
    (hintime : ∀ past step, past ++ [step] <+: steps → (run config past).1.InTime step)
    {past : List Step} (hpast : past <+: steps) :
    Kept (run config past).1 (run config past).2 ∧ Right config (run config past).2 := by
  have hstart : Kept {} [] ∧ Right config [] := ⟨kept_start, fun d past h => by cases List.suffix_nil.mp h⟩
  refine Runs.all_along (P := fun r : Quarantines × List Decision => Kept r.1 r.2 ∧ Right config r.2) hstart ?_ hpast
  rintro past step hpast ⟨hkept, hright⟩
  cases step with
  | attempt a =>
    obtain ⟨hswitched, -⟩ := attempt_spec config (run config past).1 a (run config past).2
      (hkept.counted a.contractId)
    exact ⟨hkept.attempt a, right_cons.mpr ⟨hswitched, hright⟩⟩
  | restart => exact ⟨hkept.restart (hintime past .restart hpast), hright⟩

def Step.attempt? : Step → Option PageAttempt
  | .attempt a => some a
  | .restart => none

theorem run_attempts (config : Config) (steps : List Step) :
    (decisions config steps).map (·.attempt) = (steps.filterMap Step.attempt?).reverse := by
  induction steps using List.reverseRecOn with
  | nil => rfl
  | append_singleton past step ih =>
    rw [decisions, run] at ih ⊢
    rw [List.foldl_concat, List.filterMap_append, List.reverse_append]
    cases step with
    | attempt a => simp [act, Step.attempt?, ih]
    | restart => simp [act, Step.attempt?, ih]

/-- Right decisions on the same attempts are the same. -/
theorem Right.unique {trace trace' : List Decision} (h : Right config trace) (h' : Right config trace')
    (hsame : trace.map (·.attempt) = trace'.map (·.attempt)) : trace = trace' := by
  induction trace generalizing trace' with
  | nil => cases trace' with
    | nil => rfl
    | cons d' trace' => cases hsame
  | cons d trace ih =>
    cases trace' with
    | nil => cases hsame
    | cons d' trace' =>
      rw [right_cons] at h h'
      obtain ⟨hattempt, hrest⟩ := List.cons_eq_cons.mp hsame
      have htrace := ih h.2 h'.2 hrest
      subst htrace
      obtain ⟨a, switched⟩ := d
      obtain ⟨a', switched'⟩ := d'
      replace hattempt : a = a' := hattempt
      subst hattempt
      have hswitched : switched = switched' := Bool.eq_iff_iff.mpr (h.1.trans h'.1.symm)
      rw [hswitched]

/-- The decisions about one contract are right on their own. -/
theorem Right.filter {trace : List Decision} (h : Right config trace) (contractId : String) :
    Right config (trace.filter (·.attempt.contractId = contractId)) := by
  induction trace with
  | nil => exact h
  | cons d trace ih =>
    rw [right_cons] at h
    by_cases hcontract : d.attempt.contractId = contractId
    · rw [List.filter_cons_of_pos (by simpa using hcontract), right_cons]
      refine ⟨?_, ih h.2⟩
      rw [h.1]
      subst hcontract
      simp [streak, List.filter_filter]
    · rw [List.filter_cons_of_neg (by simpa using hcontract)]
      exact ih h.2

/-- The steps of a run without its restarts, and of those the attempts for one contract. -/
def Step.isAttempt : Step → Bool
  | .attempt _ => true
  | .restart => false

def Step.isFor (contractId : String) : Step → Bool
  | .attempt a => a.contractId = contractId
  | .restart => false

theorem attempts_right {steps : List Step} (hsteps : ∀ step ∈ steps, step.isAttempt = true) :
    Right config (decisions config steps) := by
  refine (run_right (fun past step hpast => ?_) (List.prefix_refl steps)).2
  have hmem : step ∈ steps := hpast.subset (by simp)
  cases step with
  | attempt a => trivial
  | restart => cases hsteps .restart hmem

/-- **Decisions do not depend on restarts**, nor on other contracts, and are those of the streaks of failures, in
every run in which a process ends only when the next one can read all its counts back. -/
theorem decisions_survive_restarts (config : Config) (steps : List Step)
    (hintime : ∀ past step, past ++ [step] <+: steps → (run config past).1.InTime step) :
    decisions config steps = decisions config (steps.filter Step.isAttempt) ∧
      Right config (decisions config steps) ∧
      ∀ contractId, (decisions config steps).filter (·.attempt.contractId = contractId) =
        decisions config (steps.filter (Step.isFor contractId)) := by
  have hright : Right config (decisions config steps) := (run_right hintime List.prefix_rfl).2
  refine ⟨?_, hright, fun contractId => ?_⟩
  · refine hright.unique (attempts_right fun step hstep => (List.mem_filter.mp hstep).2) ?_
    rw [run_attempts, run_attempts, List.filterMap_filter]
    congr 2
    funext step
    cases step <;> rfl
  · refine (hright.filter contractId).unique (attempts_right fun step hstep => ?_) ?_
    · have hfor := (List.mem_filter.mp hstep).2
      cases step with
      | attempt a => rfl
      | restart => cases hfor
    · have hmap : ((decisions config steps).filter (·.attempt.contractId = contractId)).map (·.attempt) =
          ((decisions config steps).map (·.attempt)).filter (·.contractId = contractId) := by
        rw [List.filter_map]
        rfl
      rw [hmap, run_attempts, run_attempts, List.filter_reverse, List.filter_filterMap, List.filterMap_filter]
      congr 2
      funext step
      cases step with
      | attempt a => by_cases hcontract : a.contractId = contractId <;> simp [Step.attempt?, Step.isFor, hcontract]
      | restart => rfl

/-- A page that fails. -/
def failing (errorMessage : JsText) : Step :=
  .attempt ⟨"C", [.published "0001" 1 "claimed" [.str "GA", .str "much"]], .fails errorMessage true⟩

def threeFailures (errorMessage : JsText) : List Step :=
  [failing errorMessage, failing errorMessage, .restart, failing errorMessage]

/-- Two failures, a restart, and the third. -/
theorem decisions_survive_restarts_third_failure :
    decisions { contractIds := ["C"] } (threeFailures "E") =
        decisions { contractIds := ["C"] } ((threeFailures "E").filter Step.isAttempt) ∧
      (decisions { contractIds := ["C"] } (threeFailures "E")).map (·.switched) = [true, false, false] := by
  refine ⟨(decisions_survive_restarts { contractIds := ["C"] } (threeFailures "E") ?_).1, by decide⟩
  rw [threeFailures, Runs.forall_snoc_prefix_cons, Runs.forall_snoc_prefix_cons, Runs.forall_snoc_prefix_cons,
    Runs.forall_snoc_prefix_cons]
  refine ⟨trivial, trivial, fun contractId => ?_, trivial, Runs.forall_snoc_prefix_nil⟩
  have hkept : Kept (run { contractIds := ["C"] } [failing "E", failing "E"]).1
      (run { contractIds := ["C"] } [failing "E", failing "E"]).2 := (kept_start.attempt _).attempt _
  rw [hkept.counted]
  by_cases hcontract : contractId = "C"
  · subst hcontract
    decide
  · have hnone : countOf contractId (run { contractIds := ["C"] } [failing "E", failing "E"]).2 = none :=
      (countOf_other hcontract).trans (countOf_other hcontract)
    simp [hnone, Recoverable]

/-- A message that begins with half a surrogate pair. -/
def halfPair : JsText := ⟨[0xD800, 0x78]⟩

/-- The count of failures with an empty message is lost on a restart, and so is one whose message has a NUL or half
a surrogate pair. -/
theorem empty_message_is_not_counted :
    (decisions { contractIds := ["C"] } ((threeFailures "").filter Step.isAttempt)).map (·.switched) =
        [true, false, false] ∧
      (decisions { contractIds := ["C"] } (threeFailures "")).map (·.switched) = [false, false, false] ∧
      (decisions { contractIds := ["C"] } ((threeFailures "\x00").filter Step.isAttempt)).map (·.switched) =
        [true, false, false] ∧
      (decisions { contractIds := ["C"] } (threeFailures "\x00")).map (·.switched) = [false, false, false] ∧
      (decisions { contractIds := ["C"] } ((threeFailures halfPair).filter Step.isAttempt)).map (·.switched) =
        [true, false, false] ∧
      (decisions { contractIds := ["C"] } (threeFailures halfPair)).map (·.switched) = [false, false, false] := by
  decide

end Quarantines

end OurDao
